import NovaCommerce.GuardedRun
import Mathlib.Logic.Function.Basic

/-!
# Read-through caches

A service looks for an answer under the key of a request, and computes and
stores it if there is none that it can use.  Entries expire at any time.  The
cache can be noticed exactly if the answer that is stored for one request is not
the answer of another request with the same key.
-/

namespace ReadThrough

open GuardedRun

/-- What a service computes, and how it stores the answers: `dumps` is empty
where an answer can not be written, `loads` where a document can not be read. -/
structure Service (Request Key Answer Error Document : Type*) where
  key : Request → Key
  compute : Request → Except Error Answer
  truthy : Answer → Bool
  dumps : Answer → Option Document
  loads : Document → Option Answer

variable {Request Key Answer Error Document : Type*} [DecidableEq Key]

namespace Service

variable (service : Service Request Key Answer Error Document)

/-- The answer that is found under a key, unless it counts as false. -/
def cached (cache : Key → Option Document) (key : Key) : Option Answer :=
  ((cache key).bind service.loads).filter service.truthy

/-- The cache after an answer was stored, which may fail silently. -/
def store (cache : Key → Option Document) (key : Key) (answer : Answer) :
    Key → Option Document :=
  match service.dumps answer with
  | some document => Function.update cache key (some document)
  | none => cache

def serve (cache : Key → Option Document) (request : Request) :
    Except Error Answer × (Key → Option Document) :=
  match service.cached cache (service.key request) with
  | some answer => (.ok answer, cache)
  | none =>
      match service.compute request with
      | .ok answer =>
          (.ok answer, service.store cache (service.key request) answer)
      | .error error => (.error error, cache)

end Service

/-- What happens to a cache. -/
inductive Event (Request Key : Type*) where
  | request (request : Request)
  | expire (key : Key)

namespace Service

variable (service : Service Request Key Answer Error Document)

def step (cache : Key → Option Document) :
    Event Request Key → Key → Option Document
  | .request request => (service.serve cache request).2
  | .expire key => Function.update cache key none

/-- A request gets the answer that the service computes for it. -/
def Unnoticed (cache : Key → Option Document) : Event Request Key → Prop
  | .request request =>
      (service.serve cache request).1 = service.compute request
  | .expire _ => True

/-- Every request of a run gets the answer that it gets with an empty cache. -/
def Transparent (events : List (Event Request Key)) : Prop :=
  Guarded service.step service.Unnoticed (fun _ => none) events

/-- What is written for an answer is read as this answer. -/
def RoundTrip : Prop :=
  ∀ answer document, service.dumps answer = some document →
    service.loads document = some answer

/-- What is stored for a request is the answer of every request with its
key. -/
def KeysAgree (allowed : Request → Prop) : Prop :=
  ∀ first second, allowed first → allowed second →
    service.key first = service.key second →
      ∀ answer, service.compute first = .ok answer →
        service.truthy answer = true → (service.dumps answer).isSome = true →
          service.compute second = .ok answer

/-- What is found in the cache is the answer of every request with its key. -/
def Honest (allowed : Request → Prop) (cache : Key → Option Document) : Prop :=
  ∀ request answer, allowed request →
    service.cached cache (service.key request) = some answer →
      service.compute request = .ok answer

variable {service} {allowed : Request → Prop}
  {cache : Key → Option Document}

@[simp]
theorem cached_update_self (key : Key) (document : Option Document) :
    service.cached (Function.update cache key document) key =
      (document.bind service.loads).filter service.truthy := by
  simp [cached]

theorem cached_update_of_ne {key other : Key} (keyNe : other ≠ key)
    (document : Option Document) :
    service.cached (Function.update cache key document) other =
      service.cached cache other := by
  simp [cached, Function.update_of_ne keyNe]

/-- What is found after storing an answer is this answer, under its key, or was
found before. -/
theorem cached_store (roundTrip : service.RoundTrip) {key other : Key}
    {answer found : Answer}
    (isFound : service.cached (service.store cache key answer) other =
      some found) :
    (other = key ∧ found = answer ∧ service.truthy answer = true ∧
        (service.dumps answer).isSome = true) ∨
      service.cached cache other = some found := by
  unfold Service.store at isFound
  cases written : service.dumps answer with
  | none =>
      rw [written] at isFound
      exact Or.inr isFound
  | some document =>
      rw [written] at isFound
      by_cases sameKey : other = key
      · subst sameKey
        rw [cached_update_self, Option.bind_some,
          roundTrip answer document written, Option.filter_some] at isFound
        split at isFound
        · next usable =>
            exact Or.inl ⟨rfl, (Option.some.inj isFound).symm, usable, rfl⟩
        · cases isFound
      · rw [cached_update_of_ne sameKey] at isFound
        exact Or.inr isFound

theorem cached_store_self (roundTrip : service.RoundTrip) (key : Key)
    {answer : Answer} (usable : service.truthy answer = true)
    (written : (service.dumps answer).isSome = true) :
    service.cached (service.store cache key answer) key = some answer := by
  obtain ⟨document, written⟩ := Option.isSome_iff_exists.mp written
  rw [Service.store, written, cached_update_self, Option.bind_some,
    roundTrip answer document written, Option.filter_some, if_pos usable]

theorem cached_store_of_ne {key other : Key} (keyNe : other ≠ key)
    (answer : Answer) :
    service.cached (service.store cache key answer) other =
      service.cached cache other := by
  unfold Service.store
  cases service.dumps answer with
  | none => rfl
  | some document => exact cached_update_of_ne keyNe _

theorem serve_of_cached {request : Request} {answer : Answer}
    (hit : service.cached cache (service.key request) = some answer) :
    service.serve cache request = (.ok answer, cache) := by
  rw [serve, hit]

theorem serve_of_missing {request : Request} {answer : Answer}
    (missing : service.cached cache (service.key request) = none)
    (computed : service.compute request = .ok answer) :
    service.serve cache request =
      (.ok answer, service.store cache (service.key request) answer) := by
  rw [serve, missing, computed]

/-- Storing the answer of a request keeps the cache honest. -/
theorem Honest.store (honest : service.Honest allowed cache)
    (roundTrip : service.RoundTrip) (agree : service.KeysAgree allowed)
    {request : Request} (isAllowed : allowed request) {answer : Answer}
    (computed : service.compute request = .ok answer) :
    service.Honest allowed
      (service.store cache (service.key request) answer) := by
  intro other found otherAllowed cachedEq
  rcases cached_store roundTrip cachedEq with
    ⟨sameKey, rfl, usable, written⟩ | before
  · exact agree request other isAllowed otherAllowed sameKey.symm _ computed
      usable written
  · exact honest other found otherAllowed before

theorem Honest.step (honest : service.Honest allowed cache)
    (roundTrip : service.RoundTrip) (agree : service.KeysAgree allowed)
    {event : Event Request Key}
    (isAllowed : ∀ request, event = .request request → allowed request) :
    service.Unnoticed cache event ∧
      service.Honest allowed (service.step cache event) := by
  cases event with
  | expire key =>
      refine ⟨trivial, ?_⟩
      intro request answer requestAllowed cachedEq
      rw [Service.step] at cachedEq
      by_cases sameKey : service.key request = key
      · rw [sameKey, cached_update_self] at cachedEq
        cases cachedEq
      · rw [cached_update_of_ne sameKey] at cachedEq
        exact honest request answer requestAllowed cachedEq
  | request request =>
      have requestAllowed := isAllowed request rfl
      rw [Unnoticed, Service.step]
      cases hit : service.cached cache (service.key request) with
      | some answer =>
          rw [serve_of_cached hit]
          exact ⟨(honest request answer requestAllowed hit).symm, honest⟩
      | none =>
          cases computed : service.compute request with
          | error error =>
              rw [serve, hit, computed]
              exact ⟨rfl, honest⟩
          | ok answer =>
              rw [serve_of_missing hit computed]
              exact ⟨rfl, honest.store roundTrip agree requestAllowed computed⟩

/-- Where the keys agree, no run of the allowed requests notices the cache. -/
theorem transparent_of_keysAgree (roundTrip : service.RoundTrip)
    (agree : service.KeysAgree allowed) (events : List (Event Request Key))
    (areAllowed : ∀ request, .request request ∈ events → allowed request) :
    service.Transparent events := by
  have run : ∀ cache, service.Honest allowed cache →
      Guarded service.step service.Unnoticed cache events := by
    induction events with
    | nil => exact fun _ _ => trivial
    | cons event events ih =>
        intro cache honest
        obtain ⟨unnoticed, honestAfter⟩ :=
          honest.step roundTrip agree fun request isRequest =>
            areAllowed request (isRequest ▸ List.mem_cons_self)
        exact ⟨unnoticed, ih (fun request member =>
          areAllowed request (List.mem_cons_of_mem _ member)) _ honestAfter⟩
  apply run
  intro request answer _ cachedEq
  cases cachedEq

/-- The cache is never noticed exactly if the keys agree: the requests of two
different answers under one key are noticed one after the other. -/
theorem transparent_iff_keysAgree (roundTrip : service.RoundTrip)
    (allowed : Request → Prop) :
    (∀ events : List (Event Request Key),
      (∀ request, .request request ∈ events → allowed request) →
        service.Transparent events) ↔ service.KeysAgree allowed := by
  constructor
  · intro transparent first second firstAllowed secondAllowed sameKey answer
      computed usable written
    have bothAllowed : ∀ request,
        .request request ∈ [(.request first : Event Request Key),
          .request second] → allowed request := by
      intro request member
      simp only [List.mem_cons, Event.request.injEq, List.not_mem_nil,
        or_false] at member
      rcases member with rfl | rfl
      · exact firstAllowed
      · exact secondAllowed
    obtain ⟨_, noticed, _⟩ := transparent _ bothAllowed
    have stored : service.step (fun _ => none) (.request first) =
        service.store (fun _ => none) (service.key first) answer := by
      rw [Service.step, serve_of_missing rfl computed]
    have hit : service.cached
        (service.step (fun _ => none) (.request first))
        (service.key second) = some answer := by
      rw [stored, ← sameKey]
      exact cached_store_self roundTrip _ usable written
    rw [Unnoticed, serve, hit] at noticed
    exact noticed.symm
  · intro agree events areAllowed
    exact transparent_of_keysAgree roundTrip agree events areAllowed

end Service

end ReadThrough
