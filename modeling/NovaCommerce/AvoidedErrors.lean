import NovaCommerce.LockingTransactions

/-!
# Errors that transactions avoid

A transaction that fails on what it has read fails only in a store in which
the query finds it.  If the store is sound whenever a transaction has written
nothing yet, and every commit keeps it sound, then an error that is avoided in
sound stores is never met in a run.
-/

namespace LockingTransactions

open AtomicCall GuardedRun

universe u

variable {Client Key Store Error Value Next : Type} {Request : Type u}

/-- Others may do anything. -/
def unrestricted : Rely Key Store where
  allows _ _ _ := True
  refl _ _ := trivial
  trans _ _ _ _ _ _ := trivial
  anti _ _ _ _ _ _ := trivial

/-- As long as what the transaction sees before its first write is as expected,
it does not fail with an error of a kind; at its end a condition holds of what
may still be seen and of its value. -/
def Avoids (bad : Error → Prop) :
    (Store → Prop) → Transaction Key Store Error Value →
      ((Store → Prop) → Value → Prop) → Prop
  | sees, .done value, post => post sees value
  | _, .fail error, _ => ¬bad error
  | sees, .read _ rest, post =>
      ∀ store, sees store → Avoids bad sees (rest store) post
  | sees, .lock _ rest, post =>
      ∀ store, sees store → Avoids bad sees (rest store) post
  | _, .write _ rest, post => Avoids bad (fun _ => True) rest post

section Avoids

variable {bad : Error → Prop} {sees : Store → Prop}

@[simp]
theorem avoids_done {value : Value} {post : (Store → Prop) → Value → Prop} :
    Avoids bad sees (.done value : Transaction Key Store Error Value) post ↔
      post sees value :=
  Iff.rfl

@[simp]
theorem avoids_pure {value : Value} {post : (Store → Prop) → Value → Prop} :
    Avoids bad sees (pure value : Transaction Key Store Error Value) post ↔
      post sees value :=
  Iff.rfl

theorem avoids_bind {first : Transaction Key Store Error Value}
    {next : Value → Transaction Key Store Error Next}
    {post : (Store → Prop) → Next → Prop} :
    Avoids bad sees (first >>= next) post ↔
      Avoids bad sees first fun sees value =>
        Avoids bad sees (next value) post := by
  change Avoids bad sees (first.bind next) post ↔ _
  induction first generalizing sees with
  | done value => rfl
  | fail error => rfl
  | read pinned rest ih =>
      exact forall_congr' fun store => imp_congr_right fun _ => ih store
  | lock key rest ih =>
      exact forall_congr' fun store => imp_congr_right fun _ => ih store
  | write change rest ih => exact ih

theorem avoids_query_bind {pinned : Bool}
    {next : Store → Transaction Key Store Error Value}
    {post : (Store → Prop) → Value → Prop} :
    Avoids bad sees (.query pinned >>= next) post ↔
      ∀ store, sees store → Avoids bad sees (next store) post :=
  Iff.rfl

theorem Avoids.mono {transaction : Transaction Key Store Error Value}
    {post weaker : (Store → Prop) → Value → Prop}
    (avoids : Avoids bad sees transaction post)
    (implies : ∀ sees value, post sees value → weaker sees value) :
    Avoids bad sees transaction weaker := by
  induction transaction generalizing sees with
  | done value => exact implies sees value avoids
  | fail error => exact avoids
  | read pinned rest ih => exact fun store seen => ih store (avoids store seen)
  | lock key rest ih => exact fun store seen => ih store (avoids store seen)
  | write change rest ih =>
      have later : Avoids bad (fun _ => True) rest post := avoids
      exact ih later

end Avoids

/-- A flight that avoids an error as long as the committed store is sound. -/
def Flight.Avoids (bad : Error → Prop) (sound : Store → Prop)
    (flight : Flight Request Key Store Error Value) : Prop :=
  ∃ sees : Store → Prop, (∀ store, sound store → sees (flight.own store)) ∧
    LockingTransactions.Avoids bad sees flight.rest fun _ _ => True

theorem Flight.Avoids.rest_ne_fail {bad : Error → Prop} {sound : Store → Prop}
    {flight : Flight Request Key Store Error Value}
    (avoids : flight.Avoids bad sound) {error : Error} (isBad : bad error) :
    flight.rest ≠ .fail error := by
  intro fails
  obtain ⟨sees, _, avoided⟩ := avoids
  rw [fails] at avoided
  exact avoided isBad

/-- Flights of programs that avoid an error avoid it from sound stores on. -/
theorem avoids_step [DecidableEq Client] [DecidableEq Key]
    {bad : Error → Prop} {sound : Store → Prop}
    {program : Request → Transaction Key Store Error Value}
    (programs : ∀ request, Avoids bad sound (program request)
      fun _ _ => True)
    {system : System Client Request Key Store Error Value}
    (isSound : sound system.committed)
    (avoids : ∀ client flight, system.flights client = some flight →
      flight.Avoids bad sound)
    (action : Action Client Request) (client : Client)
    (flight : Flight Request Key Store Error Value)
    (flies : (system.step program action).flights client = some flight) :
    flight.Avoids bad sound := by
  -- only the flight of the client that acts is another one
  have landed : ∀ (acting : Client)
      (landing : Option (Flight Request Key Store Error Value)),
      Function.update system.flights acting landing client = some flight →
        (∀ next, landing = some next → next.Avoids bad sound) →
          flight.Avoids bad sound := by
    intro acting landing updated lands
    by_cases same : client = acting
    · subst same
      rw [Function.update_self] at updated
      exact lands flight updated
    · rw [Function.update_of_ne same] at updated
      exact avoids client flight updated
  have nothing : ∀ next : Flight Request Key Store Error Value,
      none = some next → next.Avoids bad sound := by
    intro next impossible
    cases impossible
  cases action with
  | start acting request =>
      rw [System.step] at flies
      cases grounded : system.flights acting with
      | some other =>
          simp only [grounded] at flies
          exact avoids client flight flies
      | none =>
          simp only [grounded] at flies
          refine landed acting _ flies ?_
          rintro _ ⟨⟩
          exact ⟨sound, fun _ seen => seen, programs request⟩
  | abort acting => exact landed acting none flies nothing
  | advance acting =>
      rw [System.step] at flies
      cases flown : system.flights acting with
      | none =>
          simp only [flown] at flies
          exact avoids client flight flies
      | some now =>
          simp only [flown] at flies
          obtain ⟨sees, seen, avoided⟩ := avoids acting now flown
          obtain ⟨request, own, rest⟩ := now
          cases rest with
          | done value => exact landed acting none flies nothing
          | fail error => exact landed acting none flies nothing
          | read pinned rest =>
              refine landed acting _ flies ?_
              rintro _ ⟨⟩
              exact ⟨sees, seen, avoided _ (seen _ isSound)⟩
          | write change rest =>
              refine landed acting _ flies ?_
              rintro _ ⟨⟩
              exact ⟨fun _ => True, fun _ _ => trivial, avoided⟩
          | lock key rest =>
              simp only [System.advance] at flies
              split at flies
              · refine landed acting _ flies ?_
                rintro _ ⟨⟩
                exact ⟨sees, seen, avoided _ (seen _ isSound)⟩
              · exact avoids client flight flies

/-- Programs that avoid an error from sound stores on, and whose commits keep
the store sound, never come to it, in any interleaving. -/
theorem exec_avoids [DecidableEq Client] [DecidableEq Key]
    {bad : Error → Prop} {sound : Store → Prop}
    {program : Request → Transaction Key Store Error Value}
    {condition : Commit Request Store Value → Prop}
    (programs : ∀ request, Avoids bad sound (program request)
      fun _ _ => True)
    (preserved : ∀ commit : Commit Request Store Value,
      commit.IsOf unrestricted program → condition commit →
        sound commit.before → sound commit.after)
    {initial : Store} (initially : sound initial)
    {actions : List (Action Client Request)}
    (meets : Guarded (System.step program)
      (fun system => System.CommitsMeet condition system)
      { committed := initial } actions) :
    let reached := exec (System.step program) { committed := initial } actions
    sound reached.committed ∧ ∀ client flight,
      reached.flights client = some flight → flight.Avoids bad sound := by
  have guarantees : Guarantees unrestricted program condition :=
    fun _ _ _ _ _ _ => trivial
  have isSound : ∀ system : System Client Request Key Store Error Value,
      Tracked unrestricted program condition initial system →
        sound system.committed :=
    fun system tracked => tracked.chained.invariant initially
      fun commit member => (fun described =>
        preserved commit described.1 described.2)
          (tracked.commits commit member)
  have preservedBoth : ∀ (system : System Client Request Key Store Error Value)
      (action : Action Client Request),
      (Tracked unrestricted program condition initial system ∧
        ∀ client flight, system.flights client = some flight →
          flight.Avoids bad sound) →
      system.CommitsMeet condition action →
        Tracked unrestricted program condition initial
            (system.step program action) ∧
          ∀ client flight,
            (system.step program action).flights client = some flight →
              flight.Avoids bad sound :=
    fun system action invariant meets =>
      ⟨tracked_step guarantees invariant.1 meets,
        avoids_step programs (isSound system invariant.1) invariant.2 action⟩
  have started : Guarded (System.step program)
      (fun system : System Client Request Key Store Error Value =>
        System.CommitsMeet condition system) { committed := initial } [] :=
    trivial
  have along := exec_invariant preservedBoth
    ⟨exec_tracked guarantees started, nofun⟩ meets
  exact ⟨isSound _ along.1, along.2⟩

end LockingTransactions
