import NovaCommerce.LockingTransactions
import Mathlib.Logic.Relation
import Mathlib.Order.Defs.PartialOrder

/-!
# Cycles of waiting clients

A client waits for another one when its next statement locks a row that the
other has locked.  Locks are kept until the end of a transaction, so clients
that wait for each other in a cycle wait forever.  A transaction rises along a
rank of the rows if every lock that it requests is one that it holds already,
or lies above all locks that it holds; when all transactions of a run rise
along the same rank, no state of the run has such a cycle.
-/

namespace LockingTransactions

open GuardedRun

universe u

variable {Client Key Store Error Value Next Rank : Type} {Request : Type u}

namespace System

variable [DecidableEq Client]

/-- The client that the next statement of a client waits for. -/
def awaited (system : System Client Request Key Store Error Value)
    (client : Client) : Option Client :=
  match system.flights client with
  | some { rest := .lock key _, .. } =>
      if system.owner key = some client then none else system.owner key
  | _ => none

def WaitsFor (system : System Client Request Key Store Error Value)
    (first second : Client) : Prop :=
  system.awaited first = some second

instance (system : System Client Request Key Store Error Value)
    (first second : Client) : Decidable (system.WaitsFor first second) :=
  inferInstanceAs (Decidable (_ = _))

/-- Some clients wait for each other in a cycle. -/
def Deadlocked (system : System Client Request Key Store Error Value) : Prop :=
  ∃ client, Relation.TransGen system.WaitsFor client client

theorem waitsFor_iff {system : System Client Request Key Store Error Value}
    {first second : Client} :
    system.WaitsFor first second ↔
      ∃ flight key rest, system.flights first = some flight ∧
        flight.rest = .lock key rest ∧ system.owner key = some second ∧
        first ≠ second := by
  unfold WaitsFor awaited
  constructor
  · intro waits
    split at waits
    · next request own key rest flies =>
      split at waits
      · cases waits
      · next others =>
        refine ⟨_, key, rest, flies, rfl, waits, ?_⟩
        rintro rfl
        exact others waits
    · cases waits
  · rintro ⟨⟨request, own, _⟩, key, rest, flies, rfl, owns, other⟩
    simp [flies, owns, other.symm]

end System

section Rises

variable [LT Rank] (rank : Key → Rank) (sees : Store → Prop)

/-- Whatever the transaction sees, each lock that it requests is held already
or lies above all that are held; at its end the result and the locks meet a
condition. -/
def Rises : Set Key → Transaction Key Store Error Value →
    (Value → Set Key → Prop) → Prop
  | held, .done value, post => post value held
  | _, .fail _, _ => True
  | held, .read _ rest, post =>
      ∀ store, sees store → Rises held (rest store) post
  | held, .lock key rest, post =>
      (key ∈ held ∨ ∀ other ∈ held, rank other < rank key) ∧
        ∀ store, sees store → Rises (insert key held) (rest store) post
  | held, .write _ rest, post => Rises held rest post

variable {rank sees} {held : Set Key}

/-- One rising transaction after the other. -/
theorem rises_bind {first : Transaction Key Store Error Value}
    {next : Value → Transaction Key Store Error Next}
    {post : Next → Set Key → Prop} :
    Rises rank sees held (first >>= next) post ↔
      Rises rank sees held first fun value held =>
        Rises rank sees held (next value) post := by
  change Rises rank sees held (first.bind next) post ↔ _
  induction first generalizing held with
  | done value => rfl
  | fail error => rfl
  | read pinned rest ih =>
      exact forall_congr' fun store => imp_congr_right fun _ => ih store
  | lock key rest ih =>
      exact and_congr_right fun _ =>
        forall_congr' fun store => imp_congr_right fun _ => ih store
  | write change rest ih => exact ih

/-- A row that is above all that is held is locked next. -/
theorem rises_acquire_bind {key : Key}
    {next : Store → Transaction Key Store Error Value}
    {post : Value → Set Key → Prop} :
    Rises rank sees held (.acquire key >>= next) post ↔
      (key ∈ held ∨ ∀ other ∈ held, rank other < rank key) ∧
        ∀ store, sees store → Rises rank sees (insert key held) (next store)
          post :=
  Iff.rfl

/-- A weaker condition at the end. -/
theorem Rises.mono {transaction : Transaction Key Store Error Value}
    {post weaker : Value → Set Key → Prop}
    (rises : Rises rank sees held transaction post)
    (implies : ∀ value held, post value held → weaker value held) :
    Rises rank sees held transaction weaker := by
  induction transaction generalizing held with
  | done value => exact implies value held rises
  | fail error => trivial
  | read pinned rest ih => exact fun store seen => ih store (rises store seen)
  | lock key rest ih =>
      exact ⟨rises.1, fun store seen => ih store (rises.2 store seen)⟩
  | write change rest ih =>
      have later : Rises rank sees held rest post := rises
      exact ih later

theorem Rises.mapError {change : Error → Error}
    {transaction : Transaction Key Store Error Value}
    {post : Value → Set Key → Prop}
    (rises : Rises rank sees held transaction post) :
    Rises rank sees held (transaction.mapError change) post := by
  induction transaction generalizing held with
  | done value => exact rises
  | fail error => trivial
  | read pinned rest ih => exact fun store seen => ih store (rises store seen)
  | lock key rest ih =>
      exact ⟨rises.1, fun store seen => ih store (rises.2 store seen)⟩
  | write effect rest ih =>
      have later : Rises rank sees held rest post := rises
      exact ih later

/-- A transaction that only writes keeps the locks. -/
theorem rises_of_blind {transaction : Transaction Key Store Error Value}
    (blind : transaction.Blind) :
    Rises rank sees held transaction fun _ after => after = held := by
  induction transaction with
  | done value => rfl
  | fail error => trivial
  | read pinned rest => exact blind.elim
  | lock key rest => exact blind.elim
  | write change rest ih => exact ih blind

end Rises

/-- Each key of the list is an earlier one or lies above all earlier ones. -/
def RisesFrom [LT Rank] (rank : Key → Rank) : List Key → List Key → Prop
  | _, [] => True
  | earlier, key :: keys =>
      (key ∈ earlier ∨ ∀ other ∈ earlier, rank other < rank key) ∧
        RisesFrom rank (key :: earlier) keys

instance decidableRisesFrom [LT Rank] [DecidableLT Rank] [DecidableEq Key]
    (rank : Key → Rank) :
    ∀ earlier keys, Decidable (RisesFrom rank earlier keys)
  | _, [] => isTrue trivial
  | earlier, key :: keys =>
      have := decidableRisesFrom rank (key :: earlier) keys
      inferInstanceAs (Decidable (_ ∧ _))

theorem risesFrom_append [LT Rank] {rank : Key → Rank}
    {earlier first second : List Key} :
    RisesFrom rank earlier (first ++ second) ↔
      RisesFrom rank earlier first ∧
        RisesFrom rank (first.reverse ++ earlier) second := by
  induction first generalizing earlier with
  | nil => simp [RisesFrom]
  | cons key first ih => simp [RisesFrom, ih, and_assoc]

/-- All locks that are held lie below a level. -/
def Below [LT Rank] (rank : Key → Rank) (held : Set Key) (upper : Rank) :
    Prop :=
  ∀ key ∈ held, rank key < upper

/-- The earlier keys are held, and the other locks that are held lie below a
lower level. -/
structure Holding [LT Rank] (rank : Key → Rank) (lower upper : Rank)
    (held : Set Key) (earlier : List Key) : Prop where
  isHeld : ∀ key ∈ earlier, key ∈ held
  others : ∀ key ∈ held, key ∈ earlier ∨ rank key < lower
  below : Below rank held upper

section Holding

variable [Preorder Rank] {rank : Key → Rank} {lower upper : Rank}
  {held : Set Key} {key : Key} {earlier keys : List Key}

theorem Below.mono (below : Below rank held lower) (atMost : lower ≤ upper) :
    Below rank held upper :=
  fun key isHeld => (below key isHeld).trans_le atMost

theorem Below.insert (below : Below rank held upper)
    (isBelow : rank key < upper) : Below rank (insert key held) upper := by
  intro other isHeld
  rcases isHeld with rfl | earlier
  · exact isBelow
  · exact below other earlier

theorem Below.holding (below : Below rank held lower) (atMost : lower ≤ upper) :
    Holding rank lower upper held [] where
  isHeld key isEarlier := by simp at isEarlier
  others key isHeld := .inr (below key isHeld)
  below := below.mono atMost

/-- The next key of a rising list can be locked. -/
theorem Holding.acquire (holding : Holding rank lower upper held earlier)
    (rises : RisesFrom rank earlier (key :: keys))
    (atLeast : lower ≤ rank key) :
    key ∈ held ∨ ∀ other ∈ held, rank other < rank key := by
  rcases rises.1 with again | above
  · exact .inl (holding.isHeld key again)
  · right
    intro other isHeld
    rcases holding.others other isHeld with isEarlier | isLower
    · exact above other isEarlier
    · exact isLower.trans_le atLeast

theorem Holding.insert (holding : Holding rank lower upper held earlier)
    (isBelow : rank key < upper) :
    Holding rank lower upper (insert key held) (key :: earlier) where
  isHeld other isEarlier := by
    rcases List.mem_cons.mp isEarlier with rfl | isEarlier
    · exact Set.mem_insert _ _
    · exact Set.mem_insert_of_mem _ (holding.isHeld other isEarlier)
  others other isHeld := by
    rcases isHeld with rfl | isHeld
    · exact .inl List.mem_cons_self
    · exact (holding.others other isHeld).imp_left (List.mem_cons_of_mem _)
  below := holding.below.insert isBelow

end Holding

section Runs

variable [DecidableEq Client] [Preorder Rank] {rank : Key → Rank}
  {sees : Request → Store → Prop}
  {program : Request → Transaction Key Store Error Value}

/-- Every flight rises from the locks that its client holds, and a client
without a flight holds none. -/
structure Rising (rank : Key → Rank) (sees : Request → Store → Prop)
    (system : System Client Request Key Store Error Value) : Prop where
  rises : ∀ client flight, system.flights client = some flight →
    Rises rank (sees flight.request) (system.held client) flight.rest
      fun _ _ => True
  idle : ∀ client, system.flights client = none → system.held client = ∅

/-- What the next statement of a client sees is as its request expects. -/
def System.SeesExpected (sees : Request → Store → Prop)
    (system : System Client Request Key Store Error Value) :
    Action Client Request → Prop
  | .advance client => ∀ flight ∈ system.flights client,
      sees flight.request (flight.own system.committed)
  | _ => True

instance (sees : Request → Store → Prop)
    [∀ request store, Decidable (sees request store)]
    (system : System Client Request Key Store Error Value) :
    ∀ action, Decidable (system.SeesExpected sees action)
  | .advance client => inferInstanceAs (Decidable
      (∀ flight ∈ system.flights client, sees _ _))
  | .start .. | .abort _ => inferInstanceAs (Decidable True)

variable {system : System Client Request Key Store Error Value}

/-- Along a chain of waiting clients the rows that they wait for rise: the
last one has locked a row that is no lower than the first one's request. -/
theorem Rising.chain (rising : Rising rank sees system)
    {first last : Client} (chain : Relation.TransGen system.WaitsFor first last)
    {flight : Flight Request Key Store Error Value} {key : Key}
    {rest : Store → Transaction Key Store Error Value}
    (flies : system.flights first = some flight)
    (requests : flight.rest = .lock key rest) :
    ∃ locked, system.owner locked = some last ∧ rank key ≤ rank locked := by
  induction chain with
  | single waits =>
      obtain ⟨_, _, _, sameFlight, sameRequest, owns, _⟩ :=
        System.waitsFor_iff.mp waits
      cases flies.symm.trans sameFlight
      cases requests.symm.trans sameRequest
      exact ⟨key, owns, le_refl _⟩
  | @tail middle last _ waits ih =>
      obtain ⟨locked, owns, atMost⟩ := ih
      obtain ⟨later, above, _, laterFlies, laterRequests, ownsAbove, other⟩ :=
        System.waitsFor_iff.mp waits
      have rises := rising.rises middle later laterFlies
      rw [laterRequests] at rises
      rcases rises.1 with holds | upward
      · exact absurd (Option.some.inj (Eq.trans (Eq.symm holds) ownsAbove))
          other
      · exact ⟨above, ownsAbove, atMost.trans (upward locked owns).le⟩

theorem Rising.not_deadlocked (rising : Rising rank sees system) :
    ¬system.Deadlocked := by
  rintro ⟨client, cycle⟩
  obtain ⟨second, waits, _⟩ := Relation.TransGen.head'_iff.mp cycle
  obtain ⟨flight, key, rest, flies, requests, owns, other⟩ :=
    System.waitsFor_iff.mp waits
  obtain ⟨locked, holds, atMost⟩ := rising.chain cycle flies requests
  have rises := rising.rises client flight flies
  rw [requests] at rises
  rcases rises.1 with isHeld | upward
  · exact other (Option.some.inj (Eq.trans (Eq.symm isHeld) owns))
  · exact lt_irrefl _ ((upward locked holds).trans_le atMost)

/-- A step of one client changes its own flight and locks only. -/
theorem rising_of_update {next : System Client Request Key Store Error Value}
    {client : Client}
    {landing : Option (Flight Request Key Store Error Value)}
    (rising : Rising rank sees system)
    (flights_eq :
      next.flights = Function.update system.flights client landing)
    (held_eq : ∀ other, other ≠ client → next.held other = system.held other)
    (rises : ∀ flight, landing = some flight →
      Rises rank (sees flight.request) (next.held client) flight.rest
        fun _ _ => True)
    (idle : landing = none → next.held client = ∅) :
    Rising rank sees next where
  rises other flight flies := by
    rw [flights_eq] at flies
    by_cases same : other = client
    · subst same
      rw [Function.update_self] at flies
      exact rises flight flies
    · rw [Function.update_of_ne same] at flies
      rw [held_eq other same]
      exact rising.rises other flight flies
  idle other grounded := by
    rw [flights_eq] at grounded
    by_cases same : other = client
    · subst same
      rw [Function.update_self] at grounded
      exact idle grounded
    · rw [Function.update_of_ne same] at grounded
      exact (held_eq other same).trans (rising.idle other grounded)

theorem rising_fly {client : Client}
    {flight : Flight Request Key Store Error Value}
    (rising : Rising rank sees system)
    (rises : Rises rank (sees flight.request) (system.held client) flight.rest
      fun _ _ => True) : Rising rank sees (system.fly client flight) := by
  refine rising_of_update rising rfl (fun _ _ => rfl) ?_ ?_
  · rintro _ ⟨⟩
    exact rises
  · rintro ⟨⟩

theorem rising_release {client : Client}
    {next : System Client Request Key Store Error Value}
    (flights_eq : next.flights = (system.release client).flights)
    (owner_eq : next.owner = (system.release client).owner)
    (rising : Rising rank sees system) : Rising rank sees next := by
  have held_eq : ∀ other,
      next.held other = (system.release client).held other :=
    fun other => by
      unfold System.held
      rw [owner_eq]
  refine rising_of_update rising flights_eq ?_ ?_ ?_
  · intro other otherNe
    exact (held_eq other).trans (held_release_of_ne otherNe)
  · rintro _ ⟨⟩
  · intro _
    exact (held_eq client).trans held_release_self

theorem rising_step [DecidableEq Key]
    (rises : ∀ request, Rises rank (sees request) ∅ (program request)
      fun _ _ => True)
    {action : Action Client Request} (rising : Rising rank sees system)
    (expected : system.SeesExpected sees action) :
    Rising rank sees (system.step program action) := by
  cases action with
  | start client request =>
      rw [System.step]
      cases grounded : system.flights client with
      | some flight => exact rising
      | none =>
          apply rising_fly rising
          rw [rising.idle client grounded]
          exact rises request
  | abort client => exact rising_release rfl rfl rising
  | advance client =>
      rw [System.step]
      cases flies : system.flights client with
      | none => exact rising
      | some flight =>
          have now := rising.rises client flight flies
          have seen := expected flight (by simp [flies])
          obtain ⟨request, own, rest⟩ := flight
          cases rest with
          | done value => exact rising_release rfl rfl rising
          | fail error => exact rising_release rfl rfl rising
          | read pinned rest => exact rising_fly rising (now _ seen)
          | write change rest => exact rising_fly rising now
          | lock key rest =>
              simp only [System.advance]
              split
              · next free =>
                  refine rising_of_update rising rfl
                    (fun _ => held_update_of_ne free) ?_ ?_
                  · rintro _ ⟨⟩
                    change Rises _ _ {row | Function.update system.owner key
                      client row = some client} _ _
                    rw [held_update_self]
                    exact now.2 _ seen
                  · rintro ⟨⟩
              · exact rising

/-- As long as every statement of a run sees what its request expects, all
transactions rise. -/
theorem exec_rising [DecidableEq Key]
    (rises : ∀ request, Rises rank (sees request) ∅ (program request)
      fun _ _ => True)
    {initial : Store} {actions : List (Action Client Request)}
    (expected : Guarded (System.step program)
      (fun system => System.SeesExpected sees system)
      { committed := initial } actions) :
    Rising rank sees
      (exec (System.step program) { committed := initial } actions :
        System Client Request Key Store Error Value) := by
  have start : Rising rank sees ({ committed := initial } :
      System Client Request Key Store Error Value) := by
    refine ⟨?_, ?_⟩
    · intro client flight flies
      cases flies
    · intro client _
      apply Set.eq_empty_of_forall_notMem
      intro key holds
      cases holds
  exact exec_invariant (fun _ _ rising expected =>
    rising_step rises rising expected) start expected

/-- Any number of clients, in any interleaving: as long as every statement
sees what its request expects, nobody waits in a cycle. -/
theorem exec_not_deadlocked [DecidableEq Key]
    (rises : ∀ request, Rises rank (sees request) ∅ (program request)
      fun _ _ => True)
    {initial : Store} {actions : List (Action Client Request)}
    (expected : Guarded (System.step program)
      (fun system => System.SeesExpected sees system)
      { committed := initial } actions) :
    ¬(exec (System.step program) { committed := initial } actions :
      System Client Request Key Store Error Value).Deadlocked :=
  (exec_rising rises expected).not_deadlocked

end Runs

end LockingTransactions
