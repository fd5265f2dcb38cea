import NovaCommerce.WaitCycles
import Mathlib.Data.Fintype.Card
import Mathlib.Data.Set.Finite.Lemmas
import Mathlib.Logic.Hydra

/-!
# Transactions that come to an end

A transaction makes finitely many statements, however they are answered, so
clients who go on whenever they are not blocked all come to an end.  As long as
nobody waits in a cycle, one of the clients in flight is not blocked.
-/

namespace LockingTransactions

open GuardedRun Relation

universe u

variable {Client Key Store Error Value Rank : Type} {Request : Type u}

/-- What may be left of a transaction after its next statement; nothing is left
after its end. -/
inductive Remains : Option (Transaction Key Store Error Value) →
    Option (Transaction Key Store Error Value) → Prop where
  | done (value : Value) : Remains none (some (.done value))
  | fail (error : Error) : Remains none (some (.fail error))
  | read (pinned : Bool) (rest) (store : Store) :
      Remains (some (rest store)) (some (.read pinned rest))
  | lock (key : Key) (rest) (store : Store) :
      Remains (some (rest store)) (some (.lock key rest))
  | write (change : Store → Store) (rest) :
      Remains (some rest) (some (.write change rest))

theorem acc_none :
    Acc Remains (none : Option (Transaction Key Store Error Value)) :=
  .intro none fun _ remains => by cases remains

theorem acc_some (transaction : Transaction Key Store Error Value) :
    Acc Remains (some transaction) := by
  induction transaction with
  | done value =>
      refine .intro _ fun _ remains => ?_
      cases remains
      exact acc_none
  | fail error =>
      refine .intro _ fun _ remains => ?_
      cases remains
      exact acc_none
  | read pinned rest ih =>
      refine .intro _ fun _ remains => ?_
      cases remains
      exact ih _
  | lock key rest ih =>
      refine .intro _ fun _ remains => ?_
      cases remains
      exact ih _
  | write change rest ih =>
      refine .intro _ fun _ remains => ?_
      cases remains
      exact ih

/-- No transaction goes on forever. -/
theorem remains_wellFounded :
    WellFounded (Remains :
      Option (Transaction Key Store Error Value) → _ → Prop) :=
  ⟨fun left => by
    cases left with
    | none => exact acc_none
    | some transaction => exact acc_some transaction⟩

namespace System

variable [DecidableEq Client]

/-- The client is in flight, and its next statement waits for nobody. -/
def Ready (system : System Client Request Key Store Error Value)
    (client : Client) : Prop :=
  (system.flights client).isSome ∧ system.awaited client = none

/-- Somebody is in flight. -/
def Busy (system : System Client Request Key Store Error Value) : Prop :=
  ∃ client, (system.flights client).isSome

/-- What is left of the transaction of a client. -/
def left (system : System Client Request Key Store Error Value)
    (client : Client) : Option (Transaction Key Store Error Value) :=
  (system.flights client).map Flight.rest

end System

section Steps

variable [DecidableEq Client] [DecidableEq Key]
  {system : System Client Request Key Store Error Value} {client : Client}

/-- A client that waits for nobody makes its next statement. -/
theorem advance_remains {flight : Flight Request Key Store Error Value}
    (flies : system.flights client = some flight)
    (free : system.awaited client = none) :
    ∃ landing, (system.advance client flight).flights =
        Function.update system.flights client landing ∧
      Remains (landing.map Flight.rest) (some flight.rest) := by
  obtain ⟨request, own, rest⟩ := flight
  cases rest with
  | done value => exact ⟨none, rfl, .done value⟩
  | fail error => exact ⟨none, rfl, .fail error⟩
  | read pinned rest => exact ⟨_, rfl, .read pinned rest _⟩
  | write change rest => exact ⟨_, rfl, .write change rest⟩
  | lock key rest =>
      have canLock : system.canLock client key = true := by
        rw [System.awaited, flies] at free
        rw [System.canLock, Bool.or_eq_true, decide_eq_true_eq,
          decide_eq_true_eq]
        by_cases isOwn : system.owner key = some client
        · exact .inr isOwn
        · exact .inl ((if_neg isOwn).symm.trans free)
      simp only [System.advance, if_pos canLock]
      exact ⟨_, rfl, .lock key rest _⟩

/-- A statement of one client leaves the flights of the others. -/
theorem flights_advance_of_ne {other : Client} (otherNe : other ≠ client)
    {flight : Flight Request Key Store Error Value} :
    (system.advance client flight).flights other = system.flights other := by
  obtain ⟨request, own, rest⟩ := flight
  cases rest with
  | done value => exact Function.update_of_ne otherNe _ _
  | fail error => exact Function.update_of_ne otherNe _ _
  | read pinned rest => exact Function.update_of_ne otherNe _ _
  | write change rest => exact Function.update_of_ne otherNe _ _
  | lock key rest =>
      simp only [System.advance]
      split
      · exact Function.update_of_ne otherNe _ _
      · rfl

end Steps

section Progress

variable [DecidableEq Client] [Preorder Rank] {rank : Key → Rank}
  {sees : Request → Store → Prop}
  {system : System Client Request Key Store Error Value}

/-- Finitely many clients that hold locks only in flight and do not wait in a
cycle: one of those in flight can go on. -/
theorem Rising.exists_ready (rising : Rising rank sees system)
    (finite : {client | (system.flights client).isSome}.Finite)
    (busy : system.Busy) : ∃ client, system.Ready client := by
  by_contra blocked
  have waits : ∀ client, (system.flights client).isSome →
      ∃ other, (system.flights other).isSome ∧
        system.WaitsFor client other := by
    intro client flies
    cases isAwaited : system.awaited client with
    | none => exact absurd ⟨client, flies, isAwaited⟩ blocked
    | some other =>
        refine ⟨other, ?_, isAwaited⟩
        obtain ⟨_, key, _, _, _, owns, _⟩ := System.waitsFor_iff.mp isAwaited
        by_contra grounded
        have holdsNone := rising.idle other
          (Option.not_isSome_iff_eq_none.mp grounded)
        have holds : key ∈ system.held other := owns
        rw [holdsNone] at holds
        exact holds
  let Flying := {client // (system.flights client).isSome}
  have : Finite Flying := finite
  -- Who waits longer stands lower; a lowest client waits for a lower one.
  let later (first second : Flying) : Prop :=
    TransGen system.WaitsFor second.1 first.1
  have : IsTrans Flying later := ⟨fun _ _ _ first second => second.trans first⟩
  have : Std.Irrefl later :=
    ⟨fun client cycle => rising.not_deadlocked ⟨client.1, cycle⟩⟩
  have wellFounded := Finite.wellFounded_of_trans_of_irrefl later
  obtain ⟨client, flies⟩ := busy
  obtain ⟨lowest, -, isLowest⟩ :=
    wellFounded.has_min Set.univ ⟨⟨client, flies⟩, trivial⟩
  obtain ⟨other, otherFlies, waitsFor⟩ := waits lowest.1 lowest.2
  exact isLowest ⟨other, otherFlies⟩ trivial (.single waitsFor)

end Progress

section Schedules

variable [DecidableEq Client] [DecidableEq Key]
  (program : Request → Transaction Key Store Error Value)
  {system : System Client Request Key Store Error Value}

/-- The system after some clients have gone on, one after the other. -/
def System.advancedBy (system : System Client Request Key Store Error Value)
    (schedule : Nat → Client) (moment : Nat) :
    System Client Request Key Store Error Value :=
  exec (System.step program) system
    ((List.range moment).map fun earlier => .advance (schedule earlier))

theorem advancedBy_succ (schedule : Nat → Client) (moment : Nat) :
    system.advancedBy program schedule (moment + 1) =
      (system.step program (.advance (schedule 0))).advancedBy program
        (fun later => schedule (later + 1)) moment := by
  rw [System.advancedBy, List.range_succ_eq_map, List.map_cons, List.map_map]
  rfl

/-- The statements that are left to some clients. -/
def System.work (system : System Client Request Key Store Error Value)
    (clients : Finset Client) :
    Multiset (Option (Transaction Key Store Error Value)) :=
  clients.val.map system.left

/-- A client that is ready has less left after its statement, and the others
have what they had. -/
theorem left_step {client : Client} (ready : system.Ready client) :
    Remains ((system.step program (.advance client)).left client)
        (system.left client) ∧
      ∀ other ≠ client, (system.step program (.advance client)).left other =
        system.left other := by
  obtain ⟨flies, free⟩ := ready
  obtain ⟨flight, flies⟩ := Option.isSome_iff_exists.mp flies
  obtain ⟨landing, flights_eq, remains⟩ := advance_remains flies free
  have step_eq : system.step program (.advance client) =
      system.advance client flight := by
    rw [System.step, flies]
  constructor
  · rw [step_eq, System.left, System.left, flights_eq, Function.update_self,
      flies]
    exact remains
  · intro other otherNe
    rw [step_eq, System.left, System.left, flights_eq,
      Function.update_of_ne otherNe]

theorem work_step {clients : Finset Client} {client : Client}
    (member : client ∈ clients) (ready : system.Ready client) :
    CutExpand Remains
      ((system.step program (.advance client)).work clients)
      (system.work clients) := by
  obtain ⟨remains, others⟩ := left_step program ready
  have split := Multiset.cons_erase (Finset.mem_val.mpr member)
  have unchanged : (clients.val.erase client).map
      (system.step program (.advance client)).left =
        (clients.val.erase client).map system.left := by
    apply Multiset.map_congr rfl
    intro other otherMem
    exact others other (clients.nodup.mem_erase_iff.mp otherMem).1
  rw [System.work, System.work, ← split, Multiset.map_cons, Multiset.map_cons,
    unchanged]
  exact cutExpand_single_add remains _

/-- Clients who only go on do not take off. -/
theorem isSome_of_step {client other : Client}
    (flies : ((system.step program (.advance client)).flights other).isSome) :
    (system.flights other).isSome := by
  rw [System.step] at flies
  cases now : system.flights client with
  | none =>
      rw [now] at flies
      exact flies
  | some flight =>
      rw [now] at flies
      by_cases same : other = client
      · rw [same, now]
        rfl
      · rw [flights_advance_of_ne same] at flies
        exact flies

/-- In every run only finitely many clients are in flight. -/
theorem finite_exec (initial : Store)
    (actions : List (Action Client Request)) :
    {client | ((exec (System.step program) { committed := initial } actions :
      System Client Request Key Store Error Value).flights
        client).isSome}.Finite := by
  let few (system : System Client Request Key Store Error Value) :=
    {client | (system.flights client).isSome}.Finite
  have preserved : ∀ system action, few system →
      few (system.step program action) := by
    intro system action finite
    cases action with
    | start client request =>
        refine (finite.insert client).subset fun other flies => ?_
        by_cases same : other = client
        · exact .inl same
        · right
          have still : ((system.step program
            (.start client request)).flights other).isSome := flies
          rw [System.step] at still
          cases now : system.flights client with
          | some flight =>
              rw [now] at still
              exact still
          | none =>
              rw [now] at still
              simpa [System.fly, same] using still
    | advance client => exact finite.subset fun _ => isSome_of_step program
    | abort client =>
        refine finite.subset fun other flies => ?_
        by_cases same : other = client
        · simp [System.step, System.release, same] at flies
        · simpa [System.step, System.release, same] using flies
  have start : few { committed := initial } := by
    simp [few]
  exact exec_invariant_of_steps preserved start actions

/-- Clients who always let one of them go on that is not blocked all come to an
end. -/
theorem advancedBy_finishes {clients : Finset Client}
    (within : ∀ client, (system.flights client).isSome → client ∈ clients)
    (schedule : Nat → Client)
    (goesOn : ∀ moment, (system.advancedBy program schedule moment).Busy →
      (system.advancedBy program schedule moment).Ready (schedule moment)) :
    ∃ moment, ¬(system.advancedBy program schedule moment).Busy := by
  have descends := remains_wellFounded.cutExpand.apply (system.work clients)
  generalize work_eq : system.work clients = work at descends
  induction descends generalizing system schedule with
  | intro work _ ih =>
      by_cases busy : system.Busy
      · have ready : system.Ready (schedule 0) := goesOn 0 busy
        have member := within _ ready.1
        have less := work_step program member ready
        rw [work_eq] at less
        obtain ⟨moment, finished⟩ := ih _ less
          (fun client flies => within client (isSome_of_step program flies))
          (fun later => schedule (later + 1)) (fun moment stillBusy => by
            rw [← advancedBy_succ] at stillBusy ⊢
            exact goesOn (moment + 1) stillBusy) rfl
        refine ⟨moment + 1, ?_⟩
        rw [advancedBy_succ]
        exact finished
      · exact ⟨0, busy⟩

end Schedules

end LockingTransactions
