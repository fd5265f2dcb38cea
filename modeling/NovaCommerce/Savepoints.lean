import NovaCommerce.LockingEffects

/-!
# Savepoints

A block of a transaction that runs under a savepoint sees its own writes, and
makes them only when it ends; if it fails they are dropped, and the transaction
goes on with the error in hand.  The locks that the block has acquired stay
held either way.
-/

namespace LockingTransactions

open AtomicCall

variable {Key Store Error Value : Type}

namespace Transaction

/-- Run a block whose writes so far are pending. -/
def attemptFrom (pending : Store → Store) :
    Transaction Key Store Error Value →
      Transaction Key Store Error (Except Error Value)
  | done value => write pending (done (.ok value))
  | fail error => done (.error error)
  | read pinned rest => read pinned fun store =>
      (rest (pending store)).attemptFrom pending
  | lock key rest => lock key fun store =>
      (rest (pending store)).attemptFrom pending
  | write change rest => rest.attemptFrom (change ∘ pending)

/-- Run a block under a savepoint. -/
def attempt (block : Transaction Key Store Error Value) :
    Transaction Key Store Error (Except Error Value) :=
  block.attemptFrom id

/-- Alone, a block is run with what is pending written. -/
theorem alone_attemptFrom (block : Transaction Key Store Error Value)
    (pending : Store → Store) (store : Store) :
    (∀ value after, block.alone (pending store) = .ok value after →
        (block.attemptFrom pending).alone store = .ok (.ok value) after) ∧
      ∀ error after, block.alone (pending store) = .error error after →
        (block.attemptFrom pending).alone store =
          .ok (.error error) store := by
  induction block generalizing pending with
  | done result =>
      constructor
      · rintro value after ⟨rfl, rfl⟩
        rfl
      · intro error after failed
        cases failed
  | fail raised =>
      constructor
      · intro value after returned
        cases returned
      · rintro error after ⟨rfl, rfl⟩
        rfl
  | read pinned rest ih => exact ih (pending store) pending
  | lock key rest ih => exact ih (pending store) pending
  | write change rest ih => exact ih (change ∘ pending)

theorem alone_attempt_of_ok {block : Transaction Key Store Error Value}
    {before after : Store} {value : Value}
    (returned : block.alone before = .ok value after) :
    block.attempt.alone before = .ok (.ok value) after :=
  (alone_attemptFrom block id before).1 value after returned

/-- Alone, a block that fails leaves the store as it was. -/
theorem alone_attempt_of_error {block : Transaction Key Store Error Value}
    {before after : Store} {error : Error}
    (failed : block.alone before = .error error after) :
    block.attempt.alone before = .ok (.error error) before :=
  (alone_attemptFrom block id before).2 error after failed

end Transaction

section Leads

variable {rely : Rely Key Store} {now : Store}
  {before after : Progress Key Store}

theorem leads_attemptFrom_ok {block : Transaction Key Store Error Value}
    {pending : Store → Store} {value : Value} :
    Leads rely now (block.attemptFrom pending) before (.ok value) after ↔
      Leads rely now block (before.write pending) value after := by
  induction block generalizing before pending with
  | done result =>
      constructor
      · rintro ⟨same, rfl⟩
        exact ⟨Except.ok.inj same, rfl⟩
      · rintro ⟨rfl, rfl⟩
        exact ⟨rfl, rfl⟩
  | fail error =>
      constructor
      · rintro ⟨never, _⟩
        cases never
      · exact False.elim
  | read pinned rest ih =>
      exact exists_congr fun _ => and_congr_right fun _ => ih _
  | lock key rest ih =>
      exact exists_congr fun _ => and_congr_right fun _ => ih _
  | write change rest ih => exact ih

/-- A block that returned has done what it does without a savepoint. -/
theorem leads_attempt_ok {block : Transaction Key Store Error Value}
    {value : Value} :
    Leads rely now block.attempt before (.ok value) after ↔
      Leads rely now block before value after :=
  leads_attemptFrom_ok

/-- A block that failed has only acquired locks. -/
theorem leads_attempt_error {block : Transaction Key Store Error Value}
    {pending : Store → Store} {error : Error}
    (leads : Leads rely now (block.attemptFrom pending) before (.error error)
      after) :
    after.own = before.own ∧ before.held ⊆ after.held := by
  refine ⟨?_, leads.held_subset⟩
  induction block generalizing before pending with
  | done result =>
      obtain ⟨never, _⟩ := leads
      cases never
  | fail raised =>
      obtain ⟨_, rfl⟩ := leads
      rfl
  | read pinned rest ih =>
      obtain ⟨_, _, later⟩ := leads
      exact ih _ later
  | lock key rest ih =>
      obtain ⟨_, _, later⟩ := leads
      have own_eq : after.own = (before.lock key).own := ih _ later
      exact own_eq
  | write change rest ih => exact ih leads

/-- An effect of the block that locks alone have too is one of the attempt. -/
theorem achieves_attempt
    {effect : Store → Progress Key Store → Progress Key Store → Prop}
    {block : Transaction Key Store Error Value}
    (locking : ∀ now before after, after.own = before.own →
      before.held ⊆ after.held → effect now before after)
    (achieves : Achieves rely effect block) :
    Achieves rely effect block.attempt := by
  intro now before result after leads
  cases result with
  | ok value =>
      exact achieves now before value after (leads_attempt_ok.mp leads)
  | error error =>
      obtain ⟨own_eq, held_subset⟩ := leads_attempt_error leads
      exact locking now before after own_eq held_subset

end Leads

end LockingTransactions
