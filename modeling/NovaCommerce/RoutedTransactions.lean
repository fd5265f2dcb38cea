import NovaCommerce.LockingTransactions

/-!
# Transactions with routed queries

A query that is not pinned to the primary store may be answered by a replica.
The replica shows an earlier state of the primary, and so neither what was
committed since nor what the transaction itself has written.  A transaction
whose queries continue in the same way on either answer does what it does when
the primary answers all of them.
-/

namespace LockingTransactions

open AtomicCall

variable {Key Store Error Value Next : Type}

namespace Transaction

/-- Run a transaction while no other client does anything.  One choice after
the other says whether the replica answers the next query that is not pinned;
after the last one the primary answers. -/
def routed (replica : Store) :
    Transaction Key Store Error Value → List Bool → EStateM Error Store Value
  | done value, _ => pure value
  | fail error, _ => throw error
  | read true rest, choices => fun store =>
      (rest store).routed replica choices store
  | read false rest, [] => fun store => (rest store).routed replica [] store
  | read false rest, toReplica :: choices => fun store =>
      if toReplica then (rest replica).routed replica choices store
      else (rest store).routed replica choices store
  | lock _ rest, choices => fun store =>
      (rest store).routed replica choices store
  | write change rest, choices => fun store =>
      rest.routed replica choices (change store)

/-- Every query that the replica may answer continues in the same way on the
answer of the primary. -/
def Agrees (replica : Store) :
    Transaction Key Store Error Value → Store → Prop
  | done _, _ => True
  | fail _, _ => True
  | read true rest, store => (rest store).Agrees replica store
  | read false rest, store =>
      rest replica = rest store ∧ (rest store).Agrees replica store
  | lock _ rest, store => (rest store).Agrees replica store
  | write change rest, store => rest.Agrees replica (change store)

/-- All queries are pinned to the primary. -/
def Pinned : Transaction Key Store Error Value → Prop
  | done _ => True
  | fail _ => True
  | read pinned rest => pinned = true ∧ ∀ store, (rest store).Pinned
  | lock _ rest => ∀ store, (rest store).Pinned
  | write _ rest => rest.Pinned

variable {replica : Store}

theorem pinned_acquire_bind {key : Key}
    {next : Store → Transaction Key Store Error Value}
    (pinned : ∀ store, (next store).Pinned) :
    (acquire key >>= next).Pinned :=
  pinned

theorem routed_of_agrees {transaction : Transaction Key Store Error Value}
    {store : Store} (agrees : transaction.Agrees replica store)
    (choices : List Bool) :
    transaction.routed replica choices store = transaction.alone store := by
  induction transaction generalizing store choices with
  | done value => rfl
  | fail error => rfl
  | read pinned rest ih =>
      cases pinned with
      | true => exact ih store agrees choices
      | false =>
          obtain ⟨same, later⟩ := agrees
          cases choices with
          | nil => exact ih store later []
          | cons toReplica choices =>
              cases toReplica with
              | true =>
                  change (rest replica).routed replica choices store = _
                  rw [same]
                  exact ih store later choices
              | false => exact ih store later choices
  | lock key rest ih => exact ih store agrees choices
  | write change rest ih => exact ih agrees choices

theorem agrees_bind {first : Transaction Key Store Error Value}
    {next : Value → Transaction Key Store Error Next} {store : Store}
    (firstAgrees : first.Agrees replica store)
    (nextAgrees : ∀ value after, first.alone store = .ok value after →
      (next value).Agrees replica after) :
    (first >>= next).Agrees replica store := by
  change (first.bind next).Agrees replica store
  induction first generalizing store with
  | done value => exact nextAgrees value store rfl
  | fail error => trivial
  | read pinned rest ih =>
      cases pinned with
      | true => exact ih store firstAgrees nextAgrees
      | false =>
          obtain ⟨same, later⟩ := firstAgrees
          exact ⟨congrArg (fun rest => rest.bind next) same,
            ih store later nextAgrees⟩
  | lock key rest ih => exact ih store firstAgrees nextAgrees
  | write change rest ih => exact ih firstAgrees nextAgrees

/-- A query whose answer is used in the same way. -/
theorem agrees_query {next : Store → Transaction Key Store Error Value}
    {store : Store} (same : next replica = next store)
    (later : (next store).Agrees replica store) :
    (query false >>= next).Agrees replica store :=
  ⟨same, later⟩

theorem agrees_of_pinned {transaction : Transaction Key Store Error Value}
    (pinned : transaction.Pinned) (store : Store) :
    transaction.Agrees replica store := by
  induction transaction generalizing store with
  | done value => trivial
  | fail error => trivial
  | read isPinned rest ih =>
      obtain ⟨rfl, later⟩ := pinned
      exact ih store (later store) store
  | lock key rest ih => exact ih store (pinned store) store
  | write change rest ih => exact ih pinned (change store)

theorem pinned_bind {first : Transaction Key Store Error Value}
    {next : Value → Transaction Key Store Error Next}
    (firstPinned : first.Pinned) (nextPinned : ∀ value, (next value).Pinned) :
    (first >>= next).Pinned := by
  change (first.bind next).Pinned
  induction first with
  | done value => exact nextPinned value
  | fail error => trivial
  | read pinned rest ih =>
      exact ⟨firstPinned.1, fun store => ih store (firstPinned.2 store)⟩
  | lock key rest ih => exact fun store => ih store (firstPinned store)
  | write change rest ih => exact ih firstPinned

theorem pinned_mapError {change : Error → Error}
    {transaction : Transaction Key Store Error Value}
    (pinned : transaction.Pinned) : (transaction.mapError change).Pinned := by
  induction transaction with
  | done value => trivial
  | fail error => trivial
  | read isPinned rest ih =>
      exact ⟨pinned.1, fun store => ih store (pinned.2 store)⟩
  | lock key rest ih => exact fun store => ih store (pinned store)
  | write effect rest ih => exact ih pinned

end Transaction

end LockingTransactions
