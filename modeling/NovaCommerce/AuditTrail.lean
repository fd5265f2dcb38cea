import NovaCommerce.StockLedgers

/-!
# The audit trail of the stock

The movements of a stock row are an audit trail of its counts: the reserved
units always are what the reservations, releases and sales add up to, and the
units on hand are what the sales and adjustments add up to as long as no
adjustment writes off more than the row has.  Such an adjustment is recorded
with its full delta, while the row stops at zero.
-/

namespace NovaCommerce

open GuardedRun

namespace StockLedger

/-- The units on hand that the sales and adjustments do not account for. -/
def unexplained (ledger : StockLedger) : Int :=
  ledger.onHand - ledger.quantity .sale - ledger.quantity .adjustment

/-- Only an adjustment below zero is recorded other than it is applied. -/
theorem unexplained_post (ledger : StockLedger) (movement : StockMovement) :
    (ledger.post movement).unexplained =
      ledger.unexplained +
        if movement.reason = .adjustment then
          max (-(ledger.onHand + movement.quantity)) 0
        else 0 := by
  unfold unexplained
  rw [quantity_post, quantity_post]
  cases isReason : movement.reason <;>
    simp only [post, isReason, reduceCtorEq, if_true, if_false] <;> omega

end StockLedger

namespace InventoryCall

/-- The call takes no more from the row than it has on hand. -/
def StaysAboveZero (id : Uuid) (db : Database) : InventoryCall → Prop
  | adjustStock session variantId warehouseCode delta _ =>
      ∀ stock ∈ db.adjustable session variantId warehouseCode,
        stock.id = id → 0 ≤ stock.onHand + delta
  | _ => True

instance (id : Uuid) (db : Database) :
    ∀ call : InventoryCall, Decidable (StaysAboveZero id db call)
  | adjustStock session variantId warehouseCode delta _ =>
      inferInstanceAs (Decidable
        (∀ stock ∈ db.adjustable session variantId warehouseCode,
          stock.id = id → 0 ≤ stock.onHand + delta))
  | reserveStock .. | releaseReservation .. | commitSale .. =>
      inferInstanceAs (Decidable True)

end InventoryCall

theorem unexplained_of_step {reason : MovementReason} {reference : String}
    {before after : StockLedger} (other : reason ≠ .adjustment)
    (steps : StockLedger.Step reason reference before after) :
    after.unexplained = before.unexplained := by
  cases steps with
  | kept => rfl
  | posted ofReason =>
      rw [StockLedger.unexplained_post, ofReason, if_neg other, add_zero]

theorem unexplained_adjustStock (session : Session) (variantId : Uuid)
    (warehouseCode : String) (delta : Int) (note : String) (db : Database)
    (id : Uuid) :
    ((InventoryCall.step db (.adjustStock session variantId warehouseCode
        delta note)).ledgerOf id).unexplained =
      (db.ledgerOf id).unexplained +
        match db.adjustable session variantId warehouseCode with
        | some stock =>
            if stock.id = id then max (-(stock.onHand + delta)) 0 else 0
        | none => 0 := by
  rw [InventoryCall.step]
  cases adjusts : db.adjustable session variantId warehouseCode with
  | none => simp [settle_adjustStock_of_none adjusts]
  | some stock =>
      have posts := @ledgerOf_adjustStock _ _ _ _ delta note _ adjusts id
      by_cases sameId : stock.id = id
      · obtain ⟨movement, reason_eq, _, quantity_eq, after⟩ :=
          posts.2 sameId.symm
        obtain ⟨_, _, row, _⟩ :=
          @settle_adjustStock_of_some _ _ _ _ delta note _ adjusts
        have onHand_eq := row.find?_eq.1
        rw [sameId] at onHand_eq
        rw [after, StockLedger.unexplained_post, reason_eq, quantity_eq,
          onHand_eq]
        simp [sameId]
      · simp [posts.1 (Ne.symm sameId), sameId]

theorem unexplained_step_iff (db : Database) (call : InventoryCall)
    (id : Uuid) :
    (db.ledgerOf id).unexplained ≤ ((call.step db).ledgerOf id).unexplained ∧
      (((call.step db).ledgerOf id).unexplained =
        (db.ledgerOf id).unexplained ↔ call.StaysAboveZero id db) := by
  have steps := ledgerOf_step call db id
  cases call with
  | reserveStock | releaseReservation | commitSale =>
      have same := unexplained_of_step (by simp [InventoryCall.reason]) steps
      simp [same, InventoryCall.StaysAboveZero]
  | adjustStock session variantId warehouseCode delta note =>
      rw [unexplained_adjustStock]
      cases adjusts : db.adjustable session variantId warehouseCode with
      | none => simp [InventoryCall.StaysAboveZero, adjusts]
      | some stock =>
          by_cases sameId : stock.id = id
          · simp only [InventoryCall.StaysAboveZero, adjusts, sameId, if_true,
              Option.mem_some_iff, forall_eq', forall_const]
            omega
          · simp [InventoryCall.StaysAboveZero, adjusts, sameId]

/-- What a row has on hand is what it started with and its sales and
adjustments since then. -/
def OnHandExplained (start db : Database) (id : Uuid) : Prop :=
  (db.ledgerOf id).onHand =
    (start.ledgerOf id).onHand +
      ((db.ledgerOf id).quantity .sale -
        (start.ledgerOf id).quantity .sale) +
      ((db.ledgerOf id).quantity .adjustment -
        (start.ledgerOf id).quantity .adjustment)

/-- The audit trail of a row explains what it has on hand after exactly those
runs in which no adjustment of the row goes below zero. -/
theorem on_hand_explained_iff (db : Database) (calls : List InventoryCall)
    (id : Uuid) :
    OnHandExplained db (exec InventoryCall.step db calls) id ↔
      Guarded InventoryCall.step (InventoryCall.StaysAboveZero id) db
        calls := by
  have kept := exec_eq_iff_guarded (fun db => (db.ledgerOf id).unexplained)
    (fun db call => (unexplained_step_iff db call id).1)
    (fun db call => (unexplained_step_iff db call id).2) db calls
  rw [← kept]
  unfold OnHandExplained StockLedger.unexplained
  omega

/-- Eight units are written off a row that has five: the row stops at zero,
and its audit trail is three units short. -/
theorem unexplained_after_write_off :
    (oneShelf 5 0).NoOversell ∧ (oneShelf 5 0).movementsOf 2 = [] ∧
      ¬OnHandExplained (oneShelf 5 0)
        (exec InventoryCall.step (oneShelf 5 0)
          [.adjustStock { now := 1 } 7 "main" (-8) "damaged"]) 2 := by
  unfold OnHandExplained
  decide

namespace StockLedger

/-- The reserved units are those of the start and what was reserved, released
and sold since, and every movement has the sign of its direction. -/
structure Reconciled (start : Int) (ledger : StockLedger) : Prop where
  onHand_nonneg : 0 ≤ ledger.onHand
  reserved_nonneg : 0 ≤ ledger.reserved
  reserved_eq : ledger.reserved =
    start - ledger.quantity .reservation -
      ledger.quantity .reservationRelease + ledger.quantity .sale
  outflow : ∀ movement ∈ ledger.movements,
    movement.reason = .reservation ∨ movement.reason = .sale →
      movement.quantity < 0
  inflow : ∀ movement ∈ ledger.movements,
    movement.reason = .reservationRelease → 0 < movement.quantity

theorem Reconciled.of_untouched {ledger : StockLedger}
    (untouched : ledger.movements = []) (onHand : 0 ≤ ledger.onHand)
    (reserved : 0 ≤ ledger.reserved) :
    ledger.Reconciled ledger.reserved := by
  constructor <;> simp [quantity, untouched, onHand, reserved]

/-- No posting makes a count negative. -/
theorem post_nonneg {ledger : StockLedger} {movement : StockMovement}
    (allowed : ledger.Allows movement)
    (nonneg : 0 ≤ ledger.onHand ∧ 0 ≤ ledger.reserved) :
    0 ≤ (ledger.post movement).onHand ∧
      0 ≤ (ledger.post movement).reserved := by
  cases isReason : movement.reason <;>
    simp only [Allows, isReason] at allowed <;>
    simp only [StockLedger.post, isReason] <;> omega

theorem Reconciled.post {start : Int} {ledger : StockLedger}
    {movement : StockMovement} (reconciled : ledger.Reconciled start)
    (allowed : ledger.Allows movement) :
    (ledger.post movement).Reconciled start := by
  obtain ⟨onHand_nonneg, reserved_nonneg, reserved_eq, outflow, inflow⟩ :=
    reconciled
  have nonneg := post_nonneg allowed ⟨onHand_nonneg, reserved_nonneg⟩
  have signs : ∀ row ∈ (ledger.post movement).movements,
      (row.reason = .reservation ∨ row.reason = .sale → row.quantity < 0) ∧
        (row.reason = .reservationRelease → 0 < row.quantity) := by
    intro row rowMem
    rcases List.mem_append.mp rowMem with old | new
    · exact ⟨outflow row old, inflow row old⟩
    · rw [List.mem_singleton.mp new]
      cases isReason : movement.reason <;>
        simp_all [Allows]
  refine ⟨nonneg.1, nonneg.2, ?_, fun row rowMem => (signs row rowMem).1,
    fun row rowMem => (signs row rowMem).2⟩
  rw [quantity_post, quantity_post, quantity_post]
  cases isReason : movement.reason <;>
    simp only [StockLedger.post, isReason, reduceCtorEq, if_true,
      if_false] <;> omega

theorem Reconciled.step {start : Int} {reason : MovementReason}
    {reference : String} {before after : StockLedger}
    (reconciled : before.Reconciled start)
    (steps : Step reason reference before after) :
    after.Reconciled start := by
  cases steps with
  | kept => exact reconciled
  | posted _ _ allowed => exact reconciled.post allowed

end StockLedger

/-- The audit trail explains what is reserved: after every run, a row that
started without movements has reserved what it started with, less its
reservations and releases, plus its sales, as their signed quantities say. -/
theorem reserved_explained {db : Database} (calls : List InventoryCall)
    {id : Uuid} (untouched : db.movementsOf id = [])
    (onHand : 0 ≤ (db.ledgerOf id).onHand)
    (reserved : 0 ≤ (db.ledgerOf id).reserved) :
    ((exec InventoryCall.step db calls).ledgerOf id).Reconciled
      (db.ledgerOf id).reserved := by
  have start : (db.ledgerOf id).Reconciled (db.ledgerOf id).reserved :=
    .of_untouched untouched onHand reserved
  have kept : ∀ (before : Database) (call : InventoryCall),
      (before.ledgerOf id).Reconciled (db.ledgerOf id).reserved →
        ((call.step before).ledgerOf id).Reconciled
          (db.ledgerOf id).reserved :=
    fun before call reconciled =>
      reconciled.step (ledgerOf_step call before id)
  exact exec_invariant_of_steps kept start calls

/-- Three units are reserved, one is given back and two are sold. -/
theorem reserved_explained_oneShelf :
    ((exec InventoryCall.step (oneShelf 5 0)
      [.reserveStock { now := 1 } 7 3 "order",
        .releaseReservation { now := 2 } 7 1 "order",
        .commitSale { now := 3 } 7 2 "order"]).ledgerOf 2).Reconciled
      ((oneShelf 5 0).ledgerOf 2).reserved :=
  reserved_explained _ (by decide) (by decide) (by decide)

end NovaCommerce
