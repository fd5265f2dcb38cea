import NovaCommerce.StockInvariants

/-!
# Runs of inventory calls

Any number of inventory calls with arbitrary arguments run one after another,
each in its own transaction.  An adjustment is the only call that changes the
units on hand without looking at the reserved ones, so the bounds between the
two columns hold along a run exactly as long as no adjustment takes away units
that are reserved.
-/

namespace NovaCommerce

open AtomicCall GreedyAllocation GuardedRun

/-- A call of an inventory service. -/
inductive InventoryCall where
  | reserveStock (session : Session) (variantId : Uuid) (quantity : Int)
      (reference : String)
  | releaseReservation (session : Session) (variantId : Uuid)
      (quantity : Int) (reference : String)
  | commitSale (session : Session) (variantId : Uuid) (quantity : Int)
      (reference : String)
  | adjustStock (session : Session) (variantId : Uuid)
      (warehouseCode : String) (delta : Int) (note : String)

namespace InventoryCall

/-- The database after a call, whether it returned or raised. -/
def step (db : Database) : InventoryCall → Database
  | reserveStock session variantId quantity reference =>
      settle (NovaCommerce.reserveStock session variantId quantity reference)
        db
  | releaseReservation session variantId quantity reference =>
      settle
        (NovaCommerce.releaseReservation session variantId quantity reference)
        db
  | commitSale session variantId quantity reference =>
      settle (NovaCommerce.commitSale session variantId quantity reference) db
  | adjustStock session variantId warehouseCode delta note =>
      settle
        (NovaCommerce.adjustStock session variantId warehouseCode delta note)
        db

/-- An adjustment that returns leaves at least the reserved units of the row
that it changes on hand; it never leaves less than nothing. -/
def CoversReserved (db : Database) : InventoryCall → Prop
  | adjustStock session variantId warehouseCode delta note =>
      Returns (NovaCommerce.adjustStock session variantId warehouseCode delta
        note) db →
      ∀ warehouse ∈ db.findWarehouse warehouseCode,
        ∀ stock ∈ db.findStock variantId warehouse.id,
          stock.reserved ≤ max (stock.onHand + delta) 0
  | _ => True

instance (db : Database) :
    ∀ call : InventoryCall, Decidable (CoversReserved db call)
  | adjustStock session variantId warehouseCode delta note =>
      inferInstanceAs (Decidable
        (Returns (NovaCommerce.adjustStock session variantId warehouseCode
          delta note) db →
        ∀ warehouse ∈ db.findWarehouse warehouseCode,
          ∀ stock ∈ db.findStock variantId warehouse.id,
            stock.reserved ≤ max (stock.onHand + delta) 0))
  | reserveStock .. | releaseReservation .. | commitSale .. =>
      inferInstanceAs (Decidable True)

end InventoryCall

/-- Every row has reserved no more than it has on hand. -/
def Database.NoOversell (db : Database) : Prop :=
  ∀ stock ∈ db.stocks.rows,
    0 ≤ stock.reserved ∧ stock.reserved ≤ stock.onHand

instance (db : Database) : Decidable db.NoOversell :=
  inferInstanceAs (Decidable (∀ stock ∈ db.stocks.rows,
    0 ≤ stock.reserved ∧ stock.reserved ≤ stock.onHand))

section Steps

variable {session : Session} {variantId : Uuid} {quantity delta : Int}
  {reference warehouseCode note : String} {db : Database}

theorem noOversell_reserveStock (bounded : db.NoOversell) :
    (settle (reserveStock session variantId quantity reference)
      db).NoOversell := by
  rw [settle, reserveStock_eq]
  by_cases nonpos : quantity ≤ 0
  · simpa [nonpos] using bounded
  by_cases short : 0 < unmet Stock.available
      (reservableRows session db variantId) quantity
  · simpa [nonpos, short] using bounded
  simp only [nonpos, short, if_false]
  intro row rowMem
  obtain ⟨_, draws⟩ :=
    draws_afterReserve session variantId quantity reference db
  obtain ⟨stock, stockMem, amount, rfl, bounds⟩ := draws.exists_row rowMem
  have := bounded stock stockMem
  simp only [Drawing.reserve, Stock.reserve, Stock.available] at bounds ⊢
  omega

theorem noOversell_releaseReservation (bounded : db.NoOversell) :
    (settle (releaseReservation session variantId quantity reference)
      db).NoOversell := by
  rw [settle, releaseReservation_eq]
  intro row rowMem
  obtain ⟨_, draws⟩ :=
    draws_afterRelease session variantId quantity reference db
  obtain ⟨stock, stockMem, amount, rfl, bounds⟩ := draws.exists_row rowMem
  have := bounded stock stockMem
  simp only [Drawing.release, Stock.release] at bounds ⊢
  omega

theorem Database.NoOversell.reservedInStock (bounded : db.NoOversell) :
    db.ReservedInStock := by
  intro stock member holds
  exact holds.le.trans (bounded stock member).2

theorem noOversell_commitSale (bounded : db.NoOversell) :
    (settle (commitSale session variantId quantity reference)
      db).NoOversell := by
  rw [settle, commitSale_eq]
  by_cases short : 0 < unmet Stock.sellable
      (reservedRows session db variantId) quantity
  · simpa [short] using bounded
  simp only [short, if_false]
  intro row rowMem
  obtain ⟨_, draws⟩ := draws_afterCommit session variantId quantity reference
    fun stock visible _ => bounded.reservedInStock stock
      (List.mem_filter.mp visible).1
  obtain ⟨stock, stockMem, amount, rfl, bounds⟩ := draws.exists_row rowMem
  have := bounded stock stockMem
  simp only [Drawing.sell, Stock.sell, Stock.sellable] at bounds ⊢
  omega

/-- An adjustment keeps the bounds exactly if it covers the reserved units. -/
theorem noOversell_adjustStock_iff (bounded : db.NoOversell) :
    (settle (adjustStock session variantId warehouseCode delta note)
      db).NoOversell ↔ InventoryCall.CoversReserved db
        (.adjustStock session variantId warehouseCode delta note) := by
  cases called : adjustStock session variantId warehouseCode delta note db with
  | error raised after =>
      have unchanged : after = db := atomic_eq_error called
      rw [settle_of_eq_error called, unchanged]
      refine iff_of_true bounded ?_
      rintro ⟨_, _, returned⟩
      rw [called] at returned
      cases returned
  | ok adjusted after =>
      rw [settle_of_eq_ok called]
      obtain ⟨warehouse, stocks, stock, located, adjustedRow, rfl, rfl⟩ :=
        adjustStock_eq_ok called
      constructor
      · intro holds _ place isPlace row isRow
        obtain rfl : warehouse = place :=
          Option.some.inj (located.symm.trans isPlace)
        cases adjustedRow with
        | created absent => exact absurd (absent.symm.trans isRow) (by simp)
        | existing found =>
            obtain rfl := Option.some.inj (found.symm.trans isRow)
            have hasKey : stock.id ∈ db.stocks.keys :=
              List.mem_map_of_mem (findStock_eq_some found).1
            exact (holds _ (Table.mem_save.mpr (.inr ⟨rfl, hasKey⟩))).2
      · intro covers row rowMem
        rcases Table.mem_save.mp rowMem with ⟨member, _⟩ | ⟨rfl, _⟩
        · cases adjustedRow with
          | existing => exact bounded row member
          | created =>
              rcases List.mem_append.mp member with old | new
              · exact bounded row old
              · rw [List.mem_singleton.mp new]
                exact ⟨le_refl _, le_refl _⟩
        · cases adjustedRow with
          | existing found =>
              exact ⟨(bounded stock (findStock_eq_some found).1).1,
                covers ⟨_, _, called⟩ warehouse located stock found⟩
          | created => exact ⟨le_refl _, le_max_right _ _⟩

theorem noOversell_step_iff {call : InventoryCall} (bounded : db.NoOversell) :
    (call.step db).NoOversell ↔ call.CoversReserved db := by
  cases call with
  | reserveStock => exact iff_of_true (noOversell_reserveStock bounded) trivial
  | releaseReservation =>
      exact iff_of_true (noOversell_releaseReservation bounded) trivial
  | commitSale => exact iff_of_true (noOversell_commitSale bounded) trivial
  | adjustStock => exact noOversell_adjustStock_iff bounded

/-- Units that are reserved can always be sold. -/
theorem commitSale_returns (bounded : db.NoOversell)
    (reserved : quantity ≤ db.visibleReservedOf variantId) :
    Returns (commitSale session variantId quantity reference) db := by
  have met := commit_met session
    (fun stock visible _ => bounded stock (List.mem_filter.mp visible).1)
    reserved
  refine ⟨(), db.afterCommit session variantId quantity reference, ?_⟩
  rw [commitSale_eq]
  simp only [met, if_false]

end Steps

/-- One variant that is kept in one warehouse. -/
def oneShelf (onHand reserved : Int) : Database where
  warehouses := ⟨[{ id := 1, createdAt := 0, code := "main" }], by decide⟩
  stocks := ⟨[{
      id := 2, createdAt := 0, variant := 7, warehouse := 1, onHand,
      reserved }],
    List.nodup_singleton _⟩
  products := ⟨[{ id := 6, createdAt := 0, name := "Nova Tee" }], by decide⟩
  variants := ⟨[{
      id := 7, createdAt := 0, product := 6, sku := "NOVA-TEE-M",
      price := 1999 }],
    List.nodup_singleton _⟩

/-- No oversell: in every run, every row of every state reached has between
nothing and everything on hand reserved exactly if all adjustments cover the
reserved units, and then units that are reserved can be sold. -/
theorem no_oversell_iff {db : Database} {calls : List InventoryCall}
    (bounded : db.NoOversell) :
    (Guarded InventoryCall.step (fun db call => (call.step db).NoOversell) db
        calls ↔
      Guarded InventoryCall.step InventoryCall.CoversReserved db calls) ∧
    (Guarded InventoryCall.step InventoryCall.CoversReserved db calls →
      (exec InventoryCall.step db calls).NoOversell ∧
      ∀ session variantId quantity reference,
        quantity ≤
          (exec InventoryCall.step db calls).visibleReservedOf variantId →
        Returns (commitSale session variantId quantity reference)
          (exec InventoryCall.step db calls)) := by
  refine ⟨?_, fun covers => ?_⟩
  · induction calls generalizing db with
    | nil => exact Iff.rfl
    | cons call calls ih =>
        constructor
        · rintro ⟨holds, later⟩
          exact ⟨(noOversell_step_iff bounded).mp holds, (ih holds).mp later⟩
        · rintro ⟨covers, later⟩
          have holds := (noOversell_step_iff bounded).mpr covers
          exact ⟨holds, (ih holds).mpr later⟩
  · have kept : ∀ (db : Database) (call : InventoryCall), db.NoOversell →
        call.CoversReserved db → (call.step db).NoOversell :=
      fun _ _ holds => (noOversell_step_iff holds).mpr
    have reached := exec_invariant kept bounded covers
    exact ⟨reached, fun _ _ _ _ reserved =>
      commitSale_returns reached reserved⟩

/-- Three units are reserved, two are written off, and the reserved ones are
still there to be sold. -/
theorem no_oversell_iff_oneShelf :
    (exec InventoryCall.step (oneShelf 5 0)
      [.reserveStock { now := 1 } 7 3 "order",
        .adjustStock { now := 2 } 7 "main" (-2) "damaged"]).NoOversell :=
  ((no_oversell_iff (by decide)).2 (by decide)).1

/-- An adjustment that takes reserved units away leaves a row that promises
more than it has, and the sale of the reserved units is refused. -/
theorem oversell_after_adjustment :
    (oneShelf 5 0).NoOversell ∧
      ¬(exec InventoryCall.step (oneShelf 5 0)
        [.reserveStock { now := 1 } 7 5 "order",
          .adjustStock { now := 2 } 7 "main" (-1) "damaged"]).NoOversell ∧
      (exec InventoryCall.step (oneShelf 5 0)
        [.reserveStock { now := 1 } 7 5 "order",
          .adjustStock { now := 2 } 7 "main" (-1) "damaged"]).visibleReservedOf
            7 = 5 ∧
      ¬Returns (commitSale { now := 3 } 7 5 "order")
        (exec InventoryCall.step (oneShelf 5 0)
          [.reserveStock { now := 1 } 7 5 "order",
            .adjustStock { now := 2 } 7 "main" (-1) "damaged"]) := by
  decide

end NovaCommerce
