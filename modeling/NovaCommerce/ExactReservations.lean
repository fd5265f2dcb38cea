import NovaCommerce.ConcurrentReservations
import NovaCommerce.StockAvailability

/-!
# What one reservation takes

A reservation visits the rows of its variant in active warehouses by priority
and takes from each what it has, until it has got its quantity.  It returns
exactly when the rows have the quantity together; then it has taken no more
and no less, has left no row behind that still had units before it went on to
the next one, and has recorded one movement for each row that gave something.
-/

namespace NovaCommerce

open AtomicCall GreedyAllocation

/-- The visited rows have given `quantity` units together, each row up to what
it had available and only after all rows before it were used up, and nothing
else has changed but for one movement for each row that gave something. -/
structure ReservesExactly (quantity : Int) (reference : String)
    (db after : Database) (rows : List Stock) (increase : Uuid → Int) :
    Prop where
  stocks_rows : after.stocks.rows =
    db.stocks.rows.map fun stock => stock.reserve (increase stock.id)
  total_eq : (rows.map fun stock => increase stock.id).sum = quantity
  bounds : ∀ stock ∈ rows,
    0 ≤ increase stock.id ∧ increase stock.id ≤ stock.available
  used_up : rows.Pairwise fun earlier later =>
    0 < increase later.id → increase earlier.id = earlier.available
  elsewhere : ∀ stock ∈ db.stocks.rows, stock ∉ rows →
    increase stock.id = 0 ∧ stock ∈ after.stocks.rows
  recorded : ∃ recorded,
    after.movements.rows = db.movements.rows ++ recorded ∧
    List.Forall₂ (fun stock movement =>
        RecordsGrant (fun take => -take) .reservation reference
          (stock, increase stock.id) movement)
      (rows.filter fun stock => 0 < increase stock.id) recorded
  frame : after =
    { db with stocks := after.stocks, movements := after.movements }

section Pass

variable (session : Session) (reference : String) (db : Database)
  {rows : List Stock}

/-- Nothing is taken from a row that is not visited. -/
theorem takenFrom_of_notMem (visitable : Visitable db.stocks rows)
    (demand : Int) {stock : Stock} (member : stock ∈ db.stocks.rows)
    (notVisited : stock ∉ rows) :
    takenFrom Stock.available rows demand stock.id = 0 := by
  apply taken_of_notMem
  intro visited
  obtain ⟨other, otherMem, sameId⟩ := List.mem_map.mp visited
  have same : other = stock :=
    db.stocks.eq_of_key_eq (visitable.subset other otherMem) member sameId
  exact notVisited (same ▸ otherMem)

/-- A greedy pass that meets its demand is an exact reservation. -/
theorem reservesExactly_afterPass (visitable : Visitable db.stocks rows)
    {quantity : Int} (positive : 0 < quantity)
    (met : unmet Stock.available rows quantity ≤ 0) :
    ReservesExactly quantity reference db
      (db.afterPass session .reserve (fun take => -take) .reservation reference
        rows quantity) rows (takenFrom Stock.available rows quantity) where
  stocks_rows := rfl
  total_eq := by
    have nothingLeft : unmet Stock.available rows quantity = 0 :=
      le_antisymm met (unmet_nonneg positive.le)
    rw [sum_taken visitable.ids_nodup, nothingLeft, sub_zero]
  bounds stock visited := by
    constructor
    · exact taken_nonneg (fun row _ => available_nonneg row) quantity stock.id
    · exact taken_le_capacity visitable.ids_nodup
        (fun row _ => available_nonneg row) quantity visited
  used_up := pairwise_used_up visitable.ids_nodup quantity
  elsewhere stock member notVisited := by
    have takesNone := takenFrom_of_notMem db visitable quantity member
      notVisited
    refine ⟨takesNone, List.mem_map.mpr ⟨stock, member, ?_⟩⟩
    change stock.reserve (takenFrom Stock.available rows quantity stock.id) = _
    rw [takesNone]
    exact Drawing.reserve.draw_zero stock
  recorded := by
    obtain ⟨recorded, appended, records⟩ := rows_recordGrants session
      (fun take => -take) .reservation reference
      (grants Stock.available rows quantity) db.movements
    refine ⟨recorded, appended, ?_⟩
    rw [grants_eq_map visitable.ids_nodup fun row _ => available_nonneg row,
      List.forall₂_map_left_iff] at records
    exact records
  frame := rfl

end Pass

/-- Greedy reservation is exact: a reservation of a positive quantity returns
exactly when the rows of its variant in active warehouses have the quantity
available together; then it has taken exactly the quantity from them, by
priority, and otherwise nothing has changed. -/
theorem reserveStock_exact (session : Session) (variantId : Uuid)
    (reference : String) (db : Database) {quantity : Int}
    (positive : 0 < quantity) :
    let rows := reservableRows session db variantId
    (∀ stock, stock ∈ rows ↔ stock ∈ db.stocks.rows ∧ alive stock = true ∧
        stock.variant = variantId ∧ db.inActiveWarehouse stock = true) ∧
      (Returns (reserveStock session variantId quantity reference) db ↔
        quantity ≤ (rows.map fun stock =>
          max (stock.onHand - stock.reserved - (stock.safetyBuffer : Int))
            0).sum) ∧
      (∀ snapshot after,
        reserveStock session variantId quantity reference db =
            .ok snapshot after →
          ∃ increase,
            ReservesExactly quantity reference db after rows increase) ∧
      ∀ error after,
        reserveStock session variantId quantity reference db =
            .error error after →
          after = db ∧ ∃ message, error = .outOfStockError message := by
  intro rows
  have notNonpos : ¬quantity ≤ 0 := not_le.mpr positive
  have called := reserveStock_eq session variantId quantity reference db
  simp only [notNonpos, if_false] at called
  refine ⟨fun stock => mem_reservableRows session variantId, ?_, ?_, ?_⟩
  · have met : unmet Stock.available rows quantity ≤ 0 ↔
        quantity ≤ (rows.map Stock.available).sum :=
      unmet_nonpos_iff (fun stock _ => available_nonneg stock) positive.le
    change _ ↔ quantity ≤ (rows.map Stock.available).sum
    rw [← met, Returns, called]
    by_cases short : 0 < unmet Stock.available rows quantity
    · simp [rows, short]
    · simp [rows, short, not_lt.mp short]
  · intro snapshot after returned
    rw [called] at returned
    by_cases short : 0 < unmet Stock.available rows quantity
    · simp [rows, short] at returned
    · simp only [rows, short, if_false] at returned
      obtain ⟨rfl, rfl⟩ := EStateM.Result.ok.inj returned
      exact ⟨_, reservesExactly_afterPass session reference db
        (visitable_reservableRows session variantId db) positive
        (not_lt.mp short)⟩
  · intro error after raised
    rw [called] at raised
    by_cases short : 0 < unmet Stock.available rows quantity
    · simp only [rows, short, if_true] at raised
      obtain ⟨rfl, rfl⟩ := EStateM.Result.error.inj raised
      exact ⟨rfl, _, rfl⟩
    · simp [rows, short] at raised

/-- Two active warehouses and a closed one before them. -/
def threeShelves : Database where
  warehouses := ⟨[
    { id := 1, createdAt := 0, code := "closed", isActive := false },
    { id := 2, createdAt := 0, code := "near" },
    { id := 3, createdAt := 0, code := "far", priority := 20 }],
    by decide⟩
  stocks := ⟨[
    { id := 4, createdAt := 0, variant := 7, warehouse := 1, onHand := 9 },
    { id := 5, createdAt := 0, variant := 7, warehouse := 3, onHand := 9 },
    { id := 6, createdAt := 0, variant := 7, warehouse := 2, onHand := 5,
      reserved := 1, safetyBuffer := 1 }], by decide⟩

/-- The near shelf is used up before the far one. -/
example :
    (settle (reserveStock { now := 1 } 7 5 "order")
      threeShelves).stocks.rows.map Stock.reserved = [0, 2, 4] := by
  decide +kernel

theorem reserveStock_exact_threeShelves :
    0 < (5 : Int) ∧ ∃ snapshot after increase,
      reserveStock { now := 1 } 7 5 "order" threeShelves = .ok snapshot after ∧
        ReservesExactly 5 "order" threeShelves after
          (reservableRows { now := 1 } threeShelves 7) increase := by
  have positive : 0 < (5 : Int) := by decide
  have greedy := reserveStock_exact { now := 1 } 7 "order" threeShelves positive
  obtain ⟨snapshot, after, called⟩ :=
    greedy.2.1.mpr (by decide +kernel)
  obtain ⟨increase, exactly⟩ := greedy.2.2.1 snapshot after called
  exact ⟨positive, snapshot, after, increase, called, exactly⟩

end NovaCommerce
