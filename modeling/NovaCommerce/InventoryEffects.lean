import NovaCommerce.InventoryServices
import NovaCommerce.GreedyAllocation

/-!
# What the inventory services do to the tables

The loops of the inventory services visit locked rows one after another and
write every row that gives something.  Their effect on the tables is a greedy
allocation: each row of the stock table changes by the amount that was taken
under its identifier, and one movement is recorded for each grant.
-/

namespace NovaCommerce

open AtomicCall GreedyAllocation

/-- The amount that a greedy pass takes from each stock row. -/
abbrev takenFrom (capacity : Stock → Int) (rows : List Stock)
    (demand : Int) : Uuid → Int :=
  taken (fun stock : Stock => stock.id) capacity rows demand

/-- One movement for each grant. -/
def recordGrants (session : Session) (signed : Int → Int)
    (reason : MovementReason) (reference : String) :
    List (Stock × Int) → Table StockMovement → Table StockMovement
  | [], movements => movements
  | (stock, amount) :: later, movements =>
      recordGrants session signed reason reference later
        (recordMovement session stock.id (signed amount) reason reference ""
          movements)

/-- A way of drawing units from a row that has a capacity for it: it changes
only the counts of the row, amounts that are drawn one after the other add up,
and the capacity shrinks by what was drawn. -/
structure Drawing where
  capacity : Stock → Int
  draw : Stock → Int → Stock
  draw_base : ∀ stock amount, (draw stock amount).toTimeStampedUUIDModel =
    stock.toTimeStampedUUIDModel
  draw_variant : ∀ stock amount, (draw stock amount).variant = stock.variant
  draw_warehouse : ∀ stock amount,
    (draw stock amount).warehouse = stock.warehouse
  draw_zero : ∀ stock, draw stock 0 = stock
  draw_draw : ∀ stock first second,
    draw (draw stock first) second = draw stock (first + second)
  capacity_draw : ∀ stock amount, 0 ≤ amount → amount ≤ capacity stock →
    capacity (draw stock amount) = capacity stock - amount

namespace Drawing

def reserve : Drawing where
  capacity := Stock.available
  draw := Stock.reserve
  draw_base _ _ := rfl
  draw_variant _ _ := rfl
  draw_warehouse _ _ := rfl
  draw_zero stock := by simp [Stock.reserve]
  draw_draw stock first second := by simp [Stock.reserve, add_assoc]
  capacity_draw stock amount nonneg atMost := by
    simp only [Stock.available, Stock.reserve] at atMost ⊢
    omega

def release : Drawing where
  capacity := Stock.reserved
  draw := Stock.release
  draw_base _ _ := rfl
  draw_variant _ _ := rfl
  draw_warehouse _ _ := rfl
  draw_zero stock := by simp [Stock.release]
  draw_draw stock first second := by
    simp only [Stock.release, sub_sub]
  capacity_draw _ _ _ _ := rfl

def sell : Drawing where
  capacity := Stock.sellable
  draw := Stock.sell
  draw_base _ _ := rfl
  draw_variant _ _ := rfl
  draw_warehouse _ _ := rfl
  draw_zero stock := by simp [Stock.sell]
  draw_draw stock first second := by
    simp only [Stock.sell, sub_sub]
  capacity_draw stock amount _ _ := by
    simp only [Stock.sellable, Stock.sell]
    omega

theorem draw_id (drawing : Drawing) (stock : Stock) (amount : Int) :
    (drawing.draw stock amount).id = stock.id :=
  congrArg TimeStampedUUIDModel.id (drawing.draw_base stock amount)

theorem alive_draw (drawing : Drawing) (stock : Stock) (amount : Int) :
    alive (drawing.draw stock amount) = alive stock :=
  congrArg (fun base => base.deletedAt.isNone)
    (drawing.draw_base stock amount)

/-- The stock table after every row was drawn by the amount under its
identifier. -/
def apply (drawing : Drawing) (stocks : Table Stock)
    (amount : Uuid → Int) : Table Stock :=
  stocks.alter (fun stock => drawing.draw stock (amount stock.id))
    (fun stock => drawing.draw_id stock (amount stock.id))

theorem apply_zero (drawing : Drawing) (stocks : Table Stock)
    {amount : Uuid → Int} (isZero : ∀ id, amount id = 0) :
    drawing.apply stocks amount = stocks := by
  apply Table.alter_self
  intro stock _
  rw [isZero, drawing.draw_zero]

/-- Amounts that are drawn one after the other add up. -/
theorem apply_apply (drawing : Drawing) (stocks : Table Stock)
    (first second : Uuid → Int) :
    drawing.apply (drawing.apply stocks first) second =
      drawing.apply stocks fun id => first id + second id := by
  unfold apply
  rw [Table.alter_alter]
  apply Table.alter_congr
  intro stock _
  rw [Function.comp_apply, drawing.draw_id, drawing.draw_draw]

/-- Saving the first row and then drawing the rest is drawing all rows at
once. -/
theorem apply_save (drawing : Drawing) {stocks : Table Stock}
    {stock : Stock} (member : stock ∈ stocks.rows) (first : Int)
    (rest whole : Uuid → Int) (restAt : rest stock.id = 0)
    (wholeAt : whole stock.id = first)
    (agree : ∀ id, id ≠ stock.id → whole id = rest id) :
    drawing.apply (stocks.save (drawing.draw stock first)) rest =
      drawing.apply stocks whole := by
  unfold apply Table.save
  rw [Table.alter_alter]
  apply Table.alter_congr
  intro row rowMem
  have savedKey : Keyed.key (drawing.draw stock first) = stock.id :=
    drawing.draw_id stock first
  simp only [Function.comp_apply, savedKey]
  by_cases same : row.id = stock.id
  · have rowEq : row = stock := stocks.eq_of_key_eq rowMem member same
    subst row
    have rowKey : Keyed.key stock = stock.id := rfl
    simp only [rowKey, if_true]
    rw [drawing.draw_id, restAt, wholeAt, drawing.draw_zero]
  · have rowKey : Keyed.key row ≠ stock.id := same
    simp only [rowKey, if_false]
    rw [agree row.id same]

end Drawing

/-- The rows are distinct rows of the stock table. -/
structure Visitable (stocks : Table Stock) (rows : List Stock) : Prop where
  subset : ∀ stock ∈ rows, stock ∈ stocks.rows
  ids_nodup : (rows.map fun stock => stock.id).Nodup

namespace Visitable

theorem tail {stocks : Table Stock} {stock : Stock} {rows : List Stock}
    (visitable : Visitable stocks (stock :: rows)) :
    Visitable stocks rows where
  subset other otherMem :=
    visitable.subset other (List.mem_cons_of_mem _ otherMem)
  ids_nodup := (List.nodup_cons.mp visitable.ids_nodup).2

theorem head_notMem {stocks : Table Stock} {stock : Stock}
    {rows : List Stock} (visitable : Visitable stocks (stock :: rows)) :
    stock.id ∉ rows.map fun stock => stock.id :=
  (List.nodup_cons.mp visitable.ids_nodup).1

/-- After the first row was written, the later rows are still in the
table. -/
theorem save_tail {stocks : Table Stock} {stock : Stock}
    {rows : List Stock} (visitable : Visitable stocks (stock :: rows))
    (saved : Stock) (sameId : saved.id = stock.id) :
    Visitable (stocks.save saved) rows where
  subset other otherMem := by
    apply Table.mem_save_of_ne (visitable.tail.subset other otherMem)
    intro equal
    have idEq : other.id = stock.id := Eq.trans equal sameId
    exact visitable.head_notMem (idEq ▸ List.mem_map_of_mem otherMem)
  ids_nodup := visitable.tail.ids_nodup

end Visitable

/-- The selection of a query is visitable. -/
theorem visitable_orderBy (session : Session) (stocks : Table Stock)
    (condition : Stock → Bool) (before : Stock → Stock → Prop)
    [DecidableRel before] :
    Visitable stocks (session.orderBy stocks condition before) where
  subset stock stockMem :=
    (List.mem_filter.mp
      ((session.orderBy_perm stocks condition before).mem_iff.mp
        stockMem)).1
  ids_nodup := by
    have selected := session.orderBy_perm stocks condition before
    apply (selected.map _).nodup_iff.mpr
    exact stocks.keys_nodup.sublist (List.filter_sublist.map _)

/-- The amounts under the identifiers of the remaining rows do not change
when the first row is left out of the pass. -/
theorem takenFrom_cons_of_ne {capacity : Stock → Int} {stock : Stock}
    {rows : List Stock} {demand : Int} (positive : ¬demand ≤ 0) {id : Uuid}
    (idNe : id ≠ stock.id) :
    takenFrom capacity (stock :: rows) demand id =
      takenFrom capacity rows
        (demand - min (capacity stock) demand) id := by
  simp [takenFrom, taken, positive, idNe]

theorem takenFrom_cons_self {capacity : Stock → Int} {stock : Stock}
    {rows : List Stock} {demand : Int} (positive : ¬demand ≤ 0) :
    takenFrom capacity (stock :: rows) demand stock.id =
      min (capacity stock) demand := by
  simp [takenFrom, taken, positive]

/-- The tables after a greedy pass over `rows`. -/
def Database.afterPass (db : Database) (session : Session)
    (drawing : Drawing) (signed : Int → Int)
    (reason : MovementReason) (reference : String) (rows : List Stock)
    (demand : Int) : Database :=
  { db with
    stocks := drawing.apply db.stocks (takenFrom drawing.capacity rows demand)
    movements := recordGrants session signed reason reference
      (grants drawing.capacity rows demand) db.movements }

section Passes

variable (session : Session) (drawing : Drawing)
  (signed : Int → Int) (reason : MovementReason) (reference : String)

theorem afterPass_of_nonpos {db : Database} {demand : Int}
    (nonpos : demand ≤ 0) (rows : List Stock) :
    db.afterPass session drawing signed reason reference rows demand =
      db := by
  have untouched :
      drawing.apply db.stocks (takenFrom drawing.capacity rows demand) =
        db.stocks :=
    drawing.apply_zero _ (fun id => taken_of_nonpos nonpos rows id)
  rw [Database.afterPass, untouched, grants_of_nonpos nonpos]
  rfl

/-- A row that gives nothing can be skipped. -/
theorem afterPass_cons_of_eq_zero {db : Database} {stock : Stock}
    {rows : List Stock} {demand : Int} (positive : ¬demand ≤ 0)
    (visitable : Visitable db.stocks (stock :: rows))
    (givesNone : min (drawing.capacity stock) demand = 0) :
    db.afterPass session drawing signed reason reference
        (stock :: rows) demand =
      db.afterPass session drawing signed reason reference
        rows demand := by
  have sameAmounts : takenFrom drawing.capacity (stock :: rows) demand =
      takenFrom drawing.capacity rows demand := by
    funext id
    by_cases atHead : id = stock.id
    · subst id
      rw [takenFrom_cons_self positive, givesNone]
      exact (taken_of_notMem visitable.head_notMem demand).symm
    · rw [takenFrom_cons_of_ne positive atHead, givesNone, sub_zero]
  simp [Database.afterPass, sameAmounts, grants, positive, givesNone]

/-- A row that gives something is written and recorded, and the pass goes on
with the rest of the demand. -/
theorem afterPass_cons_of_ne_zero {db : Database} {stock : Stock}
    {rows : List Stock} {demand : Int} (positive : ¬demand ≤ 0)
    (visitable : Visitable db.stocks (stock :: rows))
    (gives : min (drawing.capacity stock) demand ≠ 0) :
    db.afterPass session drawing signed reason reference
        (stock :: rows) demand =
      ({ db with
          stocks := db.stocks.save
            (drawing.draw stock (min (drawing.capacity stock) demand))
          movements := recordMovement session stock.id
            (signed (min (drawing.capacity stock) demand)) reason reference ""
            db.movements } : Database).afterPass session drawing
        signed reason reference rows
          (demand - min (drawing.capacity stock) demand) := by
  have joined := drawing.apply_save
    (visitable.subset stock List.mem_cons_self)
    (min (drawing.capacity stock) demand)
    (takenFrom drawing.capacity rows
      (demand - min (drawing.capacity stock) demand))
    (takenFrom drawing.capacity (stock :: rows) demand)
    (taken_of_notMem visitable.head_notMem _)
    (takenFrom_cons_self positive)
    (fun id idNe => takenFrom_cons_of_ne positive idNe)
  unfold Database.afterPass
  simp only [grants, positive, gives, if_false, recordGrants]
  rw [joined]

/-- The shared loop of releases and sales is a greedy pass. -/
theorem drawRows_eq {db : Database} {rows : List Stock}
    (visitable : Visitable db.stocks rows) (demand : Int) :
    drawRows session drawing.capacity drawing.draw signed reason reference rows
        demand db =
      .ok (unmet drawing.capacity rows demand)
        (db.afterPass session drawing signed reason reference rows
          demand) := by
  induction rows generalizing db demand with
  | nil =>
      have untouched :
          drawing.apply db.stocks (takenFrom drawing.capacity [] demand) =
            db.stocks :=
        drawing.apply_zero _ (fun _ => rfl)
      rw [Database.afterPass, untouched]
      rfl
  | cons stock rows ih =>
      unfold drawRows
      by_cases nonpos : demand ≤ 0
      · rw [if_pos nonpos, unmet_of_nonpos nonpos,
          afterPass_of_nonpos _ _ _ _ _ nonpos]
        rfl
      · rw [if_neg nonpos]
        by_cases givesNone : min (drawing.capacity stock) demand = 0
        · have sameUnmet : unmet drawing.capacity (stock :: rows) demand =
              unmet drawing.capacity rows demand := by
            simp [unmet, nonpos, givesNone]
          simp only [givesNone, ne_eq, not_true, if_false]
          rw [ih visitable.tail, sameUnmet,
            afterPass_cons_of_eq_zero _ _ _ _ _ nonpos visitable givesNone]
        · have restUnmet : unmet drawing.capacity (stock :: rows) demand =
              unmet drawing.capacity rows
                (demand - min (drawing.capacity stock) demand) := by
            simp [unmet, nonpos]
          simp only [ne_eq, givesNone, not_false_iff, if_true]
          rw [restUnmet,
            afterPass_cons_of_ne_zero _ _ _ _ _ nonpos visitable givesNone]
          exact ih (visitable.save_tail _ (drawing.draw_id stock _)) _

end Passes

/-- The reserved units on the visited rows after a pass, split into the first
row and the pass over the others. -/
theorem sum_reserved_cons (capacity : Stock → Int) {stocks : Table Stock}
    {stock : Stock} {rows : List Stock}
    (visitable : Visitable stocks (stock :: rows)) {demand : Int}
    (positive : ¬demand ≤ 0) :
    ((stock :: rows).map fun row =>
        row.reserved + takenFrom capacity (stock :: rows) demand row.id).sum =
      stock.reserved + min (capacity stock) demand +
        (rows.map fun row => row.reserved + takenFrom capacity rows
          (demand - min (capacity stock) demand) row.id).sum := by
  rw [List.map_cons, List.sum_cons, takenFrom_cons_self positive]
  congr 2
  apply List.map_congr_left
  intro row rowMem
  have idNe : row.id ≠ stock.id := by
    intro equal
    exact visitable.head_notMem (equal ▸ List.mem_map_of_mem rowMem)
  rw [takenFrom_cons_of_ne positive idNe]

/-- The loop of `reserve_stock` is a greedy pass over the available units. -/
theorem reserveRows_eq (session : Session) (reference : String)
    {db : Database} {rows : List Stock}
    (visitable : Visitable db.stocks rows) (demand onHand reserved : Int) :
    reserveRows session reference rows demand onHand reserved db =
      .ok
        (unmet Stock.available rows demand,
          onHand + (rows.map Stock.onHand).sum,
          reserved + (rows.map fun stock => stock.reserved +
            takenFrom Stock.available rows demand stock.id).sum)
        (db.afterPass session .reserve (fun take => -take)
          .reservation reference rows demand) := by
  induction rows generalizing db demand onHand reserved with
  | nil =>
      have untouched : Drawing.reserve.apply db.stocks
          (takenFrom Drawing.reserve.capacity [] demand) = db.stocks :=
        Drawing.reserve.apply_zero _ (fun _ => rfl)
      rw [Database.afterPass, untouched]
      simp [reserveRows, unmet, grants, recordGrants]
  | cons stock rows ih =>
      unfold reserveRows
      by_cases nonpos : demand ≤ 0
      · rw [if_pos nonpos, ih visitable.tail,
          afterPass_of_nonpos _ _ _ _ _ nonpos,
          afterPass_of_nonpos _ _ _ _ _ nonpos]
        simp [takenFrom, taken_of_nonpos nonpos, unmet_of_nonpos nonpos,
          add_assoc]
      · have sums := sum_reserved_cons Stock.available visitable nonpos
        rw [if_neg nonpos, sums]
        by_cases gives : 0 < min stock.available demand
        · have restUnmet : unmet Stock.available (stock :: rows) demand =
              unmet Stock.available rows
                (demand - min stock.available demand) := by
            simp [unmet, nonpos]
          simp only [gives, if_true]
          rw [restUnmet, afterPass_cons_of_ne_zero _ _ _ _ _ nonpos
            visitable gives.ne', List.map_cons, List.sum_cons, ← add_assoc,
            ← add_assoc]
          exact ih (visitable.save_tail
            (stock.reserve (min stock.available demand)) rfl) _ _ _
        · have available : 0 ≤ stock.available := le_max_right _ _
          have givesNone : min stock.available demand = 0 := by omega
          have sameUnmet : unmet Stock.available (stock :: rows) demand =
              unmet Stock.available rows demand := by
            simp [unmet, nonpos, givesNone]
          simp only [gives, if_false]
          rw [ih visitable.tail, sameUnmet, givesNone, sub_zero,
            afterPass_cons_of_eq_zero _ _ _ _ _ nonpos visitable givesNone]
          simp [add_assoc]

namespace Database

/-- The tables after a successful `reserve_stock`. -/
def afterReserve (db : Database) (session : Session) (variantId : Uuid)
    (quantity : Int) (reference : String) : Database :=
  db.afterPass session .reserve (fun take => -take)
    .reservation reference (reservableRows session db variantId) quantity

/-- The tables after `release_reservation`. -/
def afterRelease (db : Database) (session : Session) (variantId : Uuid)
    (quantity : Int) (reference : String) : Database :=
  db.afterPass session .release (fun giveBack => giveBack)
    .reservationRelease reference (reservedRows session db variantId) quantity

/-- The tables after a successful `commit_sale`. -/
def afterCommit (db : Database) (session : Session) (variantId : Uuid)
    (quantity : Int) (reference : String) : Database :=
  db.afterPass session .sell (fun take => -take) .sale
    reference (reservedRows session db variantId) quantity

end Database

section Services

variable (session : Session) (variantId : Uuid) (quantity : Int)
  (reference : String)

theorem visitable_reservableRows (db : Database) :
    Visitable db.stocks (reservableRows session db variantId) :=
  visitable_orderBy _ _ _ _

theorem visitable_reservedRows (db : Database) :
    Visitable db.stocks (reservedRows session db variantId) :=
  visitable_orderBy _ _ _ _

theorem available_nonneg (stock : Stock) : 0 ≤ stock.available :=
  le_max_right _ _

/-- What a successful `reserve_stock` returns. -/
def reservedSnapshot (db : Database) : StockSnapshot :=
  let rows := reservableRows session db variantId
  let onHand := (rows.map Stock.onHand).sum
  let reserved := (rows.map fun stock => stock.reserved +
    takenFrom Stock.available rows quantity stock.id).sum
  { variantId, available := onHand - reserved, onHand, reserved }

/-- `reserve_stock` refuses a quantity that is not positive or that the
selected rows do not have available; otherwise it is a greedy pass. -/
theorem reserveStock_eq (db : Database) :
    reserveStock session variantId quantity reference db =
      if quantity ≤ 0 then
        .error (.valueError "quantity must be positive") db
      else
        let remaining := unmet Stock.available
          (reservableRows session db variantId) quantity
        if 0 < remaining then
          .error (.outOfStockError
            s!"insufficient stock for variant {variantId}: short by {remaining}")
            db
        else
          .ok (reservedSnapshot session variantId quantity db)
            (db.afterReserve session variantId quantity reference) := by
  unfold reserveStock atomic
  by_cases nonpos : quantity ≤ 0
  · simp only [nonpos, if_true]
    rfl
  · simp only [nonpos, if_false]
    have looped := reserveRows_eq session reference
      (visitable_reservableRows session variantId db) quantity 0 0
    rw [get_bind,
      bind_of_eq_ok looped]
    by_cases short : 0 < unmet Stock.available
        (reservableRows session db variantId) quantity
    · simp only [short, if_true]
      rfl
    · simp only [short, if_false, zero_add]
      rfl

/-- The loop of `release_reservation` never raises. -/
theorem releaseRows_eq {db : Database} {rows : List Stock}
    (visitable : Visitable db.stocks rows) :
    (do
      let _ ← drawRows session Stock.reserved Stock.release
        (fun giveBack => giveBack) .reservationRelease reference rows quantity
      pure () : Service Unit) db =
      .ok () (db.afterPass session .release (fun giveBack => giveBack)
        .reservationRelease reference rows quantity) := by
  have looped : drawRows session Stock.reserved Stock.release
      (fun giveBack => giveBack) .reservationRelease reference rows quantity
        db = _ :=
    drawRows_eq session .release _ _ _ visitable quantity
  rw [bind_of_eq_ok looped]
  rfl

/-- `release_reservation` never raises. -/
theorem releaseReservation_eq (db : Database) :
    releaseReservation session variantId quantity reference db =
      .ok () (db.afterRelease session variantId quantity reference) := by
  unfold releaseReservation atomic
  rw [get_bind, releaseRows_eq session quantity reference
    (visitable_reservedRows session variantId db)]
  rfl

/-- The loop of `commit_sale`, and what follows it, refuse what the rows
cannot sell together; otherwise they are a greedy pass. -/
theorem commitRows_eq {db : Database} {rows : List Stock}
    (visitable : Visitable db.stocks rows) :
    atomic (do
      let remaining ← drawRows session
        Stock.sellable Stock.sell (fun take => -take) .sale reference rows
        quantity
      if 0 < remaining then
        throw (.outOfStockError
          s!"could not commit {quantity} for variant {variantId} (short by {remaining})")
      else
        pure () : Service Unit) db =
      if 0 < unmet Stock.sellable rows quantity then
        .error (.outOfStockError
          s!"could not commit {quantity} for variant {variantId} (short by {unmet Stock.sellable rows quantity})")
          db
      else
        .ok () (db.afterPass session .sell (fun take => -take) .sale reference
          rows quantity) := by
  have looped : drawRows session Stock.sellable Stock.sell
      (fun take => -take) .sale reference rows quantity db =
        .ok (unmet Stock.sellable rows quantity)
          (db.afterPass session .sell (fun take => -take) .sale reference rows
            quantity) :=
    drawRows_eq session .sell _ _ _ visitable quantity
  unfold atomic
  rw [bind_of_eq_ok looped]
  by_cases short : 0 < unmet Stock.sellable rows quantity
  · simp only [short, if_true]
    rfl
  · simp only [short, if_false]
    rfl

/-- `commit_sale` refuses what the rows that hold reservations cannot sell
together; otherwise it is a greedy pass. -/
theorem commitSale_eq (db : Database) :
    commitSale session variantId quantity reference db =
      let remaining := unmet Stock.sellable
        (reservedRows session db variantId) quantity
      if 0 < remaining then
        .error (.outOfStockError
          s!"could not commit {quantity} for variant {variantId} (short by {remaining})")
          db
      else
        .ok () (db.afterCommit session variantId quantity reference) :=
  commitRows_eq session variantId quantity reference
    (visitable_reservedRows session variantId db)

end Services

theorem findStock_eq_some {db : Database} {variantId warehouse : Uuid}
    {stock : Stock} (found : db.findStock variantId warehouse = some stock) :
    stock ∈ db.stocks.rows ∧ stock.variant = variantId := by
  have member := List.mem_of_find?_eq_some found
  have selected := List.find?_some found
  simp only [Bool.and_eq_true, decide_eq_true_eq] at selected
  exact ⟨(List.mem_filter.mp member).1, selected.1⟩

/-- The stock row that `adjust_stock` works on: a row that exists, or a new
row without units. -/
inductive AdjustedRow (session : Session) (db : Database)
    (variantId warehouse : Uuid) : Table Stock → Stock → Prop
  | existing {stock : Stock}
      (found : db.findStock variantId warehouse = some stock) :
      AdjustedRow session db variantId warehouse db.stocks stock
  | created (absent : db.findStock variantId warehouse = none) :
      AdjustedRow session db variantId warehouse
        (db.stocks.create (newStock session variantId warehouse)
          (key_newStock session variantId warehouse))
        (newStock session variantId warehouse
          (FreshKey.fresh db.stocks.keys))

namespace AdjustedRow

variable {session : Session} {db : Database} {variantId warehouse : Uuid}
  {stocks : Table Stock} {stock : Stock}

theorem mem (row : AdjustedRow session db variantId warehouse stocks stock) :
    stock ∈ stocks.rows := by
  cases row with
  | existing found => exact (findStock_eq_some found).1
  | created => simp

theorem variant_eq
    (row : AdjustedRow session db variantId warehouse stocks stock) :
    stock.variant = variantId := by
  cases row with
  | existing found => exact (findStock_eq_some found).2
  | created => rfl

end AdjustedRow

theorem getOrCreateStock_eq_ok {session : Session}
    {variantId warehouse : Uuid} {db after : Database} {stock : Stock}
    (returned : getOrCreateStock session variantId warehouse db =
      .ok stock after) :
    ∃ stocks, after = { db with stocks } ∧
      AdjustedRow session db variantId warehouse stocks stock := by
  unfold getOrCreateStock at returned
  rw [get_bind] at returned
  cases found : db.findStock variantId warehouse with
  | some row =>
      simp only [found] at returned
      obtain ⟨rfl, rfl⟩ := pure_eq_ok.mp returned
      exact ⟨db.stocks, rfl, .existing found⟩
  | none =>
      simp only [found] at returned
      by_cases taken : db.stockPairTaken variantId warehouse = true
      · simp [taken] at returned
      · by_cases noVariant : (db.variants.find? variantId).isNone = true
        · simp [taken, noVariant] at returned
        · simp only [taken, noVariant] at returned
          obtain ⟨_, middle, modified, finished⟩ := bind_eq_ok.mp returned
          obtain ⟨rfl, rfl⟩ := pure_eq_ok.mp finished
          exact ⟨_, (modify_eq_ok.mp modified).symm, .created found⟩

/-- A successful `adjust_stock` writes one row and records one movement. -/
theorem adjustStock_eq_ok {session : Session} {variantId : Uuid}
    {warehouseCode note : String} {delta : Int} {db after : Database}
    {adjusted : Stock}
    (returned : adjustStock session variantId warehouseCode delta note db =
      .ok adjusted after) :
    ∃ warehouse stocks stock,
      db.findWarehouse warehouseCode = some warehouse ∧
      AdjustedRow session db variantId warehouse.id stocks stock ∧
      adjusted = { stock with onHand := max (stock.onHand + delta) 0 } ∧
      after = { db with
        stocks := stocks.save adjusted
        movements := recordMovement session stock.id delta .adjustment ""
          note db.movements } := by
  rw [adjustStock, atomic_eq_ok, get_bind] at returned
  cases found : db.findWarehouse warehouseCode with
  | none => simp [found] at returned
  | some warehouse =>
      simp only [found] at returned
      obtain ⟨stock, middle, created, rest⟩ := bind_eq_ok.mp returned
      obtain ⟨stocks, rfl, row⟩ := getOrCreateStock_eq_ok created
      obtain ⟨_, _, saved, rest⟩ := bind_eq_ok.mp rest
      obtain ⟨_, _, recorded, finished⟩ := bind_eq_ok.mp rest
      obtain ⟨rfl, rfl⟩ := pure_eq_ok.mp finished
      rw [saveStock, modify_eq_ok] at saved
      rw [createMovement, modify_eq_ok] at recorded
      subst saved
      exact ⟨warehouse, stocks, stock, rfl, row, rfl, recorded.symm⟩

/-- An `adjust_stock` changes nothing, or writes one row and records one
movement. -/
theorem settle_adjustStock (session : Session) (variantId : Uuid)
    (warehouseCode : String) (delta : Int) (note : String) (db : Database) :
    settle (adjustStock session variantId warehouseCode delta note) db = db ∨
      ∃ warehouse stocks stock,
        db.findWarehouse warehouseCode = some warehouse ∧
        AdjustedRow session db variantId warehouse.id stocks stock ∧
        settle (adjustStock session variantId warehouseCode delta note) db =
          { db with
            stocks := stocks.save
              { stock with onHand := max (stock.onHand + delta) 0 }
            movements := recordMovement session stock.id delta .adjustment ""
              note db.movements } := by
  cases called : adjustStock session variantId warehouseCode delta note db with
  | ok adjusted after =>
      obtain ⟨warehouse, stocks, stock, located, row, rfl, rfl⟩ :=
        adjustStock_eq_ok called
      exact Or.inr ⟨warehouse, stocks, stock, located, row,
        settle_of_eq_ok called⟩
  | error raised after =>
      left
      rw [settle, called]
      exact atomic_eq_error called

end NovaCommerce
