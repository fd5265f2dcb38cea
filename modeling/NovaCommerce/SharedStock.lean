import NovaCommerce.ConcurrentCheckouts
import NovaCommerce.LockingEffects
import NovaCommerce.OrderTransactions
import NovaCommerce.StockLedgers

/-!
# Stock that is shared by all writers

Reservations, releases and sales of any number of clients change both counts
of the stock rows.  What a call relies on is only that the rows that it has
locked stay as they are; the rows that it visits are then distinct rows of the
store of its commit, and it posts what it takes to their ledgers.
-/

namespace NovaCommerce

open AtomicCall GreedyAllocation LockingTransactions

namespace StockLedger

/-- Movements that each ledger allows are posted, one after the other, and
none of them is an adjustment. -/
def Posts : StockLedger → StockLedger → Prop :=
  Relation.ReflTransGen fun ledger posted =>
    ∃ movement : StockMovement, movement.reason ≠ .adjustment ∧
      ledger.Allows movement ∧ posted = ledger.post movement

/-- The units that movements with a reason record. -/
def units (movements : List StockMovement) (reason : MovementReason) : Int :=
  ((movements.filter fun movement => movement.reason = reason).map
    StockMovement.quantity).sum

theorem units_concat (movements : List StockMovement)
    (movement : StockMovement) (reason : MovementReason) :
    units (movements ++ [movement]) reason = units movements reason +
      if movement.reason = reason then movement.quantity else 0 := by
  unfold units
  rw [List.filter_append, List.map_append, List.sum_append]
  by_cases same : movement.reason = reason <;> simp [same]

/-- The movements explain both counts. -/
structure Explains (first : StockLedger) (movements : List StockMovement)
    (last : StockLedger) : Prop where
  movements_eq : last.movements = first.movements ++ movements
  onHand_eq : last.onHand = first.onHand + units movements .sale
  reserved_eq : last.reserved = first.reserved - units movements .reservation -
    units movements .reservationRelease + units movements .sale

/-- What was posted explains the counts. -/
theorem Posts.explains {first last : StockLedger} (posts : first.Posts last) :
    ∃ movements, first.Explains movements last := by
  induction posts with
  | refl => exact ⟨[], by simp, by simp [units], by simp [units]⟩
  | tail _ posting ih =>
      obtain ⟨movements, explains⟩ := ih
      obtain ⟨movement, notAdjustment, allowed, rfl⟩ := posting
      refine ⟨movements ++ [movement], ?_, ?_, ?_⟩
      · rw [post, explains.movements_eq, List.append_assoc]
      · rw [units_concat, post]
        cases reason : movement.reason <;>
          simp_all [explains.onHand_eq, Allows, add_assoc]
      · rw [units_concat, units_concat, units_concat, post]
        cases reason : movement.reason <;>
          simp_all [explains.reserved_eq, Allows]
        all_goals ring

end StockLedger

/-- The orders stay in the table, each with the items that it has. -/
structure KeepsItems (before after : Database) : Prop where
  keys_subset : before.orders.keys ⊆ after.orders.keys
  items_eq : ∀ order ∈ before.orders.keys,
    after.orderItemsOf order = before.orderItemsOf order

theorem KeepsItems.refl (db : Database) : KeepsItems db db :=
  ⟨List.Subset.refl _, fun _ _ => rfl⟩

theorem KeepsItems.trans {first second third : Database}
    (before : KeepsItems first second) (later : KeepsItems second third) :
    KeepsItems first third where
  keys_subset := List.Subset.trans before.keys_subset later.keys_subset
  items_eq order placed :=
    (later.items_eq order (before.keys_subset placed)).trans
      (before.items_eq order placed)

/-- Other clients leave the locked stock rows and orders alone, the items of
all orders, and the warehouses altogether. -/
structure StoreKept (held : Set RowKey) (before after : Database) : Prop where
  warehouses_eq : after.warehouses = before.warehouses
  stocks : LockedSame .stock held before.stocks after.stocks
  orders : LockedSame .order held before.orders after.orders
  items : KeepsItems before after

def storeRely : Rely RowKey Database where
  allows := StoreKept
  refl _ db := ⟨rfl, fun _ _ => rfl, fun _ _ => rfl, .refl db⟩
  trans _ _ _ _ first second :=
    ⟨second.warehouses_eq.trans first.warehouses_eq,
      first.stocks.trans second.stocks, first.orders.trans second.orders,
      first.items.trans second.items⟩
  anti _ _ _ _ subset kept :=
    ⟨kept.warehouses_eq, kept.stocks.anti subset, kept.orders.anti subset,
      kept.items⟩

/-- Writes after which a stock row is found the same in two stores whenever it
was the same before, and that leave the warehouses alone. -/
structure RowByRow (change : Database → Database) : Prop where
  warehouses_eq : ∀ db, (change db).warehouses = db.warehouses
  stocks : ∀ (first second : Database) id,
    first.stocks.find? id = second.stocks.find? id →
    (change first).stocks.find? id = (change second).stocks.find? id

theorem rowByRow_id : RowByRow id :=
  ⟨fun _ => rfl, fun _ _ _ same => same⟩

theorem RowByRow.comp (first second : Database → Database)
    (firstRows : RowByRow first) (secondRows : RowByRow second) :
    RowByRow (second ∘ first) where
  warehouses_eq db :=
    (secondRows.warehouses_eq _).trans (firstRows.warehouses_eq db)
  stocks _ _ id same :=
    secondRows.stocks _ _ id (firstRows.stocks _ _ id same)

/-- A write that changes the stock rows one by one. -/
theorem rowByRow_of_alter {change : Database → Database}
    {rowChange : Stock → Stock}
    (keepsKey : ∀ row, Keyed.key (rowChange row) = Keyed.key row)
    (effect : ∀ db, (change db).warehouses = db.warehouses ∧
      (change db).stocks = db.stocks.alter rowChange keepsKey) :
    RowByRow change where
  warehouses_eq db := (effect db).1
  stocks first second id same := by
    rw [(effect first).2, (effect second).2, Table.find?_alter,
      Table.find?_alter, same]

/-- A write to other tables. -/
structure SparesStock (change : Database → Database) : Prop where
  warehouses_eq : ∀ db, (change db).warehouses = db.warehouses
  stocks_eq : ∀ db, (change db).stocks = db.stocks
  movements_eq : ∀ db, (change db).movements = db.movements

theorem SparesStock.rowByRow {change : Database → Database}
    (spares : SparesStock change) : RowByRow change where
  warehouses_eq := spares.warehouses_eq
  stocks first second id same := by
    rw [spares.stocks_eq, spares.stocks_eq, same]

theorem rowByRow_saveReserved (stock : Stock) :
    (Statements.saveReserved stock).Writes RowByRow := by
  refine ⟨rowByRow_of_alter ?_ fun _ => ⟨rfl, rfl⟩, trivial⟩
  intro row
  split <;> rfl

theorem rowByRow_saveUnits (stock : Stock) :
    (Statements.saveUnits stock).Writes RowByRow := by
  refine ⟨rowByRow_of_alter ?_ fun _ => ⟨rfl, rfl⟩, trivial⟩
  intro row
  split <;> rfl

theorem rowByRow_createMovement (session : Session) (stock : Uuid)
    (quantity : Int) (reason : MovementReason) (reference note : String) :
    (Statements.createMovement session stock quantity reason reference
      note).Writes RowByRow :=
  ⟨⟨fun _ => rfl, fun _ _ _ same => same⟩, trivial⟩

/-- The rows are distinct rows of the store of the commit, each one selected
and locked. -/
structure LockedStock (now : Database) (before after : Progress RowKey Database)
    (selects : Database → Stock → Bool) (rows : List Stock) : Prop where
  own_eq : after.own = before.own
  visitable : Visitable (before.own now).stocks rows
  selected : ∀ stock ∈ rows, selects (before.own now) stock = true
  locked : ∀ stock ∈ rows, .stock stock.id ∈ after.held

theorem leads_lockStock {now : Database}
    {before after : Progress RowKey Database}
    {selects : Database → Stock → Bool} {query : Database → List Stock}
    {joined : Database → Uuid → List RowKey} {rows : List Stock}
    (static : ∀ first second : Database,
      first.warehouses = second.warehouses → selects first = selects second)
    (distinct : ∀ db, ((query db).map Keyed.key).Nodup)
    (rowByRow : RowByRow before.own)
    (leads : Leads storeRely now (Statements.selectForUpdate .stock
      Database.stocks selects query joined) before rows after) :
    LockedStock now before after selects rows := by
  obtain ⟨_, started, ⟨earlier, _, rfl, same⟩, locking⟩ := leads_bind.mp leads
  rw [same] at locking
  obtain ⟨rows_eq, own_eq, held⟩ := leads_lockRows
    (fun id _ held other holds (allowed : StoreKept held other now) => by
      have sameRow := rowByRow.stocks _ _ id (allowed.stocks id holds).symm
      have sameSelects := static (before.own other) (before.own now)
        ((rowByRow.warehouses_eq _).trans
          (allowed.warehouses_eq.symm.trans
            (rowByRow.warehouses_eq _).symm))
      rw [Statements.selectedRow, Statements.selectedRow, sameRow,
        sameSelects]) locking
  have found : ∀ stock ∈ rows, stock.id ∈ (query (before.own earlier)).map
      Keyed.key ∧ stock ∈ (before.own now).stocks.rows ∧
        selects (before.own now) stock = true := by
    intro stock visited
    rw [rows_eq] at visited
    obtain ⟨id, listed, selected⟩ := List.mem_filterMap.mp visited
    obtain ⟨isFound, holds⟩ := Option.filter_eq_some_iff.mp selected
    obtain ⟨member, hasId⟩ := Table.find?_eq_some.mp isFound
    have idEq : stock.id = id := hasId
    exact ⟨idEq ▸ listed, member, ((Bool.and_eq_true _ _).mp holds).2⟩
  have inOrder : (rows.map fun stock => stock.id).Sublist
      ((query (before.own earlier)).map Keyed.key) :=
    sublist_of_leads_lockRows (fun stock : Stock => stock.id)
      (fun db id stock selected =>
        (Table.find?_eq_some.mp (Option.filter_eq_some_iff.mp selected).1).2)
      locking
  exact {
    own_eq
    visitable := ⟨fun stock visited => (found stock visited).2.1,
      inOrder.nodup (distinct _)⟩
    selected := fun stock visited => (found stock visited).2.2
    locked := fun stock visited => held _ (found stock visited).1 }

/-- Drawing from selected rows is booked in their ledgers by a movement that
the ledgers allow. -/
structure Books (drawing : Drawing) (signed : Int → Int)
    (reason : MovementReason) (selects : Stock → Prop) : Prop where
  notAdjustment : reason ≠ .adjustment
  allows : ∀ (stock : Stock) (amount : Int) (movement : StockMovement)
    (movements : List StockMovement), selects stock → amount ≠ 0 →
    amount ≤ drawing.capacity stock →
    (0 ≤ drawing.capacity stock → 0 < amount) → movement.reason = reason →
    movement.quantity = signed amount →
    (⟨stock.onHand, stock.reserved, movements⟩ : StockLedger).Allows movement ∧
      (⟨stock.onHand, stock.reserved, movements⟩ : StockLedger).post movement =
        ⟨(drawing.draw stock amount).onHand,
          (drawing.draw stock amount).reserved, movements ++ [movement]⟩

theorem books_reserve :
    Books .reserve (fun take => -take) .reservation (fun _ => True) where
  notAdjustment := by decide
  allows stock amount movement movements _ nonzero atMost positive reason_eq
      quantity_eq := by
    have taken := positive (available_nonneg stock)
    simp only [StockLedger.Allows, StockLedger.post, reason_eq, quantity_eq,
      Drawing.reserve, Stock.reserve, sub_neg_eq_add, and_true]
    omega

theorem books_release : Books .release (fun giveBack => giveBack)
    .reservationRelease (fun stock => 0 < stock.reserved) where
  notAdjustment := by decide
  allows stock amount movement movements holds nonzero atMost positive
      reason_eq quantity_eq := by
    have given := positive holds.le
    simp only [StockLedger.Allows, StockLedger.post, reason_eq, quantity_eq]
    exact ⟨⟨given, atMost⟩, rfl⟩

theorem books_sell : Books .sell (fun take => -take) .sale
    (fun stock => 0 < stock.reserved) where
  notAdjustment := by decide
  allows stock amount movement movements holds nonzero atMost positive
      reason_eq quantity_eq := by
    have capacity_eq : Drawing.sell.capacity stock =
        min stock.reserved stock.onHand := rfl
    rw [capacity_eq] at atMost positive
    simp only [StockLedger.Allows, StockLedger.post, reason_eq, quantity_eq,
      Drawing.sell, Stock.sell]
    refine ⟨by omega, ?_⟩
    rw [sub_eq_add_neg, sub_eq_add_neg]

/-- Every row has its safety buffer left after what is reserved. -/
def Database.CoversBuffers (db : Database) : Prop :=
  ∀ stock ∈ db.stocks.rows, 0 ≤ stock.reserved ∧
    stock.reserved + stock.safetyBuffer ≤ stock.onHand

instance (db : Database) : Decidable db.CoversBuffers :=
  inferInstanceAs (Decidable (∀ stock ∈ db.stocks.rows, 0 ≤ stock.reserved ∧
    stock.reserved + stock.safetyBuffer ≤ stock.onHand))

/-- A drawing within the capacity of a row keeps its buffer covered. -/
def KeepsBuffer (drawing : Drawing) (selects : Stock → Prop) : Prop :=
  ∀ (stock : Stock) (amount : Int), selects stock →
    0 ≤ stock.reserved → stock.reserved + stock.safetyBuffer ≤ stock.onHand →
    0 ≤ drawing.capacity stock ∧
    (0 ≤ amount → amount ≤ drawing.capacity stock →
      0 ≤ (drawing.draw stock amount).reserved ∧
      (drawing.draw stock amount).reserved +
          (drawing.draw stock amount).safetyBuffer ≤
        (drawing.draw stock amount).onHand)

theorem keepsBuffer_reserve : KeepsBuffer .reserve (fun _ => True) := by
  intro stock amount _ nonneg covered
  refine ⟨available_nonneg stock, ?_⟩
  simp only [Drawing.reserve, Stock.reserve, Stock.available]
  omega

theorem keepsBuffer_release :
    KeepsBuffer .release (fun stock => 0 < stock.reserved) := by
  intro stock amount _ nonneg covered
  refine ⟨nonneg, ?_⟩
  simp only [Drawing.release, Stock.release]
  omega

theorem keepsBuffer_sell :
    KeepsBuffer .sell (fun stock => 0 < stock.reserved) := by
  intro stock amount _ nonneg covered
  simp only [Drawing.sell, Stock.sell, Stock.sellable]
  omega

section Pass

variable (session : Session) {drawing : Drawing} {signed : Int → Int}
  {reason : MovementReason} (reference : String) {selects : Stock → Prop}
  {db : Database} {rows : List Stock} (visitable : Visitable db.stocks rows)
  (selected : ∀ stock ∈ rows, selects stock) (demand : Int)

include visitable selected

theorem posts_afterPass (books : Books drawing signed reason selects)
    (id : Uuid) :
    (db.ledgerOf id).Posts ((db.afterPass session drawing signed reason
      reference rows demand).ledgerOf id) := by
  rcases ledgerOf_afterPass session drawing signed reason reference visitable
      demand id with ⟨_, same⟩ | ⟨stock, visited, movement, found, nonzero,
        atMost, positive, reason_eq, _, quantity_eq, after⟩
  · rw [same]
    exact .refl
  · rw [after, Database.ledgerOf_of_find found]
    obtain ⟨allowed, post_eq⟩ := books.allows stock _ movement
      (db.movementsOf id) (selected stock visited) nonzero atMost positive
      reason_eq quantity_eq
    refine .single ⟨movement, ?_, allowed, post_eq.symm⟩
    rw [reason_eq]
    exact books.notAdjustment

theorem coversBuffers_afterPass (keeps : KeepsBuffer drawing selects)
    (covered : db.CoversBuffers) :
    (db.afterPass session drawing signed reason reference rows
      demand).CoversBuffers := by
  intro row rowMem
  obtain ⟨stock, member, rfl⟩ := List.mem_map.mp rowMem
  obtain ⟨nonneg, covers⟩ := covered stock member
  by_cases visited : stock.id ∈ rows.map fun row => row.id
  · obtain ⟨other, otherMem, sameId⟩ := List.mem_map.mp visited
    have sameRow : other = stock := db.stocks.eq_of_key_eq
      (visitable.subset other otherMem) member sameId
    subst sameRow
    have capacities : ∀ row ∈ rows, 0 ≤ drawing.capacity row :=
      fun row rowMem => (keeps row 0 (selected row rowMem)
        (covered row (visitable.subset row rowMem)).1
        (covered row (visitable.subset row rowMem)).2).1
    exact (keeps other _ (selected other otherMem) nonneg covers).2
      (taken_nonneg capacities demand _)
      (taken_le_capacity visitable.ids_nodup capacities demand otherMem)
  · have untouched : takenFrom drawing.capacity rows demand stock.id = 0 :=
      taken_of_notMem visited demand
    rw [untouched, drawing.draw_zero]
    exact ⟨nonneg, covers⟩

omit visitable selected in
/-- Rows that are not visited stay as they are. -/
theorem find?_afterPass {id : Uuid}
    (skipped : id ∉ rows.map fun stock => stock.id) :
    (db.afterPass session drawing signed reason reference rows
      demand).stocks.find? id = db.stocks.find? id := by
  refine Table.find?_alter_of_same _
    (fun stock => drawing.draw_id stock _) ?_
  intro stock hasId
  have idEq : stock.id = id := hasId
  have untouched : takenFrom drawing.capacity rows demand stock.id = 0 :=
    taken_of_notMem (idEq ▸ skipped) demand
  rw [untouched, drawing.draw_zero]

end Pass

/-- What a part of a transaction does to the stock by the commit: it posts to
the ledgers, leaves the rows alone that are not locked, and keeps the buffers
covered. -/
structure StockMoved (now : Database)
    (before after : Progress RowKey Database) : Prop where
  held_subset : before.held ⊆ after.held
  rowByRow : RowByRow after.own
  posts : ∀ id, ((before.own now).ledgerOf id).Posts
    ((after.own now).ledgerOf id)
  kept : ∀ id, .stock id ∉ after.held →
    (after.own now).stocks.find? id = (before.own now).stocks.find? id
  covers : (before.own now).CoversBuffers → (after.own now).CoversBuffers

/-- The effect presupposes that all that was written before was written row by
row. -/
def StockEffect (now : Database) (before after : Progress RowKey Database) :
    Prop :=
  RowByRow before.own → StockMoved now before after

theorem composes_stockEffect : Composes StockEffect where
  refl _ _ rowByRow :=
    ⟨Set.Subset.rfl, rowByRow, fun _ => .refl, fun _ _ => rfl, id⟩
  trans _ _ _ _ first second rowByRow := by
    have one := first rowByRow
    have two := second one.rowByRow
    exact {
      held_subset := one.held_subset.trans two.held_subset
      rowByRow := two.rowByRow
      posts := fun id => (one.posts id).trans (two.posts id)
      kept := fun id free => (two.kept id free).trans
        (one.kept id fun holds => free (two.held_subset holds))
      covers := fun covered => two.covers (one.covers covered) }

theorem stockEffect_lock (now : Database) (before : Progress RowKey Database)
    (key : RowKey) : StockEffect now before (before.lock key) :=
  fun rowByRow =>
    ⟨Set.subset_insert _ _, rowByRow, fun _ => .refl, fun _ _ => rfl, id⟩

theorem SparesStock.stockEffect {change : Database → Database}
    (spares : SparesStock change) (now : Database)
    (before : Progress RowKey Database) :
    StockEffect now before (before.write change) := by
  intro rowByRow
  have sameStocks : ((before.write change).own now).stocks =
      (before.own now).stocks := spares.stocks_eq _
  have sameMovements : ((before.write change).own now).movements =
      (before.own now).movements := spares.movements_eq _
  refine ⟨Set.Subset.rfl, RowByRow.comp before.own change rowByRow
    spares.rowByRow, ?_, ?_,
    ?_⟩
  · intro id
    rw [Database.ledgerOf, Database.ledgerOf, Database.movementsOf,
      Database.movementsOf, sameStocks, sameMovements]
    exact .refl
  · intro id _
    rw [sameStocks]
  · intro covered stock member
    exact covered stock (sameStocks ▸ member)

theorem pure_moves {Value : Type} {value : Value} :
    Achieves storeRely StockEffect (pure value : Statements Value) :=
  achieves_pure composes_stockEffect

theorem query_moves {pinned : Bool} :
    Achieves storeRely StockEffect (.query pinned : Statements Database) :=
  achieves_query composes_stockEffect

theorem bind_moves {First Second : Type} {first : Statements First}
    {next : First → Statements Second}
    (firstMoves : Achieves storeRely StockEffect first)
    (nextMoves : ∀ value, Achieves storeRely StockEffect (next value)) :
    Achieves storeRely StockEffect (first >>= next) :=
  achieves_bind composes_stockEffect firstMoves nextMoves

/-- A part that writes to other tables only. -/
theorem spares_moves {Value : Type} {part : Statements Value}
    (writes : part.Writes SparesStock) :
    Achieves storeRely StockEffect part :=
  achieves_of_writes composes_stockEffect stockEffect_lock
    (writes.mono fun _ spares now before => spares.stockEffect now before)

/-- A pass over locked rows. -/
theorem stockMoved_of_pass {now : Database}
    {before middle after : Progress RowKey Database} {session : Session}
    {drawing : Drawing} {signed : Int → Int} {reason : MovementReason}
    {reference : String} {selects : Database → Stock → Bool}
    {rows : List Stock} {demand : Int} {booked : Stock → Prop}
    (locked : LockedStock now before middle selects rows)
    (bookedRows : ∀ stock ∈ rows, booked stock)
    (books : Books drawing signed reason booked)
    (keeps : KeepsBuffer drawing booked)
    (held_subset : before.held ⊆ middle.held)
    (held_eq : after.held = middle.held) (rowByRow : RowByRow after.own)
    (after_eq : after.own now = (before.own now).afterPass session drawing
      signed reason reference rows demand) :
    StockMoved now before after where
  held_subset := held_eq ▸ held_subset
  rowByRow := rowByRow
  posts id := by
    rw [after_eq]
    exact posts_afterPass session reference locked.visitable bookedRows demand
      books id
  kept id free := by
    rw [after_eq]
    apply find?_afterPass session reference
    intro visited
    obtain ⟨stock, member, rfl⟩ := List.mem_map.mp visited
    exact free (held_eq ▸ locked.locked stock member)
  covers covered := by
    rw [after_eq]
    exact coversBuffers_afterPass session reference locked.visitable
      bookedRows demand keeps covered

theorem reserveStock_moves (session : Session) (variantId : Uuid)
    (quantity : Int) (reference : String) :
    Achieves storeRely StockEffect
      (Statements.reserveStock session variantId quantity reference) := by
  intro now before snapshot after leads rowByRow
  rw [Statements.reserveStock] at leads
  by_cases nonpos : quantity ≤ 0
  · rw [if_pos nonpos] at leads
    exact leads.elim
  rw [if_neg nonpos] at leads
  obtain ⟨rows, middle, locking, rest⟩ := leads_bind.mp leads
  have locked := leads_lockStock
    (fun first second same => by
      funext stock
      rw [Statements.isReservableOf, Statements.isReservableOf,
        Database.inActiveWarehouse, Database.inActiveWarehouse,
        Database.warehouseOf, Database.warehouseOf, same])
    (fun db => (visitable_reservableRows session variantId db).ids_nodup)
    rowByRow locking
  obtain ⟨⟨remaining, onHand, reserved⟩, last, looped, rest⟩ :=
    leads_bind.mp rest
  obtain ⟨called, held_eq⟩ :=
    looped.alone_of_blind (reserveRows_blind session reference rows _ _ _)
  have rowByRowAfter := looped.own_of_writes RowByRow.comp
    (writes_reserveRows rowByRow_saveReserved rowByRow_createMovement session
      reference rows _ _ _) (locked.own_eq ▸ rowByRow)
  rw [locked.own_eq, alone_reserveRows session reference locked.visitable,
    reserveRows_eq session reference locked.visitable] at called
  injection called with _ after_eq
  by_cases short : 0 < remaining
  · simp only [short, if_true] at rest
    exact rest.elim
  simp only [short, if_false] at rest
  obtain ⟨_, rfl⟩ := leads_pure.mp rest
  exact stockMoved_of_pass locked (fun _ _ => trivial) books_reserve
    keepsBuffer_reserve locking.held_subset held_eq rowByRowAfter
    after_eq.symm

/-- The shared loop writes what its saves and its movements write. -/
theorem writes_drawRows {allowed : (Database → Database) → Prop}
    {save : Stock → Statements Unit} {session : Session}
    {reason : MovementReason} {reference : String}
    (saves : ∀ stock, (save stock).Writes allowed)
    (records : ∀ stock quantity,
      (Statements.createMovement session stock quantity reason reference
        "").Writes allowed)
    (capacity : Stock → Int) (draw : Stock → Int → Stock)
    (signed : Int → Int) (rows : List Stock) (demand : Int) :
    (Statements.drawRows session save capacity draw signed reason reference
      rows demand).Writes allowed := by
  induction rows generalizing demand with
  | nil => trivial
  | cons stock rows ih =>
      unfold Statements.drawRows
      split
      · trivial
      · dsimp only
        split
        · refine Transaction.writes_bind (saves _) fun _ => ?_
          exact Transaction.writes_bind (records _ _) fun _ => ih _
        · exact ih _

/-- What the loop of releases and sales saves. -/
structure SavesDraws (save : Stock → Statements Unit) (drawing : Drawing) :
    Prop where
  saves : SavesRow save drawing
  blind : ∀ stock, (save stock).Blind
  rowByRow : ∀ stock, (save stock).Writes RowByRow

theorem savesDraws_release : SavesDraws Statements.saveReserved .release :=
  ⟨savesRow_release, fun _ => trivial, rowByRow_saveReserved⟩

theorem savesDraws_sell : SavesDraws Statements.saveUnits .sell :=
  ⟨savesRow_sell, fun _ => trivial, rowByRow_saveUnits⟩

section DrawRows

variable {save : Stock → Statements Unit} {drawing : Drawing}
  (saves : SavesDraws save drawing) (session : Session) (signed : Int → Int)
  (reason : MovementReason) (reference : String)

include saves

theorem blind_drawRows (rows : List Stock) (demand : Int) :
    (Statements.drawRows session save drawing.capacity drawing.draw signed
      reason reference rows demand).Blind := by
  induction rows generalizing demand with
  | nil => trivial
  | cons stock rows ih =>
      unfold Statements.drawRows
      split
      · trivial
      · dsimp only
        split
        · exact Transaction.blind_bind (saves.blind _) fun _ => ih _
        · exact ih _

/-- Reserved rows of a variant are locked and drawn from, one after the
other. -/
theorem drawReserved_moves
    (books : Books drawing signed reason fun stock => 0 < stock.reserved)
    (keeps : KeepsBuffer drawing fun stock => 0 < stock.reserved)
    (variantId : Uuid) (quantity : Int) :
    Achieves storeRely StockEffect (do
      let rows ← Statements.lockReserved session variantId
      Statements.drawRows session save drawing.capacity drawing.draw signed
        reason reference rows quantity) := by
  intro now before remaining after leads rowByRow
  obtain ⟨rows, middle, locking, looped⟩ := leads_bind.mp leads
  have locked := leads_lockStock (fun _ _ _ => rfl)
    (fun db => (visitable_reservedRows session variantId db).ids_nodup)
    rowByRow locking
  obtain ⟨called, held_eq⟩ := looped.alone_of_blind
    (blind_drawRows saves session signed reason reference rows quantity)
  have rowByRowAfter := looped.own_of_writes RowByRow.comp
    (writes_drawRows saves.rowByRow
      (fun _ _ => rowByRow_createMovement session _ _ reason reference "")
      _ _ signed rows quantity) (locked.own_eq ▸ rowByRow)
  rw [locked.own_eq, alone_drawRows saves.saves signed reason
    locked.visitable, drawRows_eq session drawing signed reason reference
    locked.visitable] at called
  injection called with _ after_eq
  refine stockMoved_of_pass locked ?_ books keeps locking.held_subset held_eq
    rowByRowAfter after_eq.symm
  intro stock visited
  have selected := (Bool.and_eq_true _ _).mp (locked.selected stock visited)
  exact of_decide_eq_true selected.2

end DrawRows

theorem releaseReservation_moves (session : Session) (variantId : Uuid)
    (quantity : Int) (reference : String) :
    Achieves storeRely StockEffect
      (Statements.releaseReservation session variantId quantity
        reference) := by
  intro now before value after leads
  obtain ⟨rows, middle, locking, rest⟩ := leads_bind.mp leads
  obtain ⟨remaining, last, looped, finished⟩ := leads_bind.mp rest
  obtain ⟨_, rfl⟩ := leads_pure.mp finished
  exact drawReserved_moves savesDraws_release session (fun giveBack => giveBack)
    .reservationRelease reference books_release keepsBuffer_release variantId
    quantity now before remaining _
    (leads_bind.mpr ⟨rows, middle, locking, looped⟩)

theorem commitSale_moves (session : Session) (variantId : Uuid)
    (quantity : Int) (reference : String) :
    Achieves storeRely StockEffect
      (Statements.commitSale session variantId quantity reference) := by
  intro now before value after leads
  obtain ⟨rows, middle, locking, rest⟩ := leads_bind.mp leads
  obtain ⟨remaining, last, looped, finished⟩ := leads_bind.mp rest
  by_cases short : 0 < remaining
  · simp only [short, if_true] at finished
    exact finished.elim
  simp only [short, if_false] at finished
  obtain ⟨_, rfl⟩ := leads_pure.mp finished
  exact drawReserved_moves savesDraws_sell session (fun take => -take) .sale
    reference books_sell keepsBuffer_sell variantId quantity now before
    remaining _ (leads_bind.mpr ⟨rows, middle, locking, looped⟩)

end NovaCommerce
