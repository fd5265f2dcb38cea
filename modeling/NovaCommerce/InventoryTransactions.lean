import NovaCommerce.StockInvariants
import NovaCommerce.LockingTransactions

/-!
# Reservations, statement by statement

`reserve_stock` is modelled here at the grain at which the database interleaves
transactions: the query that selects the rows, the lock of each row, after
which it is read again, and one update and one insert for every row that gives
something.  Alone it is the service; next to other transactions it still is one
greedy pass over the rows as they are when it commits, because the rows that it
read are locked.  An update takes no lock of its own here, which allows more
interleavings than the database does.
-/

namespace NovaCommerce

open AtomicCall GreedyAllocation LockingTransactions

/-- Rows that can be locked, and entries of unique indexes. -/
inductive RowKey where
  | stock (id : Uuid)
  | warehouse (id : Uuid)
  | coupon (id : Uuid)
  | cart (id : Uuid)
  | cartItem (id : Uuid)
  | order (id : Uuid)
  | orderNumber (number : String)
  | cartLine (cart variant : Uuid)
  deriving DecidableEq

/-- The statements of a service call. -/
abbrev Statements (Value : Type) :=
  Transaction RowKey Database Exception Value

namespace Statements

/-- Lock a row and then the rows that are joined to it, and read. -/
def lockJoined (key : RowKey) : List RowKey → Statements Database
  | [] => .acquire key
  | joined :: others => do
      let _ ← .acquire key
      lockJoined joined others

/-- Lock the selected rows one after the other, each with the rows that are
`joined` to it, and read each one again; a row that is not `current` any more is
left out. -/
def lockRows {Row : Type} (key : Uuid → RowKey)
    (joined : Uuid → List RowKey) (current : Database → Uuid → Option Row) :
    List Uuid → Statements (List Row)
  | [] => pure []
  | id :: ids => do
      let db ← lockJoined (key id) (joined id)
      match current db id with
      | some row => do
          let rows ← lockRows key joined current ids
          pure (row :: rows)
      | none => lockRows key joined current ids

/-- The row under an identifier, if a query still selects it. -/
def selectedRow {Row : Type} [IsModel Row] (table : Database → Table Row)
    (condition : Database → Row → Bool) (db : Database) (id : Uuid) :
    Option Row :=
  ((table db).find? id).filter fun row => alive row && condition db row

/-- `select_for_update()` of the rows that a query returns in its order.  The
rows that `select_related` joins to them are locked as well. -/
def selectForUpdate {Row : Type} [IsModel Row] (key : Uuid → RowKey)
    (table : Database → Table Row) (condition : Database → Row → Bool)
    (query : Database → List Row)
    (joined : Database → Uuid → List RowKey := fun _ _ => []) :
    Statements (List Row) := do
  let db ← .query true
  lockRows key (joined db) (selectedRow table condition)
    ((query db).map Keyed.key)

/-- The stock table with another count of reserved units in one row. -/
def withReserved (stocks : Table Stock) (id : Uuid) (reserved : Int) :
    Table Stock :=
  stocks.alter
    (fun row => if row.id = id then { row with reserved } else row)
    (by
      intro row
      split <;> rfl)

/-- `stock.save(update_fields=["reserved", "updated_at"])`. -/
def saveReserved (stock : Stock) : Statements Unit :=
  .execute fun db => { db with
    stocks := withReserved db.stocks stock.id stock.reserved }

def createMovement (session : Session) (stock : Uuid) (quantity : Int)
    (reason : MovementReason) (reference note : String) : Statements Unit :=
  .execute fun db => { db with
    movements :=
      recordMovement session stock quantity reason reference note
        db.movements }

/-- The loop of `reserve_stock`. -/
def reserveRows (session : Session) (reference : String) :
    List Stock → Int → Int → Int → Statements (Int × Int × Int)
  | [], remaining, onHand, reserved => pure (remaining, onHand, reserved)
  | stock :: rows, remaining, onHand, reserved =>
      if remaining ≤ 0 then
        reserveRows session reference rows remaining
          (onHand + stock.onHand) (reserved + stock.reserved)
      else
        let take := min stock.available remaining
        if 0 < take then do
          saveReserved (stock.reserve take)
          createMovement session stock.id (-take) .reservation reference ""
          reserveRows session reference rows (remaining - take)
            (onHand + stock.onHand) (reserved + (stock.reserve take).reserved)
        else
          reserveRows session reference rows remaining
            (onHand + stock.onHand) (reserved + stock.reserved)

/-- The rows that `reserve_stock` selects. -/
def isReservableOf (variantId : Uuid) (db : Database) (stock : Stock) : Bool :=
  stock.variant = variantId && db.inActiveWarehouse stock

/-- `select_related("warehouse")`: the warehouse of a stock row. -/
def warehouseOf (db : Database) (id : Uuid) : List RowKey :=
  ((db.stocks.find? id).map fun stock =>
    RowKey.warehouse stock.warehouse).toList

def reserveStock (session : Session) (variantId : Uuid) (quantity : Int)
    (reference : String := "") : Statements StockSnapshot :=
  if quantity ≤ 0 then
    .fail (.valueError "quantity must be positive")
  else do
    let rows ← selectForUpdate .stock Database.stocks
      (isReservableOf variantId)
      (fun db => reservableRows session db variantId) warehouseOf
    let (remaining, onHand, reserved) ←
      reserveRows session reference rows quantity 0 0
    if 0 < remaining then
      .fail (.outOfStockError
        s!"insufficient stock for variant {variantId}: short by {remaining}")
    else
      pure { variantId, available := onHand - reserved, onHand, reserved }

end Statements

section Alone

open Statements

theorem alone_lockJoined (key : RowKey) (joined : List RowKey)
    (db : Database) : (lockJoined key joined).alone db = .ok db db := by
  induction joined generalizing key with
  | nil => rfl
  | cons other others ih => exact ih other

theorem alone_lockRows {Row : Type} (key : Uuid → RowKey)
    (joined : Uuid → List RowKey) (current : Database → Uuid → Option Row)
    (ids : List Uuid) (db : Database) :
    (lockRows key joined current ids).alone db =
      .ok (ids.filterMap (current db)) db := by
  induction ids with
  | nil => rfl
  | cons id ids ih =>
      rw [lockRows, Transaction.alone_bind,
        bind_of_eq_ok (alone_lockJoined (key id) (joined id) db)]
      cases selected : current db id with
      | none =>
          rw [List.filterMap_cons_none selected]
          exact ih
      | some row =>
          rw [List.filterMap_cons_some selected]
          dsimp only
          rw [Transaction.alone_bind, bind_of_eq_ok ih]
          rfl

/-- Rows that satisfy the condition are found again under their keys. -/
theorem filterMap_selectedRow {Row : Type} [IsModel Row]
    {table : Database → Table Row} {condition : Database → Row → Bool}
    {db : Database} {rows : List Row}
    (selected : ∀ row ∈ rows, row ∈ (table db).rows ∧
      (alive row && condition db row) = true) :
    (rows.map Keyed.key).filterMap (selectedRow table condition db) =
      rows := by
  induction rows with
  | nil => rfl
  | cons row rows ih =>
      obtain ⟨member, holds⟩ := selected row List.mem_cons_self
      have found : (table db).find? (Keyed.key row) = some row :=
        Table.find?_eq_some.mpr ⟨member, rfl⟩
      have again : selectedRow table condition db (Keyed.key row) =
          some row := by
        rw [selectedRow, found, Option.filter_some, if_pos holds]
      rw [List.map_cons, List.filterMap_cons_some again,
        ih fun other otherMem =>
          selected other (List.mem_cons_of_mem _ otherMem)]

theorem alone_selectForUpdate {Row : Type} [IsModel Row]
    {key : Uuid → RowKey} {table : Database → Table Row}
    {condition : Database → Row → Bool} {query : Database → List Row}
    {joined : Database → Uuid → List RowKey} {db : Database}
    (selected : ∀ row ∈ query db, row ∈ (table db).rows ∧
      (alive row && condition db row) = true) :
    (selectForUpdate key table condition query joined).alone db =
      .ok (query db) db := by
  rw [selectForUpdate, Transaction.alone_bind,
    bind_of_eq_ok (show (Transaction.query true :
      Statements Database).alone db = .ok db db from rfl),
    alone_lockRows, filterMap_selectedRow selected]

/-- Writing one column of a row that has not changed is writing the row. -/
theorem withReserved_eq_save {stocks : Table Stock} {stock : Stock}
    (member : stock ∈ stocks.rows) (reserved : Int) :
    withReserved stocks stock.id reserved =
      stocks.save { stock with reserved } := by
  refine Eq.trans (Table.alter_eq_save _ member fun other otherNe =>
    if_neg otherNe) ?_
  rw [if_pos rfl]

theorem alone_reserveRows (session : Session) (reference : String)
    {db : Database} {rows : List Stock}
    (visitable : Visitable db.stocks rows) (demand onHand reserved : Int) :
    (Statements.reserveRows session reference rows demand onHand
        reserved).alone db =
      NovaCommerce.reserveRows session reference rows demand onHand reserved
        db := by
  induction rows generalizing db demand onHand reserved with
  | nil => rfl
  | cons stock rows ih =>
      unfold Statements.reserveRows NovaCommerce.reserveRows
      by_cases nonpos : demand ≤ 0
      · rw [if_pos nonpos, if_pos nonpos]
        exact ih visitable.tail _ _ _
      rw [if_neg nonpos, if_neg nonpos]
      by_cases gives : 0 < min stock.available demand
      · simp only [gives, if_true]
        have saved := withReserved_eq_save
          (visitable.subset stock List.mem_cons_self)
          (stock.reserved + min stock.available demand)
        have tail : Visitable (withReserved db.stocks stock.id
            (stock.reserved + min stock.available demand)) rows :=
          saved ▸ visitable.save_tail
            (stock.reserve (min stock.available demand)) rfl
        change (Statements.reserveRows session reference rows _ _ _).alone
          { db with
            stocks := withReserved db.stocks stock.id
              (stock.reserved + min stock.available demand)
            movements := recordMovement session stock.id
              (-min stock.available demand) .reservation reference ""
              db.movements } = _
        refine Eq.trans (ih tail _ _ _) ?_
        rw [saved]
        rfl
      · simp only [gives, if_false]
        exact ih visitable.tail _ _ _

theorem selected_of_mem_reservableRows {session : Session} {variantId : Uuid}
    {db : Database} {stock : Stock}
    (visited : stock ∈ reservableRows session db variantId) :
    stock ∈ db.stocks.rows ∧
      (alive stock && isReservableOf variantId db stock) = true := by
  obtain ⟨member, isAlive, ofVariant, active⟩ :=
    (mem_reservableRows session variantId).mp visited
  exact ⟨member, by simp [isReservableOf, isAlive, ofVariant, active]⟩

/-- Alone, the statements return exactly what the service returns. -/
theorem alone_reserveStock (session : Session) (variantId : Uuid)
    (quantity : Int) (reference : String) (db after : Database)
    (snapshot : StockSnapshot) :
    (Statements.reserveStock session variantId quantity reference).alone db =
        .ok snapshot after ↔
      NovaCommerce.reserveStock session variantId quantity reference db =
        .ok snapshot after := by
  rw [NovaCommerce.reserveStock, atomic_eq_ok, Statements.reserveStock]
  by_cases nonpos : quantity ≤ 0
  · rw [if_pos nonpos, if_pos nonpos]
    rfl
  rw [if_neg nonpos, if_neg nonpos, Transaction.alone_bind,
    bind_of_eq_ok (alone_selectForUpdate
      (fun stock => selected_of_mem_reservableRows)),
    Transaction.alone_bind]
  have same := alone_reserveRows session reference
    (visitable_reservableRows session variantId db) quantity 0 0
  have looped := reserveRows_eq session reference
    (visitable_reservableRows session variantId db) quantity 0 0
  rw [bind_of_eq_ok (same.trans looped),
    get_bind,
    bind_of_eq_ok looped]
  by_cases short : 0 < unmet Stock.available
      (reservableRows session db variantId) quantity
  · simp only [short, if_true]
    rfl
  · simp only [short, if_false]
    rfl

end Alone

/-- What others may do to a stock row: reserve units of it, unless it is
locked. -/
def RowKept (held : Set RowKey) (old new : Stock) : Prop :=
  new = { old with reserved := new.reserved } ∧
    (.stock old.id ∈ held → new = old)

/-- What others may do to the stock rows. -/
structure StocksKept (held : Set RowKey) (before after : Database) : Prop where
  warehouses_eq : after.warehouses = before.warehouses
  rows : List.Forall₂ (RowKept held) before.stocks.rows after.stocks.rows

namespace RowKept

variable {held : Set RowKey} {old new : Stock}

theorem id_eq (kept : RowKept held old new) : new.id = old.id := by
  rw [kept.1]

theorem selected_eq (kept : RowKept held old new) {before after : Database}
    (sameWarehouses : after.warehouses = before.warehouses)
    (variantId : Uuid) :
    (alive new && Statements.isReservableOf variantId after new) =
      (alive old && Statements.isReservableOf variantId before old) := by
  rw [kept.1, Statements.isReservableOf, Statements.isReservableOf,
    Database.inActiveWarehouse, Database.inActiveWarehouse,
    Database.warehouseOf, Database.warehouseOf, sameWarehouses]
  rfl

variable {olds news : List Stock}

theorem trans_rows {middles : List Stock}
    (first : List.Forall₂ (RowKept held) olds middles)
    (second : List.Forall₂ (RowKept held) middles news) :
    List.Forall₂ (RowKept held) olds news := by
  induction first generalizing news with
  | nil => exact second
  | cons row _ ih =>
      cases second with
      | cons later rest =>
          refine .cons ⟨?_, ?_⟩ (ih rest)
          · rw [later.1, row.1]
          · intro holds
            have same := row.2 holds
            subst same
            exact later.2 holds

/-- A locked row is found as it was. -/
theorem find?_rows (rows : List.Forall₂ (RowKept held) olds news) {id : Uuid}
    (holds : .stock id ∈ held) :
    (news.find? fun stock => Keyed.key stock = id) =
      olds.find? fun stock => Keyed.key stock = id := by
  induction rows with
  | nil => rfl
  | @cons old new _ _ row _ ih =>
      have sameKey : Keyed.key new = Keyed.key old := row.id_eq
      by_cases found : Keyed.key old = id
      · have idEq : old.id = id := found
        have same : new = old := row.2 (by rwa [idEq])
        subst same
        rw [List.find?_cons_of_pos (by simpa using found),
          List.find?_cons_of_pos (by simpa using found)]
      · rw [List.find?_cons_of_neg (by simpa [sameKey] using found),
          List.find?_cons_of_neg (by simpa using found), ih]

/-- The rows that a reservation selects keep their identifiers. -/
theorem selected_keys_rows (rows : List.Forall₂ (RowKept held) olds news)
    {before after : Database}
    (sameWarehouses : after.warehouses = before.warehouses)
    (variantId : Uuid) :
    (news.filter fun stock => alive stock &&
        Statements.isReservableOf variantId after stock).map Keyed.key =
      (olds.filter fun stock => alive stock &&
        Statements.isReservableOf variantId before stock).map Keyed.key := by
  induction rows with
  | nil => rfl
  | @cons old new _ _ row _ ih =>
      have sameKey : Keyed.key new = Keyed.key old := row.id_eq
      rw [List.filter_cons, List.filter_cons, row.selected_eq sameWarehouses]
      split
      · rw [List.map_cons, List.map_cons, ih, sameKey]
      · exact ih

end RowKept

namespace StocksKept

variable {held : Set RowKey} {before middle after : Database}

theorem refl (db : Database) : StocksKept held db db where
  warehouses_eq := rfl
  rows := List.forall₂_same.mpr fun _ _ => ⟨rfl, fun _ => rfl⟩

/-- A write to other tables. -/
theorem of_frame (stocks_eq : after.stocks = before.stocks)
    (warehouses_eq : after.warehouses = before.warehouses) :
    StocksKept held before after where
  warehouses_eq := warehouses_eq
  rows := by
    rw [stocks_eq]
    exact (refl before).rows

theorem trans (first : StocksKept held before middle)
    (second : StocksKept held middle after) :
    StocksKept held before after where
  warehouses_eq := second.warehouses_eq.trans first.warehouses_eq
  rows := RowKept.trans_rows first.rows second.rows

theorem anti {fewer more : Set RowKey} (subset : fewer ⊆ more)
    (kept : StocksKept more before after) :
    StocksKept fewer before after where
  warehouses_eq := kept.warehouses_eq
  rows := kept.rows.imp fun _ _ row =>
    ⟨row.1, fun holds => row.2 (subset holds)⟩

/-- A locked row is selected as it was. -/
theorem selectedRow_eq (kept : StocksKept held before after) {id : Uuid}
    (holds : .stock id ∈ held) (variantId : Uuid) :
    Statements.selectedRow Database.stocks
        (Statements.isReservableOf variantId) after id =
      Statements.selectedRow Database.stocks
        (Statements.isReservableOf variantId) before id := by
  have sameRow : after.stocks.find? id = before.stocks.find? id :=
    RowKept.find?_rows kept.rows holds
  rw [Statements.selectedRow, Statements.selectedRow, sameRow]
  apply congrArg fun condition => Option.filter condition _
  funext stock
  rw [Statements.isReservableOf, Statements.isReservableOf,
    Database.inActiveWarehouse, Database.inActiveWarehouse,
    Database.warehouseOf, Database.warehouseOf, kept.warehouses_eq]

end StocksKept

/-- A write that reaches the stock rows one by one, and only their reserved
units. -/
def KeepsRows (change : Database → Database) : Prop :=
  ∃ rowChange : Stock → Stock,
    (∀ stock, rowChange stock =
      { stock with reserved := (rowChange stock).reserved }) ∧
    ∀ db, (change db).stocks.rows = db.stocks.rows.map rowChange ∧
      (change db).warehouses = db.warehouses

theorem keepsRows_of_frame {change : Database → Database}
    (frame : ∀ db, (change db).stocks = db.stocks ∧
      (change db).warehouses = db.warehouses) :
    KeepsRows change := by
  refine ⟨id, fun _ => rfl, fun db => ?_⟩
  rw [(frame db).1, List.map_id]
  exact ⟨rfl, (frame db).2⟩

theorem KeepsRows.comp (first second : Database → Database)
    (firstKeeps : KeepsRows first) (secondKeeps : KeepsRows second) :
    KeepsRows (second ∘ first) := by
  obtain ⟨change, static, effect⟩ := firstKeeps
  obtain ⟨later, laterStatic, laterEffect⟩ := secondKeeps
  refine ⟨later ∘ change, ?_, ?_⟩
  · intro stock
    rw [Function.comp_apply, laterStatic, static stock]
  · intro db
    rw [Function.comp_apply, (laterEffect _).1, (effect db).1, List.map_map]
    exact ⟨rfl, (laterEffect _).2.trans (effect db).2⟩

/-- What others leave alone in the tables, they leave alone in the view of a
transaction. -/
theorem StocksKept.view {held : Set RowKey} {before after : Database}
    (kept : StocksKept held before after) {own : Database → Database}
    (keeps : KeepsRows own) : StocksKept held (own before) (own after) := by
  obtain ⟨rowChange, static, effect⟩ := keeps
  constructor
  · rw [(effect before).2, (effect after).2, kept.warehouses_eq]
  · rw [(effect before).1, (effect after).1, List.forall₂_map_left_iff,
      List.forall₂_map_right_iff]
    apply kept.rows.imp
    intro old new row
    constructor
    · rw [static new, static old, row.1]
    · intro holds
      rw [static old] at holds
      rw [row.2 holds]

theorem keepsRows_saveReserved (stock : Stock) :
    (Statements.saveReserved stock).Writes KeepsRows := by
  refine ⟨⟨fun row => if row.id = stock.id then
    { row with reserved := stock.reserved } else row, ?_, ?_⟩, trivial⟩
  · intro row
    dsimp only
    split <;> rfl
  · exact fun db => ⟨rfl, rfl⟩

section Locked

variable {rely : Rely RowKey Database} {now : Database}
  {before after : Progress RowKey Database}

/-- What is read is read under all of the locks. -/
theorem leads_lockJoined {key : RowKey} {joined : List RowKey}
    {view : Database}
    (leads : Leads rely now (Statements.lockJoined key joined) before view
      after) :
    ∃ earlier, rely.allows after.held earlier now ∧
      view = before.own earlier ∧ after.own = before.own ∧
      key ∈ after.held := by
  induction joined generalizing key before with
  | nil =>
      obtain ⟨earlier, allowed, rfl, rfl⟩ := leads
      exact ⟨earlier, allowed, rfl, rfl, Set.mem_insert _ _⟩
  | cons other others ih =>
      obtain ⟨_, _, ⟨_, _, rfl, rfl⟩, rest⟩ := leads_bind.mp leads
      obtain ⟨earlier, allowed, seen, own_eq, _⟩ := ih rest
      exact ⟨earlier, allowed, seen, own_eq,
        rest.held_subset (Set.mem_insert _ _)⟩

theorem own_lockRows {Row : Type} {key : Uuid → RowKey}
    {joined : Uuid → List RowKey} {current : Database → Uuid → Option Row}
    {ids : List Uuid} {rows : List Row}
    (leads : Leads rely now (Statements.lockRows key joined current ids) before
      rows after) :
    after.own = before.own := by
  induction ids generalizing before rows with
  | nil => exact congrArg Progress.own leads.2
  | cons id ids ih =>
      obtain ⟨_, _, locking, rest⟩ := leads_bind.mp leads
      obtain ⟨earlier, _, rfl, own_eq, _⟩ := leads_lockJoined locking
      rw [← own_eq]
      cases selected : current (before.own earlier) id with
      | none =>
          simp only [selected] at rest
          exact ih rest
      | some row =>
          simp only [selected] at rest
          obtain ⟨_, _, leadsRows, finished⟩ := leads_bind.mp rest
          obtain ⟨_, rfl⟩ := leads_pure.mp finished
          exact ih leadsRows

/-- Every row that was read was read under its lock. -/
theorem mem_of_leads_lockRows {Row : Type} {key : Uuid → RowKey}
    {joined : Uuid → List RowKey} {current : Database → Uuid → Option Row}
    {ids : List Uuid} {rows : List Row}
    (leads : Leads rely now (Statements.lockRows key joined current ids) before
      rows after) {row : Row} (member : row ∈ rows) :
    ∃ id held earlier, key id ∈ held ∧ rely.allows held earlier now ∧
      current (before.own earlier) id = some row ∧ key id ∈ after.held := by
  induction ids generalizing before rows with
  | nil =>
      rw [leads.1] at member
      cases member
  | cons id ids ih =>
      obtain ⟨_, _, locking, rest⟩ := leads_bind.mp leads
      obtain ⟨earlier, allowed, rfl, own_eq, locked⟩ :=
        leads_lockJoined locking
      cases selected : current (before.own earlier) id with
      | none =>
          simp only [selected] at rest
          simpa only [own_eq] using ih rest member
      | some found =>
          simp only [selected] at rest
          obtain ⟨others, middle, leadsRows, finished⟩ := leads_bind.mp rest
          obtain ⟨rfl, rfl⟩ := leads_pure.mp finished
          rcases List.mem_cons.mp member with rfl | later
          · exact ⟨id, _, earlier, locked, allowed, selected,
              leadsRows.held_subset locked⟩
          · simpa only [own_eq] using ih leadsRows later

/-- The rows are read in the order of the identifiers. -/
theorem sublist_of_leads_lockRows {Row : Type} {key : Uuid → RowKey}
    {joined : Uuid → List RowKey} {current : Database → Uuid → Option Row}
    {ids : List Uuid} {rows : List Row} (idOf : Row → Uuid)
    (hasId : ∀ db id row, current db id = some row → idOf row = id)
    (leads : Leads rely now (Statements.lockRows key joined current ids) before
      rows after) :
    (rows.map idOf).Sublist ids := by
  induction ids generalizing before rows with
  | nil =>
      rw [leads.1]
      exact List.Sublist.refl _
  | cons id ids ih =>
      obtain ⟨_, _, locking, rest⟩ := leads_bind.mp leads
      obtain ⟨earlier, _, rfl, _, _⟩ := leads_lockJoined locking
      cases selected : current (before.own earlier) id with
      | none =>
          simp only [selected] at rest
          exact (ih rest).cons id
      | some row =>
          simp only [selected] at rest
          obtain ⟨others, _, leadsRows, finished⟩ := leads_bind.mp rest
          obtain ⟨rfl, rfl⟩ := leads_pure.mp finished
          rw [List.map_cons, hasId _ _ _ selected]
          exact (ih leadsRows).cons_cons id

/-- Every row that was to be read was locked, and was read if it was still
current then. -/
theorem visited_of_leads_lockRows {Row : Type} {key : Uuid → RowKey}
    {joined : Uuid → List RowKey} {current : Database → Uuid → Option Row}
    {ids : List Uuid} {rows : List Row}
    (leads : Leads rely now (Statements.lockRows key joined current ids) before
      rows after) {id : Uuid} (listed : id ∈ ids) :
    ∃ held earlier, key id ∈ held ∧ rely.allows held earlier now ∧
      ∀ row, current (before.own earlier) id = some row → row ∈ rows := by
  induction ids generalizing before rows with
  | nil => cases listed
  | cons first ids ih =>
      obtain ⟨_, _, locking, rest⟩ := leads_bind.mp leads
      obtain ⟨earlier, allowed, rfl, own_eq, locked⟩ :=
        leads_lockJoined locking
      cases selected : current (before.own earlier) first with
      | none =>
          simp only [selected] at rest
          rcases List.mem_cons.mp listed with rfl | later
          · refine ⟨_, earlier, locked, allowed, ?_⟩
            intro row current
            rw [selected] at current
            cases current
          · simpa only [own_eq] using ih rest later
      | some found =>
          simp only [selected] at rest
          obtain ⟨others, middle, leadsRows, finished⟩ := leads_bind.mp rest
          obtain ⟨rfl, rfl⟩ := leads_pure.mp finished
          rcases List.mem_cons.mp listed with rfl | later
          · refine ⟨_, earlier, locked, allowed, ?_⟩
            intro row current
            rw [selected] at current
            cases current
            exact List.mem_cons_self
          · obtain ⟨held, other, holds, allowed, visited⟩ :=
              ih leadsRows later
            rw [own_eq] at visited
            exact ⟨held, other, holds, allowed, fun row current =>
              List.mem_cons_of_mem _ (visited row current)⟩

/-- If what is current about a locked row cannot change, the rows that were
read are the ones that are current at the commit. -/
theorem leads_lockRows {Row : Type} {key : Uuid → RowKey}
    {joined : Uuid → List RowKey} {current : Database → Uuid → Option Row}
    {ids : List Uuid} {rows : List Row}
    (stable : ∀ id ∈ ids, ∀ held earlier, key id ∈ held →
      rely.allows held earlier now →
      current (before.own earlier) id = current (before.own now) id)
    (leads : Leads rely now (Statements.lockRows key joined current ids) before
      rows after) :
    rows = ids.filterMap (current (before.own now)) ∧
      after.own = before.own ∧ ∀ id ∈ ids, key id ∈ after.held := by
  induction ids generalizing before rows with
  | nil =>
      obtain ⟨rfl, rfl⟩ := leads
      simp
  | cons id ids ih =>
      obtain ⟨_, _, locking, rest⟩ := leads_bind.mp leads
      obtain ⟨earlier, allowed, rfl, own_eq, locked⟩ :=
        leads_lockJoined locking
      have same := stable id List.mem_cons_self _ earlier locked allowed
      have tail : ∀ other ∈ ids, ∀ held earlier, key other ∈ held →
          rely.allows held earlier now →
          current (before.own earlier) other =
            current (before.own now) other :=
        fun other otherMem => stable other (List.mem_cons_of_mem _ otherMem)
      cases selected : current (before.own earlier) id with
      | none =>
          simp only [selected] at rest
          obtain ⟨rfl, ownEq, held⟩ := ih (by rwa [own_eq]) rest
          rw [own_eq] at ownEq ⊢
          rw [List.filterMap_cons_none (same ▸ selected)]
          refine ⟨rfl, ownEq, ?_⟩
          intro other otherMem
          rcases List.mem_cons.mp otherMem with rfl | later
          · exact rest.held_subset locked
          · exact held other later
      | some row =>
          simp only [selected] at rest
          obtain ⟨others, middle, leadsRows, finished⟩ := leads_bind.mp rest
          obtain ⟨rfl, rfl⟩ := leads_pure.mp finished
          obtain ⟨rfl, ownEq, held⟩ := ih (by rwa [own_eq]) leadsRows
          rw [own_eq] at ownEq ⊢
          rw [List.filterMap_cons_some (same ▸ selected)]
          refine ⟨rfl, ownEq, ?_⟩
          intro other otherMem
          rcases List.mem_cons.mp otherMem with rfl | later
          · exact leadsRows.held_subset locked
          · exact held other later

end Locked

theorem reserveRows_blind (session : Session) (reference : String)
    (rows : List Stock) (demand onHand reserved : Int) :
    (Statements.reserveRows session reference rows demand onHand
      reserved).Blind := by
  induction rows generalizing demand onHand reserved with
  | nil => trivial
  | cons stock rows ih =>
      unfold Statements.reserveRows
      split
      · exact ih _ _ _
      · dsimp only
        split
        · exact ih _ _ _
        · exact ih _ _ _

section Writes

variable {allowed : (Database → Database) → Prop}

open Statements

theorem writes_lockJoined (key : RowKey) (joined : List RowKey) :
    (lockJoined key joined).Writes allowed := by
  induction joined generalizing key with
  | nil => exact fun _ => trivial
  | cons other others ih => exact fun _ => ih other

theorem writes_lockRows {Row : Type} (key : Uuid → RowKey)
    (joined : Uuid → List RowKey) (current : Database → Uuid → Option Row)
    (ids : List Uuid) :
    (lockRows key joined current ids).Writes allowed := by
  induction ids with
  | nil => trivial
  | cons id ids ih =>
      refine Transaction.writes_bind (writes_lockJoined _ _) fun db => ?_
      split
      · exact Transaction.writes_bind ih fun _ => trivial
      · exact ih

variable (saves : ∀ stock, (saveReserved stock).Writes allowed)
  (records : ∀ session stock quantity reason reference note,
    (Statements.createMovement session stock quantity reason reference
      note).Writes allowed)

include saves records

theorem writes_reserveRows (session : Session) (reference : String)
    (rows : List Stock) (demand onHand reserved : Int) :
    (Statements.reserveRows session reference rows demand onHand
      reserved).Writes allowed := by
  induction rows generalizing demand onHand reserved with
  | nil => trivial
  | cons stock rows ih =>
      unfold Statements.reserveRows
      split
      · exact ih _ _ _
      · dsimp only
        split
        · refine Transaction.writes_bind (saves _) fun _ => ?_
          exact Transaction.writes_bind (records _ _ _ _ _ _)
            fun _ => ih _ _ _
        · exact ih _ _ _

/-- A reservation writes reserved units and movements. -/
theorem writes_reserveStock (session : Session) (variantId : Uuid)
    (quantity : Int) (reference : String) :
    (Statements.reserveStock session variantId quantity reference).Writes
      allowed := by
  unfold Statements.reserveStock
  split
  · trivial
  · refine Transaction.writes_bind (fun _ => writes_lockRows _ _ _ _)
      fun _ => ?_
    refine Transaction.writes_bind
      (writes_reserveRows saves records _ _ _ _ _ _) fun _ => ?_
    dsimp only
    split <;> trivial

end Writes

theorem keepsRows_createMovement (session : Session) (stock : Uuid)
    (quantity : Int) (reason : MovementReason) (reference note : String) :
    (Statements.createMovement session stock quantity reason reference
      note).Writes KeepsRows :=
  ⟨keepsRows_of_frame fun _ => ⟨rfl, rfl⟩, trivial⟩

/-- What a reservation has done by the commit of its transaction: a greedy pass
over the rows of the variant in active warehouses, all of them locked. -/
structure ReservedRows (session : Session) (variantId : Uuid) (quantity : Int)
    (reference : String) (now : Database)
    (before after : Progress RowKey Database) (rows : List Stock) : Prop where
  perm : rows.Perm ((before.own now).stocks.rows.filter fun stock =>
    alive stock && Statements.isReservableOf variantId (before.own now) stock)
  positive : 0 < quantity
  met : ¬0 < unmet Stock.available rows quantity
  after_eq : after.own now = (before.own now).afterPass session .reserve
    (fun take => -take) .reservation reference rows quantity
  locked : ∀ stock ∈ rows, .stock stock.id ∈ after.held
  keeps : KeepsRows after.own

theorem visitable_of_perm {stocks : Table Stock} {keep : Stock → Bool}
    {rows : List Stock} (perm : rows.Perm (stocks.rows.filter keep)) :
    Visitable stocks rows where
  subset _ visited := (List.mem_filter.mp (perm.mem_iff.mp visited)).1
  ids_nodup := ids_nodup_of_perm perm

section Reservation

variable {rely : Rely RowKey Database} {now : Database}
  {before after : Progress RowKey Database}

/-- The rows that are selected and locked are those of the commit. -/
theorem leads_selectReservable {session : Session} {variantId : Uuid}
    {rows : List Stock}
    (relies : ∀ held earlier, rely.allows held earlier now →
      StocksKept held earlier now)
    (keeps : KeepsRows before.own)
    (leads : Leads rely now (Statements.selectForUpdate .stock Database.stocks
      (Statements.isReservableOf variantId)
      (fun db => reservableRows session db variantId)
      Statements.warehouseOf) before rows after) :
    rows.Perm ((before.own now).stocks.rows.filter fun stock => alive stock &&
        Statements.isReservableOf variantId (before.own now) stock) ∧
      after.own = before.own ∧
      ∀ stock ∈ rows, .stock stock.id ∈ after.held := by
  obtain ⟨_, started, ⟨earlier, allowed, rfl, same⟩, locked⟩ :=
    leads_bind.mp leads
  rw [same] at locked
  obtain ⟨rowsEq, ownEq, held⟩ := leads_lockRows
    (fun id _ held earlier holds allowed =>
      (((relies held earlier allowed).view keeps).selectedRow_eq holds
        variantId).symm) locked
  have keys : ((reservableRows session (before.own earlier) variantId).map
      Keyed.key).Perm
      (((before.own now).stocks.rows.filter fun stock => alive stock &&
        Statements.isReservableOf variantId (before.own now) stock).map
          Keyed.key) := by
    rw [RowKept.selected_keys_rows
      ((relies _ earlier allowed).view keeps).rows
      ((relies _ earlier allowed).view keeps).warehouses_eq variantId]
    exact (reservableRows_perm session variantId _).map _
  have perm : rows.Perm ((before.own now).stocks.rows.filter fun stock =>
      alive stock &&
        Statements.isReservableOf variantId (before.own now) stock) := by
    rw [rowsEq]
    have found := keys.filterMap (Statements.selectedRow Database.stocks
      (Statements.isReservableOf variantId) (before.own now))
    rwa [filterMap_selectedRow (fun stock member => List.mem_filter.mp member)]
      at found
  refine ⟨perm, ownEq, ?_⟩
  intro stock visited
  have selected := perm.mem_iff.mp visited
  exact held _ (keys.mem_iff.mpr (List.mem_map_of_mem selected))

theorem leads_reserveStock {session : Session} {variantId : Uuid}
    {quantity : Int} {reference : String} {snapshot : StockSnapshot}
    (relies : ∀ held earlier, rely.allows held earlier now →
      StocksKept held earlier now)
    (keeps : KeepsRows before.own)
    (leads : Leads rely now (Statements.reserveStock session variantId quantity
      reference) before snapshot after) :
    ∃ rows, ReservedRows session variantId quantity reference now before after
      rows := by
  rw [Statements.reserveStock] at leads
  by_cases nonpos : quantity ≤ 0
  · rw [if_pos nonpos] at leads
    exact leads.elim
  rw [if_neg nonpos] at leads
  obtain ⟨rows, middle, selected, rest⟩ := leads_bind.mp leads
  obtain ⟨perm, ownEq, locked⟩ := leads_selectReservable relies keeps selected
  obtain ⟨⟨remaining, onHand, reserved⟩, last, looped, rest⟩ :=
    leads_bind.mp rest
  obtain ⟨called, heldEq⟩ :=
    looped.alone_of_blind (reserveRows_blind session reference rows _ _ _)
  have keepsAfter := looped.own_of_writes KeepsRows.comp
    (writes_reserveRows keepsRows_saveReserved keepsRows_createMovement session
      reference rows _ _ _) (ownEq ▸ keeps)
  have visitable := visitable_of_perm perm
  rw [ownEq, alone_reserveRows session reference visitable,
    reserveRows_eq session reference visitable] at called
  injection called with valueEq afterEq
  have remainingEq : unmet Stock.available rows quantity = remaining :=
    congrArg Prod.fst valueEq
  by_cases short : 0 < remaining
  · simp only [short, if_true] at rest
    exact rest.elim
  simp only [short, if_false] at rest
  obtain ⟨_, same⟩ := leads_pure.mp rest
  subst same
  refine ⟨rows, perm, not_le.mp nonpos, remainingEq ▸ short, afterEq.symm, ?_,
    keepsAfter⟩
  intro stock visited
  exact heldEq ▸ locked stock visited

variable {session : Session} {variantId : Uuid} {quantity : Int}
  {reference : String} {rows : List Stock}

/-- A reservation takes its quantity of its variant. -/
theorem ReservedRows.draws
    (reserved : ReservedRows session variantId quantity reference now before
      after rows) :
    Draws .reserve (before.own now).isReservable (before.own now).stocks
      (after.own now).stocks (takenFrom Stock.available rows quantity)
      (fun variant => if variant = variantId then quantity else 0) := by
  have metInFull := unmet_eq_zero reserved.positive.le reserved.met
  have draws : Draws .reserve (before.own now).isReservable
      (before.own now).stocks
      (Drawing.reserve.apply (before.own now).stocks
        (takenFrom Stock.available rows quantity))
      (takenFrom Stock.available rows quantity)
      (fun variant => if variant = variantId then
        quantity - unmet Stock.available rows quantity else 0) := by
    refine Draws.pass reserved.perm (fun stock _ => available_nonneg stock)
      ?_ ?_ _
    · intro stock visited
      have selected :=
        (List.mem_filter.mp (reserved.perm.mem_iff.mp visited)).2
      simp only [Statements.isReservableOf, Bool.and_eq_true,
        decide_eq_true_eq] at selected
      exact selected.2.1
    · intro stock selected
      simp only [Statements.isReservableOf, Bool.and_eq_true] at selected
      exact (Bool.and_eq_true _ _).mpr ⟨selected.1, selected.2.2⟩
  rw [metInFull, sub_zero] at draws
  rw [reserved.after_eq]
  exact draws

/-- Rows that units are taken from are locked. -/
def LocksTaken (after : Progress RowKey Database) (amount : Uuid → Int) :
    Prop :=
  ∀ stock, amount stock ≠ 0 → .stock stock ∈ after.held

theorem ReservedRows.locksTaken
    (reserved : ReservedRows session variantId quantity reference now before
      after rows) :
    LocksTaken after (takenFrom Stock.available rows quantity) := by
  intro stock takes
  by_contra notHeld
  apply takes
  apply taken_of_notMem
  intro visited
  obtain ⟨row, rowMem, rfl⟩ := List.mem_map.mp visited
  exact notHeld (reserved.locked row rowMem)

end Reservation

/-- Drawing from locked rows leaves the others alone. -/
theorem Draws.rowsKept {selected : Stock → Bool} {before after : Table Stock}
    {progress : Progress RowKey Database} {amount wanted : Uuid → Int}
    (draws : Draws .reserve selected before after amount wanted)
    (locks : LocksTaken progress amount) :
    List.Forall₂ (RowKept progress.heldᶜ) before.rows after.rows := by
  rw [draws.after_eq]
  change List.Forall₂ _ before.rows (before.rows.map _)
  rw [List.forall₂_map_right_iff, List.forall₂_same]
  intro stock _
  refine ⟨rfl, ?_⟩
  intro notHeld
  have untouched : amount stock.id = 0 := by
    by_contra takes
    exact notHeld (locks stock.id takes)
  rw [untouched]
  exact Drawing.reserve.draw_zero stock

end NovaCommerce
