import NovaCommerce.InventoryTransactions
import NovaCommerce.CheckoutTransactions
import NovaCommerce.TransitionEffects

/-!
# Order transitions, statement by statement

A transition locks its order and reads it again before it looks at the status.
The items of the order are found by a plain query; the stock rows that they
are settled with are locked one variant after the other.
-/

namespace NovaCommerce

open AtomicCall LockingTransactions

namespace Statements

/-- The stock table with other counts in one row. -/
def withUnits (stocks : Table Stock) (id : Uuid) (onHand reserved : Int) :
    Table Stock :=
  stocks.alter
    (fun row => if row.id = id then { row with onHand, reserved } else row)
    (by
      intro row
      split <;> rfl)

/-- `stock.save(update_fields=["reserved", "on_hand", "updated_at"])`. -/
def saveUnits (stock : Stock) : Statements Unit :=
  .execute fun db => { db with
    stocks := withUnits db.stocks stock.id stock.onHand stock.reserved }

/-- The loop that `release_reservation` and `commit_sale` share. -/
def drawRows (session : Session) (save : Stock → Statements Unit)
    (capacity : Stock → Int) (draw : Stock → Int → Stock)
    (signed : Int → Int) (reason : MovementReason) (reference : String) :
    List Stock → Int → Statements Int
  | [], remaining => pure remaining
  | stock :: rows, remaining =>
      if remaining ≤ 0 then pure remaining
      else
        let amount := min (capacity stock) remaining
        if amount ≠ 0 then do
          save (draw stock amount)
          createMovement session stock.id (signed amount) reason reference ""
          drawRows session save capacity draw signed reason reference rows
            (remaining - amount)
        else
          drawRows session save capacity draw signed reason reference rows
            remaining

/-- The rows that hold reserved units of a variant, locked. -/
def lockReserved (session : Session) (variantId : Uuid) :
    Statements (List Stock) :=
  selectForUpdate .stock Database.stocks
    (fun _ stock => stock.variant = variantId && 0 < stock.reserved)
    (fun db => reservedRows session db variantId)

def releaseReservation (session : Session) (variantId : Uuid)
    (quantity : Int) (reference : String := "") : Statements Unit := do
  let rows ← lockReserved session variantId
  let _ ← drawRows session saveReserved Stock.reserved Stock.release
    (fun giveBack => giveBack) .reservationRelease reference rows quantity
  pure ()

def commitSale (session : Session) (variantId : Uuid) (quantity : Int)
    (reference : String) : Statements Unit := do
  let rows ← lockReserved session variantId
  let remaining ← drawRows session saveUnits Stock.sellable Stock.sell
    (fun take => -take) .sale reference rows quantity
  if 0 < remaining then
    .fail (.outOfStockError
      s!"could not commit {quantity} for variant {variantId} (short by {remaining})")
  else pure ()

/-- `Order.objects.select_for_update().get(pk=...)`. -/
def lockOrder (id : Uuid) : Statements Order := do
  let orders ← selectForUpdate .order Database.orders
    (fun _ order => order.id = id)
    (fun db => ((objects db.orders).find? fun order => order.id = id).toList)
  match orders with
  | order :: _ => pure order
  | [] => .fail (.doesNotExist "Order")

/-- `if item.variant_id: ...`. -/
def forItem (call : Uuid → Int → Statements Unit) (item : OrderItem) :
    Statements Unit :=
  match item.variant with
  | some variant => call variant item.quantity
  | none => pure ()

/-- `for item in order.items.all(): ...`. -/
def forItems (call : Uuid → Int → Statements Unit) :
    List OrderItem → Statements Unit
  | [] => pure ()
  | item :: items => do
      forItem call item
      forItems call items

/-- `order.items.all()`. -/
def itemsOfOrder (session : Session) (order : Uuid) :
    Statements (List OrderItem) := do
  let db ← .query false
  pure (session.scan OrderItem (db.orderItemsOf order))

def settleStock (session : Session) (order : Order) (newStatus : OrderStatus) :
    Statements Unit :=
  match newStatus with
  | .paid => do
      let items ← itemsOfOrder session order.id
      forItems (fun variant quantity =>
        commitSale session variant quantity (toString order.id)) items
  | .cancelled => do
      let items ← itemsOfOrder session order.id
      forItems (fun variant quantity =>
        releaseReservation session variant quantity (toString order.id)) items
  | _ => pure ()

/-- The orders after one of them entered a status. -/
def withStatus (orders : Table Order) (id : Uuid) (newStatus : OrderStatus)
    (now : Time) : Table Order :=
  orders.alter
    (fun row => if row.id = id then row.enterStatus newStatus now else row)
    (by
      intro row
      split
      · exact congrArg TimeStampedUUIDModel.id (base_enterStatus _ _ _)
      · rfl)

def transitionStatus (session : Session) (orderId : Uuid)
    (newStatus : OrderStatus) (actor : Option Uuid := none)
    (message : String := "") : Statements Order := do
  let order ← lockOrder orderId
  if order.canTransitionTo newStatus then do
    settleStock session order newStatus
    -- `order.save(update_fields=[...])`
    .execute fun db => { db with
      orders := withStatus db.orders order.id newStatus session.now }
    createOrderEvent session order.id s!"status:{newStatus.value}"
      (if message = "" then s!"Status changed to {newStatus.value}"
        else message)
      actor (.obj [])
    pure (order.enterStatus newStatus session.now)
  else
    .fail (.checkoutError
      s!"cannot transition order {order.number} from {order.status.value} to {newStatus.value}")

end Statements

section Alone

open Transaction

variable {session : Session} {variantId : Uuid} {quantity : Int}
  {reference : String} {db after : Database}

theorem withUnits_eq_save {stocks : Table Stock} {stock : Stock}
    (member : stock ∈ stocks.rows) (onHand reserved : Int) :
    Statements.withUnits stocks stock.id onHand reserved =
      stocks.save { stock with onHand, reserved } := by
  refine Eq.trans (Table.alter_eq_save _ member fun other otherNe =>
    if_neg otherNe) ?_
  rw [if_pos rfl]

/-- The statement writes the row as a whole, as long as it is in the table. -/
def SavesRow (save : Stock → Statements Unit) (drawing : Drawing) : Prop :=
  ∀ (db : Database) (stock : Stock) (amount : Int), stock ∈ db.stocks.rows →
    (save (drawing.draw stock amount)).alone db =
      .ok () { db with
        stocks := db.stocks.save (drawing.draw stock amount) }

theorem savesRow_release : SavesRow Statements.saveReserved .release := by
  intro db stock amount member
  have saved : Statements.withReserved db.stocks stock.id
      (stock.reserved - amount) = db.stocks.save (stock.release amount) :=
    withReserved_eq_save member _
  exact congrArg (fun stocks => EStateM.Result.ok () { db with
    stocks := stocks }) saved

theorem savesRow_sell : SavesRow Statements.saveUnits .sell := by
  intro db stock amount member
  have saved : Statements.withUnits db.stocks stock.id
      (stock.onHand - amount) (stock.reserved - amount) =
        db.stocks.save (stock.sell amount) :=
    withUnits_eq_save member _ _
  exact congrArg (fun stocks => EStateM.Result.ok () { db with
    stocks := stocks }) saved

theorem alone_drawRows {save : Stock → Statements Unit} {drawing : Drawing}
    (saves : SavesRow save drawing) (signed : Int → Int)
    (reason : MovementReason) {rows : List Stock}
    (visitable : Visitable db.stocks rows) (demand : Int) :
    (Statements.drawRows session save drawing.capacity drawing.draw signed
        reason reference rows demand).alone db =
      drawRows session drawing.capacity drawing.draw signed reason reference
        rows demand db := by
  induction rows generalizing db demand with
  | nil => rfl
  | cons stock rows ih =>
      unfold Statements.drawRows drawRows
      by_cases nonpos : demand ≤ 0
      · rw [if_pos nonpos, if_pos nonpos]
        rfl
      rw [if_neg nonpos, if_neg nonpos]
      by_cases gives : min (drawing.capacity stock) demand ≠ 0
      · rw [if_pos gives, if_pos gives, alone_bind,
          bind_of_eq_ok (saves db stock _
            (visitable.subset stock List.mem_cons_self))]
        exact ih (visitable.save_tail _ (drawing.draw_id stock _)) _
      · rw [if_neg gives, if_neg gives]
        exact ih visitable.tail _

theorem alone_lockReserved :
    (Statements.lockReserved session variantId).alone db =
      .ok (reservedRows session db variantId) db := by
  apply alone_selectForUpdate
  intro stock visited
  obtain ⟨member, isAlive, ofVariant, holds⟩ :=
    (mem_reservedRows session variantId).mp visited
  exact ⟨member, by simp [isAlive, ofVariant, holds]⟩

theorem alone_releaseReservation :
    (Statements.releaseReservation session variantId quantity reference).alone
        db = .ok () after ↔
      releaseReservation session variantId quantity reference db =
        .ok () after := by
  have visitable := visitable_reservedRows session variantId db
  have same : (Statements.drawRows session Statements.saveReserved
      Stock.reserved Stock.release (fun giveBack => giveBack)
      .reservationRelease reference (reservedRows session db variantId)
      quantity).alone db = _ :=
    alone_drawRows savesRow_release _ _ visitable quantity
  have looped : drawRows session Stock.reserved Stock.release
      (fun giveBack => giveBack) .reservationRelease reference
      (reservedRows session db variantId) quantity db = .ok _ _ :=
    drawRows_eq session .release _ _ reference visitable quantity
  rw [releaseReservation, atomic_eq_ok, Statements.releaseReservation,
    alone_bind, bind_of_eq_ok alone_lockReserved, alone_bind,
    bind_of_eq_ok (same.trans looped),
    get_bind,
    bind_of_eq_ok looped]
  rfl

theorem alone_commitSale :
    (Statements.commitSale session variantId quantity reference).alone db =
        .ok () after ↔
      commitSale session variantId quantity reference db = .ok () after := by
  have visitable := visitable_reservedRows session variantId db
  have same : (Statements.drawRows session Statements.saveUnits
      Stock.sellable Stock.sell (fun take => -take) .sale reference
      (reservedRows session db variantId) quantity).alone db = _ :=
    alone_drawRows savesRow_sell _ _ visitable quantity
  have looped : drawRows session Stock.sellable Stock.sell
      (fun take => -take) .sale reference
      (reservedRows session db variantId) quantity db = .ok _ _ :=
    drawRows_eq session .sell _ _ reference visitable quantity
  rw [commitSale, atomic_eq_ok, Statements.commitSale, alone_bind,
    bind_of_eq_ok alone_lockReserved, alone_bind,
    bind_of_eq_ok (same.trans looped),
    get_bind,
    bind_of_eq_ok looped]
  split <;> rfl

theorem alone_forItems {statements : Uuid → Int → Statements Unit}
    {call : Uuid → Int → Service Unit}
    (same : ∀ variant quantity db after,
      (statements variant quantity).alone db = .ok () after ↔
        call variant quantity db = .ok () after) (items : List OrderItem) :
    (Statements.forItems statements items).alone db = .ok () after ↔
      forItems call items db = .ok () after := by
  have one : ∀ item db after,
      (Statements.forItem statements item).alone db = .ok () after ↔
        forItem call item db = .ok () after := by
    intro item db after
    unfold Statements.forItem forItem
    cases item.variant with
    | none => rfl
    | some variant => exact same variant _ db after
  induction items generalizing db with
  | nil => rfl
  | cons item items ih =>
      rw [Statements.forItems, forItems, alone_bind, bind_eq_ok, bind_eq_ok]
      exact exists_congr fun _ => exists_congr fun _ =>
        and_congr (one item db _) ih

theorem alone_settleStock (order : Order) (newStatus : OrderStatus) :
    (Statements.settleStock session order newStatus).alone db =
        .ok () after ↔
      settleStock session order newStatus db = .ok () after := by
  rw [settleStock, get_bind]
  have found : (Statements.itemsOfOrder session order.id).alone db =
      .ok (session.scan OrderItem (db.orderItemsOf order.id)) db := rfl
  cases newStatus with
  | paid =>
      rw [Statements.settleStock, alone_bind, bind_of_eq_ok found]
      exact alone_forItems (fun _ _ _ _ => alone_commitSale) _
  | cancelled =>
      rw [Statements.settleStock, alone_bind, bind_of_eq_ok found]
      exact alone_forItems (fun _ _ _ _ => alone_releaseReservation) _
  | pending | packed | shipped | delivered | refunded => rfl

theorem alone_lockOrder {id : Uuid} {order : Order} :
    (Statements.lockOrder id).alone db = .ok order after ↔
      lockOrder id db = .ok order after := by
  have locked : (Statements.selectForUpdate .order Database.orders
      (fun _ order => decide (order.id = id))
      (fun db => ((objects db.orders).find? fun order =>
        order.id = id).toList)).alone db =
      .ok ((objects db.orders).find? fun order => order.id = id).toList
        db := by
    apply alone_selectForUpdate
    intro row listed
    have found := Option.mem_toList.mp listed
    have selected := List.mem_filter.mp (List.mem_of_find?_eq_some found)
    have hasId := List.find?_some found
    exact ⟨selected.1, by rw [selected.2, hasId]; rfl⟩
  rw [Statements.lockOrder, alone_bind, bind_of_eq_ok locked, lockOrder,
    get_bind]
  cases (objects db.orders).find? fun order => order.id = id with
  | none => constructor <;> intro impossible <;> cases impossible
  | some row => rfl

/-- Writing the status of a row that has not changed is writing the row. -/
theorem withStatus_eq_save {orders : Table Order} {order : Order}
    (member : order ∈ orders.rows) (newStatus : OrderStatus) (now : Time) :
    Statements.withStatus orders order.id newStatus now =
      orders.save (order.enterStatus newStatus now) := by
  refine Eq.trans (Table.alter_eq_save _ member fun other otherNe =>
    if_neg otherNe) ?_
  rw [if_pos rfl]

/-- Alone, the statements return exactly what the service returns. -/
theorem alone_transitionStatus {orderId : Uuid} {newStatus : OrderStatus}
    {actor : Option Uuid} {message : String} {changed : Order} :
    (Statements.transitionStatus session orderId newStatus actor
        message).alone db = .ok changed after ↔
      transitionStatus session orderId newStatus actor message db =
        .ok changed after := by
  rw [transitionStatus, atomic_eq_ok, Statements.transitionStatus, alone_bind,
    bind_eq_ok, bind_eq_ok]
  refine exists_congr fun order => exists_congr fun middle => ?_
  rw [alone_lockOrder]
  refine and_congr_right fun locked => ?_
  obtain ⟨rfl, member, isAlive, rfl⟩ := lockOrder_eq_ok locked
  by_cases allowed : order.canTransitionTo newStatus = true
  · rw [if_pos allowed, if_pos allowed, alone_bind, bind_eq_ok, bind_eq_ok]
    refine exists_congr fun _ => exists_congr fun settled => ?_
    rw [alone_settleStock]
    refine and_congr_right fun settling => ?_
    have sameOrders : order ∈ settled.orders.rows := by
      rw [settleStock_stockOnly settling]
      exact member
    have saved : (Transaction.execute fun db => { db with
        orders := Statements.withStatus db.orders order.id newStatus
          session.now } : Statements Unit).alone settled =
        saveOrder (order.enterStatus newStatus session.now) settled := by
      change EStateM.Result.ok () { settled with
        orders := Statements.withStatus settled.orders order.id newStatus
          session.now } = _
      rw [withStatus_eq_save sameOrders]
      rfl
    rw [alone_bind, bind_eq_ok, bind_eq_ok]
    refine exists_congr fun _ => exists_congr fun final => ?_
    rw [saved, alone_bind, alone_createOrderEvent]
    rfl
  · rw [if_neg allowed, if_neg allowed]
    constructor <;> intro impossible <;> cases impossible

end Alone

end NovaCommerce
