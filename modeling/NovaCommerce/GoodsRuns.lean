import NovaCommerce.OrderUnits
import NovaCommerce.StoreRuns

/-!
# What the calls do to the goods

Seen through the stock rows, the order items and the statuses of the orders,
every call of the store checks a cart out, moves one order, adjusts one stock
row, or changes nothing.
-/

namespace NovaCommerce

open AtomicCall TextDecoding

/-- The stock rows, the order items, and the identifier and the status of
every order are the same. -/
structure SameGoods (db after : Database) : Prop where
  stocks_eq : after.stocks = db.stocks
  orderItems_eq : after.orderItems = db.orderItems
  orders_eq : after.orders = db.orders ∨
    ∃ order ∈ db.orders.rows, ∃ changed : Order, changed.id = order.id ∧
      changed.status = order.status ∧
      after.orders = db.orders.save changed

namespace SameGoods

variable {db after : Database}

theorem refl (db : Database) : SameGoods db db :=
  ⟨rfl, rfl, Or.inl rfl⟩

theorem orderKeys_eq (same : SameGoods db after) :
    after.orders.keys = db.orders.keys := by
  rcases same.orders_eq with sameOrders | ⟨_, _, _, _, _, saved⟩
  · rw [sameOrders]
  · rw [saved, Table.keys_save]

theorem itemsHaveOrders (same : SameGoods db after)
    (haveOrders : db.ItemsHaveOrders) : after.ItemsHaveOrders := by
  intro item itemMem
  rw [same.orderKeys_eq]
  exact haveOrders item (same.orderItems_eq ▸ itemMem)

theorem unitsIn_eq (same : SameGoods db after)
    (among : OrderStatus → Bool) (variant : Uuid) :
    after.unitsIn among variant = db.unitsIn among variant := by
  rcases same.orders_eq with
    sameOrders | ⟨order, member, changed, sameId, sameStatus, saved⟩
  · exact unitsIn_congr sameOrders same.orderItems_eq
  · rw [unitsIn_save _ _ member sameId saved same.orderItems_eq, sameStatus,
      sub_add_cancel]

theorem reservedOf_eq (same : SameGoods db after) (variant : Uuid) :
    after.reservedOf variant = db.reservedOf variant := by
  rw [Database.reservedOf, same.stocks_eq]
  rfl

theorem onHandOf_eq (same : SameGoods db after) (variant : Uuid) :
    after.onHandOf variant = db.onHandOf variant := by
  rw [Database.onHandOf, same.stocks_eq]
  rfl

end SameGoods

/-- What a call does to the goods.  Of a webhook `recorded` is the database
before, and `moved` the one after the order was moved. -/
inductive GoodsStepped (db : Database) : StoreCommand → Database → Prop
  | same {command : StoreCommand} {after : Database}
      (same : SameGoods db after) : GoodsStepped db command after
  | checkedOut {session : Session} {cart : Cart} {user : Option Uuid}
      {payload : CheckoutInput} {after middle : Database} {order : Order}
      {coupon : Option Coupon} {discount : Cents} {sold : List OrderItem}
      {amount : Uuid → Int} {row : Cart}
      (checkedOut : CheckedOut session cart user payload db after order
        coupon discount middle sold amount row) :
      GoodsStepped db (.createOrderFromCart session cart user payload) after
  | transitioned {session : Session} {order : Order}
      {newStatus : OrderStatus} {actor : Option Uuid} {message : String}
      {after : Database}
      (transitioned : Transitioned session order newStatus db after) :
      GoodsStepped db (.transitionStatus session order.id newStatus actor
        message) after
  | webhook {session : Session} {gateway : Gateway} {providerCode : String}
      {headers : Headers} {body : Bytes} {order : Order}
      {newStatus : OrderStatus} {recorded moved after : Database}
      (before : SameGoods db recorded)
      (transitioned : Transitioned session order newStatus recorded moved)
      (wasPending : newStatus = .cancelled → order.status = .pending)
      (later : SameGoods moved after) :
      GoodsStepped db (.handleWebhook session gateway providerCode headers
        body) after
  | adjusted {session : Session} {variantId : Uuid}
      {warehouseCode note : String} {delta : Int} {warehouse : Warehouse}
      {stocks : Table Stock} {stock : Stock} {after : Database}
      (returned : Returns (adjustStock session variantId warehouseCode delta
        note) db)
      (located : db.findWarehouse warehouseCode = some warehouse)
      (row : AdjustedRow session db variantId warehouse.id stocks stock)
      (after_eq : after = { db with
        stocks := stocks.save
          { stock with onHand := max (stock.onHand + delta) 0 }
        movements := after.movements }) :
      GoodsStepped db (.adjustStock session variantId warehouseCode delta
        note) after

/-- A charge attempt writes at most the payment reference of an order. -/
theorem Charged.sameGoods {session : Session} {order : Order}
    {provider : PaymentProvider} {db after : Database} {payment : Payment}
    (charged : Charged session order provider db after payment) :
    SameGoods db after := by
  refine ⟨by rw [charged.frame], by rw [charged.frame], ?_⟩
  rcases charged.orders_eq with same | ⟨row, rowMem, _, _, saved⟩
  · exact Or.inl same
  · refine Or.inr ⟨row, rowMem, _, ?_, ?_, saved⟩ <;> rfl

theorem goodsStepped (db : Database) (command : StoreCommand) :
    GoodsStepped db command (command.step db) := by
  have effect := stepped db command
  generalize command.step db = after at effect
  cases effect with
  | unchanged => exact .same (.refl db)
  | checkedOut checkedOut => exact .checkedOut checkedOut
  | charged _ charged => exact .same charged.sameGoods
  | @webhook _ _ _ _ _ _ _ _ recorded moved after _ _ matched =>
      have before : SameGoods db recorded := by
        rw [matched.recorded_eq]
        exact ⟨rfl, rfl, Or.inl rfl⟩
      have later : SameGoods moved after := by
        rw [matched.after_eq]
        exact ⟨rfl, rfl, Or.inl rfl⟩
      have movedOrder := matched.movedOrder
      generalize statusEq : WebhookResult.newStatus _ = status at movedOrder
      cases movedOrder with
      | paid transitioned =>
          exact .webhook before transitioned (by simp) later
      | cancelled _ isPending transitioned =>
          exact .webhook before transitioned (fun _ => isPending) later
      | refunded transitioned =>
          exact .webhook before transitioned (by simp) later
      | notPaid | notCancelled | stayed =>
          apply GoodsStepped.same
          refine ⟨?_, ?_, Or.inl ?_⟩
          · rw [later.stocks_eq, before.stocks_eq]
          · rw [later.orderItems_eq, before.orderItems_eq]
          · rw [matched.after_eq, matched.recorded_eq]
  | transitioned transitioned => exact .transitioned transitioned
  | adjusted returned located row after_eq =>
      exact .adjusted returned located row after_eq
  | expired cutoff => exact .same ⟨rfl, rfl, Or.inl rfl⟩

end NovaCommerce
