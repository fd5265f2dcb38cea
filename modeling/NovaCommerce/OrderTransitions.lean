import NovaCommerce.CheckoutServices

/-!
# The order state machine

An order moves along the allowed transitions of its status.  Paying turns the
reservations of its items into sales, cancelling gives reservations back, and
every transition stamps the order and is recorded as an event.
-/

namespace NovaCommerce

open AtomicCall

namespace OrderStatus

def value : OrderStatus → String
  | pending => "pending"
  | paid => "paid"
  | packed => "packed"
  | shipped => "shipped"
  | delivered => "delivered"
  | cancelled => "cancelled"
  | refunded => "refunded"

/-- `Order.ALLOWED_TRANSITIONS`. -/
def allowedTransitions : OrderStatus → List OrderStatus
  | pending => [paid, cancelled]
  | paid => [packed, cancelled, refunded]
  | packed => [shipped, cancelled, refunded]
  | shipped => [delivered, refunded]
  | delivered => [refunded]
  | cancelled => []
  | refunded => []

end OrderStatus

namespace Order

def canTransitionTo (order : Order) (new : OrderStatus) : Bool :=
  order.status.allowedTransitions.contains new

/-- The order under its new status, with the moment that belongs to it. -/
def enterStatus (order : Order) (new : OrderStatus) (now : Time) : Order :=
  match new with
  | .paid => { order with status := new, paidAt := some now }
  | .cancelled => { order with status := new, cancelledAt := some now }
  | .refunded => { order with status := new, refundedAt := some now }
  | _ => { order with status := new }

end Order

/-- `Order.objects.select_for_update().get(pk=...)`. -/
def lockOrder (id : Uuid) : Service Order := do
  let db ← get
  match (objects db.orders).find? fun order => order.id = id with
  | some order => pure order
  | none => throw (.doesNotExist "Order")

/-- `if item.variant_id: ...`. -/
def forItem (call : Uuid → Int → Service Unit) (item : OrderItem) :
    Service Unit :=
  match item.variant with
  | some variant => call variant item.quantity
  | none => pure ()

/-- `for item in order.items.all(): ...`. -/
def forItems (call : Uuid → Int → Service Unit) : List OrderItem → Service Unit
  | [] => pure ()
  | item :: items => do
      forItem call item
      forItems call items

/-- What a transition does to the stock: commit what was reserved for the
order, or give it back. -/
def settleStock (session : Session) (order : Order) (newStatus : OrderStatus) :
    Service Unit := do
  let db ← get
  let items := session.scan OrderItem (db.orderItemsOf order.id)
  match newStatus with
  | .paid => forItems (fun variant quantity =>
      commitSale session variant quantity (toString order.id)) items
  | .cancelled => forItems (fun variant quantity =>
      releaseReservation session variant quantity (toString order.id)) items
  | _ => pure ()

/-- `order.save`: write the row back under its identifier. -/
def saveOrder (order : Order) : Service Unit :=
  modify fun db => { db with orders := db.orders.save order }

/-- The event of a transition is recorded if its message fits. -/
theorem recordable_status (newStatus : OrderStatus) (message : String) :
    recordable s!"status:{newStatus.value}"
        (if message = "" then s!"Status changed to {newStatus.value}"
          else message) (.obj []) =
      fitsColumn 500 message := by
  have codeFits : fitsColumn 64 s!"status:{newStatus.value}" = true := by
    cases newStatus <;> decide +kernel
  have defaultFits :
      fitsColumn 500 s!"Status changed to {newStatus.value}" = true := by
    cases newStatus <;> decide +kernel
  rw [recordable, codeFits]
  by_cases blank : message = ""
  · rw [if_pos blank, defaultFits, blank]
    decide +kernel
  · rw [if_neg blank, Bool.true_and, Json.storable, Json.storableFields,
      Bool.and_true]

def transitionStatus (session : Session) (orderId : Uuid)
    (newStatus : OrderStatus) (actor : Option Uuid := none)
    (message : String := "") : Service Order :=
  atomic do
    let order ← lockOrder orderId
    if order.canTransitionTo newStatus then do
      settleStock session order newStatus
      saveOrder (order.enterStatus newStatus session.now)
      createOrderEvent session order.id s!"status:{newStatus.value}"
        (if message = "" then s!"Status changed to {newStatus.value}"
          else message)
        actor (.obj [])
      pure (order.enterStatus newStatus session.now)
    else
      throw (.checkoutError
        s!"cannot transition order {order.number} from {order.status.value} to {newStatus.value}")

end NovaCommerce
