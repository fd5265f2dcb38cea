import NovaCommerce.OrderHistories
import NovaCommerce.PaymentTransactions
import NovaCommerce.SharedStock

/-!
# What the fulfilment calls write

Checkouts, transitions, charge attempts and webhooks are sequences of
statements between which other clients commit.  Their parts write a few tables
each.  Whatever else commits meanwhile, each call moves the stock within the
rows that it has locked.
-/

namespace NovaCommerce

open AtomicCall LockingTransactions

/-- A write to other tables than the orders and their events. -/
def SparesLog (change : Database → Database) : Prop :=
  ∀ db, ((change db).orders, (change db).orderEvents) =
    (db.orders, db.orderEvents)

/-- A write to other tables than the orders, their events and their items. -/
structure SparesOrders (change : Database → Database) : Prop where
  log : SparesLog change
  items_eq : ∀ db, (change db).orderItems = db.orderItems

/-- A write to none of the tables that this module is about. -/
structure SparesGoods (change : Database → Database) : Prop where
  stock : SparesStock change
  orders : SparesOrders change

section Writes

open Statements

variable {allowed : (Database → Database) → Prop} {session : Session}
  {reference : String}

theorem writes_releaseReservation
    (saves : ∀ stock, (saveReserved stock).Writes allowed)
    (records : ∀ stock quantity, (Statements.createMovement session stock
      quantity .reservationRelease reference "").Writes allowed)
    (variantId : Uuid) (quantity : Int) :
    (Statements.releaseReservation session variantId quantity
      reference).Writes allowed := by
  refine Transaction.writes_bind (fun _ => writes_lockRows _ _ _ _)
    fun rows => ?_
  exact Transaction.writes_bind (writes_drawRows saves records _ _ _ rows _)
    fun _ => trivial

theorem writes_commitSale
    (saves : ∀ stock, (saveUnits stock).Writes allowed)
    (records : ∀ stock quantity, (Statements.createMovement session stock
      quantity .sale reference "").Writes allowed)
    (variantId : Uuid) (quantity : Int) :
    (Statements.commitSale session variantId quantity reference).Writes
      allowed := by
  refine Transaction.writes_bind (fun _ => writes_lockRows _ _ _ _)
    fun rows => ?_
  refine Transaction.writes_bind (writes_drawRows saves records _ _ _ rows _)
    fun _ => ?_
  split <;> trivial

/-- A loop over the items of an order writes what its calls write. -/
theorem writes_forItems {call : Uuid → Int → Statements Unit}
    (calls : ∀ variant quantity, (call variant quantity).Writes allowed)
    (items : List OrderItem) :
    (Statements.forItems call items).Writes allowed := by
  induction items with
  | nil => trivial
  | cons item items ih =>
      refine Transaction.writes_bind ?_ fun _ => ih
      unfold Statements.forItem
      split
      · exact calls _ _
      · trivial

theorem writes_settleStock {order : Order}
    (sales : ∀ variant quantity, (Statements.commitSale session variant
      quantity (toString order.id)).Writes allowed)
    (releases : ∀ variant quantity, (Statements.releaseReservation session
      variant quantity (toString order.id)).Writes allowed)
    (newStatus : OrderStatus) :
    (Statements.settleStock session order newStatus).Writes allowed := by
  cases newStatus with
  | paid => exact fun _ => writes_forItems sales _
  | cancelled => exact fun _ => writes_forItems releases _
  | pending | packed | shipped | delivered | refunded => trivial

theorem writes_checkoutItems {order : Uuid}
    (reserves : ∀ variant quantity, (Statements.reserveStock session variant
      quantity (toString order)).Writes allowed)
    (creates : ∀ item variant product, (Statements.createOrderItem session
      order item variant product).Writes allowed) (lines : List CartLine) :
    (Statements.checkoutItems session order lines).Writes allowed := by
  induction lines with
  | nil => trivial
  | cons line lines ih =>
      refine Transaction.writes_bind ?_ fun _ => ih
      refine Transaction.writes_bind
        (Transaction.writes_mapError (reserves _ _)) fun _ => ?_
      split
      · trivial
      · split
        · trivial
        · exact creates _ _ _

theorem writes_lockOrder (id : Uuid) :
    (Statements.lockOrder id).Writes allowed := by
  refine Transaction.writes_bind (fun _ => writes_lockRows _ _ _ _)
    fun orders => ?_
  cases orders <;> trivial

theorem writes_applyCoupon (session : Session) (code : String)
    (subtotal : Cents) :
    (Statements.applyCoupon session code subtotal).Writes allowed := by
  unfold Statements.applyCoupon
  split
  · trivial
  · refine Transaction.writes_bind ?_ fun coupon => ?_
    · refine Transaction.writes_bind (fun _ => writes_lockRows _ _ _ _)
        fun coupons => ?_
      split <;> trivial
    · split <;> trivial

theorem writes_createOrder {order : Order}
    (inserts : allowed fun db => { db with
      orders := db.orders.insertNew order }) :
    (Statements.createOrder order).Writes allowed := by
  intro _ db
  change Transaction.Writes _ (if _ then _ else if _ then _ else if _ then _
    else _)
  split
  · trivial
  split
  · trivial
  split
  · trivial
  · exact ⟨inserts, trivial⟩

theorem writes_lockFirst {Row : Type} (key : Uuid → RowKey)
    (current : Database → Uuid → Option Row) (ids : List Uuid) :
    (Statements.lockFirst key current ids).Writes allowed := by
  induction ids with
  | nil => trivial
  | cons id ids ih =>
      refine Transaction.writes_bind (fun _ => trivial) fun db => ?_
      split
      · trivial
      · exact ih

theorem writes_raising {Value : Type} (result : Raising Value) :
    (Statements.raising result).Writes allowed := by
  cases result <;> trivial

theorem writes_matchOrder (session : Session) (gateway : Gateway)
    (parsed : WebhookResult) :
    (Statements.matchOrder session gateway parsed).Writes allowed := by
  refine Transaction.writes_bind ?_ fun found => ?_
  · unfold Statements.orderByKey
    split
    · split
      · trivial
      · exact Transaction.writes_bind (fun _ => writes_lockRows _ _ _ _)
          fun _ => trivial
    · trivial
  · split
    · trivial
    · refine Transaction.writes_bind (writes_raising _) fun _ => ?_
      unfold Statements.orderByReference
      split
      · exact fun _ => writes_lockFirst _ _ _
      · trivial

theorem writes_saveOrderReference {order : Uuid} {provider text : String}
    (updates : allowed fun db => { db with
      orders := withReference db.orders order provider text }) :
    (Statements.saveOrderReference order provider text).Writes allowed := by
  intro db
  change Transaction.Writes _ (if _ then _ else _)
  split
  · trivial
  · exact ⟨updates, trivial⟩

end Writes

section Spares

open Statements

theorem sparesOrders_createMovement (session : Session) (stock : Uuid)
    (quantity : Int) (reason : MovementReason) (reference note : String) :
    (Statements.createMovement session stock quantity reason reference
      note).Writes SparesOrders :=
  ⟨⟨fun _ => rfl, fun _ => rfl⟩, trivial⟩

theorem sparesOrders_saveReserved (stock : Stock) :
    (saveReserved stock).Writes SparesOrders :=
  ⟨⟨fun _ => rfl, fun _ => rfl⟩, trivial⟩

theorem sparesOrders_saveUnits (stock : Stock) :
    (saveUnits stock).Writes SparesOrders :=
  ⟨⟨fun _ => rfl, fun _ => rfl⟩, trivial⟩

theorem sparesOrders_reserveStock (session : Session) (variantId : Uuid)
    (quantity : Int) (reference : String) :
    (Statements.reserveStock session variantId quantity reference).Writes
      SparesOrders :=
  writes_reserveStock sparesOrders_saveReserved sparesOrders_createMovement
    session variantId quantity reference

theorem sparesOrders_releaseReservation (session : Session)
    (variantId : Uuid) (quantity : Int) (reference : String) :
    (Statements.releaseReservation session variantId quantity
      reference).Writes SparesOrders :=
  writes_releaseReservation sparesOrders_saveReserved
    (fun _ _ => sparesOrders_createMovement _ _ _ _ _ _) variantId quantity

theorem sparesOrders_commitSale (session : Session) (variantId : Uuid)
    (quantity : Int) (reference : String) :
    (Statements.commitSale session variantId quantity reference).Writes
      SparesOrders :=
  writes_commitSale sparesOrders_saveUnits
    (fun _ _ => sparesOrders_createMovement _ _ _ _ _ _) variantId quantity

theorem sparesOrders_settleStock (session : Session) (order : Order)
    (newStatus : OrderStatus) :
    (Statements.settleStock session order newStatus).Writes SparesOrders :=
  writes_settleStock (fun _ _ => sparesOrders_commitSale _ _ _ _)
    (fun _ _ => sparesOrders_releaseReservation _ _ _ _) newStatus

theorem sparesLog_checkoutItems (session : Session) (order : Uuid)
    (lines : List CartLine) :
    (Statements.checkoutItems session order lines).Writes SparesLog :=
  writes_checkoutItems
    (fun _ _ => (sparesOrders_reserveStock _ _ _ _).mono
      fun _ => SparesOrders.log)
    (fun _ _ _ => ⟨fun _ => rfl, trivial⟩) lines

/-- A write to other tables, in all respects. -/
theorem sparesGoods_of_frame {change : Database → Database}
    (frame : ∀ db, (change db).warehouses = db.warehouses ∧
      (change db).stocks = db.stocks ∧ (change db).movements = db.movements ∧
      (change db).orders = db.orders ∧
      (change db).orderEvents = db.orderEvents ∧
      (change db).orderItems = db.orderItems) : SparesGoods change where
  stock := ⟨fun db => (frame db).1, fun db => (frame db).2.1,
    fun db => (frame db).2.2.1⟩
  orders := ⟨fun db => Prod.ext (frame db).2.2.2.1 (frame db).2.2.2.2.1,
    fun db => (frame db).2.2.2.2.2⟩

theorem sparesGoods_countCouponUse (coupon : Option Coupon) :
    (Statements.countCouponUse coupon).Writes SparesGoods := by
  cases coupon with
  | none => trivial
  | some coupon =>
      exact ⟨sparesGoods_of_frame fun _ => ⟨rfl, rfl, rfl, rfl, rfl, rfl⟩,
        trivial⟩

theorem sparesGoods_softDelete (session : Session)
    (chosen : CartItem → Bool) :
    (Statements.softDelete session chosen).Writes SparesGoods :=
  Transaction.writes_bind (fun _ => writes_lockRows _ _ _ _) fun _ =>
    ⟨sparesGoods_of_frame fun _ => ⟨rfl, rfl, rfl, rfl, rfl, rfl⟩, trivial⟩

theorem sparesGoods_saveCartCoupon (cart : Uuid) :
    (Statements.saveCartCoupon cart).Writes SparesGoods := by
  intro db
  change Transaction.Writes _ (if _ then _ else _)
  split
  · trivial
  · exact ⟨sparesGoods_of_frame fun _ => ⟨rfl, rfl, rfl, rfl, rfl, rfl⟩,
      trivial⟩

theorem sparesGoods_updatePayments (order : Uuid) (provider : Provider)
    (parsed : WebhookResult) :
    (Statements.updatePayments order provider parsed).Writes SparesGoods :=
  ⟨sparesGoods_of_frame fun _ => ⟨rfl, rfl, rfl, rfl, rfl, rfl⟩, trivial⟩

theorem sparesGoods_savePayment (payment : Payment) :
    (Statements.savePayment payment).Writes SparesGoods := by
  unfold Statements.savePayment
  split
  · trivial
  · exact ⟨sparesGoods_of_frame fun _ => ⟨rfl, rfl, rfl, rfl, rfl, rfl⟩,
      trivial⟩

theorem sparesGoods_createPaymentRow (session : Session) (order : Order)
    (provider : Provider) (intent : ChargeIntent) (paymentId : Uuid) :
    (Statements.createPaymentRow session order provider intent
      paymentId).Writes SparesGoods := by
  intro db
  change Transaction.Writes _
    (if _ then _ else if _ then _ else if _ then _ else _)
  split
  · trivial
  split
  · trivial
  split
  · trivial
  · exact ⟨sparesGoods_of_frame fun _ => ⟨rfl, rfl, rfl, rfl, rfl, rfl⟩,
      trivial⟩

theorem sparesStock_createOrderEvent (session : Session) (order : Uuid)
    (code message : String) (actor : Option Uuid) (payload : Json) :
    (Statements.createOrderEvent session order code message actor
      payload).Writes SparesStock := by
  unfold Statements.createOrderEvent
  split
  · trivial
  · exact ⟨⟨fun _ => rfl, fun _ => rfl, fun _ => rfl⟩, trivial⟩

end Spares

section Moves

open Statements

theorem forItems_moves {call : Uuid → Int → Statements Unit}
    (calls : ∀ variant quantity,
      Achieves storeRely StockEffect (call variant quantity))
    (items : List OrderItem) :
    Achieves storeRely StockEffect (Statements.forItems call items) := by
  induction items with
  | nil => exact pure_moves
  | cons item items ih =>
      refine bind_moves ?_ fun _ => ih
      unfold Statements.forItem
      split
      · exact calls _ _
      · exact pure_moves

theorem settleStock_moves (session : Session) (order : Order)
    (newStatus : OrderStatus) :
    Achieves storeRely StockEffect
      (Statements.settleStock session order newStatus) := by
  have queried : Achieves storeRely StockEffect
      (itemsOfOrder session order.id) :=
    bind_moves query_moves
      fun _ => pure_moves
  cases newStatus with
  | paid =>
      exact bind_moves queried
        (forItems_moves fun _ _ => commitSale_moves _ _ _ _)
  | cancelled =>
      exact bind_moves queried
        (forItems_moves fun _ _ => releaseReservation_moves _ _ _ _)
  | pending | packed | shipped | delivered | refunded =>
      exact pure_moves

theorem transitionStatus_moves (session : Session) (orderId : Uuid)
    (newStatus : OrderStatus) (actor : Option Uuid) (message : String) :
    Achieves storeRely StockEffect
      (Statements.transitionStatus session orderId newStatus actor
        message) := by
  refine bind_moves
    (spares_moves (writes_lockOrder orderId)) fun order => ?_
  split
  · refine bind_moves (settleStock_moves _ _ _)
      fun _ => ?_
    refine bind_moves (spares_moves
      ⟨⟨fun _ => rfl, fun _ => rfl, fun _ => rfl⟩, trivial⟩) fun _ => ?_
    exact bind_moves
      (spares_moves (sparesStock_createOrderEvent _ _ _ _ _ _))
      fun _ => pure_moves
  · exact achieves_fail

theorem checkoutItems_moves (session : Session) (order : Uuid)
    (lines : List CartLine) :
    Achieves storeRely StockEffect
      (Statements.checkoutItems session order lines) := by
  induction lines with
  | nil => exact pure_moves
  | cons line lines ih =>
      refine bind_moves ?_ fun _ => ih
      refine bind_moves
        (achieves_mapError (reserveStock_moves _ _ _ _)) fun _ => ?_
      split
      · exact achieves_fail
      · split
        · exact achieves_fail
        · exact spares_moves
            ⟨⟨fun _ => rfl, fun _ => rfl, fun _ => rfl⟩, trivial⟩

theorem createOrderFromCart_moves (session : Session) (orderId : Uuid)
    (cart : Cart) (user : Option Uuid) (payload : CheckoutInput) :
    Achieves storeRely StockEffect
      (Statements.createOrderFromCart session orderId cart user
        payload) := by
  unfold Statements.createOrderFromCart
  refine bind_moves query_moves fun db => ?_
  split
  · exact achieves_fail
  refine bind_moves query_moves fun db => ?_
  refine bind_moves (spares_moves (writes_applyCoupon _ _ _)) fun _ => ?_
  refine bind_moves (spares_moves (writes_createOrder
    ⟨fun _ => rfl, fun _ => rfl, fun _ => rfl⟩)) fun _ => ?_
  refine bind_moves query_moves fun db => ?_
  refine bind_moves (checkoutItems_moves _ _ _) fun _ => ?_
  refine bind_moves (spares_moves ((sparesGoods_countCouponUse _).mono
    fun _ => SparesGoods.stock)) fun _ => ?_
  refine bind_moves (spares_moves
    (sparesStock_createOrderEvent _ _ _ _ _ _)) fun _ => ?_
  refine bind_moves (spares_moves ((sparesGoods_softDelete _ _).mono
    fun _ => SparesGoods.stock)) fun _ => ?_
  exact bind_moves (spares_moves ((sparesGoods_saveCartCoupon _).mono
    fun _ => SparesGoods.stock)) fun _ => pure_moves

theorem raising_moves {Value : Type} (result : Raising Value) :
    Achieves storeRely StockEffect (Statements.raising result) := by
  cases result with
  | ok value => exact pure_moves
  | error raised => exact achieves_fail

theorem createPayment_moves (session : Session) (gateway : Gateway)
    (order : Order) (paymentId : Uuid)
    (providerCode successUrl cancelUrl : String) :
    Achieves storeRely StockEffect
      (Statements.createPayment session gateway order paymentId providerCode
        successUrl cancelUrl) := by
  refine bind_moves (raising_moves _) fun provider => ?_
  refine bind_moves (spares_moves ((sparesGoods_createPaymentRow _ _ _ _ _).mono
    fun _ => SparesGoods.stock)) fun payment => ?_
  refine bind_moves (raising_moves _) fun result => ?_
  refine bind_moves (spares_moves ((sparesGoods_savePayment _).mono
    fun _ => SparesGoods.stock)) fun _ => ?_
  refine bind_moves ?_ fun _ => pure_moves
  unfold Statements.recordCharge
  split
  · exact spares_moves (writes_saveOrderReference
      ⟨fun _ => rfl, fun _ => rfl, fun _ => rfl⟩)
  · exact pure_moves

/-- A transition under a savepoint has moved the stock, or nothing. -/
theorem swallow_moves {Value : Type} {call : Statements Value}
    (moves : Achieves storeRely StockEffect call) :
    Achieves storeRely StockEffect (Statements.swallow call) := by
  refine bind_moves (achieves_attempt ?_ moves) fun _ => pure_moves
  intro now before after own_eq held_subset rowByRow
  rw [← own_eq] at rowByRow
  exact {
    held_subset
    rowByRow
    posts := fun id => own_eq ▸ .refl
    kept := fun id _ => own_eq ▸ rfl
    covers := fun covered => own_eq ▸ covered }

theorem moveOrder_moves (session : Session) (order : Order)
    (newStatus : Option PaymentStatus) :
    Achieves storeRely StockEffect
      (Statements.moveOrder session order newStatus) := by
  have moves : ∀ status message, Achieves storeRely StockEffect (do
      let _ ← Statements.transitionStatus session order.id status none message
      pure () : Statements Unit) :=
    fun _ _ => bind_moves (transitionStatus_moves _ _ _ _ _) fun _ => pure_moves
  have cancels : ∀ status : PaymentStatus, Achieves storeRely StockEffect
      (if (status = .failed || status = .cancelled) &&
          order.status = .pending then do
        let _ ← Statements.transitionStatus session order.id .cancelled none
          s!"cancelled via webhook ({status.value})"
        pure ()
      else pure () : Statements Unit) := by
    intro status
    split
    · exact moves _ _
    · exact pure_moves
  cases newStatus with
  | none => exact pure_moves
  | some status =>
      cases status with
      | captured => exact swallow_moves (transitionStatus_moves _ _ _ _ _)
      | refunded => exact moves _ _
      | pending => exact cancels .pending
      | authorized => exact cancels .authorized
      | failed => exact cancels .failed
      | cancelled => exact cancels .cancelled

theorem handleWebhook_moves (session : Session) (gateway : Gateway)
    (providerCode : String) (headers : Headers) (body : TextDecoding.Bytes) :
    Achieves storeRely StockEffect
      (Statements.handleWebhook session gateway providerCode headers
        body) := by
  refine bind_moves (raising_moves _) fun provider => ?_
  refine bind_moves (raising_moves _) fun parsed => ?_
  unfold Statements.applyWebhook
  split
  · refine bind_moves (spares_moves (writes_matchOrder _ _ _)) fun found => ?_
    split
    · exact pure_moves
    · refine bind_moves (spares_moves
        (sparesStock_createOrderEvent _ _ _ _ _ _)) fun _ => ?_
      refine bind_moves (moveOrder_moves _ _ _) fun _ => ?_
      exact bind_moves (spares_moves ((sparesGoods_updatePayments _ _ _).mono
        fun _ => SparesGoods.stock)) fun _ => pure_moves
  · exact pure_moves

end Moves

end NovaCommerce
