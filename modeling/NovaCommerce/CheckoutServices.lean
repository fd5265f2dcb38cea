import NovaCommerce.InventoryServices
import NovaCommerce.Decimal

/-!
# The checkout service

A cart is turned into an order in one transaction: the order is priced, its
units are reserved item by item, the coupon use is counted, and the cart is
emptied.
-/

namespace NovaCommerce

open AtomicCall

structure CheckoutInput where
  email : String
  phone : String
  shippingAddress : Json
  billingAddress : Option Json := none
  couponCode : String := ""
  shippingMethod : String := "standard"
  notesCustomer : String := ""

/-- An amount as it comes from a column: with two decimal places. -/
def ofCents (amount : Cents) : Decimal :=
  ⟨amount, 2⟩

namespace Coupon

def isValidNow (coupon : Coupon) (now : Time) : Bool :=
  if !coupon.isActive then false
  else if coupon.startsAt.any fun startsAt => now < startsAt then false
  else if coupon.endsAt.any fun endsAt => endsAt < now then false
  else if coupon.maxUses ≠ 0 && coupon.maxUses ≤ coupon.usedCount then false
  else true

def calculateDiscount (coupon : Coupon) (subtotal : Cents) : Cents :=
  if subtotal < coupon.minSubtotal then 0
  else
    match coupon.kind with
    | .percent =>
        let disc :=
          (ofCents subtotal * ofCents coupon.value).hundredth.quantize 2
        match coupon.maxDiscount with
        -- A cap of zero is falsy, so it is no cap.
        | some maxDiscount =>
            if maxDiscount ≠ 0 then min disc maxDiscount else disc
        | none => disc
    | .fixed => min coupon.value subtotal
    | .freeShipping => 0

end Coupon

namespace CartItem

def lineTotal (item : CartItem) : Cents :=
  (ofCents item.unitPrice * .ofInt item.quantity).quantize 2

theorem lineTotal_eq (item : CartItem) :
    item.lineTotal = item.unitPrice * item.quantity := by
  simp [lineTotal, ofCents]

end CartItem

namespace Database

/-- `cart.items.all()`, in table order. -/
def itemsOf (db : Database) (cart : Uuid) : List CartItem :=
  (objects db.cartItems).filter fun item => item.cart = cart

def cartSubtotal (db : Database) (cart : Uuid) : Cents :=
  ((db.itemsOf cart).map CartItem.lineTotal).sum

end Database

def calculateShipping (method : String) (subtotal : Cents) : Cents :=
  if 20000 ≤ subtotal then 0
  else if method = "standard" then 999
  else if method = "express" then 1999
  else if method = "pickup" then 0
  else 999

def calculateTax (_subtotal : Cents) (_region : String := "") : Cents :=
  0

/-- `Coupon.objects.select_for_update().get(code__iexact=...)`. -/
def lockCoupon (session : Session) (code : String) : Service Coupon := do
  let db ← get
  match (objects db.coupons).filter fun coupon =>
      session.iexact coupon.code code with
  | [] => throw (.checkoutError "invalid coupon")
  | [coupon] => pure coupon
  | _ => throw (.multipleObjectsReturned "Coupon")

/-- The coupon of a checkout, if one is named, and its discount. -/
def applyCoupon (session : Session) (code : String) (subtotal : Cents) :
    Service (Option Coupon × Cents) :=
  if code = "" then pure (none, 0)
  else do
    let coupon ← lockCoupon session code
    if coupon.isValidNow session.now then
      pure (some coupon, coupon.calculateDiscount subtotal)
    else throw (.checkoutError "coupon expired or inactive")

/-- The columns of the database hold what a client submits for an order: an
`EmailField` takes 254 characters. -/
def Order.fitsColumns (order : Order) : Bool :=
  order.emailSnapshot.length ≤ 254 && order.shippingAddress.storable &&
    order.billingAddress.storable

/-- `Order.objects.create`: order numbers are unique. -/
def createOrder (session : Session) (build : Uuid → Order)
    (hasId : ∀ id, Keyed.key (build id) = id) : Service Order := do
  let db ← get
  if !(build (FreshKey.fresh db.orders.keys)).fitsColumns then
    throw (.databaseError "value does not fit its column")
  else if db.orders.rows.any
      fun order => order.number = session.orderNumber then
    throw (.integrityError "unique number")
  else do
    modify fun db => { db with orders := db.orders.create build hasId }
    pure (build (FreshKey.fresh db.orders.keys))

/-- `raise CheckoutError(str(exc)) from exc`. -/
def outOfStockAsCheckoutError {Value : Type} (call : Service Value) :
    Service Value := fun before =>
  match call before with
  | .error (.outOfStockError message) after =>
      .error (.checkoutError message) after
  | result => result

/-- The order item of one cart item. -/
def newOrderItem (session : Session) (order : Uuid) (item : CartItem)
    (variant : ProductVariant) (product : Product) (id : Uuid) :
    OrderItem where
  id
  createdAt := session.now
  order
  variant := some item.variant
  sku := variant.sku
  nameSnapshot := product.name
  attributesSnapshot := variant.attributesSnapshot
  quantity := item.quantity
  unitPrice := item.unitPrice
  lineTotal := item.lineTotal

theorem key_newOrderItem (session : Session) (order : Uuid) (item : CartItem)
    (variant : ProductVariant) (product : Product) (id : Uuid) :
    Keyed.key (newOrderItem session order item variant product id) = id :=
  rfl

/-- `OrderItem.objects.create` for one cart item. -/
def createOrderItem (session : Session) (order : Uuid) (item : CartItem)
    (variant : ProductVariant) (product : Product) : Service Unit :=
  modify fun db => { db with
    orderItems := db.orderItems.create
      (newOrderItem session order item variant product)
      (key_newOrderItem session order item variant product) }

/-- The body of the checkout loop. -/
def checkoutItem (session : Session) (order : Uuid) (item : CartItem) :
    Service Unit := do
  let _ ← outOfStockAsCheckoutError
    (reserveStock session item.variant item.quantity (toString order))
  let db ← get
  match db.variants.find? item.variant with
  | none => throw (.doesNotExist "ProductVariant")
  | some variant =>
      match db.products.find? variant.product with
      | none => throw (.doesNotExist "Product")
      | some product => createOrderItem session order item variant product

def checkoutItems (session : Session) (order : Uuid) :
    List CartItem → Service Unit
  | [] => pure ()
  | item :: items => do
      checkoutItem session order item
      checkoutItems session order items

def countCouponUse : Option Coupon → Service Unit
  | none => pure ()
  | some coupon => modify fun db => { db with
      coupons := db.coupons.save
        { coupon with usedCount := coupon.usedCount + 1 } }

def createdEvent (session : Session) (order : Uuid) (code message : String)
    (actor : Option Uuid) (payload : Json) (id : Uuid) : OrderEvent where
  id
  createdAt := session.now
  order
  code
  message
  actor
  payload

theorem key_createdEvent (session : Session) (order : Uuid)
    (code message : String) (actor : Option Uuid) (payload : Json)
    (id : Uuid) :
    Keyed.key (createdEvent session order code message actor payload id) =
      id :=
  rfl

/-- The columns of an event hold the values. -/
def recordable (code message : String) (payload : Json) : Bool :=
  fitsColumn 64 code && fitsColumn 500 message && payload.storable

/-- `OrderEvent.objects.create`. -/
def createOrderEvent (session : Session) (order : Uuid)
    (code message : String) (actor : Option Uuid) (payload : Json) :
    Service Unit :=
  if !recordable code message payload then
    throw (.databaseError "value does not fit its column")
  else
    modify fun db => { db with
      orderEvents := db.orderEvents.create
        (createdEvent session order code message actor payload)
        (key_createdEvent session order code message actor payload) }

theorem createOrderEvent_of_recordable {code message : String}
    {payload : Json} (fits : recordable code message payload = true)
    (session : Session) (order : Uuid) (actor : Option Uuid) (db : Database) :
    createOrderEvent session order code message actor payload db =
      .ok () { db with
        orderEvents := db.orderEvents.create
          (createdEvent session order code message actor payload)
          (key_createdEvent session order code message actor payload) } := by
  rw [createOrderEvent, fits]
  rfl

/-- An event is recorded if its columns hold it. -/
theorem recorded_of_createOrderEvent {session : Session} {order : Uuid}
    {code message : String} {actor : Option Uuid} {payload : Json}
    {value : Unit} {before after : Database}
    (returned : createOrderEvent session order code message actor payload
      before = .ok value after) :
    recordable code message payload = true ∧ after = { before with
      orderEvents := before.orderEvents.create
        (createdEvent session order code message actor payload)
        (key_createdEvent session order code message actor payload) } := by
  obtain ⟨fits, recorded⟩ := refusing_eq_ok.mp returned
  exact ⟨by simpa using fits, (modify_eq_ok.mp recorded).symm⟩

/-- The item after `cart.items.all().delete()`. -/
def softDeleteItemOf (session : Session) (cart : Uuid) (item : CartItem) :
    CartItem :=
  if item.cart = cart && alive item then
    { item with deletedAt := some session.now }
  else item

theorem key_softDeleteItemOf (session : Session) (cart : Uuid)
    (item : CartItem) :
    Keyed.key (softDeleteItemOf session cart item) = Keyed.key item := by
  unfold softDeleteItemOf
  split <;> rfl

/-- Delete the cart's items and take its coupon off. -/
def emptyCart (session : Session) (cart : Uuid) : Service Unit := do
  modify fun db => { db with
    cartItems := db.cartItems.alter (softDeleteItemOf session cart)
      (key_softDeleteItemOf session cart) }
  let db ← get
  match db.carts.find? cart with
  | none => throw (.databaseError
      "Save with update_fields did not affect any rows.")
  | some row => modify fun db => { db with
      carts := db.carts.save { row with coupon := none } }

/-- The order row that a checkout creates. -/
def pricedOrder (session : Session) (cart : Cart) (user : Option Uuid)
    (payload : CheckoutInput) (coupon : Option Coupon)
    (subtotal discount : Cents) (id : Uuid) : Order :=
  let shipping := calculateShipping payload.shippingMethod
    (subtotal - discount)
  let tax := calculateTax (subtotal - discount + shipping)
  { id
    createdAt := session.now
    number := session.orderNumber
    user
    emailSnapshot := payload.email
    phoneSnapshot := payload.phone
    status := .pending
    currency := cart.currency
    subtotal
    discountTotal := discount
    shippingTotal := shipping
    taxTotal := tax
    grandTotal :=
      (ofCents subtotal - ofCents discount + ofCents shipping +
        ofCents tax).quantize 2
    couponCode := (coupon.map Coupon.code).getD ""
    shippingAddress := payload.shippingAddress
    billingAddress :=
      (payload.billingAddress.getD .null).orElse payload.shippingAddress
    notesCustomer := payload.notesCustomer
    metadata := .obj [("shipping_method", .str payload.shippingMethod)] }

theorem key_pricedOrder (session : Session) (cart : Cart)
    (user : Option Uuid) (payload : CheckoutInput) (coupon : Option Coupon)
    (subtotal discount : Cents) (id : Uuid) :
    Keyed.key (pricedOrder session cart user payload coupon subtotal discount
      id) = id :=
  rfl

/-- No cent is lost to `quantize`. -/
theorem grandTotal_pricedOrder (session : Session) (cart : Cart)
    (user : Option Uuid) (payload : CheckoutInput) (coupon : Option Coupon)
    (subtotal discount : Cents) (id : Uuid) :
    let order := pricedOrder session cart user payload coupon subtotal
      discount id
    order.grandTotal = order.subtotal - order.discountTotal +
      order.shippingTotal + order.taxTotal := by
  simp [pricedOrder, ofCents]

/-- `user` is the identifier of an authenticated user. -/
def createOrderFromCart (session : Session) (cart : Cart)
    (user : Option Uuid) (payload : CheckoutInput) : Service Order :=
  atomic do
    let db ← get
    if (db.itemsOf cart.id).isEmpty then
      throw (.checkoutError "cart is empty")
    else do
      let subtotal := db.cartSubtotal cart.id
      let (coupon, discount) ←
        applyCoupon session payload.couponCode subtotal
      let order ← createOrder session
        (pricedOrder session cart user payload coupon subtotal discount)
        (key_pricedOrder session cart user payload coupon subtotal discount)
      let db ← get
      checkoutItems session order.id
        (session.scan CartItem (db.itemsOf cart.id))
      countCouponUse coupon
      createOrderEvent session order.id "created" "Order created" user
        (.obj [])
      emptyCart session cart.id
      pure order

end NovaCommerce
