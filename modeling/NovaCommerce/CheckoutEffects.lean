import NovaCommerce.CheckoutServices
import NovaCommerce.StockInvariants

/-!
# What a checkout does to the tables

A checkout that returns has gone through its loop without an error, so that
every cart item was reserved in full and written as an order item.  The loop
is described by the amounts that all its reservations together took from the
stock rows and by the order items that it appended; the rest of the checkout
adds one order, counts one coupon use and empties one cart.
-/

namespace NovaCommerce

open AtomicCall GreedyAllocation

section ReserveStock

variable {session : Session} {variantId : Uuid} {quantity : Int}
  {reference : String} {db after : Database}

theorem reserveStock_eq_ok {snapshot : StockSnapshot}
    (returned : reserveStock session variantId quantity reference db =
      .ok snapshot after) :
    0 < quantity ∧
      ¬0 < unmet Stock.available (reservableRows session db variantId)
        quantity ∧
      after = db.afterReserve session variantId quantity reference := by
  rw [reserveStock_eq] at returned
  by_cases nonpos : quantity ≤ 0
  · simp [nonpos] at returned
  by_cases short : 0 < unmet Stock.available
      (reservableRows session db variantId) quantity
  · simp [nonpos, short] at returned
  simp only [nonpos, short, if_false] at returned
  cases returned
  exact ⟨not_le.mp nonpos, short, rfl⟩

/-- A successful reservation takes its quantity of its variant. -/
theorem draws_of_reserved (reference : String) (positive : 0 < quantity)
    (met : ¬0 < unmet Stock.available
      (reservableRows session db variantId) quantity) :
    ∃ amount, Draws .reserve db.isReservable db.stocks
      (db.afterReserve session variantId quantity reference).stocks amount
      (fun variant => if variant = variantId then quantity else 0) := by
  obtain ⟨amount, draws⟩ :=
    draws_afterReserve session variantId quantity reference db
  rw [unmet_eq_zero positive.le met, sub_zero] at draws
  exact ⟨amount, draws⟩

end ReserveStock

/-- The order item that a cart item is turned into. -/
structure SoldAs (order : Uuid) (item : CartItem) (sold : OrderItem) :
    Prop where
  order_eq : sold.order = order
  variant_eq : sold.variant = some item.variant
  quantity_eq : sold.quantity = item.quantity
  unitPrice_eq : sold.unitPrice = item.unitPrice
  lineTotal_eq : sold.lineTotal = item.unitPrice * item.quantity
  isAlive : alive sold = true

/-- Units of a variant in a list of cart items. -/
def unitsOf (items : List CartItem) (variant : Uuid) : Int :=
  (items.map fun item =>
    if item.variant = variant then (item.quantity : Int) else 0).sum

/-- Every item of the list was reserved and written as an item of the
order. -/
structure ItemsSold (order : Uuid) (items : List CartItem)
    (before after : Database) (sold : List OrderItem)
    (amount : Uuid → Int) : Prop where
  frame : after = { before with
    stocks := after.stocks
    movements := after.movements
    orderItems := after.orderItems }
  orderItems_eq : after.orderItems.rows = before.orderItems.rows ++ sold
  soldAs : List.Forall₂ (SoldAs order) items sold
  draws : Draws .reserve before.isReservable before.stocks after.stocks amount
    (unitsOf items)

/-- What is sold one after the other is sold together. -/
theorem ItemsSold.append {order : Uuid} {item : CartItem}
    {items : List CartItem} {before middle after : Database}
    {first : OrderItem} {later : List OrderItem}
    {firstAmount laterAmount : Uuid → Int}
    (one : ItemsSold order [item] before middle [first] firstAmount)
    (others : ItemsSold order items middle after later laterAmount) :
    ItemsSold order (item :: items) before after (first :: later)
      (fun id => firstAmount id + laterAmount id) := by
  have sameReservable : middle.isReservable = before.isReservable := by
    rw [one.frame]
    rfl
  have together := one.draws.trans (sameReservable ▸ others.draws)
  refine ⟨?_, ?_, ?_, ?_⟩
  · rw [others.frame, one.frame]
  · rw [others.orderItems_eq, one.orderItems_eq]
    simp
  · cases one.soldAs with
    | cons sold _ => exact .cons sold others.soldAs
  · have units : unitsOf (item :: items) =
        fun variant => unitsOf [item] variant + unitsOf items variant := by
      funext variant
      simp [unitsOf]
    exact units ▸ together

theorem outOfStockAsCheckoutError_eq_ok {Value : Type}
    {call : Service Value} {before after : Database} {value : Value} :
    outOfStockAsCheckoutError call before = .ok value after ↔
      call before = .ok value after := by
  unfold outOfStockAsCheckoutError
  cases call before with
  | ok value after => rfl
  | error raised after => cases raised <;> simp

section Loop

variable {session : Session} {order : Uuid} {before after : Database}

/-- The body of the loop sells one item. -/
theorem checkoutItem_eq_ok {item : CartItem}
    (returned : checkoutItem session order item before = .ok () after) :
    ∃ sold amount, ItemsSold order [item] before after [sold] amount := by
  obtain ⟨snapshot, reserved, called, rest⟩ := bind_eq_ok.mp returned
  obtain ⟨positive, met, rfl⟩ :=
    reserveStock_eq_ok (outOfStockAsCheckoutError_eq_ok.mp called)
  obtain ⟨amount, draws⟩ :=
    draws_of_reserved (toString order) positive met
  obtain ⟨_, _, read, rest⟩ := bind_eq_ok.mp rest
  obtain ⟨rfl, rfl⟩ := get_eq_ok.mp read
  cases foundVariant : (before.afterReserve session item.variant item.quantity
      (toString order)).variants.find? item.variant with
  | none =>
      simp only [foundVariant] at rest
      exact (throw_eq_ok.mp rest).elim
  | some variant =>
      simp only [foundVariant] at rest
      cases foundProduct : (before.afterReserve session item.variant
          item.quantity (toString order)).products.find?
            variant.product with
      | none =>
          simp only [foundProduct] at rest
          exact (throw_eq_ok.mp rest).elim
      | some product =>
          simp only [foundProduct] at rest
          rw [createOrderItem, modify_eq_ok] at rest
          subst rest
          refine ⟨_, amount, rfl, rfl, ?_, ?_⟩
          · exact .cons ⟨rfl, rfl, rfl, rfl, item.lineTotal_eq, rfl⟩ .nil
          · have units : unitsOf [item] = fun variant =>
                if variant = item.variant then (item.quantity : Int)
                else 0 := by
              funext variant
              simp [unitsOf, eq_comm]
            exact units ▸ draws

/-- The loop sells every item: the induction composes what its rounds
reserved. -/
theorem checkoutItems_eq_ok {items : List CartItem}
    (returned : checkoutItems session order items before = .ok () after) :
    ∃ sold amount, ItemsSold order items before after sold amount := by
  induction items generalizing before with
  | nil =>
      obtain ⟨_, rfl⟩ := pure_eq_ok.mp returned
      exact ⟨[], fun _ => 0, rfl, by simp, .nil, .refl before.stocks⟩
  | cons item items ih =>
      obtain ⟨_, middle, called, rest⟩ := bind_eq_ok.mp returned
      obtain ⟨first, firstAmount, one⟩ := checkoutItem_eq_ok called
      obtain ⟨later, laterAmount, others⟩ := ih rest
      exact ⟨_, _, one.append others⟩

end Loop

/-- The coupons that a code names. -/
def Database.couponsNamed (db : Database) (session : Session)
    (code : String) : List Coupon :=
  (objects db.coupons).filter fun coupon => session.iexact coupon.code code

/-- The coupon that a checkout uses and the discount that it gives. -/
inductive CouponUse (session : Session) (db : Database) (code : String)
    (subtotal : Cents) : Option Coupon → Cents → Prop
  | unnamed (noCode : code = "") : CouponUse session db code subtotal none 0
  | named {coupon : Coupon} (hasCode : code ≠ "")
      (unique : db.couponsNamed session code = [coupon])
      (isValid : coupon.isValidNow session.now = true) :
      CouponUse session db code subtotal (some coupon)
        (coupon.calculateDiscount subtotal)

theorem applyCoupon_eq_ok {session : Session} {code : String}
    {subtotal discount : Cents} {coupon : Option Coupon}
    {before after : Database}
    (returned : applyCoupon session code subtotal before =
      .ok (coupon, discount) after) :
    after = before ∧
      CouponUse session before code subtotal coupon discount := by
  unfold applyCoupon at returned
  by_cases noCode : code = ""
  · simp only [noCode, if_true, pure_eq_ok, Prod.mk.injEq] at returned
    obtain ⟨⟨rfl, rfl⟩, rfl⟩ := returned
    exact ⟨rfl, .unnamed noCode⟩
  simp only [noCode, if_false] at returned
  obtain ⟨found, middle, locked, rest⟩ := bind_eq_ok.mp returned
  obtain ⟨_, _, read, chosen⟩ := bind_eq_ok.mp locked
  obtain ⟨rfl, rfl⟩ := get_eq_ok.mp read
  cases named : (objects before.coupons).filter
      fun coupon => session.iexact coupon.code code with
  | nil => simp [named] at chosen
  | cons first others =>
      cases others with
      | cons second others => simp [named] at chosen
      | nil =>
          simp only [named, pure_eq_ok] at chosen
          obtain ⟨rfl, rfl⟩ := chosen
          by_cases isValid : first.isValidNow session.now = true
          · simp only [isValid, if_true, pure_eq_ok, Prod.mk.injEq] at rest
            obtain ⟨⟨rfl, rfl⟩, rfl⟩ := rest
            exact ⟨rfl, .named noCode named isValid⟩
          · simp [isValid] at rest

theorem createOrder_eq_ok {session : Session} {build : Uuid → Order}
    {hasId : ∀ id, Keyed.key (build id) = id} {before after : Database}
    {order : Order}
    (returned : createOrder session build hasId before = .ok order after) :
    after = { before with orders := before.orders.create build hasId } ∧
      order = build (FreshKey.fresh before.orders.keys) := by
  obtain ⟨_, _, read, rest⟩ := bind_eq_ok.mp returned
  obtain ⟨rfl, rfl⟩ := get_eq_ok.mp read
  by_cases overflows :
      (!(build (FreshKey.fresh before.orders.keys)).fitsColumns) = true
  · simp only [overflows, if_true] at rest
    exact (throw_eq_ok.mp rest).elim
  by_cases numberTaken : (before.orders.rows.any
      fun order => order.number = session.orderNumber) = true
  · simp only [overflows, numberTaken, if_true] at rest
    exact (throw_eq_ok.mp rest).elim
  · simp only [overflows, numberTaken] at rest
    obtain ⟨_, middle, modified, finished⟩ := bind_eq_ok.mp rest
    obtain ⟨rfl, rfl⟩ := pure_eq_ok.mp finished
    exact ⟨(modify_eq_ok.mp modified).symm, rfl⟩

/-- The coupons after one use of a coupon was counted. -/
def countedCoupons (coupons : Table Coupon) : Option Coupon → Table Coupon
  | none => coupons
  | some coupon =>
      coupons.save { coupon with usedCount := coupon.usedCount + 1 }

theorem countCouponUse_eq (coupon : Option Coupon) (db : Database) :
    countCouponUse coupon db =
      .ok () { db with coupons := countedCoupons db.coupons coupon } := by
  cases coupon <;> rfl

/-- The cart items after those of one cart were deleted. -/
def emptiedItems (session : Session) (cart : Uuid)
    (items : Table CartItem) : Table CartItem :=
  items.alter (softDeleteItemOf session cart)
    (key_softDeleteItemOf session cart)

theorem emptyCart_eq_ok {session : Session} {cart : Uuid}
    {before after : Database}
    (returned : emptyCart session cart before = .ok () after) :
    ∃ row, before.carts.find? cart = some row ∧
      after = { before with
        cartItems := emptiedItems session cart before.cartItems
        carts := before.carts.save { row with coupon := none } } := by
  obtain ⟨_, middle, deleted, rest⟩ := bind_eq_ok.mp returned
  obtain ⟨_, _, read, rest⟩ := bind_eq_ok.mp rest
  obtain ⟨rfl, rfl⟩ := get_eq_ok.mp read
  rw [modify_eq_ok] at deleted
  subst deleted
  cases found : before.carts.find? cart with
  | none => simp [found] at rest
  | some row =>
      simp only [found, modify_eq_ok] at rest
      exact ⟨row, rfl, rest.symm⟩

/-- A cart that is there can be emptied. -/
theorem emptyCart_of_found {session : Session} {cart : Uuid} {db : Database}
    {row : Cart} (found : db.carts.find? cart = some row) :
    emptyCart session cart db = .ok () { db with
      cartItems := emptiedItems session cart db.cartItems
      carts := db.carts.save { row with coupon := none } } := by
  rw [emptyCart, bind_of_eq_ok
    (show (modify _ : Service Unit) db = .ok () _ from rfl),
    bind_of_eq_ok (get_eq_ok.mpr ⟨rfl, rfl⟩)]
  simp only [found]
  rfl

/-- What a checkout that returned has done, step by step: `middle` is the
database after the loop. -/
structure CheckedOut (session : Session) (cart : Cart) (user : Option Uuid)
    (payload : CheckoutInput) (db after : Database) (order : Order)
    (coupon : Option Coupon) (discount : Cents) (middle : Database)
    (sold : List OrderItem) (amount : Uuid → Int) (row : Cart) : Prop where
  nonempty : db.itemsOf cart.id ≠ []
  couponUse : CouponUse session db payload.couponCode
    (db.cartSubtotal cart.id) coupon discount
  order_eq : order = pricedOrder session cart user payload coupon
    (db.cartSubtotal cart.id) discount (FreshKey.fresh db.orders.keys)
  itemsSold : ItemsSold order.id
    (session.scan CartItem (db.itemsOf cart.id))
    { db with
      orders := db.orders.create
        (pricedOrder session cart user payload coupon
          (db.cartSubtotal cart.id) discount)
        (key_pricedOrder session cart user payload coupon
          (db.cartSubtotal cart.id) discount) }
    middle sold amount
  row_eq : db.carts.find? cart.id = some row
  after_eq : after = { middle with
    coupons := countedCoupons db.coupons coupon
    orderEvents := after.orderEvents
    cartItems := emptiedItems session cart.id db.cartItems
    carts := db.carts.save { row with coupon := none } }

theorem createOrderFromCart_eq_ok {session : Session} {cart : Cart}
    {user : Option Uuid} {payload : CheckoutInput} {db after : Database}
    {order : Order}
    (returned : createOrderFromCart session cart user payload db =
      .ok order after) :
    ∃ coupon discount middle sold amount row,
      CheckedOut session cart user payload db after order coupon discount
        middle sold amount row := by
  rw [createOrderFromCart, atomic_eq_ok, get_bind] at returned
  by_cases isEmpty : (db.itemsOf cart.id).isEmpty = true
  · simp only [isEmpty, if_true] at returned
    exact (throw_eq_ok.mp returned).elim
  simp only [isEmpty] at returned
  obtain ⟨⟨coupon, discount⟩, _, applied, rest⟩ := bind_eq_ok.mp returned
  obtain ⟨rfl, couponUse⟩ := applyCoupon_eq_ok applied
  obtain ⟨created, _, ordered, rest⟩ := bind_eq_ok.mp rest
  obtain ⟨rfl, rfl⟩ := createOrder_eq_ok ordered
  rw [get_bind]
    at rest
  obtain ⟨_, middle, looped, rest⟩ := bind_eq_ok.mp rest
  obtain ⟨sold, amount, itemsSold⟩ := checkoutItems_eq_ok looped
  rw [bind_of_eq_ok (countCouponUse_eq coupon middle)] at rest
  obtain ⟨_, _, recorded, rest⟩ := bind_eq_ok.mp rest
  obtain ⟨_, rfl⟩ := recorded_of_createOrderEvent recorded
  obtain ⟨_, _, emptied, finished⟩ := bind_eq_ok.mp rest
  obtain ⟨row, found, rfl⟩ := emptyCart_eq_ok emptied
  obtain ⟨rfl, rfl⟩ := pure_eq_ok.mp finished
  have frame := itemsSold.frame
  refine ⟨coupon, discount, middle, sold, amount, row, ?_, couponUse, rfl,
    itemsSold, ?_, ?_⟩
  · simpa using isEmpty
  · rw [frame] at found
    exact found
  · rw [frame]

namespace CheckedOut

variable {session : Session} {cart row : Cart} {user : Option Uuid}
  {payload : CheckoutInput} {db after middle : Database} {order : Order}
  {coupon : Option Coupon} {discount : Cents} {sold : List OrderItem}
  {amount : Uuid → Int}
  (checkedOut : CheckedOut session cart user payload db after order coupon
    discount middle sold amount row)

include checkedOut

theorem isNew : order.id ∉ db.orders.keys := by
  rw [checkedOut.order_eq]
  exact FreshKey.fresh_notMem _

theorem isPending : order.status = .pending := by
  rw [checkedOut.order_eq]
  rfl

/-- The amounts of the order that a checkout has placed. -/
theorem amounts :
    order.subtotal = db.cartSubtotal cart.id ∧
      order.discountTotal = discount ∧
      order.shippingTotal = calculateShipping payload.shippingMethod
        (db.cartSubtotal cart.id - discount) ∧
      order.grandTotal = order.subtotal - order.discountTotal +
        order.shippingTotal := by
  rw [checkedOut.order_eq]
  refine ⟨rfl, rfl, rfl, ?_⟩
  rw [grandTotal_pricedOrder]
  exact add_zero _

end CheckedOut

/-- A checkout that raised changed nothing. -/
theorem createOrderFromCart_eq_error {session : Session} {cart : Cart}
    {user : Option Uuid} {payload : CheckoutInput} {db after : Database}
    {raised : Exception}
    (failed : createOrderFromCart session cart user payload db =
      .error raised after) :
    after = db :=
  atomic_eq_error failed

end NovaCommerce
