import NovaCommerce.CouponDiscounts

/-!
# The price of an order

The price that a checkout should put on an order for each kind of coupon, and
when the order has it: a coupon for free shipping leaves the shipping as it is,
and a cap of zero does not cap.  Shipping is charged on the discounted
subtotal, so that a coupon can bring an order below the amount from which
shipping is free; this is the only way in which a coupon makes an order dearer.
-/

namespace NovaCommerce

open AtomicCall

/-- What a shipping method costs below the amount from which it is free. -/
def shippingRate (method : String) : Int :=
  if method = "standard" then 999
  else if method = "express" then 1999
  else if method = "pickup" then 0
  else 999

theorem calculateShipping_eq (method : String) (subtotal : Int) :
    calculateShipping method subtotal =
      if 20000 ≤ subtotal then 0 else shippingRate method :=
  rfl

theorem shippingRate_eq_zero_iff (method : String) :
    shippingRate method = 0 ↔ method = "pickup" := by
  unfold shippingRate
  split
  · next standard => simp [standard]
  · split
    · next express => simp [express]
    · split
      · next pickup => simp [pickup]
      · next notPickup => simp [notPickup]

/-- The coupon that a checkout finds under its code. -/
def Database.couponFor (db : Database) (session : Session) (code : String) :
    Option Coupon :=
  if code = "" then none else (db.couponsNamed session code).head?

/-- The discount that a coupon declares for a subtotal. -/
inductive DeclaredDiscount (subtotal : Int) : Option Coupon → Int → Prop
  | noCoupon : DeclaredDiscount subtotal none 0
  | belowMinimum {coupon : Coupon} (below : subtotal < coupon.minSubtotal) :
      DeclaredDiscount subtotal (some coupon) 0
  | percent {coupon : Coupon} {share : Int}
      (reached : coupon.minSubtotal ≤ subtotal) (kind : coupon.kind = .percent)
      (rounds : RoundsHalfEven (subtotal * coupon.value) 10000 share) :
      DeclaredDiscount subtotal (some coupon)
        (coupon.maxDiscount.elim share (min share))
  | fixed {coupon : Coupon} (reached : coupon.minSubtotal ≤ subtotal)
      (kind : coupon.kind = .fixed) :
      DeclaredDiscount subtotal (some coupon) (min coupon.value subtotal)
  | freeShipping {coupon : Coupon} (reached : coupon.minSubtotal ≤ subtotal)
      (kind : coupon.kind = .freeShipping) :
      DeclaredDiscount subtotal (some coupon) 0

/-- The coupon declares free shipping for a subtotal. -/
def ShipsFree (subtotal : Int) (coupon : Option Coupon) : Prop :=
  ∃ free ∈ coupon, free.kind = .freeShipping ∧ free.minSubtotal ≤ subtotal

/-- The order has the price that its coupon declares: its discount, the
shipping on the discounted subtotal, and their sum. -/
structure PricedAsDeclared (coupon : Option Coupon) (method : String)
    (subtotal : Int) (order : Order) : Prop where
  subtotal_eq : order.subtotal = subtotal
  discount : DeclaredDiscount subtotal coupon order.discountTotal
  shipping_free : ShipsFree subtotal coupon → order.shippingTotal = 0
  shipping_charged : ¬ShipsFree subtotal coupon → order.shippingTotal =
    if 20000 ≤ subtotal - order.discountTotal then 0 else shippingRate method
  grandTotal_eq : order.grandTotal =
    subtotal - order.discountTotal + order.shippingTotal

/-- The coupon declares a price that the checkout does not know: free shipping
where it is not free anyway, or a cap of zero over a percentage that is rounded
to more than nothing. -/
def Coupon.MissesDeclared (coupon : Coupon) (method : String)
    (subtotal : Int) : Prop :=
  coupon.minSubtotal ≤ subtotal ∧
    (coupon.kind = .freeShipping ∧ subtotal < 20000 ∧ method ≠ "pickup" ∨
      coupon.kind = .percent ∧ coupon.maxDiscount = some 0 ∧
        5000 < subtotal * coupon.value)

instance (coupon : Coupon) (method : String) (subtotal : Int) :
    Decidable (coupon.MissesDeclared method subtotal) :=
  inferInstanceAs (Decidable (_ ∧ _))

section Discount

variable {coupon : Coupon} {subtotal discount : Int}

/-- A declared percentage is determined by the fields of the coupon. -/
theorem DeclaredDiscount.eq_of_percent
    (declared : DeclaredDiscount subtotal (some coupon) discount)
    (reached : coupon.minSubtotal ≤ subtotal)
    (percent : coupon.kind = .percent) :
    discount = coupon.maxDiscount.elim (coupon.share subtotal)
      (min (coupon.share subtotal)) := by
  cases declared with
  | belowMinimum below => exact absurd reached (not_le.mpr below)
  | percent _ _ rounds =>
      obtain rfl : _ = coupon.share subtotal := rounds.unique (by decide)
      rfl
  | fixed _ kind => simp [percent] at kind
  | freeShipping _ kind => simp [percent] at kind

/-- The only discount that is not the declared one is a percentage with a cap
of zero. -/
theorem declaredDiscount_iff (coupon : Coupon) (subtotal : Int) :
    DeclaredDiscount subtotal (some coupon)
        (coupon.calculateDiscount subtotal) ↔
      ¬(coupon.minSubtotal ≤ subtotal ∧ coupon.kind = .percent ∧
        coupon.maxDiscount = some 0 ∧ 5000 < subtotal * coupon.value) := by
  by_cases below : subtotal < coupon.minSubtotal
  · have notReached := not_le.mpr below
    simp only [notReached, false_and, not_false_eq_true, iff_true]
    rw [Coupon.calculateDiscount_of_lt below]
    exact .belowMinimum below
  have reached := not_lt.mp below
  cases kind : coupon.kind with
  | fixed =>
      rw [Coupon.calculateDiscount_fixed below kind]
      simpa using DeclaredDiscount.fixed reached kind
  | freeShipping =>
      rw [Coupon.calculateDiscount_freeShipping kind]
      simpa using DeclaredDiscount.freeShipping reached kind
  | percent =>
      have rounds := coupon.share_rounds subtotal
      have declares := DeclaredDiscount.percent reached kind rounds
      have computed := Coupon.calculateDiscount_percent below kind
      have nonpos := @Coupon.share_nonpos_iff coupon subtotal
      cases capped : coupon.maxDiscount with
      | none =>
          simp only [capped] at computed declares
          simpa [computed] using declares
      | some cap =>
          simp only [capped] at computed declares
          by_cases noCap : cap = 0
          · subst noCap
            simp only [if_true] at computed
            simp only [reached, true_and]
            rw [not_lt, ← nonpos, computed]
            constructor
            · intro declared
              have determined := declared.eq_of_percent reached kind
              rw [capped] at determined
              exact determined ▸ min_le_right _ _
            · intro atMost
              simpa [min_eq_left atMost] using declares
          · simp only [noCap, if_false] at computed
            simpa [computed, noCap] using declares

end Discount

/-- What a checkout charges: a discount on the subtotal and the shipping of
what is left. -/
structure Charges (coupon : Option Coupon) (method : String) (subtotal : Int)
    (order : Order) : Prop where
  subtotal_eq : order.subtotal = subtotal
  discount_eq : order.discountTotal =
    coupon.elim 0 fun named => named.calculateDiscount subtotal
  shipping_eq : order.shippingTotal =
    if 20000 ≤ subtotal - order.discountTotal then 0 else shippingRate method
  grandTotal_eq : order.grandTotal =
    subtotal - order.discountTotal + order.shippingTotal

theorem CouponUse.couponFor_eq {session : Session} {db : Database}
    {code : String} {subtotal discount : Cents} {coupon : Option Coupon}
    (use : CouponUse session db code subtotal coupon discount) :
    db.couponFor session code = coupon ∧
      discount =
        coupon.elim 0 fun named => named.calculateDiscount subtotal := by
  cases use with
  | unnamed noCode => exact ⟨if_pos noCode, rfl⟩
  | named hasCode unique _ =>
      refine ⟨?_, rfl⟩
      rw [Database.couponFor, if_neg hasCode, unique]
      rfl

section Checkout

variable {session : Session} {cart : Cart} {user : Option Uuid}
  {payload : CheckoutInput} {db after : Database} {order : Order}

theorem charges_of_checkout
    (returned : createOrderFromCart session cart user payload db =
      .ok order after) :
    Charges (db.couponFor session payload.couponCode) payload.shippingMethod
      (db.cartSubtotal cart.id) order := by
  obtain ⟨coupon, discount, _, _, _, _, checkedOut⟩ :=
    createOrderFromCart_eq_ok returned
  obtain ⟨subtotal_eq, discount_eq, shipping_eq, grandTotal_eq⟩ :=
    checkedOut.amounts
  obtain ⟨couponFor_eq, used⟩ := checkedOut.couponUse.couponFor_eq
  rw [couponFor_eq]
  refine ⟨subtotal_eq, discount_eq.trans used, ?_, ?_⟩
  · rw [shipping_eq, discount_eq, calculateShipping_eq]
  · rw [grandTotal_eq, subtotal_eq]

/-- A coupon that is charged and misses no declared price gives the declared
price. -/
theorem Charges.pricedAsDeclared_iff {coupon : Option Coupon} {method : String}
    {subtotal : Int} (charges : Charges coupon method subtotal order) :
    PricedAsDeclared coupon method subtotal order ↔
      ∀ named ∈ coupon, ¬named.MissesDeclared method subtotal := by
  have discount_eq := charges.discount_eq
  have shipping_eq := charges.shipping_eq
  cases coupon with
  | none =>
      have neverFree : ¬ShipsFree subtotal none := by simp [ShipsFree]
      simp only [Option.elim_none] at discount_eq
      refine ⟨fun _ => by simp, fun _ => ⟨charges.subtotal_eq, ?_, ?_, ?_,
        charges.grandTotal_eq⟩⟩
      · exact discount_eq ▸ .noCoupon
      · exact fun free => absurd free neverFree
      · exact fun _ => shipping_eq
  | some named =>
      simp only [Option.elim_some] at discount_eq
      have declares := declaredDiscount_iff named subtotal
      rw [← discount_eq] at declares
      have shipsFree : ShipsFree subtotal (some named) ↔
          named.kind = .freeShipping ∧ named.minSubtotal ≤ subtotal := by
        simp [ShipsFree]
      simp only [Option.mem_some_iff, forall_eq']
      constructor
      · rintro priced ⟨reached, ⟨free, below, notPickup⟩ | ⟨percent, rest⟩⟩
        · have shipping := priced.shipping_free (shipsFree.mpr ⟨free, reached⟩)
          rw [Coupon.calculateDiscount_freeShipping free] at discount_eq
          rw [shipping_eq, discount_eq, sub_zero,
            if_neg (not_le.mpr below), shippingRate_eq_zero_iff] at shipping
          exact notPickup shipping
        · exact declares.mp priced.discount ⟨reached, percent, rest⟩
      · intro misses
        refine ⟨charges.subtotal_eq, ?_, ?_, fun _ => shipping_eq,
          charges.grandTotal_eq⟩
        · apply declares.mpr
          rintro ⟨reached, rest⟩
          exact misses ⟨reached, Or.inr rest⟩
        · intro free
          obtain ⟨free, reached⟩ := shipsFree.mp free
          rw [Coupon.calculateDiscount_freeShipping free] at discount_eq
          rw [shipping_eq, discount_eq, sub_zero]
          split
          · rfl
          · next below =>
            rw [shippingRate_eq_zero_iff]
            by_contra notPickup
            exact misses ⟨reached, Or.inl ⟨free, not_le.mp below, notPickup⟩⟩

/-- A checkout prices the order as its coupon declares, exactly when the coupon
does not declare free shipping where shipping is charged, nor a cap of zero
where there is a percentage to cap. -/
theorem checkout_priced_iff
    (returned : createOrderFromCart session cart user payload db =
      .ok order after) :
    PricedAsDeclared (db.couponFor session payload.couponCode)
        payload.shippingMethod (db.cartSubtotal cart.id) order ↔
      ∀ coupon ∈ db.couponFor session payload.couponCode,
        ¬coupon.MissesDeclared payload.shippingMethod
          (db.cartSubtotal cart.id) :=
  (charges_of_checkout returned).pricedAsDeclared_iff

end Checkout

def pricingSession : Session :=
  { now := 1, orderNumber := "N-1" }

/-- A checkout of the first cart under a coupon code. -/
def checkoutWith (code : String) : Service Order :=
  createOrderFromCart pricingSession { id := 10, createdAt := 0 } none
    { email := "buyer@example.com", phone := "", shippingAddress := .obj [],
      couponCode := code }

theorem checkout_priced_iff_tenCoupon :
    ∃ order after, checkoutWith "ten" couponStore = .ok order after ∧
      PricedAsDeclared (some tenCoupon) "standard" 1999 order := by
  have returns : Returns (checkoutWith "ten") couponStore := by decide +kernel
  have named : couponStore.couponFor pricingSession "ten" =
      some tenCoupon := by
    decide +kernel
  have subtotal : couponStore.cartSubtotal 10 = 1999 := by decide +kernel
  obtain ⟨order, after, returned⟩ := returns
  have priced := checkout_priced_iff returned
  rw [named, subtotal] at priced
  exact ⟨order, after, returned, priced.mpr (by decide)⟩

/-- Free shipping. -/
def freeShipping : CouponFields where
  code := some "SHIP"
  kind := some .freeShipping

/-- The endpoint stores the coupon, and a checkout with it charges the
shipping. -/
theorem freeShipping_charged :
    let db := settle (createCoupon { now := 0 } freeShipping) (twoCarts 5)
    let after := settle (checkoutWith "SHIP") db
    db.cartSubtotal 10 = 1999 ∧
      after.orders.rows.map Order.shippingTotal = [999] ∧
      ∀ order ∈ after.orders.rows,
        ¬PricedAsDeclared (db.couponFor pricingSession "SHIP") "standard"
          1999 order := by
  intro db after
  have charged : ∀ order ∈ after.orders.rows, order.shippingTotal = 999 := by
    decide +kernel
  have free : ShipsFree 1999 (db.couponFor pricingSession "SHIP") := by
    unfold ShipsFree
    decide +kernel
  refine ⟨by decide +kernel, by decide +kernel, ?_⟩
  intro order member priced
  have shipping := charged order member
  rw [priced.shipping_free free] at shipping
  exact absurd shipping (by decide)

/-- The discount takes a subtotal with free shipping below the amount from
which it is free, and is less than the shipping. -/
def Coupon.CostsShipping (coupon : Coupon) (method : String) (subtotal : Int) :
    Prop :=
  20000 ≤ subtotal ∧ subtotal - coupon.calculateDiscount subtotal < 20000 ∧
    coupon.calculateDiscount subtotal < shippingRate method

instance (coupon : Coupon) (method : String) (subtotal : Int) :
    Decidable (coupon.CostsShipping method subtotal) :=
  inferInstanceAs (Decidable (_ ∧ _))

/-- The shipping on two sides of the amount from which it is free. -/
theorem shipped_le_iff {subtotal discount rate : Int}
    (discountNonneg : 0 ≤ discount) :
    subtotal - discount + (if 20000 ≤ subtotal - discount then 0 else rate) ≤
        subtotal + (if 20000 ≤ subtotal then 0 else rate) ↔
      ¬(20000 ≤ subtotal ∧ subtotal - discount < 20000 ∧
        discount < rate) := by
  split <;> split <;> omega

/-- A coupon that takes nothing below zero makes an order dearer exactly when
it costs the free shipping and gives less than the shipping. -/
theorem Charges.grandTotal_le_iff {coupon : Coupon} {method : String}
    {subtotal : Int} {order plain : Order}
    (charges : Charges (some coupon) method subtotal order)
    (plainly : Charges none method subtotal plain)
    (discountNonneg : 0 ≤ coupon.calculateDiscount subtotal) :
    order.grandTotal ≤ plain.grandTotal ↔
      ¬coupon.CostsShipping method subtotal := by
  have discount_eq := charges.discount_eq
  have plainDiscount := plainly.discount_eq
  simp only [Option.elim_some] at discount_eq
  simp only [Option.elim_none] at plainDiscount
  rw [charges.grandTotal_eq, charges.shipping_eq, discount_eq,
    plainly.grandTotal_eq, plainly.shipping_eq, plainDiscount, sub_zero]
  exact shipped_le_iff discountNonneg

/-- Of two checkouts of one cart, the one with a coupon costs at most what the
one without a coupon costs, unless the coupon costs the free shipping. -/
theorem coupon_grandTotal_le_iff {session plainSession : Session} {cart : Cart}
    {user plainUser : Option Uuid} {payload : CheckoutInput}
    {db after plainAfter : Database} {order plain : Order} {coupon : Coupon}
    (returned : createOrderFromCart session cart user payload db =
      .ok order after)
    (plainly : createOrderFromCart plainSession cart plainUser
      { payload with couponCode := "" } db = .ok plain plainAfter)
    (named : db.couponFor session payload.couponCode = some coupon)
    (valueNonneg : 0 ≤ coupon.value)
    (capNonneg : ∀ cap ∈ coupon.maxDiscount, 0 ≤ cap)
    (subtotalNonneg : 0 ≤ db.cartSubtotal cart.id) :
    order.grandTotal ≤ plain.grandTotal ↔
      ¬coupon.CostsShipping payload.shippingMethod
        (db.cartSubtotal cart.id) := by
  have charges := charges_of_checkout returned
  rw [named] at charges
  exact charges.grandTotal_le_iff (charges_of_checkout plainly)
    (Coupon.calculateDiscount_nonneg_of_value valueNonneg capNonneg
      subtotalNonneg)

theorem coupon_grandTotal_le_iff_tenCoupon :
    ∃ order after plain plainAfter,
      checkoutWith "ten" couponStore = .ok order after ∧
      checkoutWith "" couponStore = .ok plain plainAfter ∧
      order.grandTotal ≤ plain.grandTotal := by
  have returns : Returns (checkoutWith "ten") couponStore := by decide +kernel
  have plainReturns : Returns (checkoutWith "") couponStore := by
    decide +kernel
  have named : couponStore.couponFor pricingSession "ten" =
      some tenCoupon := by
    decide +kernel
  obtain ⟨order, after, returned⟩ := returns
  obtain ⟨plain, plainAfter, plainly⟩ := plainReturns
  have cheaper := coupon_grandTotal_le_iff returned plainly named (by decide)
    (by decide) (by decide +kernel)
  exact ⟨order, after, plain, plainAfter, returned, plainly,
    cheaper.mpr (by decide +kernel)⟩

/-- A cart of two hundred, and a coupon for five off. -/
def dearStore : Database :=
  { twoCarts 5 with
    cartItems := ⟨[{
        id := 20, createdAt := 0, cart := 10, variant := 7,
        unitPrice := 20000 }],
      List.nodup_singleton _⟩
    coupons := ⟨[{
        id := 30, createdAt := 0, code := "FIVE", kind := .fixed,
        value := 500 }],
      List.nodup_singleton _⟩ }

/-- The coupon costs the free shipping and makes the order dearer. -/
theorem coupon_makes_dearer :
    (settle (checkoutWith "") dearStore).orders.rows.map Order.grandTotal =
        [20000] ∧
      (settle (checkoutWith "FIVE") dearStore).orders.rows.map
        Order.grandTotal = [20499] := by
  decide +kernel

end NovaCommerce
