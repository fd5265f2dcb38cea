import NovaCommerce.GuestMerges
import NovaCommerce.CouponDiscounts
import NovaCommerce.OrderViews

/-!
# The errors of a checkout

A checkout raises its own error for a cart, a coupon or a stock that does not
allow it, and the endpoint answers with the message.  Three other errors are
left, whatever the cart and coupon endpoints did before: two visible coupons
whose codes differ in case only, what a client submits and a column does not
hold, and an order number that was drawn before.
-/

namespace NovaCommerce

open AtomicCall GuardedRun LockingTransactions

def Exception.IsCheckoutError (raised : Exception) : Prop :=
  ∃ message, raised = .checkoutError message

section Steps

variable {allowed : Exception → Prop} {session : Session} {db : Database}

/-- The code of a checkout is the code of a valid coupon, or there is none. -/
def Database.AcceptsCode (db : Database) (session : Session) (code : String) :
    Prop :=
  code = "" ∨ ∃ coupon, db.couponsNamed session code = [coupon] ∧
    coupon.isValidNow session.now = true

theorem lockCoupon_of_none {code : String}
    (named : db.couponsNamed session code = []) :
    lockCoupon session code db =
      .error (.checkoutError "invalid coupon") db := by
  unfold Database.couponsNamed at named
  rw [lockCoupon, get_bind, named]
  rfl

theorem lockCoupon_of_one {code : String} {coupon : Coupon}
    (named : db.couponsNamed session code = [coupon]) :
    lockCoupon session code db = .ok coupon db := by
  unfold Database.couponsNamed at named
  rw [lockCoupon, get_bind, named]
  rfl

theorem lockCoupon_of_two {code : String} {first second : Coupon}
    {others : List Coupon}
    (named : db.couponsNamed session code = first :: second :: others) :
    lockCoupon session code db =
      .error (.multipleObjectsReturned "Coupon") db := by
  unfold Database.couponsNamed at named
  rw [lockCoupon, get_bind, named]
  rfl

theorem onlyRaises_lockCoupon (checkout : ∀ message,
    allowed (.checkoutError message)) (code : String) :
    OnlyRaises allowed (lockCoupon session code) db ↔
      (1 < (db.couponsNamed session code).length →
        allowed (.multipleObjectsReturned "Coupon")) := by
  cases named : db.couponsNamed session code with
  | nil =>
      rw [onlyRaises_of_eq_error (lockCoupon_of_none named)]
      simp [checkout]
  | cons first others =>
      cases others with
      | nil => simp [onlyRaises_of_eq_ok (lockCoupon_of_one named)]
      | cons second others =>
          rw [onlyRaises_of_eq_error (lockCoupon_of_two named)]
          simp

theorem onlyRaises_applyCoupon (checkout : ∀ message,
    allowed (.checkoutError message)) (code : String) (subtotal : Cents) :
    OnlyRaises allowed (applyCoupon session code subtotal) db ↔
      (code ≠ "" → 1 < (db.couponsNamed session code).length →
        allowed (.multipleObjectsReturned "Coupon")) := by
  unfold applyCoupon
  by_cases noCode : code = ""
  · rw [if_pos noCode]
    simp [noCode, onlyRaises_pure]
  · rw [if_neg noCode, onlyRaises_bind, onlyRaises_lockCoupon checkout]
    simp only [noCode, ne_eq, not_false_eq_true, true_implies]
    refine and_iff_left ?_
    intro coupon after _
    split
    · exact onlyRaises_pure _
    · exact (onlyRaises_throw _).mpr (checkout _)

theorem applyCoupon_of_use {code : String} {subtotal discount : Cents}
    {coupon : Option Coupon}
    (use : CouponUse session db code subtotal coupon discount) :
    applyCoupon session code subtotal db = .ok (coupon, discount) db := by
  unfold applyCoupon
  cases use with
  | unnamed noCode =>
      rw [if_pos noCode]
      rfl
  | @named coupon hasCode unique isValid =>
      rw [if_neg hasCode, bind_of_eq_ok (lockCoupon_of_one unique),
        if_pos isValid]
      rfl

theorem exists_couponUse_iff {code : String} (subtotal : Cents) :
    (∃ coupon discount,
        CouponUse session db code subtotal coupon discount) ↔
      db.AcceptsCode session code := by
  constructor
  · rintro ⟨_, _, use⟩
    cases use with
    | unnamed noCode => exact Or.inl noCode
    | named _ unique isValid => exact Or.inr ⟨_, unique, isValid⟩
  · intro accepts
    by_cases noCode : code = ""
    · exact ⟨_, _, .unnamed noCode⟩
    · obtain ⟨coupon, unique, isValid⟩ := accepts.resolve_left noCode
      exact ⟨_, _, .named noCode unique isValid⟩

theorem onlyRaises_createOrder {build : Uuid → Order}
    {hasId : ∀ id, Keyed.key (build id) = id} {fits : Bool}
    (fits_eq : ∀ id, (build id).fitsColumns = fits) :
    OnlyRaises allowed (createOrder session build hasId) db ↔
      (fits = false →
        allowed (.databaseError "value does not fit its column")) ∧
      (fits = true → (∃ order ∈ db.orders.rows,
          order.number = session.orderNumber) →
        allowed (.integrityError "unique number")) := by
  unfold createOrder
  rw [onlyRaises_get_bind, fits_eq]
  cases fits with
  | false =>
      rw [if_pos (by rfl), onlyRaises_throw]
      simp
  | true =>
      rw [if_neg (by simp)]
      by_cases taken : (db.orders.rows.any
          fun order => order.number = session.orderNumber) = true
      · rw [if_pos taken, onlyRaises_throw]
        simp only [List.any_eq_true, decide_eq_true_eq] at taken
        simp [taken]
      · rw [if_neg taken]
        simp only [List.any_eq_true, decide_eq_true_eq] at taken
        simp only [taken, false_implies, implies_true, and_true]
        exact iff_of_true (onlyRaises_of_eq_ok rfl) (by simp)

/-- The variant of a line and its product are in the catalogue. -/
def Database.InCatalog (db : Database) (variantId : Uuid) : Prop :=
  ∃ variant product, db.variants.find? variantId = some variant ∧
    db.products.find? variant.product = some product

/-- A reservation of some units finds too little stock at most. -/
theorem onlyRaises_reserveStock {variantId : Uuid} {quantity : Int}
    {reference : String} (positive : 0 < quantity) :
    OnlyRaises (fun raised => ∃ message, raised = .outOfStockError message)
      (reserveStock session variantId quantity reference) db := by
  intro raised after failed
  rw [reserveStock_eq, if_neg (not_le.mpr positive)] at failed
  by_cases short : 0 < GreedyAllocation.unmet Stock.available
      (reservableRows session db variantId) quantity
  · simp only [short, if_true] at failed
    obtain ⟨rfl, _⟩ := EStateM.Result.error.inj failed
    exact ⟨_, rfl⟩
  · simp only [short, if_false] at failed
    cases failed

theorem onlyRaises_outOfStockAsCheckoutError (checkout : ∀ message,
    allowed (.checkoutError message)) {Value : Type} {call : Service Value}
    (only : OnlyRaises (fun raised => ∃ message,
      raised = .outOfStockError message) call db) :
    OnlyRaises allowed (outOfStockAsCheckoutError call) db := by
  intro raised after failed
  unfold outOfStockAsCheckoutError at failed
  cases called : call db with
  | ok value later =>
      rw [called] at failed
      cases failed
  | error first later =>
      obtain ⟨message, rfl⟩ := only _ _ called
      rw [called] at failed
      obtain ⟨rfl, _⟩ := EStateM.Result.error.inj failed
      exact checkout message

/-- The body of the loop finds too little stock at most. -/
theorem onlyRaises_checkoutItem (checkout : ∀ message,
    allowed (.checkoutError message)) {order : Uuid} {item : CartItem}
    (hasUnits : 0 < item.quantity) (inCatalog : db.InCatalog item.variant) :
    OnlyRaises allowed (checkoutItem session order item) db := by
  unfold checkoutItem
  rw [onlyRaises_bind]
  constructor
  · exact onlyRaises_outOfStockAsCheckoutError checkout
      (onlyRaises_reserveStock (by omega))
  · intro snapshot after reserved
    obtain ⟨_, _, rfl⟩ :=
      reserveStock_eq_ok (outOfStockAsCheckoutError_eq_ok.mp reserved)
    rw [onlyRaises_get_bind]
    obtain ⟨variant, product, foundVariant, foundProduct⟩ := inCatalog
    have sameVariants : (db.afterReserve session item.variant item.quantity
        (toString order)).variants = db.variants := rfl
    have sameProducts : (db.afterReserve session item.variant item.quantity
        (toString order)).products = db.products := rfl
    rw [sameVariants, foundVariant]
    dsimp only
    rw [sameProducts, foundProduct]
    exact onlyRaises_of_eq_ok rfl

/-- The loop, by induction over the lines. -/
theorem onlyRaises_checkoutItems (checkout : ∀ message,
    allowed (.checkoutError message)) {order : Uuid} {items : List CartItem}
    (fine : ∀ item ∈ items,
      0 < item.quantity ∧ db.InCatalog item.variant) :
    OnlyRaises allowed (checkoutItems session order items) db := by
  induction items generalizing db with
  | nil => exact onlyRaises_of_eq_ok rfl
  | cons item items ih =>
      obtain ⟨hasUnits, inCatalog⟩ := fine item List.mem_cons_self
      rw [checkoutItems, onlyRaises_bind]
      refine ⟨onlyRaises_checkoutItem checkout hasUnits inCatalog, ?_⟩
      intro _ after returned
      obtain ⟨sold, amount, one⟩ := checkoutItem_eq_ok returned
      apply ih
      intro later listed
      have stays := fine later (List.mem_cons_of_mem _ listed)
      rw [one.frame]
      exact stays

end Steps

/-- What the services rely on, and the foreign key from variants to
products. -/
structure ShopSound (db : Database) : Prop extends CartsSound db where
  haveProducts : ∀ variant ∈ db.variants.rows,
    variant.product ∈ db.products.keys

/-- The columns hold what the client submits. -/
def CheckoutInput.fitsColumns (payload : CheckoutInput) : Bool :=
  payload.email.length ≤ 254 && payload.shippingAddress.storable &&
    ((payload.billingAddress.getD .null).orElse
      payload.shippingAddress).storable

section Checkout

variable {allowed : Exception → Prop} {session : Session} {db : Database}
  {cart : Cart} {user : Option Uuid} {payload : CheckoutInput}

theorem ShopSound.inCatalog (sound : ShopSound db) {item : CartItem}
    (member : item ∈ db.cartItems.rows) : db.InCatalog item.variant := by
  obtain ⟨variant, variantMem, variantKey⟩ :=
    List.mem_map.mp (sound.haveVariants item member)
  obtain ⟨product, productMem, productKey⟩ :=
    List.mem_map.mp (sound.haveProducts variant variantMem)
  exact ⟨variant, product,
    Table.find?_eq_some.mpr ⟨variantMem, variantKey⟩,
    Table.find?_eq_some.mpr ⟨productMem, productKey⟩⟩

/-- Once there is an order, a checkout finds too little stock at most. -/
theorem onlyRaises_afterOrder (checkout : ∀ message,
    allowed (.checkoutError message)) (sound : ShopSound db)
    (nonempty : db.itemsOf cart.id ≠ []) (orders : Table Order)
    (coupon : Option Coupon) (order : Order) :
    OnlyRaises allowed (do
      let db ← get
      checkoutItems session order.id
        (session.scan CartItem (db.itemsOf cart.id))
      countCouponUse coupon
      createOrderEvent session order.id "created" "Order created" user
        (.obj [])
      emptyCart session cart.id
      pure order : Service Order) { db with orders } := by
  rw [onlyRaises_get_bind, onlyRaises_bind]
  constructor
  · apply onlyRaises_checkoutItems checkout
    intro item listed
    obtain ⟨member, isAlive, _⟩ :=
      mem_itemsOf.mp ((session.scan_perm CartItem _).mem_iff.mp listed)
    exact ⟨sound.positive item member isAlive, sound.inCatalog member⟩
  · intro _ middle looped
    obtain ⟨sold, amount, itemsSold⟩ := checkoutItems_eq_ok looped
    rw [onlyRaises_bind_of_eq_ok (countCouponUse_eq coupon middle),
      onlyRaises_bind_of_eq_ok
        (show createOrderEvent _ _ _ _ _ _ _ = .ok () _ from rfl)]
    -- The cart of a line is there.
    obtain ⟨item, listed⟩ := List.exists_mem_of_ne_nil _ nonempty
    obtain ⟨member, _, inCart⟩ := mem_itemsOf.mp listed
    obtain ⟨row, rowMem, rowKey⟩ :=
      List.mem_map.mp (sound.haveCarts item member)
    have found : middle.carts.find? cart.id = some row := by
      rw [itemsSold.frame, ← inCart]
      exact Table.find?_eq_some.mpr ⟨rowMem, rowKey⟩
    rw [onlyRaises_bind]
    exact ⟨onlyRaises_of_eq_ok (emptyCart_of_found found),
      fun _ _ _ => onlyRaises_pure order⟩

/-- What a checkout raises besides its own error, and when. -/
theorem onlyRaises_createOrderFromCart (checkout : ∀ message,
    allowed (.checkoutError message)) (sound : ShopSound db) :
    OnlyRaises allowed (createOrderFromCart session cart user payload) db ↔
      (db.itemsOf cart.id ≠ [] →
        (payload.couponCode ≠ "" →
          1 < (db.couponsNamed session payload.couponCode).length →
            allowed (.multipleObjectsReturned "Coupon")) ∧
        (db.AcceptsCode session payload.couponCode →
          (payload.fitsColumns = false →
            allowed (.databaseError "value does not fit its column")) ∧
          (payload.fitsColumns = true → (∃ order ∈ db.orders.rows,
              order.number = session.orderNumber) →
            allowed (.integrityError "unique number")))) := by
  rw [createOrderFromCart, onlyRaises_atomic, onlyRaises_get_bind]
  by_cases isEmpty : db.itemsOf cart.id = []
  · rw [if_pos (List.isEmpty_iff.mpr isEmpty), onlyRaises_throw]
    simp [isEmpty, checkout]
  rw [if_neg (mt List.isEmpty_iff.mp isEmpty), onlyRaises_bind,
    onlyRaises_applyCoupon checkout]
  simp only [ne_eq, isEmpty, not_false_eq_true, true_implies]
  refine and_congr_right fun _ => ?_
  rw [← exists_couponUse_iff (db.cartSubtotal cart.id)]
  have creates (coupon : Option Coupon) (discount : Cents) :
      OnlyRaises allowed (createOrder session
          (pricedOrder session cart user payload coupon
            (db.cartSubtotal cart.id) discount)
          (key_pricedOrder session cart user payload coupon
            (db.cartSubtotal cart.id) discount)) db ↔
        (payload.fitsColumns = false →
          allowed (.databaseError "value does not fit its column")) ∧
        (payload.fitsColumns = true → (∃ order ∈ db.orders.rows,
            order.number = session.orderNumber) →
          allowed (.integrityError "unique number")) :=
    onlyRaises_createOrder fun _ => rfl
  constructor
  · rintro rest ⟨coupon, discount, use⟩
    have ordered := rest _ _ (applyCoupon_of_use use)
    rw [onlyRaises_bind] at ordered
    exact (creates coupon discount).mp ordered.1
  · rintro stored ⟨coupon, discount⟩ after applied
    obtain ⟨rfl, use⟩ := applyCoupon_eq_ok applied
    dsimp only
    rw [onlyRaises_bind]
    refine ⟨(creates coupon discount).mpr (stored ⟨_, _, use⟩), ?_⟩
    intro order ordered returned
    obtain ⟨rfl, rfl⟩ := createOrder_eq_ok returned
    exact onlyRaises_afterOrder checkout sound isEmpty _ _ _

/-- Nothing but the cart, the coupon and the stock stops the checkout. -/
def Database.CheckoutClear (db : Database) (session : Session) (cart : Uuid)
    (payload : CheckoutInput) : Prop :=
  db.itemsOf cart ≠ [] →
    (payload.couponCode ≠ "" →
      (db.couponsNamed session payload.couponCode).length ≤ 1) ∧
    (db.AcceptsCode session payload.couponCode →
      payload.fitsColumns = true ∧
        ∀ order ∈ db.orders.rows, order.number ≠ session.orderNumber)

theorem onlyCheckoutErrors_iff (sound : ShopSound db) :
    OnlyRaises Exception.IsCheckoutError
        (createOrderFromCart session cart user payload) db ↔
      db.CheckoutClear session cart.id payload := by
  have ofOthers (raised : Exception) (other : ∀ message,
      raised ≠ .checkoutError message) : ¬raised.IsCheckoutError := by
    rintro ⟨message, rfl⟩
    exact other message rfl
  rw [onlyRaises_createOrderFromCart (fun message => ⟨message, rfl⟩) sound]
  have noMultiple := ofOthers (.multipleObjectsReturned "Coupon") (by simp)
  have noOverflow := ofOthers
    (.databaseError "value does not fit its column") (by simp)
  have noCollision := ofOthers (.integrityError "unique number") (by simp)
  unfold Database.CheckoutClear
  refine imp_congr_right fun _ => and_congr ?_ (imp_congr_right fun _ => ?_)
  · simp [noMultiple]
  · cases payload.fitsColumns <;> simp [noOverflow, noCollision]

end Checkout

def Response.status : Response → Nat
  | orders _ => 200
  | order status _ => status
  | payments _ => 200
  | payment status _ => status
  | error status _ _ _ => status
  | detail status _ => status

/-- The answer is an order that was created, or a message. -/
def Response.IsCheckoutAnswer (response : Response) : Prop :=
  response.status = 201 ∨ response.status = 400

section Endpoint

variable {session : Session} {db after : Database} {cart : Cart}
  {payload : CheckoutInput} {reader : UuidReader} {user : User}
  {sessionKey : String} {saved : List SavedEvent}

theorem exists_userCart (sound : CartsSound db) (session : Session)
    (user : Uuid) (sessionKey : String) :
    ∃ cart carts, GivesCart db (isCartOfUser user)
        (mergedCart session db user "USD") cart carts ∧
      getOrCreateCart session (some user) sessionKey db =
        .ok cart { db with carts } := by
  obtain ⟨cart, carts, gives⟩ : ∃ cart carts, GivesCart db (isCartOfUser user)
      (mergedCart session db user "USD") cart carts :=
    exists_givesCart sound.oneLive (fun _ => isCartOfUser_iff)
      (FreshKey.fresh_notMem db.carts.keys)
  exact ⟨cart, carts, gives,
    atomic_eq_ok.mpr (oneOrCreate_returns session gives)⟩

theorem status_apiExceptionHandler {raised : Exception}
    (other : ∀ message, raised ≠ .validationError message) :
    (apiExceptionHandler raised).status = 500 := by
  cases raised with
  | validationError message => exact absurd rfl (other message)
  | _ => rfl

theorem exceptCheckoutError_of_other {Value : Type} {status : Nat}
    {code : String} {call : Broadcasting Value}
    {answer : Value → Broadcasting Response} {raised : Exception}
    {before later : Signals} (failed : call before = .error raised later)
    (other : ¬raised.IsCheckoutError) :
    exceptCheckoutError status code call answer before =
      .error raised later := by
  unfold exceptCheckoutError
  rw [failed]
  cases raised with
  | checkoutError message => exact absurd ⟨message, rfl⟩ other
  | _ => rfl

/-- The endpoint answers a checkout unless the service raises another
error. -/
theorem respond_checkout_iff
    (called : getOrCreateCart session (some user.id) sessionKey db =
      .ok cart after) (sound : ShopSound after) :
    (Request.respond reader (some user)
        (.checkout session sessionKey (.ok payload))
        { db, saved }).1.IsCheckoutAnswer ↔
      OnlyRaises Exception.IsCheckoutError
        (createOrderFromCart session cart (some user.id) payload) after := by
  have viewed : OrderViewSet.checkout session user sessionKey (.ok payload)
      { db, saved } = exceptCheckoutError 400 "checkout_failed"
        (Broadcasting.createOrderFromCart session cart (some user.id) payload)
        (fun order => do
          let state ← get
          pure (.order 201 (order.data session state.db)))
        { db := after, saved } :=
    bind_of_eq_ok (Broadcasting.silently_eq_ok.mpr ⟨after, called, rfl⟩)
  have erases := Broadcasting.erases_createOrderFromCart session cart
    (some user.id) payload { db := after, saved }
  simp only [Request.respond, Request.view, viewed]
  cases placed : Broadcasting.createOrderFromCart session cart (some user.id)
      payload { db := after, saved } with
  | ok order later =>
      simp only [exceptCheckoutError, placed]
      exact iff_of_true (Or.inl rfl) (onlyRaises_of_eq_ok (erases.eq_ok placed))
  | error raised later =>
      have failed := erases.eq_error placed
      rw [onlyRaises_of_eq_error failed]
      by_cases isCheckout : raised.IsCheckoutError
      · obtain ⟨message, rfl⟩ := isCheckout
        simp only [exceptCheckoutError, placed]
        exact iff_of_true (Or.inr rfl) ⟨message, rfl⟩
      · have only : OnlyRaises (fun raised => ∀ message,
            raised ≠ .validationError message)
            (createOrderFromCart session cart (some user.id) payload) after :=
          (onlyRaises_createOrderFromCart (by simp) sound).mpr (by simp)
        have status := status_apiExceptionHandler (only _ _ failed)
        rw [exceptCheckoutError_of_other placed isCheckout]
        refine iff_of_false ?_ isCheckout
        simp [Response.IsCheckoutAnswer, status]

end Endpoint

/-- A `destroy` request of a staff user. -/
def destroyCoupon (session : Session) (id : Uuid) : Service Unit := do
  let db ← get
  match (objects db.coupons).find? fun coupon => coupon.id = id with
  | none => throw (.doesNotExist "Coupon")
  | some coupon => modify fun db => { db with
      coupons := db.coupons.save
        { coupon with deletedAt := some session.now } }

/-- A call of a cart service, or a request of the staff for coupons. -/
inductive ShopRequest where
  | cart (command : CartCommand)
  | createCoupon (session : Session) (fields : CouponFields)
  | editCoupon (edit : CouponEdit)
  | destroyCoupon (session : Session) (id : Uuid)

def ShopRequest.step (db : Database) : ShopRequest → Database
  | cart command => command.step db
  | createCoupon session fields =>
      settle (atomic (NovaCommerce.createCoupon session fields)) db
  | editCoupon edit => settle (Statements.editCoupon edit).service db
  | destroyCoupon session id =>
      settle (atomic (NovaCommerce.destroyCoupon session id)) db

section Requests

variable {db after : Database}

theorem ShopSound.of_coupons (sound : ShopSound db) (coupons : Table Coupon) :
    ShopSound { db with coupons } :=
  ⟨⟨⟨sound.unique, sound.haveCarts, sound.haveVariants, sound.positive⟩,
    ⟨sound.oneLive, sound.keyed⟩⟩, sound.haveProducts⟩

theorem ShopSound.cartStep (sound : ShopSound db) (command : CartCommand) :
    ShopSound (command.step db) := by
  obtain ⟨sameVariants, sameProducts⟩ :=
    (cartEffect_step db command).catalog_eq
  refine ⟨sound.toCartsSound.step command, ?_⟩
  rw [sameVariants, sameProducts]
  exact sound.haveProducts

theorem createCoupon_eq_ok {session : Session} {fields : CouponFields}
    {coupon : Coupon}
    (returned : createCoupon session fields db = .ok coupon after) :
    ∃ coupons, after = { db with coupons } := by
  unfold createCoupon at returned
  cases coded : fields.code with
  | none =>
      simp only [coded] at returned
      exact (throw_eq_ok.mp returned).elim
  | some code =>
      simp only [coded] at returned
      rw [get_bind]
        at returned
      split at returned
      · exact (throw_eq_ok.mp returned).elim
      · split at returned
        · exact (throw_eq_ok.mp returned).elim
        · obtain ⟨_, middle, modified, finished⟩ := bind_eq_ok.mp returned
          obtain ⟨_, rfl⟩ := pure_eq_ok.mp finished
          exact ⟨_, (modify_eq_ok.mp modified).symm⟩

theorem editCoupon_eq_ok {edit : CouponEdit} {coupon : Coupon}
    (returned : (Statements.editCoupon edit).service db = .ok coupon after) :
    ∃ coupons, after = { db with coupons } := by
  obtain ⟨progress, leads, rfl⟩ : ∃ progress,
      Leads goodsRely db (Statements.editCoupon edit) .start coupon progress ∧
        progress.own db = after :=
    leads_of_alone_start goodsRely (atomic_eq_ok.mp returned)
  exact ⟨_, (leads_editCoupon leads).1 db⟩

theorem destroyCoupon_eq_ok {session : Session} {id : Uuid} {value : Unit}
    (returned : destroyCoupon session id db = .ok value after) :
    ∃ coupons, after = { db with coupons } := by
  unfold destroyCoupon at returned
  rw [get_bind]
    at returned
  cases found : (objects db.coupons).find? fun coupon => coupon.id = id with
  | none =>
      simp only [found] at returned
      exact (throw_eq_ok.mp returned).elim
  | some coupon =>
      simp only [found] at returned
      exact ⟨_, (modify_eq_ok.mp returned).symm⟩

/-- Every request keeps what a checkout relies on. -/
theorem ShopSound.step (sound : ShopSound db) (request : ShopRequest) :
    ShopSound (request.step db) := by
  cases request with
  | cart command => exact sound.cartStep command
  | createCoupon session fields =>
      refine effect_settle (fun _ _ => atomic_eq_error) sound ?_
      intro coupon after returned
      obtain ⟨coupons, rfl⟩ := createCoupon_eq_ok (atomic_eq_ok.mp returned)
      exact sound.of_coupons coupons
  | editCoupon edit =>
      refine effect_settle (fun _ _ => atomic_eq_error) sound ?_
      intro coupon after returned
      obtain ⟨coupons, rfl⟩ := editCoupon_eq_ok returned
      exact sound.of_coupons coupons
  | destroyCoupon session id =>
      refine effect_settle (fun _ _ => atomic_eq_error) sound ?_
      intro value after returned
      obtain ⟨coupons, rfl⟩ := destroyCoupon_eq_ok (atomic_eq_ok.mp returned)
      exact sound.of_coupons coupons

theorem ShopSound.history (sound : ShopSound db)
    (requests : List ShopRequest) :
    ShopSound (exec ShopRequest.step db requests) := by
  have kept : ∀ (state : Database) (request : ShopRequest),
      ShopSound state → ShopSound (request.step state) :=
    fun _ request sound => sound.step request
  exact exec_invariant_of_steps kept sound requests

end Requests

/-- After any requests, a checkout returns an order or raises its own error,
and the endpoint answers with one of the two, exactly if at most one coupon
has the code, the columns hold what was submitted, and the order number is a
new one. -/
theorem checkout_answered_iff {initial db : Database}
    {history : List ShopRequest} (sound : ShopSound initial)
    (reached : exec ShopRequest.step initial history = db) (session : Session)
    (payload : CheckoutInput) :
    (∀ (cart : Cart) (user : Option Uuid),
      OnlyRaises Exception.IsCheckoutError
          (createOrderFromCart session cart user payload) db ↔
        db.CheckoutClear session cart.id payload) ∧
    ∀ (reader : UuidReader) (user : User) (sessionKey : String)
      (saved : List SavedEvent),
      (Request.respond reader (some user)
          (.checkout session sessionKey (.ok payload))
          { db, saved }).1.IsCheckoutAnswer ↔
        ∀ cart ∈ db.chosenCarts (isCartOfUser user.id),
          db.CheckoutClear session cart.id payload := by
  have soundNow : ShopSound db := reached ▸ sound.history history
  refine ⟨fun cart user => onlyCheckoutErrors_iff soundNow, ?_⟩
  intro reader user sessionKey saved
  obtain ⟨cart, carts, gives, called⟩ :=
    exists_userCart soundNow.toCartsSound session user.id sessionKey
  have soundThen : ShopSound { db with carts } := by
    have stepped := soundNow.cartStep
      (.getOrCreateCart session (some user.id) sessionKey)
    rw [CartCommand.step, settle_of_eq_ok called] at stepped
    exact stepped
  rw [respond_checkout_iff called soundThen, onlyCheckoutErrors_iff soundThen]
  cases gives with
  | found only =>
      rw [only]
      simp
  | created noneFound unused =>
      rw [noneFound]
      refine iff_of_true ?_ (by simp)
      -- A new cart has no lines.
      intro nonempty
      obtain ⟨item, listed⟩ := List.exists_mem_of_ne_nil _ nonempty
      obtain ⟨member, _, inCart⟩ := mem_itemsOf.mp listed
      exact absurd (inCart ▸ soundNow.haveCarts item member) unused

theorem shopSound_guestShop : ShopSound guestShop :=
  ⟨cartsSound_guestShop, by decide⟩

def saveCoupon (now : Time) (code : String) : ShopRequest :=
  .createCoupon { now } { code := some code, value := some 1000 }

/-- A checkout with the code of the coupon. -/
def saveCheckout : CheckoutInput where
  email := "buyer@example.com"
  phone := ""
  shippingAddress := .obj []
  couponCode := "Save10"

theorem checkout_answered_one_code :
    let db := exec ShopRequest.step guestShop [saveCoupon 1 "SAVE10"]
    let session : Session := { now := 2, orderNumber := "N-1" }
    OnlyRaises Exception.IsCheckoutError (createOrderFromCart session
        { id := 10, createdAt := 0, user := some 3 } (some 3) saveCheckout)
        db ∧
      ∀ reader saved, (Request.respond reader (some { id := 3 })
        (.checkout session "" (.ok saveCheckout))
        { db, saved }).1.IsCheckoutAnswer := by
  intro db session
  have answered := checkout_answered_iff shopSound_guestShop
    (rfl : exec ShopRequest.step guestShop [saveCoupon 1 "SAVE10"] = db)
    session saveCheckout
  have clear : ∀ cart, db.CheckoutClear session cart saveCheckout := by
    intro cart nonempty
    refine ⟨?_, fun _ => ?_⟩
    · decide +kernel
    · decide +kernel
  exact ⟨(answered.1 _ _).mpr (clear _), fun reader saved =>
    (answered.2 reader { id := 3 } "" saved).mpr fun cart _ => clear cart.id⟩

/-- The staff endpoint stores both codes, and the checkout raises an error that
it answers with a failure of the server. -/
theorem checkout_fails_two_codes :
    let db := exec ShopRequest.step guestShop
      [saveCoupon 1 "SAVE10", saveCoupon 2 "save10"]
    let session : Session := { now := 3, orderNumber := "N-1" }
    ShopSound guestShop ∧
      (∃ after, createOrderFromCart session
        { id := 10, createdAt := 0, user := some 3 } (some 3) saveCheckout db =
          .error (.multipleObjectsReturned "Coupon") after) ∧
      ∀ reader saved, (Request.respond reader (some { id := 3 })
        (.checkout session "" (.ok saveCheckout)) { db, saved }).1.status =
          500 := by
  intro db session
  refine ⟨shopSound_guestShop, ⟨_, rfl⟩, fun reader saved => rfl⟩

end NovaCommerce
