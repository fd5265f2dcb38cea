import NovaCommerce.CheckoutTransactions

/-!
# A checkout without others

Asked while no other client does anything, the statements of a checkout return
exactly what the service returns.  The service reads a variant after its units
were reserved and the statements read all variants with the cart; both read
the same rows, since a reservation writes stock rows and movements only.
-/

namespace NovaCommerce

open AtomicCall LockingTransactions Transaction

variable {session : Session} {db after : Database}

theorem alone_applyCoupon (code : String) (subtotal : Cents) :
    (Statements.applyCoupon session code subtotal).alone db =
      applyCoupon session code subtotal db := by
  have locked : (Statements.lockCoupon session code).alone db =
      lockCoupon session code db := by
    rw [Statements.lockCoupon, alone_bind, bind_of_eq_ok
      (alone_selectForUpdate fun coupon listed => ?_), lockCoupon,
      get_bind]
    · generalize (objects db.coupons).filter
        (fun coupon => session.iexact coupon.code code) = chosen
      rcases chosen with _ | ⟨first, _ | ⟨second, others⟩⟩ <;> rfl
    · obtain ⟨visible, isNamed⟩ := List.mem_filter.mp listed
      obtain ⟨member, isAlive⟩ := List.mem_filter.mp visible
      exact ⟨member, by rw [isAlive, isNamed]; rfl⟩
  unfold Statements.applyCoupon applyCoupon
  by_cases noCode : code = ""
  · rw [if_pos noCode, if_pos noCode]
    rfl
  rw [if_neg noCode, if_neg noCode, alone_bind]
  change EStateM.bind _ _ db = EStateM.bind _ _ db
  unfold EStateM.bind
  rw [locked]
  cases lockCoupon session code db with
  | ok coupon after =>
      dsimp only
      split <;> rfl
  | error raised after => rfl

/-- What comes before the loop of a checkout writes one order. -/
theorem createOrder_writes {order : Order}
    (returned : (Statements.createOrder order).alone db = .ok () after) :
    after = { db with orders := db.orders.insertNew order } := by
  change (if _ then _ else if _ then _ else if _ then _ else _ :
    Statements Unit).alone db = _ at returned
  split at returned
  · exact (throw_eq_ok.mp returned).elim
  · split at returned
    · exact (throw_eq_ok.mp returned).elim
    · split at returned
      · exact (throw_eq_ok.mp returned).elim
      · exact (pure_eq_ok.mp returned).2.symm

/-- An insert under an unused identifier. -/
theorem insertNew_eq_create (orders : Table Order) (build : Uuid → Order)
    (hasId : ∀ id, Keyed.key (build id) = id) :
    orders.insertNew (build (FreshKey.fresh orders.keys)) =
      orders.create build hasId := by
  apply Table.ext
  rw [Table.rows_insertNew, Table.rows_create]
  rw [hasId]
  exact FreshKey.fresh_notMem _

theorem alone_createOrder {build : Uuid → Order}
    (hasId : ∀ id, Keyed.key (build id) = id)
    (numbered : ∀ id, (build id).number = session.orderNumber) :
    (Statements.createOrder (build (FreshKey.fresh db.orders.keys))).alone
        db = .ok () after ↔
      createOrder session build hasId db =
        .ok (build (FreshKey.fresh db.orders.keys)) after := by
  have unused :
      (build (FreshKey.fresh db.orders.keys)).id ∉ db.orders.keys := by
    rw [show (build _).id = _ from hasId _]
    exact FreshKey.fresh_notMem _
  rw [createOrder, get_bind]
  change (if _ then _ else if _ then _ else if _ then _ else _ :
    Statements Unit).alone db = _ ↔ _
  rw [if_neg unused, numbered]
  split
  · constructor <;> intro impossible <;> cases impossible
  split
  · constructor <;> intro impossible <;> cases impossible
  · change EStateM.Result.ok () { db with
        orders := db.orders.insertNew
          (build (FreshKey.fresh db.orders.keys)) } = _ ↔
      EStateM.Result.ok _ { db with
        orders := db.orders.create build hasId } = _
    rw [insertNew_eq_create db.orders build hasId]
    simp

/-- A reservation leaves the catalogue as it is. -/
theorem reserveStock_catalog {variantId : Uuid} {quantity : Int}
    {reference : String} {snapshot : StockSnapshot}
    (returned : reserveStock session variantId quantity reference db =
      .ok snapshot after) :
    after.lineOf = db.lineOf := by
  obtain ⟨_, _, rfl⟩ := reserveStock_eq_ok returned
  rfl

theorem alone_checkoutItem (order : Uuid) (item : CartItem) :
    (Statements.checkoutItem session order (db.lineOf item)).alone db =
        .ok () after ↔
      checkoutItem session order item db = .ok () after := by
  rw [Statements.checkoutItem, checkoutItem, alone_bind, bind_eq_ok,
    bind_eq_ok]
  refine exists_congr fun snapshot => exists_congr fun reserved => ?_
  rw [alone_mapError_eq_ok, outOfStockAsCheckoutError_eq_ok]
  rw [alone_reserveStock]
  refine and_congr_right fun returned => ?_
  rw [← congrFun (reserveStock_catalog returned) item, get_bind]
  unfold Database.lineOf
  cases reserved.variants.find? item.variant with
  | none => constructor <;> intro impossible <;> cases impossible
  | some variant =>
      simp only [Option.bind_some]
      cases reserved.products.find? variant.product with
      | none => constructor <;> intro impossible <;> cases impossible
      | some product => rfl

/-- The loop leaves the catalogue as it is. -/
theorem checkoutItem_catalog {order : Uuid} {item : CartItem}
    (returned : checkoutItem session order item db = .ok () after) :
    after.lineOf = db.lineOf := by
  obtain ⟨_, _, sold⟩ := checkoutItem_eq_ok returned
  rw [sold.frame]
  rfl

theorem alone_checkoutItems (order : Uuid) (items : List CartItem) :
    (Statements.checkoutItems session order (items.map db.lineOf)).alone db =
        .ok () after ↔
      checkoutItems session order items db = .ok () after := by
  induction items generalizing db with
  | nil => rfl
  | cons item items ih =>
      rw [List.map_cons, Statements.checkoutItems, checkoutItems, alone_bind,
        bind_eq_ok, bind_eq_ok]
      refine exists_congr fun _ => exists_congr fun middle => ?_
      rw [alone_checkoutItem]
      refine and_congr_right fun returned => ?_
      rw [← checkoutItem_catalog returned]
      exact ih

theorem alone_countCouponUse {coupon : Option Coupon}
    (member : ∀ row ∈ coupon, row ∈ db.coupons.rows) :
    (Statements.countCouponUse coupon).alone db = countCouponUse coupon db := by
  cases coupon with
  | none => rfl
  | some coupon =>
      have saved : Statements.withUsedCount db.coupons coupon.id
          (coupon.usedCount + 1) = db.coupons.save
            { coupon with usedCount := coupon.usedCount + 1 } := by
        refine Eq.trans (Table.alter_eq_save _ (member coupon rfl)
          fun other otherNe => if_neg otherNe) ?_
        rw [if_pos rfl]
      change EStateM.Result.ok () { db with
        coupons := Statements.withUsedCount db.coupons coupon.id
          (coupon.usedCount + 1) } = _
      rw [saved]
      rfl

/-- An update of the items that a query finds changes every item of the
cart. -/
theorem withDeleted_itemsOf (cart : Uuid) :
    Statements.withDeleted session
        ((session.filter db.cartItems fun item => item.cart = cart).map
          Keyed.key) db.cartItems =
      emptiedItems session cart db.cartItems := by
  apply Table.alter_congr
  intro item member
  have listed : item.id ∈ (session.filter db.cartItems
      fun item => item.cart = cart).map Keyed.key ↔
        item.cart = cart ∧ alive item = true := by
    rw [List.mem_map]
    constructor
    · rintro ⟨other, found, sameId⟩
      obtain ⟨otherMem, holds⟩ :=
        List.mem_filter.mp ((session.filter_perm _ _).mem_iff.mp found)
      rw [← db.cartItems.eq_of_key_eq otherMem member sameId]
      simpa [and_comm] using holds
    · intro holds
      refine ⟨item, (session.filter_perm _ _).mem_iff.mpr
        (List.mem_filter.mpr ⟨member, ?_⟩), rfl⟩
      simp [holds]
  unfold softDeleteItemOf
  simp only [List.contains_iff_mem, listed, Bool.and_eq_true,
    decide_eq_true_eq]

theorem alone_deleteItems (cart : Uuid) :
    (Statements.deleteItems session cart).alone db =
      .ok (session.filter db.cartItems fun item => item.cart = cart) { db with
        cartItems := emptiedItems session cart db.cartItems } := by
  have locked : (Statements.lockItems session
      fun item => item.cart = cart).alone db =
        .ok (session.filter db.cartItems fun item => item.cart = cart) db := by
    apply alone_selectForUpdate
    intro item listed
    exact List.mem_filter.mp ((session.filter_perm _ _).mem_iff.mp listed)
  rw [← withDeleted_itemsOf, Statements.deleteItems, Statements.softDelete,
    alone_bind, bind_of_eq_ok locked]
  rfl

theorem alone_saveCartCoupon (cart : Uuid) :
    (Statements.saveCartCoupon cart).alone db = .ok () after ↔
      ∃ row, db.carts.find? cart = some row ∧
        after = { db with
          carts := db.carts.save { row with coupon := none } } := by
  change (if (db.carts.find? cart).isNone then _ else _ :
    Statements Unit).alone db = _ ↔ _
  cases found : db.carts.find? cart with
  | none => exact ⟨nofun, fun ⟨_, notFound, _⟩ => nomatch notFound⟩
  | some row =>
      obtain ⟨member, hasId⟩ := Table.find?_eq_some.mp found
      have saved : Statements.withoutCoupon db.carts cart =
          db.carts.save { row with coupon := none } := by
        have idEq : row.id = cart := hasId
        subst idEq
        refine Eq.trans (Table.alter_eq_save _ member
          fun other otherNe => if_neg otherNe) ?_
        rw [if_pos rfl]
      change EStateM.Result.ok () { db with
        carts := Statements.withoutCoupon db.carts cart } = _ ↔ _
      rw [saved]
      simp [eq_comm]

/-- The cart is saved after its items were deleted. -/
theorem alone_emptied (cart : Uuid) :
    (Statements.saveCartCoupon cart).alone { db with
        cartItems := emptiedItems session cart db.cartItems } =
          .ok () after ↔
      emptyCart session cart db = .ok () after := by
  refine (alone_saveCartCoupon cart).trans ⟨?_, emptyCart_eq_ok⟩
  rintro ⟨row, found, rfl⟩
  exact emptyCart_of_found found

theorem mem_of_couponUse {code : String} {subtotal discount : Cents}
    {coupon : Option Coupon}
    (couponUse : CouponUse session db code subtotal coupon discount) :
    ∀ row ∈ coupon, row ∈ db.coupons.rows := by
  cases couponUse with
  | unnamed =>
      intro row chosen
      cases chosen
  | named _ unique _ =>
      intro row chosen
      have listed : row ∈ db.couponsNamed session code := by
        rw [unique, Option.mem_some.mp chosen]
        exact List.mem_singleton_self _
      exact (List.mem_filter.mp (List.mem_filter.mp listed).1).1

/-- What follows the creation of the order. -/
theorem alone_afterOrder {orderId cart : Uuid} {coupon : Option Coupon}
    {user : Option Uuid} {priced : List CartItem} {order created : Order}
    (member : ∀ row ∈ coupon, row ∈ db.coupons.rows) :
    (∃ receipt : CheckoutReceipt, receipt.order = created ∧ (do
      let db ← .query false
      let lines := db.linesOf session cart
      Statements.checkoutItems session orderId lines
      Statements.countCouponUse coupon
      Statements.createOrderEvent session orderId "created" "Order created"
        user (.obj [])
      let emptied ← Statements.deleteItems session cart
      Statements.saveCartCoupon cart
      pure {
        order
        priced
        converted := lines.map CartLine.item
        emptied
        coupon } : Statements CheckoutReceipt).alone db =
          .ok receipt after) ↔
      (do
        let db ← get
        checkoutItems session orderId
          (session.scan CartItem (db.itemsOf cart))
        countCouponUse coupon
        createOrderEvent session orderId "created" "Order created" user
          (.obj [])
        emptyCart session cart
        pure order : Service Order) db = .ok created after := by
  rw [get_bind]
  have counts : ∀ {middle : Database} {items : List CartItem},
      checkoutItems session orderId items db = .ok () middle →
        (Statements.countCouponUse coupon).alone middle =
          .ok () { middle with
            coupons := countedCoupons middle.coupons coupon } := by
    intro middle items looped
    obtain ⟨_, _, sold⟩ := checkoutItems_eq_ok looped
    rw [← countCouponUse_eq]
    apply alone_countCouponUse
    rw [sold.frame]
    exact member
  constructor
  · rintro ⟨receipt, rfl, returned⟩
    rw [alone_bind] at returned
    obtain ⟨_, _, read, rest⟩ := bind_eq_ok.mp returned
    cases read
    rw [alone_bind] at rest
    obtain ⟨_, middle, looped, rest⟩ := bind_eq_ok.mp rest
    have looping := (alone_checkoutItems orderId _).mp looped
    rw [bind_of_eq_ok looping, bind_of_eq_ok (countCouponUse_eq coupon middle)]
    rw [alone_bind, bind_of_eq_ok (counts looping)] at rest
    rw [alone_bind] at rest
    obtain ⟨_, recorded, recording, rest⟩ := bind_eq_ok.mp rest
    rw [alone_createOrderEvent] at recording
    rw [bind_of_eq_ok recording]
    rw [alone_bind, bind_of_eq_ok (alone_deleteItems cart), alone_bind] at rest
    obtain ⟨_, _, saved, finished⟩ := bind_eq_ok.mp rest
    obtain ⟨rfl, rfl⟩ := pure_eq_ok.mp finished
    rw [bind_of_eq_ok ((alone_emptied cart).mp saved)]
    rfl
  · intro returned
    obtain ⟨_, middle, looped, rest⟩ := bind_eq_ok.mp returned
    have looping : (Statements.checkoutItems session orderId
        (db.linesOf session cart)).alone db = .ok () middle :=
      (alone_checkoutItems orderId _).mpr looped
    rw [bind_of_eq_ok (countCouponUse_eq coupon middle)] at rest
    obtain ⟨_, recorded, recording, rest⟩ := bind_eq_ok.mp rest
    obtain ⟨_, _, emptied, finished⟩ := bind_eq_ok.mp rest
    obtain ⟨rfl, rfl⟩ := pure_eq_ok.mp finished
    refine ⟨{
      order
      priced
      converted := (db.linesOf session cart).map CartLine.item
      emptied := session.filter recorded.cartItems fun item =>
        item.cart = cart
      coupon }, rfl, ?_⟩
    rw [alone_bind, bind_of_eq_ok
      (show (Transaction.query false : Statements Database).alone db =
        .ok db db from rfl)]
    dsimp only
    rw [alone_bind, bind_of_eq_ok looping, alone_bind,
      bind_of_eq_ok (counts looped), alone_bind,
      bind_of_eq_ok (Eq.trans (congrFun (alone_createOrderEvent ..) _)
        recording), alone_bind,
      bind_of_eq_ok (alone_deleteItems cart), alone_bind,
      bind_of_eq_ok ((alone_emptied cart).mpr emptied)]
    rfl

/-- Alone, the statements return exactly the order that the service
returns. -/
theorem alone_createOrderFromCart {cart : Cart} {user : Option Uuid}
    {payload : CheckoutInput} {order : Order} :
    (∃ receipt : CheckoutReceipt, receipt.order = order ∧
      (Statements.createOrderFromCart session
        (FreshKey.fresh db.orders.keys) cart user payload).alone db =
          .ok receipt after) ↔
      createOrderFromCart session cart user payload db = .ok order after := by
  have queried : (Transaction.query false : Statements Database).alone db =
      .ok db db := rfl
  rw [createOrderFromCart, atomic_eq_ok, get_bind,
    Statements.createOrderFromCart, alone_bind, bind_of_eq_ok queried]
  by_cases isEmpty : (db.itemsOf cart.id).isEmpty = true
  · rw [if_pos isEmpty, if_pos isEmpty]
    constructor
    · rintro ⟨_, _, raised⟩
      exact (throw_eq_ok.mp raised).elim
    · intro raised
      exact (throw_eq_ok.mp raised).elim
  rw [if_neg isEmpty, if_neg isEmpty, alone_bind, bind_of_eq_ok queried]
  dsimp only
  rw [alone_bind]
  constructor
  · rintro ⟨receipt, same, returned⟩
    obtain ⟨⟨coupon, discount⟩, _, applied, rest⟩ := bind_eq_ok.mp returned
    rw [alone_applyCoupon] at applied
    obtain ⟨rfl, couponUse⟩ := applyCoupon_eq_ok applied
    have members := mem_of_couponUse couponUse
    rw [alone_bind] at rest
    obtain ⟨_, ordered, created, rest⟩ := bind_eq_ok.mp rest
    refine bind_eq_ok.mpr ⟨_, _, applied, bind_eq_ok.mpr ⟨_, _,
      (alone_createOrder _ fun _ => rfl).mp created, ?_⟩⟩
    refine (alone_afterOrder ?_).mp ⟨receipt, same, rest⟩
    rw [createOrder_writes created]
    exact members
  · intro returned
    obtain ⟨⟨coupon, discount⟩, _, applied, rest⟩ := bind_eq_ok.mp returned
    obtain ⟨rfl, couponUse⟩ := applyCoupon_eq_ok applied
    have members := mem_of_couponUse couponUse
    obtain ⟨created, ordered, creating, rest⟩ := bind_eq_ok.mp rest
    obtain ⟨ordered_eq, rfl⟩ := createOrder_eq_ok creating
    have sameCoupons : ordered.coupons = _ :=
      congrArg Database.coupons ordered_eq
    obtain ⟨receipt, same, finished⟩ :=
      (alone_afterOrder (sameCoupons ▸ members)).mpr rest
    refine ⟨receipt, same, bind_eq_ok.mpr ⟨(coupon, discount), _,
      (alone_applyCoupon _ _).trans applied, ?_⟩⟩
    rw [alone_bind]
    exact bind_eq_ok.mpr ⟨(), ordered,
      (alone_createOrder _ fun _ => rfl).mpr creating, finished⟩

end NovaCommerce
