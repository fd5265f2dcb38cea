import NovaCommerce.CheckoutEffects

/-!
# A checkout is an exact conversion, or nothing

A checkout that returns has turned every item of the cart into one item of the
new order, priced the order to the cent, reserved exactly what was ordered,
counted one use of the coupon that was named, and emptied the cart.  A
checkout that raises has changed nothing.
-/

namespace NovaCommerce

open AtomicCall GreedyAllocation

/-- Units of a variant that are reserved in active warehouses. -/
def Database.activeReservedOf (db : Database) (variant : Uuid) : Int :=
  db.stocks.total fun stock =>
    if db.inActiveWarehouse stock = true ∧ stock.variant = variant then
      stock.reserved
    else 0

/-- The coupon is the one that the code of a checkout names. -/
def Coupon.isNamed (coupon : Coupon) (session : Session) (code : String) :
    Bool :=
  code ≠ "" && alive coupon && session.iexact coupon.code code

/-- The cart's items have become the items of the order. -/
structure ExactConversion (session : Session) (db after : Database)
    (cart : Cart) (payload : CheckoutInput) (order : Order)
    (visited : List CartItem) (sold : List OrderItem) : Prop where
  visited_perm : visited.Perm (db.itemsOf cart.id)
  soldAs : List.Forall₂ (SoldAs order.id) visited sold
  orderItems_eq : after.orderItems.rows = db.orderItems.rows ++ sold
  orderItemsOf_eq : db.ItemsHaveOrders → after.orderItemsOf order.id = sold
  orders_eq : after.orders.rows = db.orders.rows ++ [order]
  subtotal_eq : order.subtotal = (sold.map OrderItem.lineTotal).sum
  grandTotal_eq : order.grandTotal = order.subtotal - order.discountTotal +
    order.shippingTotal + order.taxTotal
  reserved_eq : ∀ variant, after.activeReservedOf variant =
    db.activeReservedOf variant + unitsOf (db.itemsOf cart.id) variant
  stockRows_eq :
    (after.stocks.rows.map fun stock => { stock with reserved := 0 }) =
      db.stocks.rows.map fun stock => { stock with reserved := 0 }
  otherStocks : ∀ stock ∈ db.stocks.rows,
    (∀ item ∈ db.itemsOf cart.id, item.variant ≠ stock.variant) →
      stock ∈ after.stocks.rows
  couponNamed : payload.couponCode ≠ "" →
    ∃ coupon, db.couponsNamed session payload.couponCode = [coupon]
  coupons_eq : after.coupons.rows = db.coupons.rows.map fun coupon =>
    if coupon.isNamed session payload.couponCode then
      { coupon with usedCount := coupon.usedCount + 1 }
    else coupon
  itemsOf_eq : after.itemsOf cart.id = []
  otherItemsOf_eq : ∀ other, other ≠ cart.id →
    after.itemsOf other = db.itemsOf other
  cart_mem : cart.id ∈ db.carts.keys
  carts_eq : after.carts.rows = db.carts.rows.map fun row =>
    if row.id = cart.id then { row with coupon := none } else row
  frame : after = { db with
    stocks := after.stocks
    movements := after.movements
    coupons := after.coupons
    carts := after.carts
    cartItems := after.cartItems
    orders := after.orders
    orderItems := after.orderItems
    orderEvents := after.orderEvents }

section Parts

variable {db : Database}

/-- Emptying a cart hides its items and no others. -/
theorem itemsOf_emptiedItems (db : Database) (session : Session)
    (cart other : Uuid) :
    { db with
      cartItems := emptiedItems session cart db.cartItems }.itemsOf other =
      if other = cart then [] else db.itemsOf other := by
  simp only [Database.itemsOf, objects, emptiedItems, Table.rows_alter]
  induction db.cartItems.rows with
  | nil => simp
  | cons item items ih =>
      rw [List.map_cons]
      by_cases deleted : (item.cart = cart && alive item) = true
      · have hidden : alive (softDeleteItemOf session cart item) = false := by
          rw [softDeleteItemOf, if_pos deleted]
          rfl
        rw [List.filter_cons_of_neg (by simp [hidden]), ih]
        simp only [Bool.and_eq_true, decide_eq_true_eq] at deleted
        by_cases same : other = cart
        · simp [same]
        · have elsewhere : item.cart ≠ other := by
            intro equal
            exact same (equal.symm.trans deleted.1)
          simp [same, deleted.2, elsewhere]
      · have kept : softDeleteItemOf session cart item = item := by
          rw [softDeleteItemOf, if_neg deleted]
        rw [kept]
        by_cases isAlive : alive item = true
        · have elsewhere : item.cart ≠ cart := by
            intro equal
            exact deleted (by simp [equal, isAlive])
          rw [List.filter_cons_of_pos isAlive,
            List.filter_cons_of_pos isAlive]
          by_cases same : other = cart
          · subst other
            simpa [elsewhere] using ih
          · by_cases here : item.cart = other <;>
              simp [here, same, ih]
        · rw [List.filter_cons_of_neg isAlive,
            List.filter_cons_of_neg isAlive]
          exact ih

/-- One use is counted on the coupon that the code names, and on no other. -/
theorem countedCoupons_rows {session : Session} {code : String}
    {subtotal discount : Cents} {coupon : Option Coupon}
    (used : CouponUse session db code subtotal coupon discount) :
    (countedCoupons db.coupons coupon).rows =
      db.coupons.rows.map fun row =>
        if row.isNamed session code then
          { row with usedCount := row.usedCount + 1 }
        else row := by
  cases used with
  | unnamed noCode => simp [countedCoupons, Coupon.isNamed, noCode]
  | @named coupon hasCode unique isValid =>
      rw [countedCoupons, Table.save, Table.rows_alter]
      apply List.map_congr_left
      intro row rowMem
      have named : row.isNamed session code = true ↔
          row ∈ db.couponsNamed session code := by
        simp [Coupon.isNamed, hasCode, Database.couponsNamed, objects, rowMem,
          and_comm]
      rw [unique, List.mem_singleton] at named
      have couponMem : coupon ∈ db.coupons.rows := by
        have selected : coupon ∈ db.couponsNamed session code := by
          simp [unique]
        exact (List.mem_filter.mp (List.mem_filter.mp selected).1).1
      by_cases same : row = coupon
      · subst row
        rw [if_pos (named.mpr rfl)]
        exact if_pos rfl
      · rw [if_neg (fun isNamed => same (named.mp isNamed))]
        apply if_neg
        intro sameKey
        exact same (db.coupons.eq_of_key_eq rowMem couponMem sameKey)

/-- The line totals of the sold items are those of the cart items. -/
theorem sum_lineTotals {order : Uuid} {items : List CartItem}
    {sold : List OrderItem}
    (soldAs : List.Forall₂ (SoldAs order) items sold) :
    (sold.map OrderItem.lineTotal).sum =
      (items.map CartItem.lineTotal).sum := by
  induction soldAs with
  | nil => rfl
  | cons first _ ih =>
      simp only [List.map_cons, List.sum_cons, ih, first.lineTotal_eq,
        CartItem.lineTotal_eq]

theorem unitsOf_perm {first second : List CartItem}
    (perm : first.Perm second) : unitsOf first = unitsOf second := by
  funext variant
  exact (perm.map _).sum_eq

theorem unitsOf_eq_zero {items : List CartItem} {variant : Uuid}
    (absent : ∀ item ∈ items, item.variant ≠ variant) :
    unitsOf items variant = 0 := by
  apply List.sum_eq_zero
  intro units unitsMem
  obtain ⟨item, itemMem, rfl⟩ := List.mem_map.mp unitsMem
  exact if_neg (absent item itemMem)

theorem sold_order {order : Uuid} {items : List CartItem}
    {sold : List OrderItem}
    (soldAs : List.Forall₂ (SoldAs order) items sold) :
    ∀ item ∈ sold, item.order = order ∧ alive item = true := by
  induction soldAs with
  | nil => simp
  | cons first _ ih =>
      intro item itemMem
      rcases List.mem_cons.mp itemMem with rfl | later
      · exact ⟨first.order_eq, first.isAlive⟩
      · exact ih item later

/-- The items of a new order are the rows that were appended for it. -/
theorem orderItemsOf_append {after : Database} {order : Uuid}
    {sold : List OrderItem}
    (rows : after.orderItems.rows = db.orderItems.rows ++ sold)
    (ownRows : ∀ item ∈ sold, item.order = order ∧ alive item = true)
    (unused : ∀ item ∈ db.orderItems.rows, item.order ≠ order) :
    after.orderItemsOf order = sold := by
  have none : ((db.orderItems.rows.filter alive).filter
      fun item => item.order = order) = [] := by
    rw [List.filter_eq_nil_iff]
    intro item itemMem
    simpa using unused item (List.mem_filter.mp itemMem).1
  have all : ((sold.filter alive).filter
      fun item => item.order = order) = sold := by
    rw [List.filter_filter, List.filter_eq_self]
    intro item itemMem
    simpa [and_comm] using ownRows item itemMem
  rw [Database.orderItemsOf, objects, rows, List.filter_append,
    List.filter_append, none, all, List.nil_append]

/-- The items of other orders stay as they are. -/
theorem orderItemsOf_append_of_ne {after : Database} {order other : Uuid}
    {sold : List OrderItem}
    (rows : after.orderItems.rows = db.orderItems.rows ++ sold)
    (ownRows : ∀ item ∈ sold, item.order = order ∧ alive item = true)
    (otherNe : other ≠ order) :
    after.orderItemsOf other = db.orderItemsOf other := by
  have none : ((sold.filter alive).filter
      fun item => item.order = other) = [] := by
    rw [List.filter_eq_nil_iff]
    intro item itemMem
    have ofOrder := (ownRows item (List.mem_filter.mp itemMem).1).1
    simpa [ofOrder] using otherNe.symm
  rw [Database.orderItemsOf, objects, rows, List.filter_append,
    List.filter_append, none, List.append_nil]
  rfl

end Parts

/-- Reservations are taken from active warehouses only, so that the units
reserved there grow by what was wanted. -/
theorem Draws.activeReservedOf_reserve {before after : Database}
    {amount wanted : Uuid → Int}
    (draws : Draws .reserve before.isReservable before.stocks after.stocks
      amount wanted)
    (sameWarehouses : after.warehouses = before.warehouses)
    (variant : Uuid) :
    after.activeReservedOf variant =
      before.activeReservedOf variant + wanted variant := by
  rw [Database.activeReservedOf, draws.after_eq, Drawing.apply,
    Table.total_alter, Database.activeReservedOf, ← draws.total_eq variant,
    ← Table.total_add]
  apply Table.total_congr
  intro stock stockMem
  have sameWarehouse :
      after.inActiveWarehouse (Drawing.reserve.draw stock (amount stock.id)) =
        before.inActiveWarehouse stock := by
    simp only [Database.inActiveWarehouse, Database.warehouseOf,
      sameWarehouses]
    rfl
  simp only [Function.comp_apply, sameWarehouse]
  by_cases ofVariant : stock.variant = variant
  · cases active : before.inActiveWarehouse stock with
    | true => simp [Drawing.reserve, Stock.reserve, ofVariant]
    | false =>
        have untouched : amount stock.id = 0 := by
          rcases draws.bounds stock stockMem with none | ⟨selected, _⟩
          · exact none
          · simp [Database.isReservable, active] at selected
        simp [ofVariant, untouched]
  · simp [Drawing.reserve, Stock.reserve, ofVariant]

theorem exactConversion_of_checkedOut {session : Session} {cart : Cart}
    {user : Option Uuid} {payload : CheckoutInput} {db after middle : Database}
    {order : Order} {coupon : Option Coupon} {discount : Cents}
    {sold : List OrderItem} {amount : Uuid → Int} {row : Cart}
    (checkedOut : CheckedOut session cart user payload db after order coupon
      discount middle sold amount row) :
    ExactConversion session db after cart payload order
      (session.scan CartItem (db.itemsOf cart.id)) sold := by
  have isNew := checkedOut.isNew
  obtain ⟨_, couponUse, order_eq, itemsSold, row_eq, after_eq⟩ := checkedOut
  have perm := session.scan_perm CartItem (db.itemsOf cart.id)
  have rowKey := Table.find?_eq_some.mp row_eq
  constructor
  case visited_perm => exact perm
  case soldAs => exact itemsSold.soldAs
  case orderItems_eq => rw [after_eq, itemsSold.orderItems_eq]
  case orderItemsOf_eq =>
    intro haveOrders
    have rows : after.orderItems.rows = db.orderItems.rows ++ sold := by
      rw [after_eq, itemsSold.orderItems_eq]
    apply orderItemsOf_append rows
    · exact sold_order itemsSold.soldAs
    · intro item itemMem equal
      exact isNew (equal ▸ haveOrders item itemMem)
  case orders_eq =>
    rw [after_eq, itemsSold.frame, Table.rows_create, order_eq]
  case subtotal_eq =>
    rw [sum_lineTotals itemsSold.soldAs, (perm.map _).sum_eq, order_eq]
    rfl
  case grandTotal_eq =>
    rw [order_eq]
    exact grandTotal_pricedOrder _ _ _ _ _ _ _ _
  case reserved_eq =>
    intro variant
    have grown := itemsSold.draws.activeReservedOf_reserve
      (by rw [itemsSold.frame]) variant
    rw [unitsOf_perm perm] at grown
    rw [after_eq]
    exact grown
  case stockRows_eq =>
    rw [after_eq, itemsSold.draws.after_eq, Drawing.apply,
      Table.rows_alter, List.map_map]
    rfl
  case otherStocks =>
    intro stock stockMem absent
    rw [after_eq]
    apply itemsSold.draws.mem_of_wanted_eq_zero stockMem
    rw [unitsOf_perm perm]
    exact unitsOf_eq_zero absent
  case couponNamed =>
    intro hasCode
    cases couponUse with
    | unnamed noCode => exact absurd noCode hasCode
    | named _ unique _ => exact ⟨_, unique⟩
  case coupons_eq =>
    rw [after_eq]
    exact countedCoupons_rows couponUse
  case itemsOf_eq =>
    rw [after_eq]
    exact (itemsOf_emptiedItems db session cart.id cart.id).trans (if_pos rfl)
  case otherItemsOf_eq =>
    intro other otherNe
    rw [after_eq]
    exact (itemsOf_emptiedItems db session cart.id other).trans
      (if_neg otherNe)
  case cart_mem => exact List.mem_map.mpr ⟨row, rowKey.1, rowKey.2⟩
  case carts_eq =>
    rw [after_eq, Table.save, Table.rows_alter]
    apply List.map_congr_left
    intro other otherMem
    by_cases same : other.id = cart.id
    · have otherEq : other = row :=
        db.carts.eq_of_key_eq otherMem rowKey.1
          (Eq.trans same rowKey.2.symm)
      rw [if_pos same, otherEq]
      exact if_pos rfl
    · rw [if_neg same]
      apply if_neg
      intro sameKey
      exact same (Eq.trans sameKey rowKey.2)
  case frame =>
    rw [after_eq, itemsSold.frame]

/-- A checkout that returns converts its cart exactly, and one that raises
changes nothing. -/
theorem createOrderFromCart_exact (session : Session) (cart : Cart)
    (user : Option Uuid) (payload : CheckoutInput) (db : Database) :
    match createOrderFromCart session cart user payload db with
    | .ok order after =>
        ∃ visited sold,
          ExactConversion session db after cart payload order visited sold
    | .error _ after => after = db := by
  cases called : createOrderFromCart session cart user payload db with
  | ok order after =>
      obtain ⟨_, _, _, _, _, _, checkedOut⟩ := createOrderFromCart_eq_ok called
      exact ⟨_, _, exactConversion_of_checkedOut checkedOut⟩
  | error raised after => exact createOrderFromCart_eq_error called

end NovaCommerce
