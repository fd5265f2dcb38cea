import NovaCommerce.CheckoutEffects
import NovaCommerce.InventoryTransactions

/-!
# The checkout, statement by statement

`create_order_from_cart` reads the cart three times without a lock: whether it
has items, what they cost, and what is ordered.  The coupon and the stock rows
are locked before they are read, and the cart is emptied of the items that a
fourth statement finds.  By its commit a checkout has converted the items that
it read at the third time, as a greedy pass for each of them over the stock
rows of that moment.
-/

namespace NovaCommerce

open AtomicCall GreedyAllocation LockingTransactions

/-- A cart item with the variant and the product that are selected with it. -/
structure CartLine where
  item : CartItem
  variant : Option ProductVariant
  product : Option Product

namespace Database

def lineOf (db : Database) (item : CartItem) : CartLine :=
  let variant := db.variants.find? item.variant
  { item
    variant
    product := variant.bind fun variant => db.products.find? variant.product }

/-- `cart.items.select_related("variant", "variant__product")`. -/
def linesOf (db : Database) (session : Session) (cart : Uuid) :
    List CartLine :=
  (session.scan CartItem (db.itemsOf cart)).map db.lineOf

end Database

/-- What a checkout returns, with the items that it priced, converted and
deleted, and the coupon that it used. -/
structure CheckoutReceipt where
  order : Order
  priced : List CartItem
  converted : List CartItem
  emptied : List CartItem
  coupon : Option Coupon

namespace Statements

/-- `Coupon.objects.select_for_update().get(code__iexact=...)`. -/
def lockCoupon (session : Session) (code : String) :
    Statements Coupon := do
  let coupons ← selectForUpdate .coupon Database.coupons
    (fun _ coupon => session.iexact coupon.code code)
    (fun db => (objects db.coupons).filter fun coupon =>
      session.iexact coupon.code code)
  match coupons with
  | [] => .fail (.checkoutError "invalid coupon")
  | [coupon] => pure coupon
  | _ => .fail (.multipleObjectsReturned "Coupon")

/-- The coupon of a checkout, if one is named, and its discount. -/
def applyCoupon (session : Session) (code : String) (subtotal : Cents) :
    Statements (Option Coupon × Cents) :=
  if code = "" then pure (none, 0)
  else do
    let coupon ← lockCoupon session code
    if coupon.isValidNow session.now then
      pure (some coupon, coupon.calculateDiscount subtotal)
    else .fail (.checkoutError "coupon expired or inactive")

/-- `Order.objects.create`: an insert waits for another one with the same
identifier or number. -/
def createOrder (order : Order) : Statements Unit := do
  let _ ← .acquire (.order order.id)
  let db ← .acquire (.orderNumber order.number)
  if !order.fitsColumns then
    .fail (.databaseError "value does not fit its column")
  else if order.id ∈ db.orders.keys then
    .fail (.integrityError "unique id")
  else if db.orders.rows.any fun other => other.number = order.number then
    .fail (.integrityError "unique number")
  else .execute fun db => { db with orders := db.orders.insertNew order }

/-- `raise CheckoutError(str(exc)) from exc`. -/
def asCheckoutError : Exception → Exception
  | .outOfStockError message => .checkoutError message
  | raised => raised

/-- `OrderItem.objects.create` for one cart item. -/
def createOrderItem (session : Session) (order : Uuid) (item : CartItem)
    (variant : ProductVariant) (product : Product) : Statements Unit :=
  .execute fun db => { db with
    orderItems := db.orderItems.create
      (newOrderItem session order item variant product)
      (key_newOrderItem session order item variant product) }

/-- The body of the checkout loop. -/
def checkoutItem (session : Session) (order : Uuid) (line : CartLine) :
    Statements Unit := do
  let _ ← (reserveStock session line.item.variant line.item.quantity
    (toString order)).mapError asCheckoutError
  match line.variant with
  | none => .fail (.doesNotExist "ProductVariant")
  | some variant =>
      match line.product with
      | none => .fail (.doesNotExist "Product")
      | some product => createOrderItem session order line.item variant product

def checkoutItems (session : Session) (order : Uuid) :
    List CartLine → Statements Unit
  | [] => pure ()
  | line :: lines => do
      checkoutItem session order line
      checkoutItems session order lines

/-- The coupons with another use count of one of them. -/
def withUsedCount (coupons : Table Coupon) (id : Uuid) (usedCount : Nat) :
    Table Coupon :=
  coupons.alter
    (fun row => if row.id = id then { row with usedCount } else row)
    (by
      intro row
      split <;> rfl)

/-- `coupon.save(update_fields=["used_count"])`. -/
def countCouponUse : Option Coupon → Statements Unit
  | none => pure ()
  | some coupon => .execute fun db => { db with
      coupons := withUsedCount db.coupons coupon.id (coupon.usedCount + 1) }

/-- `OrderEvent.objects.create`. -/
def createOrderEvent (session : Session) (order : Uuid)
    (code message : String) (actor : Option Uuid) (payload : Json) :
    Statements Unit :=
  if !recordable code message payload then
    .fail (.databaseError "value does not fit its column")
  else
    .execute fun db => { db with
      orderEvents := db.orderEvents.create
        (createdEvent session order code message actor payload)
        (key_createdEvent session order code message actor payload) }

/-- The cart items after the deletion of some of them. -/
def withDeleted (session : Session) (ids : List Uuid)
    (items : Table CartItem) : Table CartItem :=
  items.alter
    (fun item => if ids.contains item.id then
      { item with deletedAt := some session.now } else item)
    (by
      intro item
      split <;> rfl)

/-- `CartItem.objects.select_for_update().filter(...)`. -/
def lockItems (session : Session) (chosen : CartItem → Bool) :
    Statements (List CartItem) :=
  selectForUpdate .cartItem Database.cartItems (fun _ => chosen)
    (fun db => session.filter db.cartItems chosen)

/-- `CartItem.objects.filter(...).delete()`: an update, which locks the rows
that it changes. -/
def softDelete (session : Session) (chosen : CartItem → Bool) :
    Statements (List CartItem) := do
  let items ← lockItems session chosen
  .execute fun db => { db with
    cartItems := withDeleted session (items.map Keyed.key) db.cartItems }
  pure items

/-- `cart.items.all().delete()`. -/
def deleteItems (session : Session) (cart : Uuid) :
    Statements (List CartItem) :=
  softDelete session fun item => item.cart = cart

/-- The carts after the coupon of one was taken off. -/
def withoutCoupon (carts : Table Cart) (cart : Uuid) : Table Cart :=
  carts.alter
    (fun row => if row.id = cart then { row with coupon := none } else row)
    (by
      intro row
      split <;> rfl)

/-- `cart.save(update_fields=["coupon"])`. -/
def saveCartCoupon (cart : Uuid) : Statements Unit := do
  let db ← .acquire (.cart cart)
  if (db.carts.find? cart).isNone then
    .fail (.databaseError "Save with update_fields did not affect any rows.")
  else .execute fun db => { db with carts := withoutCoupon db.carts cart }

/-- `orderId` is the identifier that the order draws at random. -/
def createOrderFromCart (session : Session) (orderId : Uuid) (cart : Cart)
    (user : Option Uuid) (payload : CheckoutInput) :
    Statements CheckoutReceipt := do
  -- `cart.items.exists()`
  let db ← .query false
  if (db.itemsOf cart.id).isEmpty then
    .fail (.checkoutError "cart is empty")
  else do
    -- `cart.subtotal()`
    let db ← .query false
    let priced := db.itemsOf cart.id
    let subtotal := (priced.map CartItem.lineTotal).sum
    let (coupon, discount) ← applyCoupon session payload.couponCode subtotal
    let order := pricedOrder session cart user payload coupon subtotal
      discount orderId
    createOrder order
    let db ← .query false
    let lines := db.linesOf session cart.id
    checkoutItems session orderId lines
    countCouponUse coupon
    createOrderEvent session orderId "created" "Order created" user (.obj [])
    let emptied ← deleteItems session cart.id
    saveCartCoupon cart.id
    pure {
      order
      priced
      converted := lines.map CartLine.item
      emptied
      coupon }

end Statements

theorem alone_createOrderEvent (session : Session) (orderId : Uuid)
    (code message : String) (actor : Option Uuid) (payload : Json) :
    (Statements.createOrderEvent session orderId code message actor
        payload).alone =
      createOrderEvent session orderId code message actor payload := by
  unfold Statements.createOrderEvent createOrderEvent
  split <;> rfl

/-- A write that spares the cart, and the stock rows but for their reserved
units. -/
structure GoodsWrite (change : Database → Database) : Prop where
  keepsRows : KeepsRows change
  cartItems_eq : ∀ db, (change db).cartItems = db.cartItems
  carts_eq : ∀ db, (change db).carts = db.carts

theorem GoodsWrite.comp (first second : Database → Database)
    (firstWrite : GoodsWrite first) (secondWrite : GoodsWrite second) :
    GoodsWrite (second ∘ first) where
  keepsRows := KeepsRows.comp first second firstWrite.keepsRows
    secondWrite.keepsRows
  cartItems_eq db :=
    (secondWrite.cartItems_eq (first db)).trans (firstWrite.cartItems_eq db)
  carts_eq db :=
    (secondWrite.carts_eq (first db)).trans (firstWrite.carts_eq db)

/-- A write to other tables. -/
theorem goodsWrite_of_frame {change : Database → Database}
    (frame : ∀ db, (change db).stocks = db.stocks ∧
      (change db).warehouses = db.warehouses ∧
      (change db).cartItems = db.cartItems ∧ (change db).carts = db.carts) :
    GoodsWrite change where
  keepsRows := keepsRows_of_frame fun db => ⟨(frame db).1, (frame db).2.1⟩
  cartItems_eq db := (frame db).2.2.1
  carts_eq db := (frame db).2.2.2

section Writes

open Statements

theorem goodsWrite_saveReserved (stock : Stock) :
    (saveReserved stock).Writes GoodsWrite :=
  ⟨⟨(keepsRows_saveReserved stock).1, fun _ => rfl, fun _ => rfl⟩, trivial⟩

theorem goodsWrite_createMovement (session : Session) (stock : Uuid)
    (quantity : Int) (reason : MovementReason) (reference note : String) :
    (Statements.createMovement session stock quantity reason reference
      note).Writes GoodsWrite :=
  ⟨goodsWrite_of_frame fun _ => ⟨rfl, rfl, rfl, rfl⟩, trivial⟩

theorem goodsWrite_checkoutItem (session : Session) (order : Uuid)
    (line : CartLine) :
    (Statements.checkoutItem session order line).Writes GoodsWrite := by
  refine Transaction.writes_bind (Transaction.writes_mapError
    (writes_reserveStock goodsWrite_saveReserved goodsWrite_createMovement
      _ _ _ _)) fun _ => ?_
  split
  · trivial
  · split
    · trivial
    · exact ⟨goodsWrite_of_frame fun _ => ⟨rfl, rfl, rfl, rfl⟩, trivial⟩

theorem goodsWrite_checkoutItems (session : Session) (order : Uuid)
    (lines : List CartLine) :
    (Statements.checkoutItems session order lines).Writes GoodsWrite := by
  induction lines with
  | nil => trivial
  | cons line lines ih =>
      exact Transaction.writes_bind (goodsWrite_checkoutItem _ _ _)
        fun _ => ih

end Writes

section Loop

variable {rely : Rely RowKey Database} {now : Database}
  {before after : Progress RowKey Database} {session : Session} {order : Uuid}

theorem leads_checkoutItem {line : CartLine} {value : Unit}
    (relies : ∀ held earlier, rely.allows held earlier now →
      StocksKept held earlier now)
    (keeps : KeepsRows before.own)
    (leads : Leads rely now (Statements.checkoutItem session order line) before
      value after) :
    ∃ sold amount, ItemsSold order [line.item] (before.own now)
        (after.own now) [sold] amount ∧ LocksTaken after amount := by
  obtain ⟨snapshot, middle, reserving, rest⟩ := leads_bind.mp leads
  obtain ⟨rows, reserved⟩ :=
    leads_reserveStock relies keeps (leads_mapError.mp reserving)
  cases variant : line.variant with
  | none =>
      simp only [variant] at rest
      exact rest.elim
  | some row =>
      simp only [variant] at rest
      cases product : line.product with
      | none =>
          simp only [product] at rest
          exact rest.elim
      | some named =>
          simp only [product] at rest
          have created := leads_execute.mp rest
          subst created
          refine ⟨{
              id := FreshKey.fresh (before.own now).orderItems.keys
              createdAt := session.now
              order
              variant := some line.item.variant
              sku := row.sku
              nameSnapshot := named.name
              attributesSnapshot := row.attributesSnapshot
              quantity := line.item.quantity
              unitPrice := line.item.unitPrice
              lineTotal := line.item.lineTotal },
            _, ⟨?_, ?_, ?_, ?_⟩, reserved.locksTaken⟩
          · rw [Progress.own_write, reserved.after_eq]
            rfl
          · rw [Progress.own_write, reserved.after_eq]
            rfl
          · exact .cons ⟨rfl, rfl, rfl, rfl, line.item.lineTotal_eq, rfl⟩ .nil
          · have units : unitsOf [line.item] = fun variant =>
                if variant = line.item.variant then (line.item.quantity : Int)
                else 0 := by
              funext variant
              simp [unitsOf, eq_comm]
            exact units ▸ reserved.draws

/-- The loop converts every line that it was given. -/
theorem leads_checkoutItems {lines : List CartLine} {value : Unit}
    (relies : ∀ held earlier, rely.allows held earlier now →
      StocksKept held earlier now)
    (writes : GoodsWrite before.own)
    (leads : Leads rely now (Statements.checkoutItems session order lines)
      before value after) :
    ∃ sold amount, ItemsSold order (lines.map CartLine.item) (before.own now)
        (after.own now) sold amount ∧ LocksTaken after amount := by
  induction lines generalizing before with
  | nil =>
      obtain ⟨_, rfl⟩ := leads_pure.mp leads
      exact ⟨[], fun _ => 0, ⟨rfl, by simp, .nil, .refl _⟩,
        fun _ takes => absurd rfl takes⟩
  | cons line lines ih =>
      obtain ⟨_, middle, first, rest⟩ := leads_bind.mp leads
      obtain ⟨sold, amount, one, locksOne⟩ :=
        leads_checkoutItem relies writes.keepsRows first
      have writesOne := first.own_of_writes GoodsWrite.comp
        (goodsWrite_checkoutItem _ _ _) writes
      obtain ⟨later, laterAmount, others, locksOthers⟩ := ih writesOne rest
      refine ⟨sold :: later, fun id => amount id + laterAmount id,
        one.append others, ?_⟩
      intro stock takes
      by_cases takesOne : amount stock = 0
      · apply locksOthers
        intro takesNone
        exact takes (by simp [takesOne, takesNone])
      · exact rest.held_subset (locksOne stock takesOne)

end Loop

section Heading

variable {rely : Rely RowKey Database} {now : Database}
  {before after : Progress RowKey Database} {session : Session}

/-- The coupon that a checkout uses was read under its lock, which is held
until the commit. -/
inductive LockedCoupon (rely : Rely RowKey Database) (now : Database)
    (session : Session) (code : String) (locks : Set RowKey) :
    Option Coupon → Prop
  | unnamed (noCode : code = "") : LockedCoupon rely now session code locks none
  | named {coupon : Coupon} {held : Set RowKey} {earlier : Database}
      (hasCode : code ≠ "") (holds : .coupon coupon.id ∈ held)
      (allowed : rely.allows held earlier now)
      (member : coupon ∈ earlier.coupons.rows)
      (isAlive : alive coupon = true)
      (isNamed : session.iexact coupon.code code = true)
      (isValid : coupon.isValidNow session.now = true)
      (locked : .coupon coupon.id ∈ locks) :
      LockedCoupon rely now session code locks (some coupon)

theorem LockedCoupon.mono {code : String} {fewer more : Set RowKey}
    {coupon : Option Coupon} (subset : fewer ⊆ more)
    (locked : LockedCoupon rely now session code fewer coupon) :
    LockedCoupon rely now session code more coupon := by
  cases locked with
  | unnamed noCode => exact .unnamed noCode
  | named hasCode holds allowed member isAlive isNamed isValid locked =>
      exact .named hasCode holds allowed member isAlive isNamed isValid
        (subset locked)

theorem leads_applyCoupon {code : String} {subtotal discount : Cents}
    {coupon : Option Coupon} (noWrites : before.own = id)
    (leads : Leads rely now (Statements.applyCoupon session code subtotal)
      before (coupon, discount) after) :
    after.own = id ∧
      LockedCoupon rely now session code after.held coupon := by
  rw [Statements.applyCoupon] at leads
  by_cases noCode : code = ""
  · rw [if_pos noCode] at leads
    obtain ⟨result, rfl⟩ := leads_pure.mp leads
    cases result
    exact ⟨noWrites, .unnamed noCode⟩
  rw [if_neg noCode] at leads
  obtain ⟨chosen, middle, locking, rest⟩ := leads_bind.mp leads
  obtain ⟨coupons, last, selecting, choosing⟩ := leads_bind.mp locking
  obtain ⟨_, started, ⟨_, _, rfl, same⟩, lockingRows⟩ :=
    leads_bind.mp selecting
  rw [same] at lockingRows
  have ownEq := own_lockRows lockingRows
  cases coupons with
  | nil => exact choosing.elim
  | cons first others =>
      cases others with
      | cons second others => exact choosing.elim
      | nil =>
          obtain ⟨rfl, rfl⟩ := leads_pure.mp choosing
          obtain ⟨id, held, earlier, holds, allowed, found, locked⟩ :=
            mem_of_leads_lockRows lockingRows (List.mem_singleton.mpr rfl)
          rw [noWrites] at found
          obtain ⟨isFound, selected⟩ := Option.filter_eq_some_iff.mp found
          obtain ⟨member, hasId⟩ := Table.find?_eq_some.mp isFound
          have idEq : chosen.id = id := hasId
          simp only [Bool.and_eq_true] at selected
          by_cases isValid : chosen.isValidNow session.now = true
          · simp only [isValid, if_true] at rest
            obtain ⟨result, rfl⟩ := leads_pure.mp rest
            cases result
            exact ⟨ownEq.trans noWrites, .named noCode (idEq ▸ holds) allowed
              member selected.1 selected.2 isValid (idEq ▸ locked)⟩
          · simp only [isValid] at rest
            exact rest.elim

theorem leads_createOrder {order : Order} {value : Unit}
    (noWrites : before.own = id)
    (leads : Leads rely now (Statements.createOrder order) before value
      after) :
    after.own = (fun db => { db with orders := db.orders.insertNew order }) ∧
      .order order.id ∈ after.held ∧
      ∃ held earlier, .order order.id ∈ held ∧ rely.allows held earlier now ∧
        order.id ∉ earlier.orders.keys := by
  obtain ⟨_, middle, ⟨_, _, _, rfl⟩, rest⟩ := leads_bind.mp leads
  obtain ⟨_, last, ⟨earlier, allowed, rfl, rfl⟩, rest⟩ := leads_bind.mp rest
  rw [Progress.own_lock, noWrites] at rest
  by_cases overflows : (!order.fitsColumns) = true
  · simp only [overflows, if_true] at rest
    exact rest.elim
  simp only [overflows] at rest
  by_cases idTaken : order.id ∈ earlier.orders.keys
  · simp only [id, idTaken, if_true] at rest
    exact rest.elim
  by_cases numberTaken : (earlier.orders.rows.any
      fun other => other.number = order.number) = true
  · simp only [id, idTaken, numberTaken, if_true, if_false] at rest
    exact rest.elim
  simp only [id, idTaken, numberTaken, if_false] at rest
  have inserted := leads_execute.mp rest
  subst inserted
  refine ⟨?_, Or.inr (Or.inl rfl), _, earlier, Or.inr (Or.inl rfl), allowed,
    idTaken⟩
  funext db
  simp [noWrites]

end Heading

/-- The coupons after the use of one of them was counted. -/
def usedCoupons (coupons : Table Coupon) : Option Coupon → Table Coupon
  | none => coupons
  | some coupon =>
      Statements.withUsedCount coupons coupon.id (coupon.usedCount + 1)

/-- The visible cart items that an update selects. -/
def Database.chosenItems (db : Database) (chosen : CartItem → Bool) :
    List CartItem :=
  (objects db.cartItems).filter chosen

/-- The cart items that an update changes: each one was found under its lock,
and every one that the update set out to change was found if it was still
there. -/
structure FoundItems (rely : Rely RowKey Database) (now : Database)
    (chosen : CartItem → Bool) (locks : Set RowKey) (items : List CartItem) :
    Prop where
  locked : ∀ item ∈ items, .cartItem item.id ∈ locks
  nodup : (items.map Keyed.key).Nodup
  found : ∀ item ∈ items, ∃ held earlier, .cartItem item.id ∈ held ∧
    rely.allows held earlier now ∧ item ∈ earlier.chosenItems chosen
  complete : ∃ earlier, rely.allows ∅ earlier now ∧
    ∀ item ∈ earlier.chosenItems chosen, ∃ held later,
      .cartItem item.id ∈ held ∧ rely.allows held later now ∧
      ∀ row ∈ later.chosenItems chosen, row.id = item.id → row ∈ items

theorem FoundItems.mono {rely : Rely RowKey Database} {now : Database}
    {chosen : CartItem → Bool} {fewer more : Set RowKey}
    {items : List CartItem} (found : FoundItems rely now chosen fewer items)
    (subset : fewer ⊆ more) : FoundItems rely now chosen more items :=
  ⟨fun item member => subset (found.locked item member), found.nodup,
    found.found, found.complete⟩

/-- What a checkout has done by its commit: `middle` is the database after the
loop. -/
structure CommittedCheckout (rely : Rely RowKey Database) (session : Session)
    (orderId : Uuid) (cart : Cart) (user : Option Uuid)
    (payload : CheckoutInput) (now after : Database) (locks : Set RowKey)
    (receipt : CheckoutReceipt) (middle : Database) (sold : List OrderItem)
    (amount : Uuid → Int) : Prop where
  priced : ∃ earlier, rely.allows ∅ earlier now ∧
    receipt.priced = earlier.itemsOf cart.id
  converted : ∃ earlier, rely.allows ∅ earlier now ∧
    receipt.converted.Perm (earlier.itemsOf cart.id)
  emptied : FoundItems rely now (fun item => item.cart = cart.id) locks
    receipt.emptied
  coupon : LockedCoupon rely now session payload.couponCode locks
    receipt.coupon
  order_eq : ∃ discount, receipt.order = pricedOrder session cart user payload
    receipt.coupon (receipt.priced.map CartItem.lineTotal).sum discount orderId
  orderLocked : .order orderId ∈ locks
  orderNew : ∃ held earlier, .order orderId ∈ held ∧
    rely.allows held earlier now ∧ orderId ∉ earlier.orders.keys
  itemsSold : ItemsSold orderId receipt.converted
    { now with orders := now.orders.insertNew receipt.order } middle sold
    amount
  stocksLocked : ∀ stock, amount stock ≠ 0 → .stock stock ∈ locks
  after_eq : after = { middle with
    coupons := usedCoupons now.coupons receipt.coupon
    orderEvents := after.orderEvents
    cartItems := Statements.withDeleted session
      (receipt.emptied.map Keyed.key) now.cartItems
    carts := Statements.withoutCoupon now.carts cart.id }

theorem find?_withUsedCount_of_ne {coupons : Table Coupon} {used id : Uuid}
    {usedCount : Nat} (idNe : id ≠ used) :
    (Statements.withUsedCount coupons used usedCount).find? id =
      coupons.find? id := by
  refine Table.find?_alter_of_same coupons
    (by
      intro row
      split <;> rfl) ?_
  intro row hasId
  apply if_neg
  rintro rfl
  exact idNe hasId.symm

theorem leads_countCouponUse {rely : Rely RowKey Database} {now : Database}
    {before after : Progress RowKey Database} {coupon : Option Coupon}
    {value : Unit}
    (leads : Leads rely now (Statements.countCouponUse coupon) before value
      after) :
    after.held = before.held ∧
      ∀ db, after.own db = { before.own db with
        coupons := usedCoupons (before.own db).coupons coupon } := by
  cases coupon with
  | none =>
      obtain ⟨_, rfl⟩ := leads_pure.mp leads
      exact ⟨rfl, fun _ => rfl⟩
  | some coupon =>
      have written := leads_execute.mp leads
      subst written
      exact ⟨rfl, fun _ => rfl⟩

theorem leads_saveCartCoupon {rely : Rely RowKey Database} {now : Database}
    {before after : Progress RowKey Database} {cart : Uuid} {value : Unit}
    (leads : Leads rely now (Statements.saveCartCoupon cart) before value
      after) :
    before.held ⊆ after.held ∧
      ∀ db, after.own db = { before.own db with
        carts := Statements.withoutCoupon (before.own db).carts cart } := by
  obtain ⟨view, _, ⟨_, _, rfl, rfl⟩, rest⟩ := leads_bind.mp leads
  split at rest
  · exact rest.elim
  · have written := leads_execute.mp rest
    subst written
    exact ⟨Set.subset_insert _ _, fun _ => rfl⟩

theorem itemsOf_congr {first second : Database}
    (same : first.cartItems = second.cartItems) (cart : Uuid) :
    first.itemsOf cart = second.itemsOf cart := by
  rw [Database.itemsOf, Database.itemsOf, same]

theorem mem_chosenItems {db : Database} {chosen : CartItem → Bool}
    {item : CartItem} :
    item ∈ db.chosenItems chosen ↔
      item ∈ db.cartItems.rows ∧ alive item = true ∧ chosen item = true := by
  rw [Database.chosenItems, objects, List.mem_filter, List.mem_filter,
    and_assoc]

theorem mem_itemsOf {db : Database} {cart : Uuid} {item : CartItem} :
    item ∈ db.itemsOf cart ↔
      item ∈ db.cartItems.rows ∧ alive item = true ∧ item.cart = cart :=
  mem_chosenItems.trans (by rw [decide_eq_true_eq])

theorem nodup_chosenItems (db : Database) (chosen : CartItem → Bool) :
    ((db.chosenItems chosen).map Keyed.key).Nodup := by
  have sublist : (db.chosenItems chosen).Sublist db.cartItems.rows :=
    List.filter_sublist.trans List.filter_sublist
  exact (sublist.map Keyed.key).nodup db.cartItems.keys_nodup

/-- A line is selected again under its identifier. -/
theorem selectedRow_eq_some {db : Database} {chosen : CartItem → Bool}
    {id : Uuid} {item : CartItem} :
    Statements.selectedRow Database.cartItems (fun _ => chosen) db id =
        some item ↔
      item ∈ db.chosenItems chosen ∧ item.id = id := by
  rw [Statements.selectedRow, Option.filter_eq_some_iff, Table.find?_eq_some,
    mem_chosenItems, Bool.and_eq_true]
  exact and_right_comm

theorem leads_lockItems {rely : Rely RowKey Database} {now : Database}
    {before after : Progress RowKey Database} {session : Session}
    {chosen : CartItem → Bool} {items : List CartItem}
    (sameItems : ∀ db, (before.own db).cartItems = db.cartItems)
    (leads : Leads rely now (Statements.lockItems session chosen) before items
      after) :
    after.own = before.own ∧
      FoundItems rely now chosen after.held items := by
  obtain ⟨_, started, ⟨earlier, allowed, rfl, same⟩, locking⟩ :=
    leads_bind.mp leads
  rw [same] at locking
  have sameView : ∀ db,
      (before.own db).chosenItems chosen = db.chosenItems chosen := by
    intro db
    rw [Database.chosenItems, Database.chosenItems, sameItems]
  have perm : (session.filter (before.own earlier).cartItems chosen).Perm
      ((before.own earlier).chosenItems chosen) :=
    session.scan_perm CartItem _
  refine ⟨own_lockRows locking, ?_, ?_, ?_, earlier,
    rely.anti _ _ _ _ (Set.empty_subset _) allowed, ?_⟩
  · intro item member
    obtain ⟨id, _, _, _, _, selected, holds⟩ :=
      mem_of_leads_lockRows locking member
    exact (selectedRow_eq_some.mp selected).2 ▸ holds
  · have sublist := sublist_of_leads_lockRows Keyed.key
      (fun db id item selected => (selectedRow_eq_some.mp selected).2) locking
    exact sublist.nodup
      (((perm.map Keyed.key).nodup_iff).mpr (nodup_chosenItems _ _))
  · intro item member
    obtain ⟨id, held, other, holds, allowed, selected, _⟩ :=
      mem_of_leads_lockRows locking member
    obtain ⟨found, rfl⟩ := selectedRow_eq_some.mp selected
    exact ⟨held, other, holds, allowed, sameView other ▸ found⟩
  · intro item member
    have listed : item.id ∈ (session.filter (before.own earlier).cartItems
        chosen).map Keyed.key :=
      List.mem_map_of_mem (perm.mem_iff.mpr ((sameView _).symm ▸ member))
    obtain ⟨held, later, holds, allowed, visited⟩ :=
      visited_of_leads_lockRows locking listed
    refine ⟨held, later, holds, allowed, ?_⟩
    intro row found sameId
    exact visited row
      (selectedRow_eq_some.mpr ⟨(sameView later).symm ▸ found, sameId⟩)

theorem leads_softDelete {rely : Rely RowKey Database} {now : Database}
    {before after : Progress RowKey Database} {session : Session}
    {chosen : CartItem → Bool} {items : List CartItem}
    (sameItems : ∀ db, (before.own db).cartItems = db.cartItems)
    (leads : Leads rely now (Statements.softDelete session chosen) before items
      after) :
    FoundItems rely now chosen after.held items ∧
      ∀ db, after.own db = { before.own db with
        cartItems := Statements.withDeleted session (items.map Keyed.key)
          (before.own db).cartItems } := by
  obtain ⟨rows, locked, locking, rest⟩ := leads_bind.mp leads
  obtain ⟨_, _, writing, finished⟩ := leads_bind.mp rest
  have written := leads_execute.mp writing
  subst written
  obtain ⟨rfl, rfl⟩ := leads_pure.mp finished
  obtain ⟨sameOwn, found⟩ := leads_lockItems sameItems locking
  refine ⟨found, fun db => ?_⟩
  rw [Progress.own_write, sameOwn]

/-- The items of the lines are the items of the cart. -/
theorem items_linesOf_perm (db : Database) (session : Session) (cart : Uuid) :
    ((db.linesOf session cart).map CartLine.item).Perm (db.itemsOf cart) := by
  have items : (db.linesOf session cart).map CartLine.item =
      session.scan CartItem (db.itemsOf cart) := by
    rw [Database.linesOf, List.map_map]
    exact List.map_id _
  rw [items]
  exact session.scan_perm CartItem _

theorem leads_createOrderFromCart {rely : Rely RowKey Database}
    {now : Database} {after : Progress RowKey Database} {session : Session}
    {orderId : Uuid} {cart : Cart} {user : Option Uuid}
    {payload : CheckoutInput} {receipt : CheckoutReceipt}
    (relies : ∀ held earlier, rely.allows held earlier now →
      StocksKept held earlier now)
    (leads : Leads rely now (Statements.createOrderFromCart session orderId
      cart user payload) .start receipt after) :
    ∃ middle sold amount, CommittedCheckout rely session orderId cart user
      payload now (after.own now) after.held receipt middle sold amount := by
  obtain ⟨first, _, ⟨_, _, rfl, rfl⟩, rest⟩ := leads_bind.mp leads
  by_cases isEmpty : (first.itemsOf cart.id).isEmpty = true
  · simp only [isEmpty, if_true] at rest
    exact rest.elim
  simp only [isEmpty] at rest
  obtain ⟨second, _, ⟨_, secondAllowed, rfl, rfl⟩, rest⟩ := leads_bind.mp rest
  obtain ⟨⟨coupon, discount⟩, locked, applying, rest⟩ := leads_bind.mp rest
  obtain ⟨noWrites, couponLocked⟩ := leads_applyCoupon rfl applying
  obtain ⟨_, created, creating, rest⟩ := leads_bind.mp rest
  obtain ⟨ownCreated, orderLocked, orderNew⟩ :=
    leads_createOrder noWrites creating
  obtain ⟨_, started, ⟨third, thirdAllowed, rfl, same⟩, rest⟩ :=
    leads_bind.mp rest
  rw [same] at rest
  obtain ⟨_, looped, looping, rest⟩ := leads_bind.mp rest
  have writesCreated : GoodsWrite created.own :=
    ownCreated ▸ goodsWrite_of_frame fun _ => ⟨rfl, rfl, rfl, rfl⟩
  obtain ⟨sold, amount, itemsSold, stocksLocked⟩ :=
    leads_checkoutItems relies writesCreated looping
  have writesLooped := looping.own_of_writes GoodsWrite.comp
    (goodsWrite_checkoutItems _ _ _) writesCreated
  obtain ⟨_, counted, counting, rest⟩ := leads_bind.mp rest
  obtain ⟨countedHeld, countedOwn⟩ := leads_countCouponUse counting
  obtain ⟨_, recorded, recording, rest⟩ := leads_bind.mp rest
  have recordedEq := leads_execute.mp recording
  have sameItems : ∀ db, (recorded.own db).cartItems = db.cartItems := by
    intro db
    rw [recordedEq, Progress.own_write, countedOwn]
    exact writesLooped.cartItems_eq db
  obtain ⟨deleted, emptied, emptying, rest⟩ := leads_bind.mp rest
  obtain ⟨found, emptiedOwn⟩ := leads_softDelete sameItems emptying
  have emptiedHeld := emptying.held_subset
  obtain ⟨_, saved, saving, rest⟩ := leads_bind.mp rest
  obtain ⟨savedHeld, savedOwn⟩ := leads_saveCartCoupon saving
  obtain ⟨rfl, rfl⟩ := leads_pure.mp rest
  have grown : looped.held ⊆ after.held :=
    (countedHeld ▸ recordedEq ▸ emptiedHeld).trans savedHeld
  have weaken : ∀ held earlier, rely.allows held earlier now →
      rely.allows ∅ earlier now :=
    fun _ _ allowed => rely.anti _ _ _ _ (Set.empty_subset _) allowed
  refine ⟨looped.own now, sold, amount, ?_⟩
  have frame := itemsSold.frame
  constructor
  case priced => exact ⟨second, weaken _ _ secondAllowed, rfl⟩
  case converted =>
    refine ⟨third, weaken _ _ thirdAllowed, ?_⟩
    have sameThird := itemsOf_congr (writesCreated.cartItems_eq third) cart.id
    exact sameThird ▸ items_linesOf_perm (created.own third) session cart.id
  case emptied => exact found.mono savedHeld
  case coupon =>
    exact couponLocked.mono
      ((creating.held_subset.trans looping.held_subset).trans grown)
  case order_eq => exact ⟨discount, rfl⟩
  case orderLocked => exact grown (looping.held_subset orderLocked)
  case orderNew => exact orderNew
  case itemsSold =>
    rw [show created.own now = { now with
      orders := now.orders.insertNew _ } from congrFun ownCreated now]
      at itemsSold
    exact itemsSold
  case stocksLocked => exact fun stock takes => grown (stocksLocked stock takes)
  case after_eq =>
    have sameCoupons : (looped.own now).coupons = now.coupons := by
      rw [frame, congrFun ownCreated now]
    rw [savedOwn, emptiedOwn, recordedEq]
    simp only [Progress.own_write, countedOwn, sameCoupons,
      writesLooped.cartItems_eq now, writesLooped.carts_eq now]

end NovaCommerce
