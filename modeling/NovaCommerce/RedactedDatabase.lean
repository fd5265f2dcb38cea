import NovaCommerce.OrderViews
import NovaCommerce.StockViews

/-!
# The database without the orders of others

For one customer, the orders of the other customers and of guests are reduced
to what keeps them in place: that there is a row under this identifier, whether
it has the number that a call is going to draw, and whether it is deleted.
Their items, events and payments are reduced to the order they belong to.  A
service call on behalf of the customer does on the redacted database what it
does on the database.
-/

namespace NovaCommerce

open AtomicCall LockingTransactions

def Order.redacted (session : Session) (order : Order) : Order where
  id := order.id
  createdAt := 0
  deletedAt := order.deletedAt.map fun _ => 0
  number :=
    if order.number = session.orderNumber then session.orderNumber
    -- Any other number will do.
    else session.orderNumber ++ "-"
  user := none
  emailSnapshot := ""
  phoneSnapshot := ""

theorem Order.number_redacted (session : Session) (order : Order) :
    (order.redacted session).number = session.orderNumber ↔
      order.number = session.orderNumber := by
  unfold redacted
  dsimp only
  split
  · next same => exact iff_of_true rfl same
  · next other =>
      refine iff_of_false ?_ other
      intro same
      have longer := congrArg String.length same
      rw [String.length_append] at longer
      have one : "-".length = 1 := rfl
      omega

def OrderItem.redacted (item : OrderItem) : OrderItem where
  id := item.id
  createdAt := 0
  order := item.order
  variant := none
  sku := ""
  nameSnapshot := ""
  quantity := 0
  unitPrice := 0
  lineTotal := 0

def OrderEvent.redacted (event : OrderEvent) : OrderEvent where
  id := event.id
  createdAt := 0
  order := event.order
  code := ""

def Payment.redacted (payment : Payment) : Payment where
  id := payment.id
  createdAt := 0
  order := payment.order
  provider := .manual

/-- The order is there and belongs to another customer or to a guest. -/
def ofOthers (user : Uuid) (orders : Table Order) (order : Uuid) : Bool :=
  (orders.find? order).any fun row => row.user ≠ some user

section Redact

variable (user : Uuid) (session : Session)

def Order.redactedFor (order : Order) : Order :=
  if order.user = some user then order else order.redacted session

theorem Order.key_redactedFor (order : Order) :
    Keyed.key (order.redactedFor user session) = Keyed.key order := by
  unfold redactedFor
  split <;> rfl

/-- The orders as the customer may see them. -/
def redactOrders (orders : Table Order) : Table Order :=
  orders.alter (Order.redactedFor user session)
    (Order.key_redactedFor user session)

/-- The rows that belong to orders, as the customer may see them. -/
def redactRows {Row : Type} [IsModel Row] (orders : Table Order)
    (order : Row → Uuid) (redacted : Row → Row)
    (keepsKey : ∀ row, Keyed.key (redacted row) = Keyed.key row)
    (rows : Table Row) : Table Row :=
  rows.alter
    (fun row => if ofOthers user orders (order row) then redacted row else row)
    (by
      intro row
      split
      · exact keepsKey row
      · rfl)

def Database.redactedFor (db : Database) : Database :=
  { db with
    orders := redactOrders user session db.orders
    orderItems := redactRows user db.orders OrderItem.order
      OrderItem.redacted (fun _ => rfl) db.orderItems
    orderEvents := redactRows user db.orders OrderEvent.order
      OrderEvent.redacted (fun _ => rfl) db.orderEvents
    payments := redactRows user db.orders Payment.order
      Payment.redacted (fun _ => rfl) db.payments }

end Redact

section Left

variable {user : Uuid} {session : Session} {orders : Table Order}

theorem alive_redactedFor (order : Order) :
    alive (order.redactedFor user session) = alive order := by
  unfold Order.redactedFor
  split
  · rfl
  · change (order.deletedAt.map _).isNone = order.deletedAt.isNone
    simp

theorem owns_redactedFor (order : Order) :
    (order.redactedFor user session).user = some user ↔
      order.user = some user := by
  unfold Order.redactedFor
  split
  · rfl
  · next other => simp [Order.redacted, other]

theorem redactedFor_of_owns {order : Order} (owns : order.user = some user) :
    order.redactedFor user session = order :=
  if_pos owns

theorem ofOthers_of_mem {order : Order} (member : order ∈ orders.rows) :
    ofOthers user orders order.id = decide (order.user ≠ some user) := by
  have found : orders.find? order.id = some order :=
    Table.find?_eq_some.mpr ⟨member, rfl⟩
  rw [ofOthers, found]
  rfl

/-- Writing an order of the customer takes no order from others. -/
theorem ofOthers_save {order : Order} (owns : order.user = some user)
    (own : ofOthers user orders order.id = false) (id : Uuid) :
    ofOthers user (orders.save order) id = ofOthers user orders id := by
  by_cases sameId : order.id = id
  · rw [← sameId, own, ofOthers, Option.any_eq_false]
    intro row found
    obtain ⟨member, hasId⟩ := Table.find?_eq_some.mp found
    rcases Table.mem_save.mp member with ⟨_, otherKey⟩ | ⟨rfl, _⟩
    · exact absurd hasId otherKey
    · simp [owns]
  · rw [ofOthers, ofOthers, Table.find?_save_of_ne sameId]

theorem ofOthers_create {build : Uuid → Order}
    (hasKey : ∀ id, Keyed.key (build id) = id)
    (owns : (build (FreshKey.fresh orders.keys)).user = some user)
    (id : Uuid) :
    ofOthers user (orders.create build hasKey) id =
      ofOthers user orders id := by
  rw [ofOthers, ofOthers]
  unfold Table.find?
  rw [Table.rows_create, List.find?_append]
  cases found : orders.rows.find? fun row => Keyed.key row = id with
  | some row => rfl
  | none =>
      by_cases sameId : FreshKey.fresh orders.keys = id
      · rw [sameId] at owns
        simp [hasKey, sameId, owns]
      · simp [hasKey, sameId]

/-- A change that keeps the rows that are visible and satisfy a condition,
and makes no others so, changes no query for them. -/
theorem visible_alter {Row : Type} [IsModel Row] (table : Table Row)
    {change : Row → Row}
    (keepsKey : ∀ row, Keyed.key (change row) = Keyed.key row)
    {condition changed : Row → Bool}
    (agree : ∀ row ∈ table.rows,
      (alive (change row) && changed (change row)) =
        (alive row && condition row))
    (same : ∀ row ∈ table.rows, condition row = true → change row = row) :
    (objects (table.alter change keepsKey)).filter changed =
      (objects table).filter condition := by
  unfold objects
  rw [Table.rows_alter, List.filter_filter, List.filter_filter,
    List.filter_map]
  have selected : table.rows.filter
      ((fun row => changed row && alive row) ∘ change) =
      table.rows.filter fun row => condition row && alive row := by
    apply List.filter_congr
    intro row rowMem
    simpa [Bool.and_comm] using agree row rowMem
  rw [selected]
  conv_rhs => rw [← List.map_id (table.rows.filter _)]
  apply List.map_congr_left
  intro row rowMem
  obtain ⟨member, holds⟩ := List.mem_filter.mp rowMem
  exact same row member (Bool.and_eq_true _ _ ▸ holds).1

theorem find?_objects {Row : Type} [IsModel Row] (table : Table Row)
    (condition : Row → Bool) :
    (objects table).find? condition =
      ((objects table).filter condition).head? :=
  List.head?_filter.symm

end Left

/-- The rows of an order of the customer, or of no order at all, are left. -/
theorem visible_redactRows {user : Uuid} {orders : Table Order} {Row : Type}
    [IsModel Row] (order : Row → Uuid) (redacted : Row → Row)
    (keepsKey : ∀ row, Keyed.key (redacted row) = Keyed.key row)
    (keepsOrder : ∀ row, order (redacted row) = order row)
    {id : Uuid} (own : ofOthers user orders id = false) (rows : Table Row) :
    (objects (redactRows user orders order redacted keepsKey rows)).filter
        (fun row => order row = id) =
      (objects rows).filter fun row => order row = id := by
  apply visible_alter
  · intro row _
    by_cases ofOrder : order row = id
    · rw [ofOrder, own]
      simp [ofOrder]
    · split <;> simp [keepsOrder, ofOrder]
  · intro row _ ofOrder
    rw [decide_eq_true_eq.mp ofOrder, own]
    simp

section Queries

variable {user : Uuid} {session : Session}

/-- The orders of the customer are left. -/
theorem visible_redactOrders (orders : Table Order) {condition : Order → Bool}
    (keeps : ∀ order,
      condition (order.redactedFor user session) = condition order)
    (ofUser : ∀ order ∈ orders.rows, condition order = true →
      order.user = some user) :
    (objects (redactOrders user session orders)).filter condition =
      (objects orders).filter condition := by
  apply visible_alter
  · intro order _
    rw [alive_redactedFor, keeps]
  · intro order orderMem accepted
    exact redactedFor_of_owns (ofUser order orderMem accepted)

theorem find?_redactOrders (orders : Table Order) (id : Uuid) :
    (redactOrders user session orders).find? id =
      (orders.find? id).map (Order.redactedFor user session) :=
  Table.find?_alter _ _ _

end Queries

/-- The call does on the redacted database what it does on the database. -/
abbrev Blind {Value : Type} (user : Uuid) (session : Session)
    (call : Service Value) (db : Database) : Prop :=
  Mirrors (Database.redactedFor user session) call call db

section Stock

variable {user : Uuid} {session : Session}

theorem showsStock_redactedFor :
    ShowsStock (Database.redactedFor user session) :=
  ⟨fun _ => rfl, fun _ _ => rfl, fun _ _ => rfl⟩

/-- The items of an order of the customer are read as they are. -/
theorem blind_settleStock {order : Order} {db : Database}
    (own : ofOthers user db.orders order.id = false)
    (newStatus : OrderStatus) :
    Blind user session (settleStock session order newStatus) db := by
  have sameItems : (db.redactedFor user session).orderItemsOf order.id =
      db.orderItemsOf order.id :=
    visible_redactRows OrderItem.order OrderItem.redacted (fun _ => rfl)
      (fun _ => rfl) own _
  exact showsStock_redactedFor.settleStock session sameItems newStatus

end Stock

section Orders

variable {user : Uuid} {session : Session} {db : Database}

theorem blind_lockOrder {id : Uuid}
    (own : ofOthers user db.orders id = false) :
    Blind user session (lockOrder id) db := by
  have sameOrder : ((objects (db.redactedFor user session).orders).find?
      fun order => order.id = id) =
      (objects db.orders).find? fun order => order.id = id := by
    rw [find?_objects, find?_objects]
    apply congrArg List.head?
    apply visible_redactOrders
    · intro order
      have sameId : (order.redactedFor user session).id = order.id :=
        order.key_redactedFor user session
      rw [sameId]
    · intro order orderMem hasId
      have ownOrder : ofOthers user db.orders order.id =
          decide (order.user ≠ some user) := ofOthers_of_mem orderMem
      rw [decide_eq_true_eq.mp hasId, own] at ownOrder
      simpa using ownOrder.symm
  apply mirrors_get_bind
  rw [sameOrder]
  split
  · exact mirrors_pure _
  · exact mirrors_throw _

/-- What an order of the customer is replaced by is seen by the customer. -/
theorem redactedFor_saveOrder {order : Order}
    (owns : order.user = some user)
    (own : ofOthers user db.orders order.id = false) :
    ({ db with orders := db.orders.save order } : Database).redactedFor user
        session =
      { db.redactedFor user session with
        orders := (db.redactedFor user session).orders.save order } := by
  have sameOwners := ofOthers_save owns own
  have sameOrders : redactOrders user session (db.orders.save order) =
      (redactOrders user session db.orders).save order :=
    Table.alter_save _ _ (redactedFor_of_owns owns)
  unfold Database.redactedFor redactRows
  simp only [sameOwners, sameOrders]

theorem blind_saveOrder {order : Order} (owns : order.user = some user)
    (own : ofOthers user db.orders order.id = false) :
    Blind user session (saveOrder order) db :=
  mirrors_modify (redactedFor_saveOrder owns own).symm

/-- A new order of the customer is seen by the customer. -/
theorem redactedFor_createOrder {build : Uuid → Order}
    (hasKey : ∀ id, Keyed.key (build id) = id)
    (owns : ∀ id, (build id).user = some user) :
    ({ db with orders := db.orders.create build hasKey } :
      Database).redactedFor user session =
      { db.redactedFor user session with
        orders :=
          (db.redactedFor user session).orders.create build hasKey } := by
  have sameOwners : ∀ id,
      ofOthers user (db.orders.create build hasKey) id =
        ofOthers user db.orders id :=
    ofOthers_create hasKey (owns _)
  have sameOrders : redactOrders user session (db.orders.create build hasKey) =
      (redactOrders user session db.orders).create build hasKey :=
    Table.alter_create _ _ _ hasKey (redactedFor_of_owns (owns _))
  unfold Database.redactedFor redactRows
  simp only [sameOwners, sameOrders]

theorem keys_redactOrders (orders : Table Order) :
    (redactOrders user session orders).keys = orders.keys :=
  Table.keys_alter _ _ _

theorem blind_createOrder {build : Uuid → Order}
    (hasKey : ∀ id, Keyed.key (build id) = id)
    (owns : ∀ id, (build id).user = some user) :
    Blind user session (createOrder session build hasKey) db := by
  have sameNumbers : ((db.redactedFor user session).orders.rows.any
      fun order => order.number = session.orderNumber) =
      db.orders.rows.any fun order => order.number = session.orderNumber := by
    change (db.orders.rows.map (Order.redactedFor user session)).any _ = _
    rw [List.any_map]
    congr 1
    funext order
    simp only [Function.comp_apply]
    unfold Order.redactedFor
    split
    · rfl
    · exact decide_eq_decide.mpr (order.number_redacted session)
  have sameKeys :
      (db.redactedFor user session).orders.keys = db.orders.keys :=
    keys_redactOrders _
  apply mirrors_get_bind
  rw [sameNumbers, sameKeys]
  split
  · exact mirrors_throw _
  split
  · exact mirrors_throw _
  · apply (mirrors_modify
      (redactedFor_createOrder hasKey owns).symm).bind
    intro _ created _
    exact mirrors_pure _

theorem keys_redactRows (orders : Table Order) {Row : Type} [IsModel Row]
    (order : Row → Uuid) (redacted : Row → Row)
    (keepsKey : ∀ row, Keyed.key (redacted row) = Keyed.key row)
    (rows : Table Row) :
    (redactRows user orders order redacted keepsKey rows).keys = rows.keys :=
  Table.keys_alter _ _ _

/-- A new row of an order of the customer is seen by the customer. -/
theorem redactRows_create {orders : Table Order} {Row : Type} [IsModel Row]
    (order : Row → Uuid) (redacted : Row → Row)
    (keepsKey : ∀ row, Keyed.key (redacted row) = Keyed.key row)
    {build : Uuid → Row} (hasKey : ∀ id, Keyed.key (build id) = id)
    {id : Uuid} (own : ofOthers user orders id = false)
    (ofOrder : ∀ key, order (build key) = id) (rows : Table Row) :
    redactRows user orders order redacted keepsKey (rows.create build hasKey) =
      (redactRows user orders order redacted keepsKey rows).create build
        hasKey := by
  apply Table.alter_create
  simp [ofOrder, own]

theorem blind_createOrderItem {order : Uuid}
    (own : ofOthers user db.orders order = false) (item : CartItem)
    (variant : ProductVariant) (product : Product) :
    Blind user session (createOrderItem session order item variant product)
      db := by
  apply mirrors_modify
  unfold Database.redactedFor
  congr 1
  refine (redactRows_create _ _ _ _ own ?_ _).symm
  intro id
  rfl

theorem blind_createOrderEvent {order : Uuid}
    (own : ofOthers user db.orders order = false) (code message : String)
    (actor : Option Uuid) (payload : Json) :
    Blind user session
      (createOrderEvent session order code message actor payload) db := by
  unfold createOrderEvent
  split
  · exact mirrors_throw _
  · apply mirrors_modify
    unfold Database.redactedFor
    congr 1
    refine (redactRows_create _ _ _ _ own ?_ _).symm
    intro id
    rfl

end Orders

section Checkout

variable {user : Uuid} {session : Session} {db : Database}

theorem blind_applyCoupon (code : String) (subtotal : Cents) :
    Blind user session (applyCoupon session code subtotal) db := by
  unfold applyCoupon
  split
  · exact mirrors_pure _
  · have locked : Blind user session (lockCoupon session code) db := by
      apply mirrors_get_bind
      rw [show (db.redactedFor user session).coupons = db.coupons from rfl]
      generalize (objects db.coupons).filter _ = named
      rcases named with _ | ⟨coupon, _ | ⟨second, others⟩⟩
      · exact mirrors_throw _
      · exact mirrors_pure _
      · exact mirrors_throw _
    apply locked.bind
    intro coupon after _
    split
    · exact mirrors_pure _
    · exact mirrors_throw _

theorem Mirrors.outOfStockAsCheckoutError {Value : Type}
    {call : Service Value} (blind : Blind user session call db) :
    Blind user session (NovaCommerce.outOfStockAsCheckoutError call) db := by
  unfold Blind Mirrors NovaCommerce.outOfStockAsCheckoutError
  rw [blind]
  cases call db with
  | ok value after => rfl
  | error raised after => cases raised <;> rfl

theorem blind_checkoutItem {order : Uuid}
    (own : ofOthers user db.orders order = false) (item : CartItem) :
    Blind user session (checkoutItem session order item) db := by
  apply (Mirrors.outOfStockAsCheckoutError
    (showsStock_redactedFor.reserveStock _ _ _ _ _)).bind
  intro snapshot reserved called
  have sameOrders : reserved.orders = db.orders := by
    obtain ⟨_, _, rfl⟩ :=
      reserveStock_eq_ok (outOfStockAsCheckoutError_eq_ok.mp called)
    rfl
  apply mirrors_get_bind
  rw [show (reserved.redactedFor user session).variants =
      reserved.variants from rfl,
    show (reserved.redactedFor user session).products =
      reserved.products from rfl]
  cases reserved.variants.find? item.variant with
  | none => exact mirrors_throw _
  | some variant =>
      cases found : reserved.products.find? variant.product with
      | none =>
          simp only [found]
          exact mirrors_throw _
      | some product =>
          simp only [found]
          exact blind_createOrderItem (sameOrders ▸ own) _ _ _

theorem blind_checkoutItems {order : Uuid}
    (own : ofOthers user db.orders order = false) (items : List CartItem) :
    Blind user session (checkoutItems session order items) db := by
  induction items generalizing db with
  | nil => exact mirrors_pure _
  | cons item items ih =>
      apply (blind_checkoutItem own item).bind
      intro _ middle called
      obtain ⟨_, _, one⟩ := checkoutItem_eq_ok called
      have sameOrders : middle.orders = db.orders := by
        rw [one.frame]
      exact ih (sameOrders ▸ own)

theorem blind_countCouponUse (coupon : Option Coupon) :
    Blind user session (countCouponUse coupon) db := by
  cases coupon with
  | none => exact mirrors_pure _
  | some coupon => exact mirrors_modify rfl

theorem blind_emptyCart (cart : Uuid) :
    Blind user session (emptyCart session cart) db := by
  unfold emptyCart
  apply Mirrors.bind
  · exact mirrors_modify rfl
  intro _ emptied _
  apply mirrors_get_bind
  rw [show (emptied.redactedFor user session).carts = emptied.carts from rfl]
  cases emptied.carts.find? cart with
  | none => exact mirrors_throw _
  | some row => exact mirrors_modify rfl

theorem alone_insertCart (cart : Cart) :
    (Statements.insertCart cart).alone db =
      if cart.id ∈ db.carts.keys then .error (.integrityError "unique id") db
      else .ok () { db with carts := db.carts.insertNew cart } := by
  change (if _ then _ else _ : Statements Unit).alone db = _
  split <;> rfl

theorem blind_oneOrCreate (found : List Cart) (cart : Cart) :
    Blind user session (Statements.oneOrCreate found cart).alone db := by
  rcases found with _ | ⟨first, _ | ⟨second, others⟩⟩
  · rw [Statements.oneOrCreate, Transaction.alone_bind]
    apply Mirrors.bind
    · unfold Mirrors
      rw [alone_insertCart, alone_insertCart,
        show (db.redactedFor user session).carts = db.carts from rfl]
      split <;> rfl
    · intro _ inserted _
      exact mirrors_pure _
  · exact mirrors_pure _
  · exact mirrors_throw _

/-- The carts are seen by everybody. -/
theorem blind_getOrCreateCart (owner : Uuid) (sessionKey : String) :
    Blind user session (getOrCreateCart session (some owner) sessionKey) db :=
  Mirrors.atomic (blind_oneOrCreate _ _)

end Checkout

/-- What a customer may see of the database, and the events that were
saved. -/
def Signals.redactedFor (user : Uuid) (session : Session) (state : Signals) :
    Signals :=
  { state with db := state.db.redactedFor user session }

/-- The call does on the redacted database what it does on the database, and
broadcasts the same. -/
abbrev BlindBroadcasting {Value : Type} (user : Uuid) (session : Session)
    (call : Broadcasting Value) (state : Signals) : Prop :=
  Mirrors (Signals.redactedFor user session) call call state

namespace Broadcasting

variable {user : Uuid} {session : Session} {state : Signals}

theorem blind_silently {Value : Type} {call : Service Value}
    (blind : Blind user session call state.db) :
    BlindBroadcasting user session (silently call) state := by
  unfold BlindBroadcasting Mirrors silently
  change mapStore _ (call (state.db.redactedFor user session)) = _
  rw [blind]
  cases call state.db <;> rfl

theorem blind_transaction {Value : Type} {call : Broadcasting Value}
    (blind : BlindBroadcasting user session call state) :
    BlindBroadcasting user session (transaction call) state := by
  unfold BlindBroadcasting Mirrors transaction
  rw [blind]
  cases call state <;> rfl

theorem blind_createOrderEvent {order : Order}
    (own : ofOthers user state.db.orders order.id = false)
    (code message : String) (actor : Option Uuid) (payload : Json) :
    BlindBroadcasting user session
      (createOrderEvent session order code message actor payload) state := by
  have sameKeys : (state.db.redactedFor user session).orderEvents.keys =
      state.db.orderEvents.keys :=
    keys_redactRows _ _ OrderEvent.redacted (fun _ => rfl) _
  apply mirrors_get_bind
  apply (blind_silently
    (NovaCommerce.blind_createOrderEvent own code message actor payload)).bind
  intro _ recorded _
  have sameEvent : newOrderEvent session (state.redactedFor user session).db
      order.id code message actor payload =
        newOrderEvent session state.db order.id code message actor
          payload := by
    unfold newOrderEvent
    rw [← sameKeys]
    rfl
  rw [sameEvent]
  exact mirrors_modify rfl

/-- The customer's own transitions do not see the orders of others. -/
theorem blind_transitionStatus {orderId : Uuid}
    (own : ofOthers user state.db.orders orderId = false)
    (newStatus : OrderStatus) (actor : Option Uuid) (message : String) :
    BlindBroadcasting user session
      (transitionStatus session orderId newStatus actor message) state := by
  apply blind_transaction
  apply (blind_silently (blind_lockOrder own)).bind
  intro order _ locking
  obtain ⟨_, locked, rfl⟩ := silently_eq_ok.mp locking
  obtain ⟨rfl, member, _, rfl⟩ := lockOrder_eq_ok locked
  have owns : order.user = some user := by
    rw [ofOthers_of_mem member] at own
    simpa using own
  split
  · apply (blind_silently (blind_settleStock own newStatus)).bind
    intro _ _ settling
    obtain ⟨settled, isSettled, rfl⟩ := silently_eq_ok.mp settling
    have sameOrders : settled.orders = state.db.orders := by
      rw [settleStock_stockOnly isSettled]
    have sameId : (order.enterStatus newStatus session.now).id = order.id :=
      congrArg TimeStampedUUIDModel.id (base_enterStatus _ _ _)
    have stillOwns : (order.enterStatus newStatus session.now).user =
        some user := by
      cases newStatus <;> exact owns
    have ownSettled : ofOthers user settled.orders
        (order.enterStatus newStatus session.now).id = false := by
      rw [sameOrders, sameId]
      exact own
    apply (blind_silently (blind_saveOrder stillOwns ownSettled)).bind
    intro _ _ saving
    obtain ⟨_, saved, rfl⟩ := silently_eq_ok.mp saving
    rw [saveOrder, modify_eq_ok] at saved
    subst saved
    apply (blind_createOrderEvent _ _ _ _ _).bind
    · intro _ recorded _
      exact mirrors_pure _
    · exact (ofOthers_save stillOwns ownSettled _).trans ownSettled
  · exact mirrors_throw _

/-- The customer's own checkouts do not see the orders of others. -/
theorem blind_createOrderFromCart (cart : Cart) (payload : CheckoutInput) :
    BlindBroadcasting user session
      (createOrderFromCart session cart (some user) payload) state := by
  apply blind_transaction
  apply mirrors_get_bind
  rw [show (state.redactedFor user session).db.itemsOf cart.id =
      state.db.itemsOf cart.id from rfl,
    show (state.redactedFor user session).db.cartSubtotal cart.id =
      state.db.cartSubtotal cart.id from rfl]
  split
  · exact mirrors_throw _
  · apply (blind_silently (blind_applyCoupon _ _)).bind
    rintro ⟨coupon, discount⟩ _ applying
    obtain ⟨_, applied, rfl⟩ := silently_eq_ok.mp applying
    obtain ⟨rfl, _⟩ := applyCoupon_eq_ok applied
    apply (blind_silently (blind_createOrder _ fun _ => rfl)).bind
    intro order _ creating
    obtain ⟨_, ordered, rfl⟩ := silently_eq_ok.mp creating
    obtain ⟨rfl, created_eq⟩ := createOrder_eq_ok ordered
    have owns : order.user = some user := by
      rw [created_eq]
      rfl
    have own : ofOthers user (state.db.orders.create
        (pricedOrder session cart (some user) payload coupon
          (state.db.cartSubtotal cart.id) discount)
        (key_pricedOrder session cart (some user) payload coupon
          (state.db.cartSubtotal cart.id) discount)) order.id = false := by
      rw [ofOthers_of_mem, owns]
      · simp
      · rw [Table.rows_create, ← created_eq]
        exact List.mem_append_right _ (List.mem_singleton_self _)
    apply mirrors_get_bind
    apply (blind_silently (blind_checkoutItems own _)).bind
    intro _ _ looping
    obtain ⟨sold, looped, rfl⟩ := silently_eq_ok.mp looping
    obtain ⟨_, _, itemsSold⟩ := checkoutItems_eq_ok looped
    apply (blind_silently (blind_countCouponUse _)).bind
    intro _ _ counting
    obtain ⟨counted, isCounted, rfl⟩ := silently_eq_ok.mp counting
    rw [countCouponUse_eq] at isCounted
    cases isCounted
    have ownSold : ofOthers user sold.orders order.id = false := by
      rw [itemsSold.frame]
      exact own
    apply (blind_createOrderEvent ownSold _ _ _ _).bind
    intro _ recorded _
    apply (blind_silently (blind_emptyCart _)).bind
    intro _ emptied _
    exact mirrors_pure _

end Broadcasting

end NovaCommerce
