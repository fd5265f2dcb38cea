import NovaCommerce.BlindViews
import NovaCommerce.CheckoutConversion
import NovaCommerce.StoreRuns

/-!
# What the requests of a customer change

Every request of a customer makes one call of the customer's own at most: a
checkout, or a transition or a charge attempt of an order that the customer
owns.  Such a call keeps the orders of others, with their items and payments,
and no call at all changes the owner of an order.
-/

namespace NovaCommerce

open AtomicCall

namespace Database

/-- The orders of others, with their items and payments, are the same. -/
structure KeepsOthers (user : Uuid) (before after : Database) : Prop where
  orders_eq :
    (after.orders.rows.filter fun order => order.user ≠ some user) =
      before.orders.rows.filter fun order => order.user ≠ some user
  orderItems_eq :
    (after.orderItems.rows.filter fun item =>
        ofOthers user after.orders item.order) =
      before.orderItems.rows.filter fun item =>
        ofOthers user before.orders item.order
  payments_eq :
    (after.payments.rows.filter fun payment =>
        ofOthers user after.orders payment.order) =
      before.payments.rows.filter fun payment =>
        ofOthers user before.orders payment.order

/-- Every order stays, with its owner. -/
def KeepsOwners (before after : Database) : Prop :=
  ∀ order ∈ before.orders.rows, ∃ later ∈ after.orders.rows,
    later.id = order.id ∧ later.user = order.user

end Database

section Keeping

variable {user : Uuid} {db after : Database}

theorem Database.KeepsOthers.refl (user : Uuid) (db : Database) :
    db.KeepsOthers user db :=
  ⟨rfl, rfl, rfl⟩

theorem Database.KeepsOthers.trans {first second third : Database}
    (earlier : first.KeepsOthers user second)
    (later : second.KeepsOthers user third) :
    first.KeepsOthers user third where
  orders_eq := later.orders_eq.trans earlier.orders_eq
  orderItems_eq := later.orderItems_eq.trans earlier.orderItems_eq
  payments_eq := later.payments_eq.trans earlier.payments_eq

/-- Rows that are appended for own orders are none of others. -/
theorem filter_ofOthers_append {Row : Type} {orders changed : Table Order}
    (sameOwners : ∀ id, ofOthers user changed id = ofOthers user orders id)
    (order : Row → Uuid) {rows added : List Row}
    (own : ∀ row ∈ added, ofOthers user orders (order row) = false) :
    ((rows ++ added).filter fun row => ofOthers user changed (order row)) =
      rows.filter fun row => ofOthers user orders (order row) := by
  have noneAdded :
      (added.filter fun row => ofOthers user orders (order row)) = [] := by
    rw [List.filter_eq_nil_iff]
    intro row rowMem
    simp [own row rowMem]
  simp only [sameOwners]
  rw [List.filter_append, noneAdded, List.append_nil]

/-- An order of the customer is replaced by one of the customer. -/
structure OwnSaved (user : Uuid) (orders changed : Table Order) : Prop where
  sameOwners : ∀ id, ofOthers user changed id = ofOthers user orders id
  others_eq : (changed.rows.filter fun order => order.user ≠ some user) =
    orders.rows.filter fun order => order.user ≠ some user

theorem ownSaved_refl (user : Uuid) (orders : Table Order) :
    OwnSaved user orders orders :=
  ⟨fun _ => rfl, rfl⟩

theorem ownSaved_save {orders : Table Order} {old saved : Order}
    (member : old ∈ orders.rows) (owns : old.user = some user)
    (sameId : saved.id = old.id) (stillOwns : saved.user = some user) :
    OwnSaved user orders (orders.save saved) where
  sameOwners := by
    apply ofOthers_save stillOwns
    rw [sameId, ofOthers_of_mem member]
    simp [owns]
  others_eq := by
    apply Table.filter_save member sameId
    · simp [owns]
    · simp [stillOwns]

theorem ownSaved_create {orders : Table Order} {build : Uuid → Order}
    (hasKey : ∀ id, Keyed.key (build id) = id)
    (owns : ∀ id, (build id).user = some user) :
    OwnSaved user orders (orders.create build hasKey) where
  sameOwners := ofOthers_create hasKey (owns _)
  others_eq := by
    rw [Table.rows_create, List.filter_append]
    simp [owns]

/-- A step that saves own orders, and appends items and payments of own
orders, keeps the rows of others. -/
theorem keepsOthers_of_own (saved : OwnSaved user db.orders after.orders)
    (items : List OrderItem) (payments : List Payment)
    (items_eq : after.orderItems.rows = db.orderItems.rows ++ items)
    (ownItems : ∀ item ∈ items, ofOthers user after.orders item.order = false)
    (payments_eq : after.payments.rows = db.payments.rows ++ payments)
    (ownPayments : ∀ payment ∈ payments,
      ofOthers user after.orders payment.order = false) :
    db.KeepsOthers user after where
  orders_eq := saved.others_eq
  orderItems_eq := by
    rw [items_eq]
    apply filter_ofOthers_append saved.sameOwners
    intro item itemMem
    rw [← saved.sameOwners]
    exact ownItems item itemMem
  payments_eq := by
    rw [payments_eq]
    apply filter_ofOthers_append saved.sameOwners
    intro payment paymentMem
    rw [← saved.sameOwners]
    exact ownPayments payment paymentMem

theorem Transitioned.keepsOthers {session : Session} {order : Order}
    {newStatus : OrderStatus}
    (transitioned : Transitioned session order newStatus db after)
    (owns : order.user = some user) : db.KeepsOthers user after := by
  have saved : OwnSaved user db.orders after.orders := by
    rw [transitioned.frame]
    apply ownSaved_save transitioned.member owns
    · exact congrArg TimeStampedUUIDModel.id (base_enterStatus _ _ _)
    · rw [Order.user_enterStatus]
      exact owns
  apply keepsOthers_of_own saved [] []
  · rw [transitioned.frame, List.append_nil]
  · simp
  · rw [transitioned.frame, List.append_nil]
  · simp

theorem CheckedOut.keepsOthers {session : Session} {cart : Cart}
    {payload : CheckoutInput} {order : Order} {coupon : Option Coupon}
    {discount : Cents} {middle : Database} {sold : List OrderItem}
    {amount : Uuid → Int} {row : Cart}
    (checkedOut : CheckedOut session cart (some user) payload db after order
      coupon discount middle sold amount row) :
    db.KeepsOthers user after := by
  have frame := checkedOut.itemsSold.frame
  have orders_eq : after.orders = db.orders.create
      (pricedOrder session cart (some user) payload coupon
        (db.cartSubtotal cart.id) discount)
      (key_pricedOrder session cart (some user) payload coupon
        (db.cartSubtotal cart.id) discount) := by
    rw [checkedOut.after_eq]
    change middle.orders = _
    rw [frame]
  have saved : OwnSaved user db.orders after.orders := by
    rw [orders_eq]
    exact ownSaved_create _ fun _ => rfl
  have member : order ∈ after.orders.rows := by
    rw [orders_eq, checkedOut.order_eq]
    exact List.mem_append_right _ (List.mem_singleton_self _)
  have owns : order.user = some user := by
    rw [checkedOut.order_eq]
    rfl
  apply keepsOthers_of_own saved sold []
  · rw [checkedOut.after_eq]
    exact checkedOut.itemsSold.orderItems_eq
  · intro item itemMem
    rw [(sold_order checkedOut.itemsSold.soldAs item itemMem).1,
      ofOthers_of_mem member]
    simp [owns]
  · rw [checkedOut.after_eq, List.append_nil]
    change middle.payments.rows = _
    rw [frame]
  · simp

/-- A charge attempt for an own order keeps the rows of others. -/
theorem createPayment_keepsOthers {session : Session} {gateway : Gateway}
    {order : Order} {providerCode successUrl cancelUrl : String}
    {payment : Payment} (member : order ∈ db.orders.rows)
    (owns : order.user = some user)
    (returned : createPayment session gateway order providerCode successUrl
      cancelUrl db = .ok payment after) :
    db.KeepsOthers user after := by
  obtain ⟨_, _, charged, orders_eq⟩ := createPayment_charges returned
  have saved : OwnSaved user db.orders after.orders := by
    rcases orders_eq with ⟨_, same⟩ | ⟨_, row, found, changed⟩
    · rw [same]
      exact ownSaved_refl user db.orders
    · obtain ⟨rowMem, sameKey⟩ := Table.find?_eq_some.mp found
      obtain rfl := db.orders.eq_of_key_eq rowMem member sameKey
      rw [changed]
      apply ownSaved_save rowMem owns
      · rfl
      · exact owns
  apply keepsOthers_of_own saved [] [payment]
  · rw [charged.frame, List.append_nil]
  · simp
  · exact charged.payments_eq
  · intro charge chargeMem
    rw [List.mem_singleton.mp chargeMem, charged.order_eq, saved.sameOwners,
      ofOthers_of_mem member]
    simp [owns]

end Keeping

section Owners

variable {db after : Database}

theorem keepsOwners_congr (same : after.orders = db.orders) :
    db.KeepsOwners after := by
  intro order orderMem
  exact ⟨order, same ▸ orderMem, rfl, rfl⟩

theorem Database.KeepsOwners.trans {first second third : Database}
    (earlier : first.KeepsOwners second) (later : second.KeepsOwners third) :
    first.KeepsOwners third := by
  intro order orderMem
  obtain ⟨middle, middleMem, middleId, middleUser⟩ := earlier order orderMem
  obtain ⟨last, lastMem, lastId, lastUser⟩ := later middle middleMem
  exact ⟨last, lastMem, lastId.trans middleId, lastUser.trans middleUser⟩

theorem keepsOwners_save {old saved : Order} (member : old ∈ db.orders.rows)
    (sameId : saved.id = old.id) (sameUser : saved.user = old.user)
    (orders_eq : after.orders = db.orders.save saved) :
    db.KeepsOwners after := by
  intro order orderMem
  by_cases isOld : order.id = old.id
  · obtain rfl := db.orders.eq_of_key_eq orderMem member isOld
    refine ⟨saved, ?_, sameId, sameUser⟩
    rw [orders_eq]
    refine Table.mem_save.mpr (Or.inr ⟨rfl, ?_⟩)
    change saved.id ∈ db.orders.keys
    rw [sameId]
    exact List.mem_map_of_mem orderMem
  · refine ⟨order, ?_, rfl, rfl⟩
    rw [orders_eq]
    apply Table.mem_save_of_ne orderMem
    change order.id ≠ saved.id
    rw [sameId]
    exact isOld

theorem Transitioned.keepsOwners {session : Session} {order : Order}
    {newStatus : OrderStatus}
    (transitioned : Transitioned session order newStatus db after) :
    db.KeepsOwners after :=
  keepsOwners_save transitioned.member
    (congrArg TimeStampedUUIDModel.id (base_enterStatus _ _ _))
    (Order.user_enterStatus _ _ _) (by rw [transitioned.frame])

theorem Moved.keepsOwners {session : Session} {order : Order}
    {status : Option PaymentStatus}
    (moved : Moved session order status db after) :
    db.KeepsOwners after := by
  cases moved with
  | paid transitioned | cancelled _ _ transitioned | refunded transitioned =>
      exact transitioned.keepsOwners
  | notPaid | notCancelled | stayed => exact keepsOwners_congr rfl

theorem Charged.keepsOwners {session : Session} {order : Order}
    {provider : PaymentProvider} {payment : Payment}
    (charged : Charged session order provider db after payment) :
    db.KeepsOwners after := by
  rcases charged.orders_eq with same | ⟨row, rowMem, _, _, saved⟩
  · exact keepsOwners_congr same
  · refine keepsOwners_save rowMem ?_ ?_ saved
    · rfl
    · rfl

/-- No call gives an order away or takes it out of the table. -/
theorem StoreCommand.keepsOwners (db : Database) (command : StoreCommand) :
    db.KeepsOwners (command.step db) := by
  have effect := stepped db command
  generalize command.step db = after at effect
  cases effect with
  | unchanged => exact keepsOwners_congr rfl
  | checkedOut checkedOut =>
      intro order orderMem
      refine ⟨order, ?_, rfl, rfl⟩
      rw [checkedOut.after_eq, checkedOut.itemsSold.frame]
      exact List.mem_append_left _ orderMem
  | charged _ charged => exact charged.keepsOwners
  | webhook _ _ matched =>
      have moved := matched.movedOrder.keepsOwners
      rw [matched.after_eq]
      rw [matched.recorded_eq] at moved
      exact moved
  | transitioned transitioned => exact transitioned.keepsOwners
  | adjusted _ _ _ after_eq => exact keepsOwners_congr (by rw [after_eq])
  | expired cutoff => exact keepsOwners_congr rfl

end Owners

section OwnCalls

variable {user : User} {db : Database}

namespace StoreCommand

/-- The call is a checkout of the customer, or it is about an order of the
customer. -/
def IsOwn (user : Uuid) (db : Database) : StoreCommand → Prop
  | createOrderFromCart _ _ owner _ => owner = some user
  | transitionStatus _ orderId _ _ _ | createPayment _ _ orderId _ _ _ =>
      ∃ order ∈ db.orders.rows, order.id = orderId ∧ order.user = some user
  | handleWebhook .. | adjustStock .. | expirePendingPayments .. => False

/-- A call of the customer keeps the rows of others. -/
theorem keepsOthers {user : Uuid} {command : StoreCommand}
    (own : command.IsOwn user db) : db.KeepsOthers user (command.step db) := by
  cases command with
  | createOrderFromCart session cart owner payload =>
      cases own
      rw [step]
      rcases settle_cases _ (fun _ _ raised =>
          createOrderFromCart_eq_error raised) with ⟨order, called⟩ | unchanged
      · obtain ⟨_, _, _, _, _, _, checkedOut⟩ :=
          createOrderFromCart_eq_ok called
        exact checkedOut.keepsOthers
      · rw [unchanged]
        exact .refl user db
  | createPayment session gateway orderId providerCode successUrl
      cancelUrl =>
      obtain ⟨order, member, rfl, owns⟩ := own
      rw [step]
      split
      · exact .refl user db
      · next row found =>
        have rowMem :=
          (List.mem_filter.mp (List.mem_of_find?_eq_some found)).1
        have sameId : row.id = order.id := by
          simpa using List.find?_some found
        obtain rfl := db.orders.eq_of_key_eq rowMem member sameId
        rcases settle_cases (NovaCommerce.createPayment session gateway row
            providerCode successUrl cancelUrl)
            (fun _ _ raised => atomic_eq_error raised) with
          ⟨payment, called⟩ | unchanged
        · exact createPayment_keepsOthers rowMem owns called
        · rw [unchanged]
          exact .refl user db
  | transitionStatus session orderId newStatus actor message =>
      obtain ⟨order, member, rfl, owns⟩ := own
      rw [step]
      rcases settle_cases (NovaCommerce.transitionStatus session order.id
          newStatus actor message)
          (fun _ _ raised => atomic_eq_error raised) with
        ⟨changed, called⟩ | unchanged
      · exact (transitioned_of_member member called).keepsOthers owns
      · rw [unchanged]
        exact .refl user db
  | handleWebhook | adjustStock | expirePendingPayments => exact own.elim

end StoreCommand

/-- A view that only reads after its service call leaves what that left. -/
theorem settle_exceptCheckoutError {Value : Type} {status : Nat}
    {code : String} {call : Broadcasting Value}
    {answer : Value → Broadcasting Response}
    (reads : ∀ value after, settle (answer value) after = after)
    (before : Signals) :
    settle (exceptCheckoutError status code call answer) before =
      settle call before := by
  unfold settle exceptCheckoutError
  cases call before with
  | ok value after => exact reads value after
  | error raised after => cases raised <;> rfl

theorem settle_bind_of_eq_ok {Error Store Value Next : Type}
    {call : EStateM Error Store Value} {next : Value → EStateM Error Store Next}
    {before middle : Store} {value : Value}
    (returned : call before = .ok value middle) :
    settle (call >>= next) before = settle (next value) middle := by
  rw [settle, bind_of_eq_ok returned]
  rfl

theorem settle_bind_of_eq_error {Error Store Value Next : Type}
    {call : EStateM Error Store Value} {next : Value → EStateM Error Store Next}
    {before middle : Store} {error : Error}
    (raised : call before = .error error middle) :
    settle (call >>= next) before = middle := by
  rw [settle, bind_of_eq_error raised]

theorem settle_silently_pure {Value Answer : Type} (call : Service Value)
    (answer : Value → Answer) (before : Signals) :
    settle (do
        let value ← Broadcasting.silently call
        pure (answer value) : Broadcasting Answer) before =
      { before with db := settle call before.db } := by
  cases called : call before.db with
  | ok value after =>
      rw [settle_of_eq_ok called]
      exact settle_bind_of_eq_ok
        (Broadcasting.silently_eq_ok.mpr ⟨_, called, rfl⟩)
  | error raised after =>
      rw [settle_bind_of_eq_error
        (Broadcasting.silently_eq_error.mpr ⟨_, called, rfl⟩), settle, called]

/-- The view changes carts at most, or it changes carts at most and then makes
one call, of the customer's own. -/
def MakesOwnCall (user : Uuid) (db : Database) (after : Signals) : Prop :=
  ∃ carts : Table Cart, after = { db := { db with carts } } ∨
    ∃ command : StoreCommand, command.IsOwn user { db with carts } ∧
      after = command.run { db with carts }

theorem settle_get_bind {Answer : Type}
    (next : Signals → Broadcasting Answer) (before : Signals) :
    settle (get >>= next) before = settle (next before) before :=
  settle_bind_of_eq_ok rfl

theorem makesOwnCall_checkout (session : Session) (sessionKey : String)
    (data : Except Json CheckoutInput) :
    MakesOwnCall user.id db
      (settle (OrderViewSet.checkout session user sessionKey data)
        { db }) := by
  cases data with
  | error details => exact ⟨db.carts, Or.inl rfl⟩
  | ok payload =>
      cases called : getOrCreateCart session (some user.id) sessionKey db with
      | error raised after =>
          have unchanged : after = db := atomic_eq_error called
          refine ⟨db.carts, Or.inl ?_⟩
          refine (settle_bind_of_eq_error
            (Broadcasting.silently_eq_error.mpr ⟨_, called, rfl⟩)).trans ?_
          rw [unchanged]
      | ok cart after =>
          obtain ⟨_, carts, _, rfl⟩ := getOrCreateCart_eq_ok called
          refine ⟨carts, Or.inr ⟨.createOrderFromCart session cart
            (some user.id) payload, rfl, ?_⟩⟩
          refine (settle_bind_of_eq_ok
            (Broadcasting.silently_eq_ok.mpr ⟨_, called, rfl⟩)).trans ?_
          apply settle_exceptCheckoutError
          intro order later
          rfl

theorem makesOwnCall_cancel (customer : user.IsCustomer)
    (reader : UuidReader) (session : Session) (pk : String) :
    MakesOwnCall user.id db
      (settle (OrderViewSet.cancel reader session user pk) { db }) := by
  refine ⟨db.carts, ?_⟩
  rw [OrderViewSet.cancel, settle_get_bind]
  cases found : OrderViewSet.getObject reader db user pk with
  | error refusal => exact Or.inl rfl
  | ok order =>
      obtain ⟨member, owns⟩ := getObject_eq_ok customer found
      refine Or.inr ⟨.transitionStatus session order.id .cancelled
        (some user.id) "cancelled by user", ⟨order, member, rfl, owns⟩, ?_⟩
      apply settle_exceptCheckoutError
      intro changed later
      rw [settle_get_bind]
      split <;> rfl

theorem makesOwnCall_createForOrder (customer : user.IsCustomer)
    (session : Session) (gateway : Gateway)
    (data : Except Json CreatePaymentInput) :
    MakesOwnCall user.id db
      (settle (PaymentViewSet.createForOrder session gateway user data)
        { db }) := by
  cases data with
  | error details => exact ⟨db.carts, Or.inl rfl⟩
  | ok input =>
      refine ⟨db.carts, ?_⟩
      rw [PaymentViewSet.createForOrder, settle_get_bind]
      cases found : (objects db.orders).find? fun order =>
          order.id = input.orderId with
      | none => exact Or.inl rfl
      | some order =>
          have member :=
            (List.mem_filter.mp (List.mem_of_find?_eq_some found)).1
          have hasId : order.id = input.orderId := by
            simpa using List.find?_some found
          by_cases owns : order.user = some user.id
          · refine Or.inr ⟨.createPayment session gateway input.orderId
              input.provider input.successUrl input.cancelUrl,
              ⟨order, member, hasId, owns⟩, ?_⟩
            simp only [StoreCommand.run, StoreCommand.step, found, owns,
              ne_eq, not_true_eq_false, decide_false, Bool.and_false,
              Bool.false_eq_true, if_false]
            exact settle_silently_pure _ _ _
          · simp only [customer.notStaff, owns, ne_eq, not_false_eq_true,
              decide_true, Bool.not_false, Bool.and_self, if_true]
            exact Or.inl rfl

/-- Every request of a customer makes a call of the customer's own at most. -/
theorem Request.makesOwnCall (customer : user.IsCustomer)
    (reader : UuidReader) (request : Request) :
    MakesOwnCall user.id db (settle (request.view reader user) { db }) := by
  cases request with
  | listOrders | listPayments => exact ⟨db.carts, Or.inl rfl⟩
  | retrieveOrder session pk =>
      refine ⟨db.carts, Or.inl ?_⟩
      rw [Request.view, OrderViewSet.retrieve, settle_get_bind]
      split <;> rfl
  | checkout session sessionKey data =>
      exact makesOwnCall_checkout session sessionKey data
  | cancel session pk => exact makesOwnCall_cancel customer reader session pk
  | retrievePayment pk =>
      refine ⟨db.carts, Or.inl ?_⟩
      rw [Request.view, PaymentViewSet.retrieve, settle_get_bind]
      split
      · rfl
      · split <;> rfl
  | createPayment session gateway data =>
      exact makesOwnCall_createForOrder customer session gateway data

namespace Request

variable {reader : UuidReader} {request : Request} {before after : Signals}

theorem respond_of_eq_ok {response : Response}
    (returned : request.view reader user before = .ok response after) :
    request.respond reader (some user) before = (response, after) := by
  rw [respond]
  simp only [returned]

theorem respond_of_eq_error {raised : Exception}
    (failed : request.view reader user before = .error raised after) :
    request.respond reader (some user) before =
      (apiExceptionHandler raised, after) := by
  rw [respond]
  simp only [failed]

/-- A request leaves what its view leaves. -/
theorem respond_leaves :
    (request.respond reader (some user) before).2 =
      settle (request.view reader user) before := by
  rw [settle]
  cases called : request.view reader user before with
  | ok response after => rw [respond_of_eq_ok called]
  | error raised after => rw [respond_of_eq_error called]

/-- What is left by a response to a customer is left by a call of their
own. -/
theorem makesOwnCall_respond (customer : user.IsCustomer) :
    MakesOwnCall user.id db
      (request.respond reader (some user) { db }).2 := by
  rw [respond_leaves]
  exact request.makesOwnCall customer reader

end Request

namespace MakesOwnCall

variable {owner : Uuid} {after : Signals}

theorem keepsOthers (makes : MakesOwnCall owner db after) :
    db.KeepsOthers owner after.db := by
  obtain ⟨carts, rfl | ⟨command, own, rfl⟩⟩ := makes
  · exact ⟨rfl, rfl, rfl⟩
  · have kept := StoreCommand.keepsOthers own
    rw [command.run_db]
    exact ⟨kept.orders_eq, kept.orderItems_eq, kept.payments_eq⟩

theorem keepsOwners (makes : MakesOwnCall owner db after) :
    db.KeepsOwners after.db := by
  obtain ⟨carts, rfl | ⟨command, _, rfl⟩⟩ := makes
  · exact keepsOwners_congr rfl
  · rw [command.run_db]
    exact command.keepsOwners { db with carts }

theorem saved_isOf (makes : MakesOwnCall owner db after) :
    ∀ saved ∈ after.saved, saved.IsOf db := by
  obtain ⟨carts, rfl | ⟨command, _, rfl⟩⟩ := makes
  · intro saved savedMem
    cases savedMem
  · intro saved savedMem
    have isOf := command.saved_isOf { db with carts } saved savedMem
    exact ⟨isOf.order_eq, isOf.owner_eq⟩

end MakesOwnCall

end OwnCalls

end NovaCommerce
