import NovaCommerce.RedactedDatabase

/-!
# The views do not see the orders of others

For a customer, who is neither staff nor a superuser, every view answers on the
redacted database as it does on the database, and leaves the redacted version
of what it leaves there.  Both websocket handshakes have the same outcome.
-/

namespace NovaCommerce

open AtomicCall

/-- The user is neither staff nor a superuser. -/
structure User.IsCustomer (user : User) : Prop where
  notStaff : user.isStaff = false
  notSuperuser : user.isSuperuser = false

section Read

variable {user : User} {session : Session} {db : Database}

theorem User.IsCustomer.inQueryset_iff (customer : user.IsCustomer)
    (order : Order) :
    OrderViewSet.inQueryset user order = true ↔ order.user = some user.id := by
  simp [OrderViewSet.inQueryset, customer.notStaff, customer.notSuperuser]

theorem User.IsCustomer.isOwnerOrStaff (customer : user.IsCustomer)
    {order : Order} (owns : order.user = some user.id) :
    NovaCommerce.isOwnerOrStaff user order = true := by
  simp [NovaCommerce.isOwnerOrStaff, customer.notStaff, customer.notSuperuser,
    owns]

/-- A payment is in the queryset of the customer who owns its order. -/
theorem User.IsCustomer.ownsPayment_iff (customer : user.IsCustomer)
    (payment : Payment) :
    PaymentViewSet.inQueryset user db payment = true ↔
      ∃ order, db.orders.find? payment.order = some order ∧
        order.user = some user.id := by
  simp [PaymentViewSet.inQueryset, customer.notStaff, customer.notSuperuser,
    Option.any_eq_true]

theorem ofOthers_of_find? {orders : Table Order} {id : Uuid} {order : Order}
    (found : orders.find? id = some order)
    (owns : order.user = some user.id) :
    ofOthers user.id orders id = false := by
  rw [ofOthers, found]
  simp [owns]

theorem ofOthers_of_owns {orders : Table Order} {order : Order}
    (member : order ∈ orders.rows) (owns : order.user = some user.id) :
    ofOthers user.id orders order.id = false :=
  ofOthers_of_find? (Table.find?_eq_some.mpr ⟨member, rfl⟩) owns

/-- An order of the customer is serialized as it is. -/
theorem data_redactedFor {order : Order}
    (own : ofOthers user.id db.orders order.id = false) :
    order.data session (db.redactedFor user.id session) =
      order.data session db := by
  have sameItems : session.filter (db.redactedFor user.id session).orderItems
      (fun item => item.order = order.id) =
        session.filter db.orderItems fun item => item.order = order.id :=
    congrArg (session.scan OrderItem)
      (visible_redactRows OrderItem.order OrderItem.redacted (fun _ => rfl)
        (fun _ => rfl) own _)
  have sameEvents : session.filter (db.redactedFor user.id session).orderEvents
      (fun event => event.order = order.id) =
        session.filter db.orderEvents fun event => event.order = order.id :=
    congrArg (session.scan OrderEvent)
      (visible_redactRows OrderEvent.order OrderEvent.redacted (fun _ => rfl)
        (fun _ => rfl) own _)
  unfold Order.data Session.orderBy
  rw [sameItems, sameEvents]

/-- The customer's orders are selected as they are. -/
theorem orderQueryset_redactedFor (customer : user.IsCustomer)
    {condition : Order → Bool}
    (keeps : ∀ order, condition (order.redactedFor user.id session) =
      condition order) :
    ((objects (db.redactedFor user.id session).orders).filter fun order =>
        OrderViewSet.inQueryset user order && condition order) =
      (objects db.orders).filter fun order =>
        OrderViewSet.inQueryset user order && condition order := by
  apply visible_redactOrders
  · intro order
    have sameOwner :
        OrderViewSet.inQueryset user (order.redactedFor user.id session) =
          OrderViewSet.inQueryset user order := by
      rw [Bool.eq_iff_iff, customer.inQueryset_iff, customer.inQueryset_iff]
      exact owns_redactedFor order
    rw [sameOwner, keeps]
  · intro order _ accepted
    exact (customer.inQueryset_iff order).mp (Bool.and_eq_true _ _ ▸ accepted).1

theorem getQueryset_redactedFor (customer : user.IsCustomer) :
    OrderViewSet.getQueryset session (db.redactedFor user.id session) user =
      OrderViewSet.getQueryset session db user := by
  have same : ((objects (db.redactedFor user.id session).orders).filter
      fun order => OrderViewSet.inQueryset user order && true) =
        (objects db.orders).filter fun order =>
          OrderViewSet.inQueryset user order && true :=
    orderQueryset_redactedFor customer fun _ => rfl
  simp only [Bool.and_true] at same
  unfold OrderViewSet.getQueryset Session.orderBy Session.filter
  rw [same]

theorem getObject_redactedFor (customer : user.IsCustomer)
    (reader : UuidReader) (pk : String) :
    OrderViewSet.getObject reader (db.redactedFor user.id session) user pk =
      OrderViewSet.getObject reader db user pk := by
  unfold OrderViewSet.getObject
  cases reader.read pk with
  | none => rfl
  | some id =>
      have same : ((objects (db.redactedFor user.id session).orders).find?
          fun order => OrderViewSet.inQueryset user order && order.id = id) =
            (objects db.orders).find? fun order =>
              OrderViewSet.inQueryset user order && order.id = id := by
        rw [find?_objects, find?_objects, orderQueryset_redactedFor customer]
        intro order
        rw [show (order.redactedFor user.id session).id = order.id from
          order.key_redactedFor user.id session]
      simp only [same]

theorem mem_getQueryset (customer : user.IsCustomer) {order : Order}
    (selected : order ∈ OrderViewSet.getQueryset session db user) :
    order ∈ db.orders.rows ∧ order.user = some user.id := by
  have inFilter := (session.orderBy_perm _ _ _).mem_iff.mp selected
  obtain ⟨member, accepted⟩ := List.mem_filter.mp inFilter
  exact ⟨member, (customer.inQueryset_iff order).mp
    (Bool.and_eq_true _ _ ▸ accepted).2⟩

/-- What `get_object` finds is an order of the customer. -/
theorem getObject_eq_ok (customer : user.IsCustomer) {reader : UuidReader}
    {pk : String} {order : Order}
    (found : OrderViewSet.getObject reader db user pk = .ok order) :
    order ∈ db.orders.rows ∧ order.user = some user.id := by
  unfold OrderViewSet.getObject at found
  cases isRead : reader.read pk with
  | none => simp [isRead] at found
  | some id =>
      simp only [isRead] at found
      cases selected : (objects db.orders).find? fun order =>
          OrderViewSet.inQueryset user order && order.id = id with
      | none => simp [selected] at found
      | some row =>
          have member := List.mem_of_find?_eq_some selected
          have accepted : (OrderViewSet.inQueryset user row &&
              decide (row.id = id)) = true :=
            List.find?_some (p := fun order : Order =>
              OrderViewSet.inQueryset user order && order.id = id) selected
          have owns := (customer.inQueryset_iff row).mp
            (Bool.and_eq_true _ _ ▸ accepted).1
          simp only [selected, customer.isOwnerOrStaff owns, if_true,
            Except.ok.injEq] at found
          subst found
          exact ⟨(List.mem_filter.mp member).1, owns⟩

/-- The payments of the customer's orders are selected as they are. -/
theorem paymentQueryset_redactedFor (customer : user.IsCustomer)
    (condition : Payment → Bool) :
    ((objects (db.redactedFor user.id session).payments).filter fun payment =>
        PaymentViewSet.inQueryset user (db.redactedFor user.id session)
          payment && condition payment) =
      (objects db.payments).filter fun payment =>
        PaymentViewSet.inQueryset user db payment && condition payment := by
  have sameOwner : ∀ payment : Payment,
      PaymentViewSet.inQueryset user (db.redactedFor user.id session)
        payment = PaymentViewSet.inQueryset user db payment := by
    intro payment
    rw [Bool.eq_iff_iff, customer.ownsPayment_iff, customer.ownsPayment_iff,
      show (db.redactedFor user.id session).orders.find? payment.order =
        (db.orders.find? payment.order).map _ from find?_redactOrders _ _]
    cases db.orders.find? payment.order with
    | none => simp
    | some order => simpa using owns_redactedFor order
  have sameRedacted : ∀ payment : Payment,
      PaymentViewSet.inQueryset user db payment.redacted =
        PaymentViewSet.inQueryset user db payment := fun _ => rfl
  have keepsKey : ∀ payment : Payment,
      Keyed.key (if ofOthers user.id db.orders payment.order
        then payment.redacted else payment) = Keyed.key payment := by
    intro payment
    split <;> rfl
  refine visible_alter db.payments keepsKey ?_ ?_
  · intro payment _
    rw [sameOwner]
    split
    · next others =>
      have notOwn : PaymentViewSet.inQueryset user db payment = false := by
        rw [Bool.eq_false_iff]
        intro selected
        obtain ⟨order, found, owns⟩ :=
          (customer.ownsPayment_iff payment).mp selected
        rw [ofOthers_of_find? found owns] at others
        cases others
      rw [sameRedacted, notOwn]
      simp
    · rfl
  · intro payment _ accepted
    obtain ⟨order, found, owns⟩ := (customer.ownsPayment_iff payment).mp
      (Bool.and_eq_true _ _ ▸ accepted).1
    rw [ofOthers_of_find? found owns]
    rfl

/-- An order is found where it is found in the database. -/
theorem findOrder_redactedFor (id : Uuid) :
    ((objects (db.redactedFor user.id session).orders).find? fun order =>
        order.id = id) =
      ((objects db.orders).find? fun order => order.id = id).map
        (Order.redactedFor user.id session) := by
  have sameId : ∀ order : Order,
      (order.redactedFor user.id session).id = order.id := fun order =>
    order.key_redactedFor user.id session
  change (((db.orders.rows.map (Order.redactedFor user.id session)).filter
    alive).find? _) = _
  rw [List.filter_map, List.find?_map]
  simp only [Function.comp_def, alive_redactedFor, sameId]
  rfl

theorem userOwnsOrder_redactedFor (customer : user.IsCustomer)
    (reader : UuidReader) (orderId : String) :
    userOwnsOrder reader (db.redactedFor user.id session) user orderId =
      userOwnsOrder reader db user orderId := by
  unfold userOwnsOrder
  rw [customer.notStaff]
  cases reader.read orderId with
  | none => rfl
  | some id =>
      have sameId : ∀ order : Order,
          (order.redactedFor user.id session).id = order.id := fun order =>
        order.key_redactedFor user.id session
      have same : ((objects (db.redactedFor user.id session).orders).any
          fun order => order.id = id && order.user = some user.id) =
            (objects db.orders).any fun order =>
              order.id = id && order.user = some user.id := by
        change (((db.orders.rows.map (Order.redactedFor user.id
          session)).filter alive).any _) = _
        rw [List.filter_map, List.any_map]
        simp only [Function.comp_def, alive_redactedFor, sameId,
          owns_redactedFor]
        rfl
      simp only [same]

/-- A customer joins the groups that the redacted database lets it join. -/
theorem connect_redactedFor (customer : user.IsCustomer)
    (reader : UuidReader) (orderId : String) :
    OrderStatusConsumer.connect reader (db.redactedFor user.id session)
        (some user) orderId =
      OrderStatusConsumer.connect reader db (some user) orderId := by
  unfold OrderStatusConsumer.connect
  simp only [userOwnsOrder_redactedFor customer]

end Read

section Charge

variable {user : User} {session : Session} {db : Database} {order : Order}

theorem blind_createPaymentRow
    (own : ofOthers user.id db.orders order.id = false)
    (provider : Provider) (intent : ChargeIntent) :
    Blind user.id session (createPaymentRow session order provider intent)
      db := by
  have sameFound : ((db.redactedFor user.id session).orders.find?
      order.id).isNone = (db.orders.find? order.id).isNone := by
    rw [show (db.redactedFor user.id session).orders.find? order.id =
      (db.orders.find? order.id).map _ from find?_redactOrders _ _]
    exact Option.isNone_map
  have sameKeys : (db.redactedFor user.id session).payments.keys =
      db.payments.keys :=
    keys_redactRows _ _ Payment.redacted (fun _ => rfl) _
  apply mirrors_get_bind
  rw [sameFound, sameKeys]
  split
  · exact mirrors_throw _
  split
  · exact mirrors_throw _
  · apply Mirrors.bind
    · apply mirrors_modify
      unfold Database.redactedFor
      congr 1
      refine (redactRows_create _ _ _ _ own ?_ _).symm
      intro id
      rfl
    · intro _ inserted _
      exact mirrors_pure _

theorem blind_savePayment {payment : Payment}
    (own : ofOthers user.id db.orders payment.order = false) :
    Blind user.id session (savePayment payment) db := by
  unfold savePayment
  split
  · exact mirrors_throw _
  · apply mirrors_modify
    unfold Database.redactedFor
    congr 1
    exact (Table.alter_save _ _ (by simp [own])).symm

theorem blind_saveOrderReference (member : order ∈ db.orders.rows)
    (owns : order.user = some user.id) (provider reference : String) :
    Blind user.id session (saveOrderReference order.id provider reference)
      db := by
  have found : db.orders.find? order.id = some order :=
    Table.find?_eq_some.mpr ⟨member, rfl⟩
  have foundRedacted : (db.redactedFor user.id session).orders.find?
      order.id = some order := by
    rw [show (db.redactedFor user.id session).orders.find? order.id =
      (db.orders.find? order.id).map _ from find?_redactOrders _ _, found,
      Option.map_some, redactedFor_of_owns owns]
  apply mirrors_get_bind
  simp only [found, foundRedacted]
  have own := ofOthers_of_owns member owns
  exact blind_saveOrder owns own

theorem blind_recordCharge (member : order ∈ db.orders.rows)
    (owns : order.user = some user.id) (provider : String)
    (result : ChargeResult) :
    Blind user.id session (recordCharge order.id provider result) db := by
  unfold recordCharge
  split
  · exact blind_saveOrderReference member owns _ _
  · exact mirrors_pure _

/-- The customer's own charge attempts do not see the orders of others. -/
theorem blind_createPayment (member : order ∈ db.orders.rows)
    (owns : order.user = some user.id) (gateway : Gateway)
    (providerCode successUrl cancelUrl : String) :
    Blind user.id session
      (createPayment session gateway order providerCode successUrl cancelUrl)
      db := by
  have own := ofOthers_of_owns member owns
  apply Mirrors.atomic
  apply (mirrors_raising _ _).bind
  intro provider _ looked
  obtain ⟨_, rfl⟩ := raising_eq_ok looked
  apply (blind_createPaymentRow own _ _).bind
  intro payment _ inserted
  obtain ⟨_, rfl, rfl⟩ := createPaymentRow_eq_ok inserted
  apply (mirrors_raising _ _).bind
  intro result _ asked
  obtain ⟨_, rfl⟩ := raising_eq_ok asked
  apply Mirrors.bind
  · apply blind_savePayment
    rw [(answered_eq _ _).1]
    exact own
  · intro _ _ saved
    obtain rfl := modify_eq_ok.mp (refusing_eq_ok.mp saved).2
    refine Mirrors.bind (blind_recordCharge ?_ owns _ _) ?_
    · exact member
    · intro _ recorded _
      exact mirrors_pure _

end Charge

section Changed

variable {user : User} {session : Session} {db after : Database}
  {order : Order}

theorem Order.user_enterStatus (order : Order) (newStatus : OrderStatus)
    (now : Time) : (order.enterStatus newStatus now).user = order.user := by
  cases newStatus <;> rfl

/-- The order of a checkout is the customer's. -/
theorem createOrderFromCart_owns {cart : Cart} {payload : CheckoutInput}
    (returned : createOrderFromCart session cart (some user.id) payload db =
      .ok order after) :
    order ∈ after.orders.rows ∧ order.user = some user.id := by
  obtain ⟨_, _, middle, _, _, _, checkedOut⟩ :=
    createOrderFromCart_eq_ok returned
  have order_eq := checkedOut.order_eq
  refine ⟨?_, ?_⟩
  · rw [checkedOut.after_eq]
    change order ∈ middle.orders.rows
    rw [checkedOut.itemsSold.frame, order_eq]
    exact List.mem_append_right _ (List.mem_singleton_self _)
  · rw [order_eq]
    rfl

/-- After a transition of the customer's order, the order that is found is the
customer's. -/
theorem transitionStatus_owns {newStatus : OrderStatus} {actor : Option Uuid}
    {message : String} {changed : Order} (member : order ∈ db.orders.rows)
    (owns : order.user = some user.id)
    (returned : transitionStatus session order.id newStatus actor message db =
      .ok changed after) :
    ∃ row, after.orders.find? order.id = some row ∧
      row.user = some user.id := by
  have transitioned := transitioned_of_member member returned
  have sameId : (order.enterStatus newStatus session.now).id = order.id :=
    congrArg TimeStampedUUIDModel.id (base_enterStatus _ _ _)
  refine ⟨order.enterStatus newStatus session.now, ?_, ?_⟩
  · rw [transitioned.frame]
    refine Table.find?_eq_some.mpr ⟨Table.mem_save.mpr (Or.inr ⟨rfl, ?_⟩),
      sameId⟩
    change (order.enterStatus newStatus session.now).id ∈ _
    rw [sameId]
    exact List.mem_map_of_mem member
  · rw [Order.user_enterStatus]
    exact owns

end Changed

section Views

open Broadcasting

variable {user : User} {session : Session} {state : Signals}

theorem Mirrors.exceptCheckoutError {Value : Type} {call : Broadcasting Value}
    {answer : Value → Broadcasting Response} {status : Nat} {code : String}
    (blind : BlindBroadcasting user.id session call state)
    (answers : ∀ value after, call state = .ok value after →
      BlindBroadcasting user.id session (answer value) after) :
    BlindBroadcasting user.id session
      (NovaCommerce.exceptCheckoutError status code call answer) state := by
  unfold BlindBroadcasting Mirrors NovaCommerce.exceptCheckoutError
  rw [blind]
  cases called : call state with
  | ok value after => exact answers value after called
  | error raised after => cases raised <;> rfl

theorem Paginator.page_congr {Row Data : Type} (paginator : Paginator Row)
    {first second : Row → Data} {rows : List Row}
    (agree : ∀ row ∈ rows, first row = second row) :
    paginator.page first rows = paginator.page second rows := by
  have sameResults : (paginator.results rows).map first =
      (paginator.results rows).map second := by
    apply List.map_congr_left
    intro row rowMem
    exact agree row (paginator.results_subset rows rowMem)
  unfold Paginator.page
  rw [sameResults]

theorem blind_listOrders (customer : user.IsCustomer)
    (paginator : Paginator Order) :
    BlindBroadcasting user.id session
      (OrderViewSet.list session user paginator) state := by
  have samePage : paginator.page
      (Order.data session (state.redactedFor user.id session).db)
      (OrderViewSet.getQueryset session (state.redactedFor user.id session).db
        user) =
        paginator.page (Order.data session state.db)
          (OrderViewSet.getQueryset session state.db user) := by
    rw [show OrderViewSet.getQueryset session
        (state.redactedFor user.id session).db user =
          OrderViewSet.getQueryset session state.db user from
      getQueryset_redactedFor customer]
    apply paginator.page_congr
    intro order orderMem
    obtain ⟨member, owns⟩ := mem_getQueryset customer orderMem
    exact data_redactedFor (ofOthers_of_owns member owns)
  apply mirrors_get_bind
  rw [samePage]
  exact mirrors_pure _

theorem blind_retrieveOrder (customer : user.IsCustomer)
    (reader : UuidReader) (pk : String) :
    BlindBroadcasting user.id session
      (OrderViewSet.retrieve reader session user pk) state := by
  apply mirrors_get_bind
  rw [show OrderViewSet.getObject reader
      (state.redactedFor user.id session).db user pk =
        OrderViewSet.getObject reader state.db user pk from
    getObject_redactedFor customer reader pk]
  cases found : OrderViewSet.getObject reader state.db user pk with
  | error refusal => exact mirrors_pure _
  | ok order =>
      obtain ⟨member, owns⟩ := getObject_eq_ok customer found
      dsimp only
      rw [show order.data session (state.redactedFor user.id session).db =
        order.data session state.db from
          data_redactedFor (ofOthers_of_owns member owns)]
      exact mirrors_pure _

theorem blind_checkout (sessionKey : String)
    (data : Except Json CheckoutInput) :
    BlindBroadcasting user.id session
      (OrderViewSet.checkout session user sessionKey data) state := by
  cases data with
  | error details => exact mirrors_pure _
  | ok payload =>
      apply (blind_silently (blind_getOrCreateCart user.id sessionKey)).bind
      intro cart middle _
      apply Mirrors.exceptCheckoutError
        (blind_createOrderFromCart cart payload)
      intro order after ordered
      obtain ⟨member, owns⟩ := createOrderFromCart_owns
        ((erases_createOrderFromCart session cart (some user.id) payload
          middle).eq_ok ordered)
      apply mirrors_get_bind
      rw [show order.data session (after.redactedFor user.id session).db =
        order.data session after.db from
          data_redactedFor (ofOthers_of_owns member owns)]
      exact mirrors_pure _

theorem blind_cancel (customer : user.IsCustomer) (reader : UuidReader)
    (pk : String) :
    BlindBroadcasting user.id session
      (OrderViewSet.cancel reader session user pk) state := by
  apply mirrors_get_bind
  rw [show OrderViewSet.getObject reader
      (state.redactedFor user.id session).db user pk =
        OrderViewSet.getObject reader state.db user pk from
    getObject_redactedFor customer reader pk]
  cases found : OrderViewSet.getObject reader state.db user pk with
  | error refusal => exact mirrors_pure _
  | ok order =>
      obtain ⟨member, owns⟩ := getObject_eq_ok customer found
      apply Mirrors.exceptCheckoutError
        (blind_transitionStatus (ofOthers_of_owns member owns) _ _ _)
      intro changed after moved
      obtain ⟨row, foundRow, rowOwns⟩ := transitionStatus_owns member owns
        ((erases_transitionStatus session order.id .cancelled (some user.id)
          "cancelled by user" state).eq_ok moved)
      have foundRedacted : (after.redactedFor user.id session).db.orders.find?
          order.id = some row := by
        rw [show (after.redactedFor user.id session).db.orders.find? order.id =
          (after.db.orders.find? order.id).map _ from find?_redactOrders _ _,
          foundRow, Option.map_some, redactedFor_of_owns rowOwns]
      obtain ⟨rowMem, _⟩ := Table.find?_eq_some.mp foundRow
      apply mirrors_get_bind
      simp only [foundRow, foundRedacted]
      rw [show row.data session (after.redactedFor user.id session).db =
        row.data session after.db from
          data_redactedFor (ofOthers_of_owns rowMem rowOwns)]
      exact mirrors_pure _

theorem blind_listPayments (customer : user.IsCustomer)
    (paginator : Paginator Payment) :
    BlindBroadcasting user.id session
      (PaymentViewSet.list session user paginator) state := by
  have same : PaymentViewSet.getQueryset session
      (state.redactedFor user.id session).db user =
        PaymentViewSet.getQueryset session state.db user := by
    have selected : ((objects (state.redactedFor user.id
        session).db.payments).filter fun payment =>
          PaymentViewSet.inQueryset user (state.redactedFor user.id session).db
            payment && true) =
          (objects state.db.payments).filter fun payment =>
            PaymentViewSet.inQueryset user state.db payment && true :=
      paymentQueryset_redactedFor customer _
    simp only [Bool.and_true] at selected
    unfold PaymentViewSet.getQueryset Session.orderBy Session.filter
    rw [selected]
  apply mirrors_get_bind
  rw [same]
  exact mirrors_pure _

theorem blind_retrievePayment (customer : user.IsCustomer)
    (reader : UuidReader) (pk : String) :
    BlindBroadcasting user.id session
      (PaymentViewSet.retrieve reader user pk) state := by
  apply mirrors_get_bind
  cases reader.read pk with
  | none => exact mirrors_pure _
  | some id =>
      have same : ((objects (state.redactedFor user.id
          session).db.payments).find? fun payment =>
            PaymentViewSet.inQueryset user
              (state.redactedFor user.id session).db payment &&
                payment.id = id) =
            (objects state.db.payments).find? fun payment =>
              PaymentViewSet.inQueryset user state.db payment &&
                payment.id = id := by
        rw [find?_objects, find?_objects]
        exact congrArg List.head? (paymentQueryset_redactedFor customer _)
      simp only [same]
      split <;> exact mirrors_pure _

theorem blind_createForOrder (customer : user.IsCustomer) (gateway : Gateway)
    (data : Except Json CreatePaymentInput) :
    BlindBroadcasting user.id session
      (PaymentViewSet.createForOrder session gateway user data) state := by
  cases data with
  | error details => exact mirrors_pure _
  | ok input =>
      apply mirrors_get_bind
      rw [show ((objects (state.redactedFor user.id session).db.orders).find?
          fun order => order.id = input.orderId) =
            ((objects state.db.orders).find? fun order =>
              order.id = input.orderId).map _ from
        findOrder_redactedFor input.orderId]
      cases found : (objects state.db.orders).find? fun order =>
          order.id = input.orderId with
      | none => exact mirrors_pure _
      | some order =>
          have member :=
            (List.mem_filter.mp (List.mem_of_find?_eq_some found)).1
          rw [Option.map_some]
          dsimp only
          by_cases owns : order.user = some user.id
          · have allowed : (!user.isStaff && order.user ≠ some user.id) =
                false := by
              simp [owns]
            rw [redactedFor_of_owns owns, allowed]
            apply (blind_silently
              (blind_createPayment member owns _ _ _ _)).bind
            intro payment after _
            exact mirrors_pure _
          · have stillNot :
                (order.redactedFor user.id session).user ≠ some user.id :=
              mt (owns_redactedFor order).mp owns
            have forbidden : ∀ {owner : Option Uuid}, owner ≠ some user.id →
                (!user.isStaff && owner ≠ some user.id) = true := by
              intro owner other
              simp [customer.notStaff, other]
            rw [if_pos (forbidden owns), if_pos (forbidden stillNot)]
            exact mirrors_pure _

end Views

namespace Request

/-- What a request takes from outside; reading one payment takes nothing. -/
def session : Request → Session
  | listOrders session _ | retrieveOrder session _ | checkout session _ _
  | cancel session _ | listPayments session _ | createPayment session _ _ =>
      session
  | retrievePayment _ => { now := 0 }

variable {user : User}

/-- No view sees the orders of others. -/
theorem blind_view (customer : user.IsCustomer) (reader : UuidReader)
    (request : Request) (state : Signals) :
    BlindBroadcasting user.id request.session (request.view reader user)
      state := by
  cases request with
  | listOrders session paginator => exact blind_listOrders customer paginator
  | retrieveOrder session pk => exact blind_retrieveOrder customer reader pk
  | checkout session sessionKey data => exact blind_checkout sessionKey data
  | cancel session pk => exact blind_cancel customer reader pk
  | listPayments session paginator =>
      exact blind_listPayments customer paginator
  | retrievePayment pk => exact blind_retrievePayment customer reader pk
  | createPayment session gateway data =>
      exact blind_createForOrder customer gateway data

/-- The answer does not depend on the orders of others, and neither do the
events that are saved. -/
theorem respond_redactedFor (customer : user.IsCustomer)
    (reader : UuidReader) (request : Request) (state : Signals) :
    request.respond reader (some user)
        (state.redactedFor user.id request.session) =
      ((request.respond reader (some user) state).1,
        (request.respond reader (some user) state).2.redactedFor user.id
          request.session) := by
  have blind := request.blind_view customer reader state
  unfold BlindBroadcasting Mirrors at blind
  unfold respond
  simp only [blind]
  cases request.view reader user state <;> rfl

end Request

end NovaCommerce
