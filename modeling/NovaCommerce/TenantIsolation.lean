import NovaCommerce.CustomerCalls

/-!
# Tenant isolation

A customer sends requests and opens websockets while everybody else goes on.
Every answer and every frame that the customer receives is about orders and
payments of the customer, and is the one that the database without the orders
of others would give; and no request of the customer changes a row of an order
of others.
-/

namespace NovaCommerce

open AtomicCall

/-- All that the answer discloses are orders of the user and payments of such
orders. -/
structure Response.Confined (user : Uuid) (session : Session) (db : Database)
    (response : Response) : Prop where
  orders : ∀ data ∈ response.orderData, ∃ order ∈ db.orders.rows,
    order.user = some user ∧ data = order.data session db
  payments : ∀ data ∈ response.paymentData, ∃ payment ∈ db.payments.rows,
    ∃ order ∈ db.orders.rows, order.id = payment.order ∧
      order.user = some user ∧ data = payment.data

section Answers

variable {user : User} {owner : Uuid} {session : Session} {db : Database}

theorem confined_of_nothing {response : Response}
    (noOrders : response.orderData = [])
    (noPayments : response.paymentData = []) :
    response.Confined owner session db where
  orders := by
    rw [noOrders]
    simp
  payments := by
    rw [noPayments]
    simp

theorem confined_order {order : Order} (member : order ∈ db.orders.rows)
    (owns : order.user = some owner) (status : Nat) :
    (Response.order status (order.data session db)).Confined owner session
      db where
  orders := by
    intro data dataMem
    exact ⟨order, member, owns, List.mem_singleton.mp dataMem⟩
  payments := by
    intro data dataMem
    cases dataMem

theorem confined_payment {payment : Payment} {order : Order}
    (member : payment ∈ db.payments.rows) (orderMem : order ∈ db.orders.rows)
    (ofOrder : order.id = payment.order) (owns : order.user = some owner)
    (status : Nat) :
    (Response.payment status payment.data).Confined owner session db where
  orders := by
    intro data dataMem
    cases dataMem
  payments := by
    intro data dataMem
    exact ⟨payment, member, order, orderMem, ofOrder, owns,
      List.mem_singleton.mp dataMem⟩

/-- The call answers with own rows whenever it returns. -/
def AnswersConfined (user : Uuid) (session : Session)
    (call : Broadcasting Response) (before : Signals) : Prop :=
  ∀ response after, call before = .ok response after →
    response.Confined user session after.db

theorem answersConfined_pure {response : Response} {state : Signals}
    (confined : response.Confined owner session state.db) :
    AnswersConfined owner session (pure response) state := by
  intro answer after returned
  obtain ⟨rfl, rfl⟩ := pure_eq_ok.mp returned
  exact confined

theorem answersConfined_get_bind {next : Signals → Broadcasting Response}
    {state : Signals}
    (follows : AnswersConfined owner session (next state) state) :
    AnswersConfined owner session (get >>= next) state :=
  follows

theorem answersConfined_exceptCheckoutError {Value : Type} {status : Nat}
    {code : String} {call : Broadcasting Value}
    {answer : Value → Broadcasting Response} {state : Signals}
    (answers : ∀ value after, call state = .ok value after →
      AnswersConfined owner session (answer value) after) :
    AnswersConfined owner session
      (exceptCheckoutError status code call answer) state := by
  intro response after returned
  unfold exceptCheckoutError at returned
  cases called : call state with
  | ok value middle =>
      rw [called] at returned
      exact answers value middle called response after returned
  | error raised middle =>
      rw [called] at returned
      cases raised with
      | checkoutError message =>
          cases returned
          exact confined_of_nothing rfl rfl
      | _ => cases returned

/-- A refusal discloses nothing. -/
theorem refusal_of_getObject {reader : UuidReader} {pk : String}
    {refusal : Response}
    (refused : OrderViewSet.getObject reader db user pk = .error refusal) :
    refusal.orderData = [] ∧ refusal.paymentData = [] := by
  unfold OrderViewSet.getObject at refused
  split at refused
  · cases refused
    exact ⟨rfl, rfl⟩
  · split at refused
    · cases refused
      exact ⟨rfl, rfl⟩
    · split at refused
      · cases refused
      · cases refused
        exact ⟨rfl, rfl⟩

theorem answersConfined_list (customer : user.IsCustomer)
    (paginator : Paginator Order) :
    AnswersConfined user.id session
      (OrderViewSet.list session user paginator) { db } := by
  apply answersConfined_get_bind
  apply answersConfined_pure
  refine ⟨?_, ?_⟩
  · intro data dataMem
    obtain ⟨order, orderMem, rfl⟩ := List.mem_map.mp dataMem
    obtain ⟨member, owns⟩ := mem_getQueryset customer
      (paginator.results_subset _ orderMem)
    exact ⟨order, member, owns, rfl⟩
  · intro data dataMem
    cases dataMem

theorem answersConfined_retrieve (customer : user.IsCustomer)
    (reader : UuidReader) (pk : String) :
    AnswersConfined user.id session
      (OrderViewSet.retrieve reader session user pk) { db } := by
  apply answersConfined_get_bind
  cases found : OrderViewSet.getObject reader db user pk with
  | error refusal =>
      apply answersConfined_pure
      obtain ⟨noOrders, noPayments⟩ := refusal_of_getObject found
      exact confined_of_nothing noOrders noPayments
  | ok order =>
      obtain ⟨member, owns⟩ := getObject_eq_ok customer found
      exact answersConfined_pure (confined_order member owns 200)

theorem answersConfined_checkout (sessionKey : String)
    (data : Except Json CheckoutInput) :
    AnswersConfined user.id session
      (OrderViewSet.checkout session user sessionKey data) { db } := by
  cases data with
  | error details => exact answersConfined_pure (confined_of_nothing rfl rfl)
  | ok payload =>
      intro response after returned
      obtain ⟨cart, middle, _, rest⟩ := bind_eq_ok.mp returned
      refine answersConfined_exceptCheckoutError ?_ response after rest
      intro order ordered called
      obtain ⟨member, owns⟩ := createOrderFromCart_owns
        ((Broadcasting.erases_createOrderFromCart session cart (some user.id)
          payload middle).eq_ok called)
      apply answersConfined_get_bind
      exact answersConfined_pure (confined_order member owns 201)

theorem answersConfined_cancel (customer : user.IsCustomer)
    (reader : UuidReader) (pk : String) :
    AnswersConfined user.id session
      (OrderViewSet.cancel reader session user pk) { db } := by
  apply answersConfined_get_bind
  cases found : OrderViewSet.getObject reader db user pk with
  | error refusal =>
      apply answersConfined_pure
      obtain ⟨noOrders, noPayments⟩ := refusal_of_getObject found
      exact confined_of_nothing noOrders noPayments
  | ok order =>
      obtain ⟨member, owns⟩ := getObject_eq_ok customer found
      apply answersConfined_exceptCheckoutError
      intro changed after moved
      obtain ⟨row, foundRow, rowOwns⟩ := transitionStatus_owns member owns
        ((Broadcasting.erases_transitionStatus session order.id .cancelled
          (some user.id) "cancelled by user" { db }).eq_ok moved)
      obtain ⟨rowMem, _⟩ := Table.find?_eq_some.mp foundRow
      apply answersConfined_get_bind
      rw [foundRow]
      exact answersConfined_pure (confined_order rowMem rowOwns 200)

theorem answersConfined_listPayments (customer : user.IsCustomer)
    (paginator : Paginator Payment) :
    AnswersConfined user.id session
      (PaymentViewSet.list session user paginator) { db } := by
  apply answersConfined_get_bind
  apply answersConfined_pure
  refine ⟨?_, ?_⟩
  · intro data dataMem
    cases dataMem
  · intro data dataMem
    obtain ⟨payment, paymentMem, rfl⟩ := List.mem_map.mp dataMem
    have selected := (session.orderBy_perm _ _ _).mem_iff.mp
      (paginator.results_subset _ paymentMem)
    obtain ⟨member, accepted⟩ := List.mem_filter.mp selected
    obtain ⟨order, found, owns⟩ := (customer.ownsPayment_iff payment).mp
      (Bool.and_eq_true _ _ ▸ accepted).2
    obtain ⟨orderMem, ofOrder⟩ := Table.find?_eq_some.mp found
    exact ⟨payment, member, order, orderMem, ofOrder, owns, rfl⟩

theorem answersConfined_retrievePayment (customer : user.IsCustomer)
    (reader : UuidReader) (pk : String) :
    AnswersConfined user.id session
      (PaymentViewSet.retrieve reader user pk) { db } := by
  apply answersConfined_get_bind
  cases reader.read pk with
  | none => exact answersConfined_pure (confined_of_nothing rfl rfl)
  | some id =>
      dsimp only
      split
      · exact answersConfined_pure (confined_of_nothing rfl rfl)
      · next payment found =>
        have member :=
          (List.mem_filter.mp (List.mem_of_find?_eq_some found)).1
        have accepted : (PaymentViewSet.inQueryset user db payment &&
            decide (payment.id = id)) = true :=
          List.find?_some (p := fun payment : Payment =>
            PaymentViewSet.inQueryset user db payment && payment.id = id)
              found
        obtain ⟨order, foundOrder, owns⟩ := (customer.ownsPayment_iff
          payment).mp (Bool.and_eq_true _ _ ▸ accepted).1
        obtain ⟨orderMem, ofOrder⟩ := Table.find?_eq_some.mp foundOrder
        exact answersConfined_pure
          (confined_payment member orderMem ofOrder owns 200)

theorem answersConfined_createForOrder (customer : user.IsCustomer)
    (gateway : Gateway) (data : Except Json CreatePaymentInput) :
    AnswersConfined user.id session
      (PaymentViewSet.createForOrder session gateway user data) { db } := by
  cases data with
  | error details => exact answersConfined_pure (confined_of_nothing rfl rfl)
  | ok input =>
      apply answersConfined_get_bind
      split
      · exact answersConfined_pure (confined_of_nothing rfl rfl)
      · next order found =>
        have member :=
          (List.mem_filter.mp (List.mem_of_find?_eq_some found)).1
        by_cases owns : order.user = some user.id
        · have allowed : (!user.isStaff && order.user ≠ some user.id) =
              false := by
            simp [owns]
          rw [allowed]
          intro response after returned
          obtain ⟨payment, _, charging, finished⟩ := bind_eq_ok.mp returned
          obtain ⟨charged, called, rfl⟩ :=
            Broadcasting.silently_eq_ok.mp charging
          obtain ⟨_, _, effect⟩ := createPayment_eq_ok called
          obtain ⟨rfl, rfl⟩ := pure_eq_ok.mp finished
          obtain ⟨later, laterMem, sameId, sameUser⟩ :=
            effect.keepsOwners order member
          refine confined_payment ?_ laterMem
            (sameId.trans effect.order_eq.symm) (sameUser.trans owns) 201
          rw [effect.payments_eq]
          exact List.mem_append_right _ (List.mem_singleton_self _)
        · have forbidden : (!user.isStaff && order.user ≠ some user.id) =
              true := by
            simp [customer.notStaff, owns]
          rw [if_pos forbidden]
          exact answersConfined_pure (confined_of_nothing rfl rfl)

/-- Every answer discloses own rows only. -/
theorem Request.confined (customer : user.IsCustomer) (reader : UuidReader)
    (request : Request) (db : Database) :
    (request.respond reader (some user) { db }).1.Confined user.id
      request.session (request.respond reader (some user) { db }).2.db := by
  have confined : AnswersConfined user.id request.session
      (request.view reader user) { db } := by
    cases request with
    | listOrders session paginator =>
        exact answersConfined_list customer paginator
    | retrieveOrder session pk =>
        exact answersConfined_retrieve customer reader pk
    | checkout session sessionKey data =>
        exact answersConfined_checkout sessionKey data
    | cancel session pk => exact answersConfined_cancel customer reader pk
    | listPayments session paginator =>
        exact answersConfined_listPayments customer paginator
    | retrievePayment pk =>
        exact answersConfined_retrievePayment customer reader pk
    | createPayment session gateway data =>
        exact answersConfined_createForOrder customer gateway data
  cases called : request.view reader user { db } with
  | ok response after =>
      rw [Request.respond_of_eq_ok called]
      exact confined response after called
  | error raised after =>
      rw [Request.respond_of_eq_error called]
      apply confined_of_nothing
      · cases raised <;> rfl
      · cases raised <;> rfl

end Answers

/-- The group is that of an order of the user, under any text that is read as
the identifier of the order, or it is the user's own. -/
inductive MayHear (reader : UuidReader) (db : Database) (user : Uuid) :
    String → Prop
  | order {text : String} {order : Order}
      (isRead : reader.read text = some order.id)
      (member : order ∈ db.orders.rows) (owns : order.user = some user) :
      MayHear reader db user (orderGroup text)
  | self : MayHear reader db user (userGroup user)

theorem orderGroup_injective : Function.Injective orderGroup := by
  intro first second same
  have sameChars := congrArg String.toList same
  rw [orderGroup, orderGroup, String.toList_append, String.toList_append]
    at sameChars
  exact String.toList_injective (List.append_cancel_left sameChars)

theorem orderGroup_ne_userGroup (orderId : String) (user : Uuid) :
    orderGroup orderId ≠ userGroup user := by
  intro same
  have sameChars := congrArg String.toList same
  rw [orderGroup, userGroup, String.toList_append, String.toList_append]
    at sameChars
  simp at sameChars

theorem userGroup_injective (reader : UuidReader) :
    Function.Injective userGroup := by
  intro first second same
  have sameChars := congrArg String.toList same
  rw [userGroup, userGroup, String.toList_append, String.toList_append]
    at sameChars
  have sameText : toString first = toString second :=
    String.toList_injective (List.append_cancel_left sameChars)
  have sameRead := congrArg reader.read sameText
  rw [reader.read_toString, reader.read_toString] at sameRead
  exact Option.some_inj.mp sameRead

section Groups

variable {reader : UuidReader} {db after : Database} {user : User}
  {owner : Uuid} {group : String}

theorem MayHear.mono (mayHear : MayHear reader db owner group)
    (keeps : db.KeepsOwners after) : MayHear reader after owner group := by
  cases mayHear with
  | self => exact .self
  | order isRead member owns =>
      obtain ⟨later, laterMem, sameId, sameUser⟩ := keeps _ member
      exact .order (sameId ▸ isRead) laterMem (sameUser.trans owns)

/-- What is sent to such a group is about an order of the user. -/
theorem MayHear.owns (mayHear : MayHear reader db owner group)
    {saved : SavedEvent} (isOf : saved.IsOf db) {sent : Broadcast}
    (sentMem : sent ∈ saved.broadcasts) (toGroup : sent.group = group) :
    saved.order.user = some owner := by
  have groups : group = orderGroup (toString saved.event.order) ∨
      ∃ user, saved.order.user = some user ∧ group = userGroup user := by
    rcases List.mem_cons.mp sentMem with rfl | toUser
    · exact Or.inl toGroup.symm
    · obtain ⟨user, owns, rfl⟩ := Option.map_eq_some_iff.mp
        (Option.mem_toList.mp toUser)
      exact Or.inr ⟨user, owns, toGroup.symm⟩
  cases mayHear with
  | self =>
      rcases groups with ofOrder | ⟨user, owns, ofUser⟩
      · exact absurd ofOrder.symm (orderGroup_ne_userGroup _ _)
      · rw [userGroup_injective reader ofUser]
        exact owns
  | order isRead member owns =>
      rcases groups with ofOrder | ⟨user, _, ofUser⟩
      · rw [orderGroup_injective ofOrder, reader.read_toString] at isRead
        have sameId := Option.some_inj.mp isRead
        rw [← isOf.owner_eq _ member (sameId.symm.trans isOf.order_eq)]
        exact owns
      · exact absurd ofUser (orderGroup_ne_userGroup _ _)

/-- A handshake lets a customer into such a group only. -/
theorem mayHear_of_joined (customer : user.IsCustomer) {orderId : String}
    {greeting : Frame}
    (joined : OrderStatusConsumer.connect reader db (some user) orderId =
      .joined group greeting) : MayHear reader db user.id group := by
  unfold OrderStatusConsumer.connect userOwnsOrder at joined
  simp only [customer.notStaff, Bool.false_eq_true, if_false] at joined
  cases isRead : reader.read orderId with
  | none => simp [isRead] at joined
  | some id =>
      cases owned : (objects db.orders).any fun order =>
          order.id = id && order.user = some user.id with
      | false => simp [isRead, owned] at joined
      | true =>
          simp only [isRead, owned] at joined
          cases joined
          obtain ⟨order, selected, accepted⟩ := List.any_eq_true.mp owned
          simp only [Bool.and_eq_true, decide_eq_true_eq] at accepted
          obtain ⟨rfl, owns⟩ := accepted
          exact .order isRead (List.mem_filter.mp selected).1 owns

theorem greeting_of_joined {user : Option User} {orderId : String}
    {greeting : Frame}
    (joined : OrderStatusConsumer.connect reader db user orderId =
      .joined group greeting) : greeting = .connected (some orderId) := by
  unfold OrderStatusConsumer.connect at joined
  split at joined
  · cases joined
  · split at joined <;> cases joined
    rfl

theorem mem_delivered {groups : List String} {saved : List SavedEvent}
    {frame : Frame} (received : frame ∈ delivered groups saved) :
    ∃ group ∈ groups, ∃ event ∈ saved, ∃ sent ∈ event.broadcasts,
      sent.group = group ∧ frame = .orderEvent sent.payload := by
  obtain ⟨group, groupMem, inGroup⟩ := List.mem_flatMap.mp received
  obtain ⟨sent, selected, rfl⟩ := List.mem_map.mp inGroup
  obtain ⟨sentMem, toGroup⟩ := List.mem_filter.mp selected
  obtain ⟨event, eventMem, sentMem⟩ := List.mem_flatMap.mp sentMem
  exact ⟨group, groupMem, event, eventMem, sent, sentMem,
    decide_eq_true_eq.mp toGroup, rfl⟩

end Groups

/-- The store, and the groups that the websockets of a customer are in. -/
structure Tenancy where
  db : Database
  groups : List String := []

/-- What the customer receives from one activity. -/
structure Outcome where
  response : Option Response := none
  handshake : Option Handshake := none
  frames : List Frame := []

inductive Activity where
  | request (request : Request)
  | joinOrder (orderId : String)
  | joinFirehose
  | leave (group : String)
  /-- A call of somebody else. -/
  | elsewhere (command : StoreCommand)

namespace Tenancy

/-- A websocket that was accepted is greeted. -/
def join (state : Tenancy) (handshake : Handshake) : Outcome × Tenancy :=
  match handshake with
  | .joined group greeting =>
      ({ handshake := some handshake, frames := [greeting] },
        { state with groups := group :: state.groups })
  | _ => ({ handshake := some handshake }, state)

theorem join_db (state : Tenancy) (handshake : Handshake) :
    (state.join handshake).2.db = state.db := by
  cases handshake <;> rfl

theorem join_response (state : Tenancy) (handshake : Handshake) :
    (state.join handshake).1.response = none := by
  cases handshake <;> rfl

theorem join_outcome (first second : Tenancy) (handshake : Handshake) :
    (first.join handshake).1 = (second.join handshake).1 := by
  cases handshake <;> rfl

def redactedFor (user : Uuid) (session : Session) (state : Tenancy) :
    Tenancy :=
  { state with db := state.db.redactedFor user session }

end Tenancy

namespace Activity

/-- The customer does it. -/
def IsOwn : Activity → Prop
  | elsewhere _ => False
  | request _ | joinOrder _ | joinFirehose | leave _ => True

def session : Activity → Session
  | request asked => asked.session
  | joinOrder _ | joinFirehose | leave _ | elsewhere _ => { now := 0 }

/-- The events that are saved. -/
def saved (reader : UuidReader) (user : User) (db : Database) :
    Activity → List SavedEvent
  | request asked => (asked.respond reader (some user) { db }).2.saved
  | elsewhere command => (command.run db).saved
  | joinOrder _ | joinFirehose | leave _ => []

def step (reader : UuidReader) (user : User) (state : Tenancy)
    (activity : Activity) : Outcome × Tenancy :=
  let frames := delivered state.groups (activity.saved reader user state.db)
  match activity with
  | request asked =>
      let (response, after) :=
        asked.respond reader (some user) { db := state.db }
      ({ response := some response, frames },
        { state with db := after.db })
  | joinOrder orderId =>
      state.join (OrderStatusConsumer.connect reader state.db (some user)
        orderId)
  | joinFirehose => state.join (UserFirehoseConsumer.connect (some user))
  | leave group => ({}, { state with groups := state.groups.erase group })
  | elsewhere command =>
      ({ frames }, { state with db := (command.run state.db).db })

end Activity

/-- The state after some activities. -/
def Tenancy.after (reader : UuidReader) (user : User) (state : Tenancy)
    (activities : List Activity) : Tenancy :=
  activities.foldl
    (fun state activity => (activity.step reader user state).2) state

/-- What one activity must not do. -/
structure Isolated (reader : UuidReader) (user : User) (state : Tenancy)
    (activity : Activity) : Prop where
  /-- An answer discloses own orders and payments only. -/
  confined : ∀ response,
    (activity.step reader user state).1.response = some response →
      response.Confined user.id activity.session
        (activity.step reader user state).2.db
  /-- A frame is a greeting, or it tells of an event of an own order. -/
  frames_own : ∀ frame ∈ (activity.step reader user state).1.frames,
    (∃ orderId, frame = .connected orderId) ∨
      ∃ event ∈ activity.saved reader user state.db,
        event.event.order = event.order.id ∧
          event.order.user = some user.id ∧
          ∃ sent ∈ event.broadcasts, frame = .orderEvent sent.payload
  /-- What an own activity brings does not depend on the orders of others. -/
  blind : activity.IsOwn →
    (activity.step reader user
        (state.redactedFor user.id activity.session)).1 =
      (activity.step reader user state).1
  /-- An own activity keeps the rows of others. -/
  keepsOthers : activity.IsOwn →
    state.db.KeepsOthers user.id (activity.step reader user state).2.db

section Runs

variable {reader : UuidReader} {user : User} {state : Tenancy}

/-- The groups that are joined tell of own orders only. -/
def Tenancy.HearsOwn (reader : UuidReader) (user : User) (state : Tenancy) :
    Prop :=
  ∀ group ∈ state.groups, MayHear reader state.db user.id group

theorem Activity.step_request (asked : Request) :
    ((Activity.request asked).step reader user state).1 =
      { response :=
          some (asked.respond reader (some user) { db := state.db }).1
        frames := delivered state.groups
          (asked.respond reader (some user) { db := state.db }).2.saved } :=
  rfl

theorem Activity.keepsOwners (customer : user.IsCustomer)
    (activity : Activity) :
    state.db.KeepsOwners (activity.step reader user state).2.db := by
  cases activity with
  | request asked =>
      exact (asked.makesOwnCall_respond customer).keepsOwners
  | elsewhere command =>
      change state.db.KeepsOwners (command.run state.db).db
      rw [command.run_db]
      exact command.keepsOwners state.db
  | joinOrder orderId =>
      apply keepsOwners_congr
      exact congrArg Database.orders (state.join_db _)
  | joinFirehose | leave => exact keepsOwners_congr rfl

theorem Activity.saved_isOf (customer : user.IsCustomer)
    (activity : Activity) (db : Database) :
    ∀ event ∈ activity.saved reader user db, event.IsOf db := by
  cases activity with
  | request asked =>
      exact (asked.makesOwnCall_respond customer).saved_isOf
  | elsewhere command => exact command.saved_isOf db
  | joinOrder | joinFirehose | leave =>
      intro event eventMem
      cases eventMem

/-- The groups that are in use after an activity were, or were joined by it. -/
theorem Activity.hearsOwn (customer : user.IsCustomer)
    (hearsOwn : state.HearsOwn reader user) (activity : Activity) :
    (activity.step reader user state).2.HearsOwn reader user := by
  have keeps : state.db.KeepsOwners (activity.step reader user state).2.db :=
    activity.keepsOwners customer
  intro group groupMem
  have joins : ∀ handshake,
      (∀ joined greeting, handshake = .joined joined greeting →
        MayHear reader state.db user.id joined) →
      ∀ group ∈ (state.join handshake).2.groups,
        MayHear reader state.db user.id group := by
    intro handshake mayHear group groupMem
    cases handshake with
    | joined joined greeting =>
        rcases List.mem_cons.mp groupMem with rfl | earlier
        · exact mayHear _ _ rfl
        · exact hearsOwn group earlier
    | closed code => exact hearsOwn group groupMem
    | raised exception => exact hearsOwn group groupMem
  refine MayHear.mono ?_ keeps
  cases activity with
  | request asked => exact hearsOwn group groupMem
  | elsewhere command => exact hearsOwn group groupMem
  | leave left =>
      exact hearsOwn group (List.mem_of_mem_erase groupMem)
  | joinOrder orderId =>
      refine joins _ ?_ group groupMem
      intro joined greeting accepted
      exact mayHear_of_joined customer accepted
  | joinFirehose =>
      refine joins _ ?_ group groupMem
      rintro joined greeting accepted
      cases accepted
      exact .self

theorem hearsOwn_after (customer : user.IsCustomer)
    (hearsOwn : state.HearsOwn reader user) (activities : List Activity) :
    (state.after reader user activities).HearsOwn reader user := by
  induction activities generalizing state with
  | nil => exact hearsOwn
  | cons activity activities ih =>
      exact ih (activity.hearsOwn customer hearsOwn)

/-- Only what the groups tell of, and greetings, is received. -/
theorem mem_frames {activity : Activity} {frame : Frame}
    (received : frame ∈ (activity.step reader user state).1.frames) :
    (∃ orderId, frame = .connected orderId) ∨
      frame ∈ delivered state.groups
        (activity.saved reader user state.db) := by
  cases activity with
  | request asked => exact Or.inr received
  | elsewhere command => exact Or.inr received
  | leave group => cases received
  | joinOrder orderId =>
      change frame ∈ (state.join (OrderStatusConsumer.connect reader state.db
        (some user) orderId)).1.frames at received
      cases accepted : OrderStatusConsumer.connect reader state.db (some user)
          orderId with
      | joined group greeting =>
          rw [accepted] at received
          obtain rfl := List.mem_singleton.mp received
          exact Or.inl ⟨some orderId, greeting_of_joined accepted⟩
      | closed code =>
          rw [accepted] at received
          cases received
      | raised exception =>
          rw [accepted] at received
          cases received
  | joinFirehose =>
      exact Or.inl ⟨none, List.mem_singleton.mp received⟩

/-- Whatever a customer's websockets are in, each activity is isolated. -/
theorem isolated_of_hearsOwn (customer : user.IsCustomer)
    (hearsOwn : state.HearsOwn reader user) (activity : Activity) :
    Isolated reader user state activity where
  confined := by
    intro response answered
    cases activity with
    | request asked =>
        cases answered
        exact asked.confined customer reader state.db
    | joinOrder orderId =>
        have noAnswer := state.join_response
          (OrderStatusConsumer.connect reader state.db (some user) orderId)
        cases noAnswer.symm.trans answered
    | joinFirehose | leave | elsewhere => cases answered
  frames_own := by
    intro frame received
    rcases mem_frames received with greeting | pushed
    · exact Or.inl greeting
    · obtain ⟨group, groupMem, event, eventMem, sent, sentMem, toGroup,
        frame_eq⟩ := mem_delivered pushed
      have isOf := activity.saved_isOf customer state.db event eventMem
      exact Or.inr ⟨event, eventMem, isOf.order_eq,
        (hearsOwn group groupMem).owns isOf sentMem toGroup, sent, sentMem,
        frame_eq⟩
  blind := by
    intro own
    cases activity with
    | request asked =>
        have same : asked.respond reader (some user)
            { db := (state.redactedFor user.id asked.session).db } = _ :=
          asked.respond_redactedFor customer reader { db := state.db }
        rw [Activity.step_request, Activity.step_request, Activity.session,
          same]
        rfl
    | joinOrder orderId =>
        change (Tenancy.join _ (OrderStatusConsumer.connect reader
          (state.db.redactedFor user.id _) (some user) orderId)).1 = _
        rw [connect_redactedFor customer reader orderId]
        exact Tenancy.join_outcome _ _ _
    | joinFirehose | leave => rfl
    | elsewhere => exact own.elim
  keepsOthers := by
    intro own
    cases activity with
    | request asked =>
        exact (asked.makesOwnCall_respond customer).keepsOthers
    | joinOrder orderId =>
        change state.db.KeepsOthers user.id (state.join _).2.db
        rw [state.join_db]
        exact .refl user.id state.db
    | joinFirehose | leave => exact .refl user.id state.db
    | elsewhere => exact own.elim

theorem keepsOthers_after (customer : user.IsCustomer)
    (hearsOwn : state.HearsOwn reader user) {activities : List Activity}
    (own : ∀ activity ∈ activities, activity.IsOwn) :
    state.db.KeepsOthers user.id (state.after reader user activities).db := by
  induction activities generalizing state with
  | nil => exact .refl user.id state.db
  | cons activity activities ih =>
      have first := (isolated_of_hearsOwn customer hearsOwn
        activity).keepsOthers (own activity List.mem_cons_self)
      have others := ih (activity.hearsOwn customer hearsOwn)
        fun later laterMem => own later (List.mem_cons_of_mem _ laterMem)
      exact first.trans others

end Runs

/-- Tenant isolation: from any database, whatever a customer has requested and
joined and whatever others have done, each further activity is isolated; and
what the customer has done alone has kept the rows of others. -/
theorem tenant_isolation (reader : UuidReader) {user : User}
    (notStaff : user.isStaff = false) (notSuperuser : user.isSuperuser = false)
    (db : Database) (activities : List Activity) :
    (∀ next, Isolated reader user
      (Tenancy.after reader user { db } activities) next) ∧
      ((∀ activity ∈ activities, activity.IsOwn) →
        db.KeepsOthers user.id
          (Tenancy.after reader user { db } activities).db) := by
  have customer : user.IsCustomer := ⟨notStaff, notSuperuser⟩
  have hearsOwn : Tenancy.HearsOwn reader user { db } := by
    intro group groupMem
    cases groupMem
  refine ⟨?_, ?_⟩
  · intro next
    exact isolated_of_hearsOwn customer
      (hearsOwn_after customer hearsOwn activities) next
  · intro own
    exact keepsOthers_after customer hearsOwn own

/-- Identifiers in decimal digits. -/
def decimalUuids : UuidReader where
  read text :=
    if text.toList.all Char.isDigit then
      some (Nat.ofDigitChars 10 text.toList 0)
    else none
  read_toString id := by
    have digits : (toString id).toList = Nat.toDigits 10 id := by
      change (Nat.repr id).toList = _
      rw [Nat.repr_eq_ofList_toDigits, String.toList_ofList]
    rw [digits, if_pos, Nat.ofDigitChars_ten_toDigits]
    rw [List.all_eq_true]
    intro digit digitMem
    exact Nat.isDigit_of_mem_toDigits (by decide) (by decide) digitMem

/-- Two customers with an order each. -/
def twoOwners : Database where
  orders := ⟨[
      { id := 1, createdAt := 0, number := "N1", user := some 7,
        emailSnapshot := "seven@example.com", phoneSnapshot := "" },
      { id := 2, createdAt := 0, number := "N2", user := some 8,
        emailSnapshot := "eight@example.com", phoneSnapshot := "" }],
    by decide⟩

theorem tenant_isolation_intruder :
    Isolated decimalUuids { id := 7 }
      (Tenancy.after decimalUuids { id := 7 } { db := twoOwners }
        [.joinFirehose, .joinOrder "2",
          .elsewhere (.transitionStatus { now := 1 } 2 .paid none "")])
      (.request (.cancel { now := 2 } "2")) :=
  (tenant_isolation decimalUuids rfl rfl twoOwners _).1 _

end NovaCommerce
