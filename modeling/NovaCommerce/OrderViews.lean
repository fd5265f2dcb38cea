import NovaCommerce.OrderBroadcasts

/-!
# The views of orders and payments

The endpoints that customers use, with what their serializers disclose, their
querysets and permissions, and the consumers that let a websocket join the
group of an order or of a user.  Whose orders a user may see is decided four
times: by the querysets, by the permission on the object, by a comparison in
the payment view, and by a query of the consumer.
-/

namespace NovaCommerce

open AtomicCall

/-- `request.user`, when it is authenticated. -/
structure User where
  id : Uuid
  isStaff : Bool := false
  isSuperuser : Bool := false
  deriving DecidableEq, Repr

/-- How a text is read as the value of a `UUIDField`; the text of a value is
read as that value. -/
structure UuidReader where
  read : String → Option Uuid
  read_toString : ∀ id, read (toString id) = some id

structure OrderItemData where
  id : Uuid
  variant : Option Uuid
  sku : String
  nameSnapshot : String
  attributesSnapshot : Json
  quantity : Nat
  unitPrice : Cents
  lineTotal : Cents

structure OrderEventData where
  id : Uuid
  code : String
  message : String
  actor : Option Uuid
  payload : Json
  createdAt : Time

structure OrderData where
  id : Uuid
  number : String
  user : Option Uuid
  emailSnapshot : String
  phoneSnapshot : String
  status : OrderStatus
  currency : String
  subtotal : Cents
  shippingTotal : Cents
  taxTotal : Cents
  discountTotal : Cents
  grandTotal : Cents
  couponCode : String
  shippingAddress : Json
  billingAddress : Json
  paymentProvider : String
  paymentReference : String
  paidAt : Option Time
  cancelledAt : Option Time
  refundedAt : Option Time
  notesCustomer : String
  metadata : Json
  items : List OrderItemData
  events : List OrderEventData
  createdAt : Time

structure PaymentData where
  id : Uuid
  order : Uuid
  provider : Provider
  status : PaymentStatus
  amount : Cents
  currency : String
  providerReference : String
  providerIntentId : String
  redirectUrl : String
  createdAt : Time

def OrderItem.data (item : OrderItem) : OrderItemData :=
  { item with }

def OrderEvent.data (event : OrderEvent) : OrderEventData :=
  { event with }

/-- `OrderSerializer(order).data`: items come in any order, events with the
newest first. -/
def Order.data (session : Session) (db : Database) (order : Order) :
    OrderData :=
  { order with
    items := (session.filter db.orderItems
      fun item => item.order = order.id).map OrderItem.data
    events := (session.orderBy db.orderEvents
      (fun event => event.order = order.id)
      (fun first second => second.createdAt ≤ first.createdAt)).map
        OrderEvent.data }

def Payment.data (payment : Payment) : PaymentData :=
  { payment with }

/-- The page of a list, with its links. -/
structure Page (Data : Type) where
  next : Option String
  previous : Option String
  results : List Data

inductive Response where
  | orders (page : Page OrderData)
  | order (status : Nat) (data : OrderData)
  | payments (page : Page PaymentData)
  | payment (status : Nat) (data : PaymentData)
  /-- The envelope of `api_exception_handler`, which views use too. -/
  | error (status : Nat) (code message : String) (details : Option Json)
  | detail (status : Nat) (text : String)

namespace Response

/-- The orders that an answer discloses. -/
def orderData : Response → List OrderData
  | orders page => page.results
  | order _ data => [data]
  | _ => []

/-- The payments that an answer discloses. -/
def paymentData : Response → List PaymentData
  | payments page => page.results
  | payment _ data => [data]
  | _ => []

end Response

/-- What the filters and the pagination make of a queryset for the query of a
request: some of its rows, and links. -/
structure Paginator (Row : Type) where
  results : List Row → List Row
  results_subset : ∀ rows, results rows ⊆ rows
  next : List Row → Option String
  previous : List Row → Option String

def Paginator.page {Row Data : Type} (paginator : Paginator Row)
    (data : Row → Data) (rows : List Row) : Page Data where
  next := paginator.next rows
  previous := paginator.previous rows
  results := (paginator.results rows).map data

/-- `api_exception_handler` on what a service raised. -/
def apiExceptionHandler : Exception → Response
  | .validationError message =>
      .error 400 "validation" "Validation failed."
        (some (.arr [.str message]))
  | _ => .error 500 "internal" "Internal server error." none

/-- The errors of a serializer field: that it is missing, or all that its checks
find. -/
def fieldErrors {Value : Type} (name : String) (isRequired : Bool)
    (refuse : Value → List String) :
    Option Value → List (String × List String)
  | none => if isRequired then [(name, ["This field is required."])] else []
  | some value =>
      match refuse value with
      | [] => []
      | messages => [(name, messages)]

def refuseBlank (text : String) : List String :=
  if text = "" then ["This field may not be blank."] else []

def refuseLong (maxLength : Nat) (text : String) : List String :=
  if maxLength < text.length then
    [s!"Ensure this field has no more than {maxLength} characters."]
  else []

/-- `ProhibitNullCharactersValidator`. -/
def refuseNull (text : String) : List String :=
  if text.toList.contains '\x00' then ["Null characters are not allowed."]
  else []

/-- `ProhibitSurrogateCharactersValidator`. -/
def refuseSurrogates (text : String) : List String :=
  match text.toList.find? TextDecoding.standsForSurrogate with
  | none => []
  | some char =>
      let digits := Nat.toDigits 16 (char.toNat - TextDecoding.surrogateOffset)
      ["Surrogate characters are not allowed: U+" ++
        String.ofList (digits.map Char.toUpper) ++ "."]

/-- What every text field refuses. -/
def refuseCharacters (text : String) : List String :=
  refuseNull text ++ refuseSurrogates text

def refuseText (maxLength : Nat) (text : String) : List String :=
  refuseLong maxLength text ++ refuseCharacters text

/-- The details of an answer that refuses a request. -/
def errorDetails (errors : List (String × List String)) : Json :=
  .obj (errors.map fun error => (error.1, .arr (error.2.map .str)))

/-- A serializer that refused the data of a request. -/
def invalid (details : Json) : Response :=
  .error 400 "invalid" "Request failed." (some details)

/-- `except CheckoutError as exc: return Response(...)`. -/
def exceptCheckoutError {Value : Type} (status : Nat) (code : String)
    (call : Broadcasting Value) (answer : Value → Broadcasting Response) :
    Broadcasting Response := fun before =>
  match call before with
  | .ok value after => answer value after
  | .error (.checkoutError message) after =>
      .ok (.error status code message none) after
  | .error raised after => .error raised after

/-- `IsOwnerOrStaff`. -/
def isOwnerOrStaff (user : User) (order : Order) : Bool :=
  user.isSuperuser || user.isStaff || order.user = some user.id

namespace OrderViewSet

/-- The order is in `get_queryset`. -/
def inQueryset (user : User) (order : Order) : Bool :=
  user.isStaff || user.isSuperuser || order.user = some user.id

def getQueryset (session : Session) (db : Database) (user : User) :
    List Order :=
  session.orderBy db.orders (inQueryset user)
    (fun first second => second.createdAt ≤ first.createdAt)

/-- `get_object`, with the permission on the object. -/
def getObject (reader : UuidReader) (db : Database) (user : User)
    (pk : String) : Except Response Order :=
  match reader.read pk with
  | none => .error (.detail 404 "Not found.")
  | some id =>
      match (objects db.orders).find? fun order =>
          inQueryset user order && order.id = id with
      | none => .error (.detail 404 "No Order matches the given query.")
      | some order =>
          if isOwnerOrStaff user order then .ok order
          else .error (.error 403 "permission_denied"
            "You do not have permission to perform this action." none)

def list (session : Session) (user : User) (paginator : Paginator Order) :
    Broadcasting Response := do
  let state ← get
  pure (.orders (paginator.page (Order.data session state.db)
    (getQueryset session state.db user)))

def retrieve (reader : UuidReader) (session : Session) (user : User)
    (pk : String) : Broadcasting Response := do
  let state ← get
  match getObject reader state.db user pk with
  | .error refusal => pure refusal
  | .ok order => pure (.order 200 (order.data session state.db))

/-- `data` is what `CheckoutSerializer` makes of the request's data. -/
def checkout (session : Session) (user : User) (sessionKey : String)
    (data : Except Json CheckoutInput) : Broadcasting Response :=
  match data with
  | .error details => pure (invalid details)
  | .ok payload => do
      let cart ← Broadcasting.silently
        (getOrCreateCart session (some user.id) sessionKey)
      exceptCheckoutError 400 "checkout_failed"
        (Broadcasting.createOrderFromCart session cart (some user.id) payload)
        fun order => do
          let state ← get
          pure (.order 201 (order.data session state.db))

def cancel (reader : UuidReader) (session : Session) (user : User)
    (pk : String) : Broadcasting Response := do
  let state ← get
  match getObject reader state.db user pk with
  | .error refusal => pure refusal
  | .ok order =>
      exceptCheckoutError 409 "invalid_transition"
        (Broadcasting.transitionStatus session order.id .cancelled
          (some user.id) "cancelled by user")
        fun _ => do
          -- `order.refresh_from_db()`.
          let state ← get
          match state.db.orders.find? order.id with
          | none => throw (.doesNotExist "Order")
          | some row => pure (.order 200 (row.data session state.db))

end OrderViewSet

structure CreatePaymentInput where
  orderId : Uuid
  provider : String
  successUrl : String := ""
  cancelUrl : String := ""

namespace PaymentViewSet

/-- The payment is in `get_queryset`. -/
def inQueryset (user : User) (db : Database) (payment : Payment) : Bool :=
  user.isStaff || user.isSuperuser ||
    (db.orders.find? payment.order).any fun order => order.user = some user.id

def getQueryset (session : Session) (db : Database) (user : User) :
    List Payment :=
  session.orderBy db.payments (inQueryset user db)
    (fun first second => second.createdAt ≤ first.createdAt)

def list (session : Session) (user : User) (paginator : Paginator Payment) :
    Broadcasting Response := do
  let state ← get
  pure (.payments (paginator.page Payment.data
    (getQueryset session state.db user)))

def retrieve (reader : UuidReader) (user : User) (pk : String) :
    Broadcasting Response := do
  let state ← get
  match reader.read pk with
  | none => pure (.detail 404 "Not found.")
  | some id =>
      match (objects state.db.payments).find? fun payment =>
          inQueryset user state.db payment && payment.id = id with
      | none => pure (.detail 404 "No Payment matches the given query.")
      | some payment => pure (.payment 200 payment.data)

/-- `data` is what `CreatePaymentSerializer` makes of the request's data. -/
def createForOrder (session : Session) (gateway : Gateway) (user : User)
    (data : Except Json CreatePaymentInput) : Broadcasting Response :=
  match data with
  | .error details => pure (invalid details)
  | .ok input => do
      let state ← get
      match (objects state.db.orders).find? fun order =>
          order.id = input.orderId with
      | none => pure (.detail 404 "No Order matches the given query.")
      | some order =>
          if !user.isStaff && order.user ≠ some user.id then
            pure (.error 403 "forbidden" "not your order" none)
          else do
            let payment ← Broadcasting.silently
              (createPayment session gateway order input.provider
                input.successUrl input.cancelUrl)
            pure (.payment 201 payment.data)

end PaymentViewSet

/-- A request to one of the endpoints, with what its handling takes from
outside. -/
inductive Request where
  | listOrders (session : Session) (paginator : Paginator Order)
  | retrieveOrder (session : Session) (pk : String)
  | checkout (session : Session) (sessionKey : String)
      (data : Except Json CheckoutInput)
  | cancel (session : Session) (pk : String)
  | listPayments (session : Session) (paginator : Paginator Payment)
  | retrievePayment (pk : String)
  | createPayment (session : Session) (gateway : Gateway)
      (data : Except Json CreatePaymentInput)

namespace Request

def view (reader : UuidReader) (user : User) :
    Request → Broadcasting Response
  | listOrders session paginator => OrderViewSet.list session user paginator
  | retrieveOrder session pk =>
      OrderViewSet.retrieve reader session user pk
  | checkout session sessionKey data =>
      OrderViewSet.checkout session user sessionKey data
  | cancel session pk => OrderViewSet.cancel reader session user pk
  | listPayments session paginator =>
      PaymentViewSet.list session user paginator
  | retrievePayment pk => PaymentViewSet.retrieve reader user pk
  | createPayment session gateway data =>
      PaymentViewSet.createForOrder session gateway user data

/-- The answer to a request, and what it leaves; every endpoint asks for an
authenticated user first. -/
def respond (reader : UuidReader) (user : Option User) (request : Request)
    (before : Signals) : Response × Signals :=
  match user with
  | none => (.error 401 "not_authenticated"
      "Authentication credentials were not provided." none, before)
  | some user =>
      match request.view reader user before with
      | .ok response after => (response, after)
      | .error raised after => (apiExceptionHandler raised, after)

end Request

/-- What a client receives over a websocket. -/
inductive Frame where
  | connected (orderId : Option String)
  | orderEvent (push : OrderPush)
  deriving DecidableEq, Repr

/-- The outcome of `connect`. -/
inductive Handshake where
  | joined (group : String) (greeting : Frame)
  | closed (code : Nat)
  | raised (exception : Exception)
  deriving DecidableEq, Repr

/-- `_user_owns_order`. -/
def userOwnsOrder (reader : UuidReader) (db : Database) (user : User)
    (orderId : String) : Except Exception Bool :=
  if user.isStaff then .ok true
  else
    match reader.read orderId with
    | none => .error (.validationError "is not a valid UUID")
    | some id => .ok ((objects db.orders).any fun order =>
        order.id = id && order.user = some user.id)

/-- `OrderStatusConsumer.connect`. -/
def OrderStatusConsumer.connect (reader : UuidReader) (db : Database)
    (user : Option User) (orderId : String) : Handshake :=
  match user with
  | none => .closed 4401
  | some user =>
      match userOwnsOrder reader db user orderId with
      | .error exception => .raised exception
      | .ok false => .closed 4403
      | .ok true => .joined (orderGroup orderId) (.connected (some orderId))

/-- `UserFirehoseConsumer.connect`. -/
def UserFirehoseConsumer.connect (user : Option User) : Handshake :=
  match user with
  | none => .closed 4401
  | some user => .joined (userGroup user.id) (.connected none)

/-- What the connections in some groups receive of the events that were
saved; `order_event` of both consumers sends the message on. -/
def delivered (groups : List String) (saved : List SavedEvent) : List Frame :=
  groups.flatMap fun group =>
    ((saved.flatMap SavedEvent.broadcasts).filter fun sent =>
      sent.group = group).map fun sent => .orderEvent sent.payload

end NovaCommerce
