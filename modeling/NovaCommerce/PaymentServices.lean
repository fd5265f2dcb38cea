import NovaCommerce.OrderTransitions
import NovaCommerce.PaymentProviders

/-!
# The payment services

A payment row is created for every charge attempt.  A webhook that a provider
accepts is matched to an order, moves the order, and updates the payments that
the order has with the provider.  A periodic task fails the payments that stay
pending for too long.
-/

namespace NovaCommerce

open AtomicCall TextDecoding

/-- A step that reads and writes nothing. -/
def raising {Value : Type} (result : Raising Value) : Service Value :=
  match result with
  | .ok value => pure value
  | .error exception => throw exception

namespace PaymentStatus

def value : PaymentStatus → String
  | pending => "pending"
  | authorized => "authorized"
  | captured => "captured"
  | failed => "failed"
  | cancelled => "cancelled"
  | refunded => "refunded"

end PaymentStatus

def chargeIntent (order : Order) (successUrl cancelUrl : String) :
    ChargeIntent where
  orderId := toString order.id
  orderNumber := order.number
  amount := order.grandTotal
  currency := order.currency
  customerEmail := order.emailSnapshot
  successUrl
  cancelUrl
  metadata := [("order_id", toString order.id)]

/-- `_jsonable(dataclasses.asdict(intent))`. -/
def ChargeIntent.jsonable (intent : ChargeIntent) : Json :=
  .obj [
    ("order_id", .str intent.orderId),
    ("order_number", .str intent.orderNumber),
    ("amount", .str (amountText intent.amount)),
    ("currency", .str intent.currency),
    ("customer_email", .str intent.customerEmail),
    ("success_url", .str intent.successUrl),
    ("cancel_url", .str intent.cancelUrl),
    ("metadata", .obj (intent.metadata.map fun entry =>
      (entry.1, .str entry.2)))]

/-- The payment row before the provider was asked. -/
def newPayment (session : Session) (order : Order) (provider : Provider)
    (intent : ChargeIntent) (id : Uuid) : Payment where
  id
  createdAt := session.now
  order := order.id
  provider
  amount := order.grandTotal
  currency := order.currency
  rawRequest := intent.jsonable

theorem key_newPayment (session : Session) (order : Order)
    (provider : Provider) (intent : ChargeIntent) (id : Uuid) :
    Keyed.key (newPayment session order provider intent id) = id :=
  rfl

/-- The payment after the provider answered. -/
def Payment.answered (payment : Payment) (result : ChargeResult) : Payment :=
  if result.success then
    { payment with
      status := .pending
      providerReference := result.providerReference
      providerIntentId := result.intentId
      redirectUrl := result.redirectUrl
      rawResponse := result.raw }
  else
    { payment with
      status := .failed
      error := .obj [("message", .str result.error)] }

/-- The columns of the database hold the payment. -/
def Payment.fitsColumns (payment : Payment) : Bool :=
  fitsColumn 128 payment.providerReference &&
    fitsColumn 128 payment.providerIntentId &&
    fitsColumn 200 payment.redirectUrl && payment.rawRequest.storable &&
    payment.rawResponse.storable && payment.error.storable

/-- `Payment.objects.create`: the order must exist. -/
def createPaymentRow (session : Session) (order : Order)
    (provider : Provider) (intent : ChargeIntent) : Service Payment := do
  let db ← get
  if !intent.jsonable.storable then
    throw (.databaseError "value does not fit its column")
  else if (db.orders.find? order.id).isNone then
    throw (.integrityError "foreign key order")
  else do
    modify fun db => { db with
      payments := db.payments.create
        (newPayment session order provider intent)
        (key_newPayment session order provider intent) }
    pure (newPayment session order provider intent
      (FreshKey.fresh db.payments.keys))

def savePayment (payment : Payment) : Service Unit :=
  if !payment.fitsColumns then
    throw (.databaseError "value does not fit its column")
  else modify fun db => { db with payments := db.payments.save payment }

/-- `order.save(update_fields=["payment_provider", "payment_reference", ...])`:
the other columns of the row keep their values. -/
def saveOrderReference (order : Uuid) (provider reference : String) :
    Service Unit := do
  let db ← get
  match db.orders.find? order with
  | none => throw (.databaseError
      "Save with update_fields did not affect any rows.")
  | some row =>
      saveOrder { row with
        paymentProvider := provider
        paymentReference := reference }

/-- Only a successful charge is written to its order. -/
def recordCharge (order : Uuid) (provider : String) (result : ChargeResult) :
    Service Unit :=
  if result.success then
    saveOrderReference order provider result.providerReference
  else pure ()

def createPayment (session : Session) (gateway : Gateway) (order : Order)
    (providerCode : String) (successUrl cancelUrl : String := "") :
    Service Payment :=
  atomic do
    let provider ← raising (getProvider providerCode)
    let intent := chargeIntent order successUrl cancelUrl
    let payment ← createPaymentRow session order provider.code intent
    let result ← raising (provider.createCharge gateway intent)
    savePayment (payment.answered result)
    recordCharge order.id providerCode result
    pure (payment.answered result)

/-- What `handle_webhook` returns. -/
inductive WebhookOutcome where
  | rejected (error : String)
  | unmatched
  | matched (order : String)

/-- Look an order up under the identifier that the event names. -/
def orderByKey (gateway : Gateway) (orderId : Json) :
    Service (Option Order) := do
  if orderId.truthy then
    match gateway.primaryKey orderId with
    | none => throw (.validationError "is not a valid UUID")
    | some key => do
        let db ← get
        pure ((objects db.orders).find? fun order => order.id = key)
  else pure none

/-- The newest order with the payment reference that the event names. -/
def orderByReference (session : Session) (gateway : Gateway)
    (db : Database) (reference : Json) : Option Order :=
  if reference.truthy then
    (session.orderBy db.orders
      (fun order => order.paymentReference = gateway.text reference)
      (fun first second => second.createdAt ≤ first.createdAt)).head?
  else none

/-- The reference is a parameter of a query. -/
def queryable (gateway : Gateway) (reference : Json) : Raising Unit :=
  if reference.truthy && !isSendable (gateway.text reference) then
    .error (if (gateway.text reference).toList.any standsForSurrogate then
        .builtinError "UnicodeEncodeError"
      else .databaseError
        "PostgreSQL text fields cannot contain NUL (0x00) bytes")
  else .ok ()

def matchOrder (session : Session) (gateway : Gateway)
    (parsed : WebhookResult) : Service (Option Order) := do
  match ← orderByKey gateway parsed.orderId with
  | some order => pure (some order)
  | none => do
      raising (queryable gateway parsed.paymentReference)
      let db ← get
      pure (orderByReference session gateway db parsed.paymentReference)

/-- `try: ... except Exception: ...`. -/
def swallow {Value : Type} (call : Service Value) : Service Unit :=
  fun before =>
    match call before with
    | .ok _ after => .ok () after
    | .error _ after => .ok () after

/-- Move the order as the event's new status asks for. -/
def moveOrder (session : Session) (order : Order)
    (newStatus : Option PaymentStatus) : Service Unit :=
  match newStatus with
  | some .captured =>
      swallow (transitionStatus session order.id .paid none "paid via webhook")
  | some .refunded => do
      let _ ← transitionStatus session order.id .refunded none
        "refunded via webhook"
  | some status =>
      if (status = .failed || status = .cancelled) &&
          order.status = .pending then do
        let _ ← transitionStatus session order.id .cancelled none
          s!"cancelled via webhook ({status.value})"
      else pure ()
  | none => pure ()

/-- The payment belongs to the order and the provider. -/
def Payment.isOf (payment : Payment) (order : Uuid) (provider : Provider) :
    Bool :=
  payment.order = order && payment.provider = provider

/-- The payment after a webhook of its order and provider. -/
def Payment.updatedBy (payment : Payment) (order : Uuid) (provider : Provider)
    (parsed : WebhookResult) : Payment :=
  if alive payment && payment.isOf order provider then
    { payment with
      status := parsed.newStatus.getD .pending
      rawResponse := parsed.raw }
  else payment

theorem Payment.key_updatedBy (payment : Payment) (order : Uuid)
    (provider : Provider) (parsed : WebhookResult) :
    Keyed.key (payment.updatedBy order provider parsed) =
      Keyed.key payment := by
  unfold updatedBy
  split <;> rfl

/-- The payments after the update of a webhook, whose data the columns hold,
as its event has been recorded with them. -/
def updatedPayments (payments : Table Payment) (order : Uuid)
    (provider : Provider) (parsed : WebhookResult) : Table Payment :=
  payments.alter (fun payment => payment.updatedBy order provider parsed)
    (fun payment => payment.key_updatedBy order provider parsed)

/-- The columns of the event that a webhook leaves hold its values. -/
def WebhookResult.isRecordable (gateway : Gateway) (parsed : WebhookResult) :
    Bool :=
  recordable s!"webhook:{gateway.text parsed.eventType}"
    "payment provider webhook" parsed.raw

/-- `handle_webhook` after the request was parsed. -/
def applyWebhook (session : Session) (gateway : Gateway)
    (provider : PaymentProvider) (parsed : WebhookResult) :
    Service WebhookOutcome :=
  if parsed.accepted then do
    match ← matchOrder session gateway parsed with
    | none => pure .unmatched
    | some order => do
        createOrderEvent session order.id
          s!"webhook:{gateway.text parsed.eventType}"
          "payment provider webhook" none parsed.raw
        moveOrder session order parsed.newStatus
        modify fun db => { db with
          payments :=
            updatedPayments db.payments order.id provider.code parsed }
        pure (.matched order.number)
  else pure (.rejected parsed.error)

def handleWebhook (session : Session) (gateway : Gateway)
    (providerCode : String) (headers : Headers) (body : Bytes) :
    Service WebhookOutcome :=
  atomic do
    let provider ← raising (getProvider providerCode)
    let parsed ← raising (provider.parseWebhook gateway headers body)
    applyWebhook session gateway provider parsed

/-- A tick is a microsecond. -/
def minute : Time := 60000000

/-- A payment after the periodic task. -/
def Payment.expiredAt (payment : Payment) (cutoff : Time) : Payment :=
  if alive payment && payment.status = .pending && payment.createdAt < cutoff
  then { payment with
    status := .failed
    error := .obj [("reason", .str "expired")] }
  else payment

theorem Payment.key_expiredAt (payment : Payment) (cutoff : Time) :
    Keyed.key (payment.expiredAt cutoff) = Keyed.key payment := by
  unfold expiredAt
  split <;> rfl

def expiredPayments (payments : Table Payment) (cutoff : Time) :
    Table Payment :=
  payments.alter (fun payment => payment.expiredAt cutoff)
    (fun payment => payment.key_expiredAt cutoff)

/-- The number of payments that expired. -/
def expirePendingPayments (session : Session) (olderThanMinutes : Int := 60) :
    Service Nat := do
  let cutoff := session.now - olderThanMinutes * minute
  let db ← get
  modify fun db => { db with payments := expiredPayments db.payments cutoff }
  pure ((objects db.payments).countP fun payment =>
    payment.status = .pending && payment.createdAt < cutoff)

end NovaCommerce
