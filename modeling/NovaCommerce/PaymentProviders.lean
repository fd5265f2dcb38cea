import NovaCommerce.Database
import NovaCommerce.Decimal
import NovaCommerce.JsonText
import NovaCommerce.RequestText

/-!
# The payment providers

Every gateway turns a charge intent into a charge result, and a request into a
webhook result.  What lies outside the repository is a field of `Gateway`: the
settings of a deployment, the digest, the SDK and the REST service that the
providers call, and the conversions that the database library makes.
-/

namespace NovaCommerce

open TextDecoding RequestText

abbrev Raising (Value : Type) := Except Exception Value

namespace Json

/-- `value.get(key, default)`. -/
def get (value : Json) (key : String) (default : Json := .null) :
    Raising Json :=
  match value with
  | obj fields => .ok ((fields.lookup key).getD default)
  | _ => .error (.builtinError "AttributeError")

/-- `value[key]`. -/
def index (value : Json) (key : String) : Raising Json :=
  match value with
  | obj fields =>
      match fields.lookup key with
      | some found => .ok found
      | none => .error (.builtinError "KeyError")
  | _ => .error (.builtinError "TypeError")

def isText (value : Json) (text : String) : Bool :=
  match value with
  | str found => found = text
  | _ => false

/-- `value in {...}`: membership in a set of texts, which hashes the value. -/
def isOneOf (value : Json) (texts : List String) : Raising Bool :=
  match value with
  | str found => .ok (texts.contains found)
  | arr _ | obj _ => .error (.builtinError "TypeError")
  | _ => .ok false

/-- `for item in value`: the items of an array.  The keys of an object and
the characters of a text are texts. -/
def items (value : Json) : Raising (List Json) :=
  match value with
  | arr values => .ok values
  | obj fields => .ok (fields.map fun field => .str field.1)
  | str text => .ok (text.toList.map fun char => .str char.toString)
  | _ => .error (.builtinError "TypeError")

end Json

structure ChargeIntent where
  orderId : String
  orderNumber : String
  amount : Cents
  currency : String
  customerEmail : String
  successUrl : String := ""
  cancelUrl : String := ""
  metadata : List (String × String) := []

structure ChargeResult where
  success : Bool
  providerReference : String := ""
  redirectUrl : String := ""
  intentId : String := ""
  raw : Json := .obj []
  error : String := ""

/-- Outcome of a webhook validation/parse.  No new status is `""` in the
source. -/
structure WebhookResult where
  accepted : Bool
  eventType : Json := .str ""
  orderId : Json := .str ""
  paymentReference : Json := .str ""
  newStatus : Option PaymentStatus := none
  raw : Json := .obj []
  error : String := ""

abbrev Headers := List (String × String)

/-- The attributes of the Django settings; one that is not there is `none`. -/
structure Settings where
  stripeApiKey : Option String := none
  stripeWebhookSecret : Option String := none
  paypalClientId : Option String := none
  paypalClientSecret : Option String := none
  clickServiceId : Option String := none
  clickMerchantId : Option String := none
  clickSecretKey : Option String := none
  paymeMerchantId : Option String := none
  paymeSecretKey : Option String := none

/-- `getattr(settings, name, "") or ""`. -/
def setting (value : Option String) : String :=
  value.getD ""

/-- What `stripe.Webhook.construct_event` does. -/
inductive StripeOutcome where
  | event (event : Json)
  | refused (text : String)
  | raised (exception : Exception)

structure StripeSession where
  id : String
  paymentIntent : Option String
  url : Option String
  dict : Json

structure StripeSdk where
  constructEvent : Bytes → String → String → StripeOutcome
  createSession : String → ChargeIntent → Except String StripeSession

/-- The PayPal service: the token request, which fails with an HTTP error or
with another exception, and the order request, which gives a status code and a
body. -/
structure PaypalApi where
  token : String → String → Except (Exception ⊕ String) String
  createOrder : String → ChargeIntent → Raising (Nat × Json)

structure Gateway where
  settings : Settings := { }
  /-- `hashlib.md5(text.encode()).hexdigest()`. -/
  md5Hex : String → String
  /-- The SDK, if it is installed. -/
  stripe : Option StripeSdk
  paypal : PaypalApi
  /-- `str` of a JSON value that is not a string. -/
  strOf : Json → String
  /-- The value of a primary key column, if it is one. -/
  primaryKey : Json → Option Uuid

namespace Gateway

/-- `str(value)`. -/
def text (gateway : Gateway) (value : Json) : String :=
  match value with
  | .str text => text
  | _ => gateway.strOf value

end Gateway

/-- `str` of an amount with two decimal places. -/
def amountText (amount : Cents) : String :=
  let size := amount.natAbs
  let sign := if amount < 0 then "-" else ""
  let cents := size % 100
  let filling := if cents < 10 then "0" else ""
  s!"{sign}{size / 100}.{filling}{cents}"

/-- `first or second` of texts, where the first one may be missing. -/
def textOr (first : Option String) (second : String) : String :=
  match first with
  | some text => if text = "" then second else text
  | none => second

/-- `text.lower()`, as far as comparisons with ASCII texts see it. -/
def lower (text : String) : List Char :=
  text.toList.map Char.toLower

namespace StripeProvider

def apiKey (gateway : Gateway) : String :=
  setting gateway.settings.stripeApiKey

def webhookSecret (gateway : Gateway) : String :=
  setting gateway.settings.stripeWebhookSecret

def createCharge (gateway : Gateway) (intent : ChargeIntent) :
    Raising ChargeResult :=
  if apiKey gateway = "" then
    .ok { success := false, error := "stripe not configured" }
  else
    match gateway.stripe with
    | none => .ok { success := false, error := "stripe sdk not installed" }
    | some sdk =>
        match sdk.createSession (apiKey gateway) intent with
        | .error text => .ok { success := false, error := text }
        | .ok session => .ok {
            success := true
            providerReference := session.id
            intentId := textOr session.paymentIntent ""
            redirectUrl := textOr session.url ""
            raw := session.dict }

/-- The status that an event type stands for. -/
def statusOf (type : Json) : Raising (Option PaymentStatus) := do
  if ← type.isOneOf ["checkout.session.completed", "payment_intent.succeeded"]
  then pure (some .captured)
  else if ← type.isOneOf
    ["payment_intent.payment_failed", "checkout.session.expired"]
  then pure (some .failed)
  else if ← type.isOneOf ["charge.refunded", "refund.created"]
  then pure (some .refunded)
  else pure none

def mapEvent (event : Json) : Raising WebhookResult := do
  let (type, data) ← match event with
    | .obj _ => do
        let type ← event.get "type"
        let envelope ← event.get "data"
        let data ← (envelope.orElse (.obj [])).get "object" (.obj [])
        pure (type, data)
    | _ => do
        let type ← event.index "type"
        pure (type, .obj [])
  let metadata ← data.get "metadata"
  let orderId ← (metadata.orElse (.obj [])).get "order_id" (.str "")
  let reference ← data.get "id" (.str "")
  match ← statusOf type with
  | none => pure { accepted := true, eventType := type, raw := data }
  | some newStatus => pure {
      accepted := true
      eventType := type
      orderId
      paymentReference := reference
      newStatus := some newStatus
      raw := data }

/-- The signature of a request. -/
def signature (headers : Headers) (rawSignature : String) : String :=
  textOr (some rawSignature)
    (textOr (headers.lookup "Stripe-Signature")
      ((headers.lookup "stripe-signature").getD ""))

def parseWebhook (gateway : Gateway) (headers : Headers) (body : Bytes)
    (rawSignature : String := "") : Raising WebhookResult :=
  if webhookSecret gateway = "" then
    .ok { accepted := false, error := "stripe webhook secret not configured" }
  else
    match gateway.stripe with
    | none => .ok { accepted := false, error := "stripe sdk not installed" }
    | some sdk =>
        match sdk.constructEvent body (signature headers rawSignature)
            (webhookSecret gateway) with
        | .event event => mapEvent event
        | .refused text =>
            .ok { accepted := false, error := s!"signature: {text}" }
        | .raised exception => .error exception

end StripeProvider

namespace PayPalProvider

def clientId (gateway : Gateway) : String :=
  setting gateway.settings.paypalClientId

def clientSecret (gateway : Gateway) : String :=
  setting gateway.settings.paypalClientSecret

/-- The first link for the approval of an order. -/
def approveLink : List Json → Raising Json
  | [] => .ok (.str "")
  | link :: links => do
      let rel ← link.get "rel"
      if rel.isText "approve" then link.index "href" else approveLink links

def createCharge (gateway : Gateway) (intent : ChargeIntent) :
    Raising ChargeResult :=
  if clientId gateway = "" || clientSecret gateway = "" then
    .ok { success := false, error := "paypal not configured" }
  else
    match gateway.paypal.token (clientId gateway) (clientSecret gateway) with
    | .error (.inr text) =>
        .ok { success := false, error := s!"paypal auth: {text}" }
    | .error (.inl exception) => .error exception
    | .ok token => do
        let (status, data) ← gateway.paypal.createOrder token intent
        if 400 ≤ status then
          pure { success := false, error := gateway.text data, raw := data }
        else do
          let links ← data.get "links" (.arr [])
          let approve ← approveLink (← links.items)
          let id ← data.get "id" (.str "")
          pure {
            success := true
            providerReference := gateway.text id
            redirectUrl := gateway.text approve
            raw := data }

/-- The order that the first named purchase unit refers to. -/
def referencedOrder : List Json → Raising Json
  | [] => .ok (.str "")
  | unit :: units => do
      let reference ← unit.get "reference_id"
      if reference.truthy then unit.index "reference_id"
      else referencedOrder units

def statusOf (type : Json) : Raising (Option PaymentStatus) := do
  if ← type.isOneOf ["PAYMENT.CAPTURE.COMPLETED", "CHECKOUT.ORDER.APPROVED"]
  then pure (some .captured)
  else if ← type.isOneOf
    ["PAYMENT.CAPTURE.DENIED", "PAYMENT.CAPTURE.REVERSED"]
  then pure (some .failed)
  else if ← type.isOneOf ["PAYMENT.CAPTURE.REFUNDED"]
  then pure (some .refunded)
  else pure none

def mapPayload (payload : Json) : Raising WebhookResult := do
  let type ← payload.get "event_type" (.str "")
  let resource := (← payload.get "resource" (.obj [])).orElse (.obj [])
  let reference ← resource.get "id" (.str "")
  let units := (← resource.get "purchase_units" (.arr [])).orElse (.arr [])
  let orderId ← referencedOrder (← units.items)
  let newStatus ← statusOf type
  pure {
    accepted := true
    eventType := type
    orderId
    paymentReference := reference
    newStatus
    raw := payload }

def parseWebhook (gateway : Gateway) (_headers : Headers) (body : Bytes) :
    Raising WebhookResult :=
  if clientId gateway = "" then
    .ok { accepted := false, error := "paypal not configured" }
  else
    match Json.loads body with
    | .error (.decodeError text) => .ok { accepted := false, error := text }
    | .error .unicodeDecodeError => .error (.builtinError "UnicodeDecodeError")
    | .error .valueError => .error (.builtinError "ValueError")
    | .ok payload => mapPayload payload

end PayPalProvider

namespace ClickProvider

def serviceId (gateway : Gateway) : String :=
  setting gateway.settings.clickServiceId

def merchantId (gateway : Gateway) : String :=
  setting gateway.settings.clickMerchantId

def secretKey (gateway : Gateway) : String :=
  setting gateway.settings.clickSecretKey

def createCharge (gateway : Gateway) (intent : ChargeIntent) :
    Raising ChargeResult :=
  if serviceId gateway = "" then
    .ok { success := false, error := "click not configured" }
  else .ok {
    success := true
    redirectUrl := "https://my.click.uz/services/pay" ++
      s!"?service_id={serviceId gateway}" ++
      s!"&merchant_id={merchantId gateway}" ++
      s!"&amount={amountText intent.amount}" ++
      s!"&transaction_param={intent.orderNumber}" ++
      s!"&return_url={intent.successUrl}"
    providerReference := intent.orderNumber }

/-- `params.get(name, default)`. -/
def field (params : List (String × String)) (name : String)
    (default : String := "") : String :=
  (params.lookup name).getD default

/-- The text that is signed. -/
def signedText (gateway : Gateway) (params : List (String × String))
    (action : Int) : String :=
  field params "click_trans_id" ++ field params "service_id" ++
    secretKey gateway ++ field params "merchant_trans_id" ++
    (if action = 1 then field params "merchant_prepare_id" else "") ++
    field params "amount" ++ toString action ++ field params "sign_time"

def expectedSign (gateway : Gateway) (params : List (String × String))
    (action : Int) : String :=
  gateway.md5Hex (signedText gateway params action)

/-- The form fields of a body. -/
def bodyParams (body : Bytes) : List (String × String) :=
  firstValues (ignoring (decode (utf8Step false) body))

def signMatches (gateway : Gateway) (params : List (String × String))
    (action : Int) : Bool :=
  lower (expectedSign gateway params action) =
    lower (field params "sign_string")

def paramsJson (params : List (String × String)) : Json :=
  .obj (params.map fun param => (param.1, .str param.2))

def statusOf (action : Int) : Option PaymentStatus :=
  if action = 0 then some .authorized
  else if action = 1 then some .captured
  else none

def parseWebhook (gateway : Gateway) (_headers : Headers) (body : Bytes) :
    Raising WebhookResult :=
  let params := bodyParams body
  match intOf (field params "action" "0") with
  | none => .ok { accepted := false, error := "bad action" }
  | some action =>
      if signMatches gateway params action then .ok {
        accepted := true
        eventType := .str s!"click.action.{action}"
        orderId := .str ""
        paymentReference := .str (field params "merchant_trans_id")
        newStatus := statusOf action
        raw := paramsJson params }
      else .ok {
        accepted := false
        error := "signature mismatch"
        raw := paramsJson params }

end ClickProvider

namespace PaymeProvider

def merchantId (gateway : Gateway) : String :=
  setting gateway.settings.paymeMerchantId

def secretKey (gateway : Gateway) : String :=
  setting gateway.settings.paymeSecretKey

def createCharge (gateway : Gateway) (intent : ChargeIntent) :
    Raising ChargeResult :=
  if merchantId gateway = "" then
    .ok { success := false, error := "payme not configured" }
  else
    let hundredfold := (Decimal.mk intent.amount 2 * .ofInt 100).quantize 0
    let params := s!"m={merchantId gateway};" ++
      s!"ac.order_id={intent.orderId};" ++ s!"a={hundredfold};" ++ "l=en"
    let encoded := String.ofList (b64encode params.toUTF8.toList)
    .ok {
      success := true
      redirectUrl := s!"https://checkout.paycom.uz/{encoded}"
      providerReference := intent.orderId }

/-- The user and the password of a Basic authorization header. -/
def basicCredentials (headers : Headers) : Option (String × String) :=
  let auth := textOr (headers.lookup "Authorization")
    ((headers.lookup "authorization").getD "")
  if (lower auth).take 6 = "basic ".toList then do
    let bytes ← b64decode (partitionAt ' ' auth.toList).2
    let decoded ← strict (decode (utf8Step false) bytes)
    let (user, password) := partitionAt ':' decoded.toList
    some (String.ofList user, String.ofList password)
  else none

def verifyBasicAuth (gateway : Gateway) (headers : Headers) : Bool :=
  match basicCredentials headers with
  | none => false
  | some (user, password) => user = "Paycom" && password = secretKey gateway

def statusOf (method : Json) : Option PaymentStatus :=
  if method.isText "PerformTransaction" then some .captured
  else if method.isText "CreateTransaction" then some .authorized
  else if method.isText "CancelTransaction" then some .cancelled
  else none

def mapPayload (payload : Json) : Raising WebhookResult := do
  let method ← payload.get "method" (.str "")
  let params ← payload.get "params" (.obj [])
  let account ← params.get "account"
  let orderId ← (account.orElse (.obj [])).get "order_id" (.str "")
  let reference ← params.get "id" (.str "")
  pure {
    accepted := true
    eventType := method
    orderId
    paymentReference := reference
    newStatus := statusOf method
    raw := payload }

def parseWebhook (gateway : Gateway) (headers : Headers) (body : Bytes) :
    Raising WebhookResult :=
  if verifyBasicAuth gateway headers then
    match Json.loads body with
    | .error (.decodeError text) => .ok { accepted := false, error := text }
    | .error .unicodeDecodeError => .error (.builtinError "UnicodeDecodeError")
    | .error .valueError => .error (.builtinError "ValueError")
    | .ok payload => mapPayload payload
  else .ok { accepted := false, error := "basic auth failed" }

end PaymeProvider

namespace ManualProvider

def createCharge (intent : ChargeIntent) : Raising ChargeResult :=
  .ok { success := true, providerReference := s!"manual:{intent.orderId}" }

def parseWebhook : Raising WebhookResult :=
  .ok { accepted := false, error := "no webhook for manual provider" }

end ManualProvider

/-- The provider classes. -/
inductive PaymentProvider where
  | stripe
  | paypal
  | click
  | payme
  | manual
  deriving DecidableEq, Repr

/-- `REGISTRY`. -/
def registry : List (String × PaymentProvider) :=
  [("stripe", .stripe), ("paypal", .paypal), ("click", .click),
    ("payme", .payme), ("manual", .manual)]

def getProvider (name : String) : Raising PaymentProvider :=
  match registry.lookup name with
  | some provider => .ok provider
  | none => .error (.valueError s!"unknown payment provider: {name}")

namespace PaymentProvider

/-- The choice of `Payment.Provider` that a class is registered under. -/
def code : PaymentProvider → Provider
  | stripe => .stripe
  | paypal => .paypal
  | click => .click
  | payme => .payme
  | manual => .manual

theorem code_injective : Function.Injective code := by
  intro first second sameCode
  cases first <;> cases second <;> first | rfl | cases sameCode

def createCharge (gateway : Gateway) (intent : ChargeIntent) :
    PaymentProvider → Raising ChargeResult
  | stripe => StripeProvider.createCharge gateway intent
  | paypal => PayPalProvider.createCharge gateway intent
  | click => ClickProvider.createCharge gateway intent
  | payme => PaymeProvider.createCharge gateway intent
  | manual => ManualProvider.createCharge intent

def parseWebhook (gateway : Gateway) (headers : Headers) (body : Bytes) :
    PaymentProvider → Raising WebhookResult
  | stripe => StripeProvider.parseWebhook gateway headers body
  | paypal => PayPalProvider.parseWebhook gateway headers body
  | click => ClickProvider.parseWebhook gateway headers body
  | payme => PaymeProvider.parseWebhook gateway headers body
  | manual => ManualProvider.parseWebhook

end PaymentProvider

end NovaCommerce
