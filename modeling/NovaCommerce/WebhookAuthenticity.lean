import NovaCommerce.PaymentHistory
import NovaCommerce.TextEncoding

/-!
# Who can make a webhook count

A webhook ought to be accepted only under a credential that the configured
secret of its provider makes valid.  Stripe refuses to work without a secret
and leaves the signature to its SDK, and the manual provider accepts nothing.
Click and Payme compare with the secret whether or not it was set, and PayPal
compares with nothing.
-/

namespace NovaCommerce

open AtomicCall GuardedRun TextDecoding RequestText

/-- What counts as signed by the rules of Stripe and PayPal: the body and the
headers of a request under a secret. -/
structure Signatures where
  stripeSigned : Bytes → String → String → Prop
  transmissionSigned : Headers → Bytes → String → Prop

/-- The SDK only constructs events that are signed. -/
def Signatures.Sound (signatures : Signatures) (gateway : Gateway) : Prop :=
  ∀ sdk ∈ gateway.stripe, ∀ body signature secret event,
    sdk.constructEvent body signature secret = .event event →
      signatures.stripeSigned body signature secret

namespace ClickProvider

/-- The sign string of the form is the one over its fields. -/
def IsSigned (gateway : Gateway) (body : Bytes) : Prop :=
  ∃ action ∈ intOf (field (bodyParams body) "action" "0"),
    signMatches gateway (bodyParams body) action = true

/-- The body that a text is encoded into is read as the form of that text. -/
theorem bodyParams_toUTF8 (text : String) :
    bodyParams text.toUTF8.toList = firstValues text := by
  rw [bodyParams, ignoring_toUTF8]

end ClickProvider

namespace PaymentProvider

/-- The secret that the requests of a provider are checked with. -/
def secret (gateway : Gateway) : PaymentProvider → String
  | stripe => StripeProvider.webhookSecret gateway
  | paypal => PayPalProvider.clientSecret gateway
  | click => ClickProvider.secretKey gateway
  | payme => PaymeProvider.secretKey gateway
  | manual => ""

/-- The request carries a credential that is valid under the secret. -/
def Authentic (signatures : Signatures) (gateway : Gateway)
    (headers : Headers) (body : Bytes) : PaymentProvider → Prop
  | stripe => signatures.stripeSigned body
      (StripeProvider.signature headers "")
      (StripeProvider.webhookSecret gateway)
  | paypal => signatures.transmissionSigned headers body
      (PayPalProvider.clientSecret gateway)
  | click => ClickProvider.IsSigned gateway body
  | payme => PaymeProvider.basicCredentials headers =
      some ("Paycom", PaymeProvider.secretKey gateway)
  | manual => False

/-- `parse_webhook` returns `accepted=True`. -/
def Accepts (gateway : Gateway) (headers : Headers) (body : Bytes)
    (provider : PaymentProvider) : Prop :=
  ∃ parsed, provider.parseWebhook gateway headers body = .ok parsed ∧
    parsed.accepted = true

/-- An accepted request is one under a secret. -/
def AcceptsAuthentic (signatures : Signatures) (gateway : Gateway)
    (headers : Headers) (body : Bytes) (provider : PaymentProvider) : Prop :=
  provider.Accepts gateway headers body →
    provider.secret gateway ≠ "" ∧
      provider.Authentic signatures gateway headers body

end PaymentProvider

def Json.isObject : Json → Bool
  | obj _ => true
  | _ => false

namespace PaymeProvider

/-- A call of the merchant protocol: an object whose parameters are an object,
and whose account is an object unless it is missing or empty. -/
def isCall : Json → Bool
  | .obj fields =>
      match (fields.lookup "params").getD (.obj []) with
      | .obj params =>
          (((params.lookup "account").getD .null).orElse (.obj [])).isObject
      | _ => false
  | _ => false

end PaymeProvider

namespace PayPalProvider

/-- The purchase units up to the first one that names an order are objects. -/
def unitsAreObjects : List Json → Bool
  | [] => true
  | .obj fields :: units =>
      ((fields.lookup "reference_id").getD .null).truthy ||
        unitsAreObjects units
  | _ :: _ => false

/-- The type of an event is looked up in sets. -/
def isHashable : Json → Bool
  | .arr _ | .obj _ => false
  | _ => true

/-- The purchase units of a resource can be searched. -/
def hasUnits (resource : List (String × Json)) : Bool :=
  match (((resource.lookup "purchase_units").getD (.arr [])).orElse
      (.arr [])).items with
  | .ok units => unitsAreObjects units
  | .error _ => false

/-- An event: an object with a hashable type, whose resource is an object with
searchable purchase units unless it is missing or empty. -/
def isEvent : Json → Bool
  | .obj fields =>
      match ((fields.lookup "resource").getD (.obj [])).orElse (.obj []) with
      | .obj resource => hasUnits resource &&
          isHashable ((fields.lookup "event_type").getD (.str ""))
      | _ => false
  | _ => false

end PayPalProvider

/-- The body is JSON of some shape. -/
def bodyIs (shape : Json → Bool) (body : Bytes) : Bool :=
  match Json.loads body with
  | .ok payload => shape payload
  | .error _ => false

section Readers

theorem Json.get_obj (fields : List (String × Json)) (key : String)
    (default : Json) :
    (Json.obj fields).get key default =
      .ok ((fields.lookup key).getD default) :=
  rfl

theorem PaymeProvider.mapPayload_returns (payload : Json) :
    (∃ parsed, mapPayload payload = .ok parsed ∧ parsed.accepted = true) ↔
      isCall payload = true := by
  cases payload with
  | obj fields =>
      unfold mapPayload isCall
      simp only [Json.get_obj, bind, Except.bind]
      generalize (fields.lookup "params").getD (.obj []) = params
      cases params with
      | obj params =>
          simp only [Json.get_obj]
          generalize ((params.lookup "account").getD .null).orElse
            (.obj []) = account
          cases account <;> simp [Json.get, Json.isObject, pure, Except.pure]
      | _ => simp [Json.get]
  | _ => simp [mapPayload, isCall, Json.get, bind, Except.bind]

theorem PayPalProvider.referencedOrder_returns (units : List Json) :
    (∃ order, referencedOrder units = .ok order) ↔
      unitsAreObjects units = true := by
  induction units with
  | nil => simp [referencedOrder, unitsAreObjects]
  | cons unit units ih =>
      cases unit with
      | obj fields =>
          unfold referencedOrder unitsAreObjects
          simp only [Json.get_obj, bind, Except.bind]
          cases found : fields.lookup "reference_id" with
          | none => simp [Json.truthy, ih]
          | some reference =>
              cases named : reference.truthy <;>
                simp [Json.index, found, named, ih]
      | _ => simp [referencedOrder, unitsAreObjects, Json.get, bind,
          Except.bind]

theorem PayPalProvider.statusOf_returns (type : Json) :
    (∃ status, statusOf type = .ok status) ↔ isHashable type = true := by
  cases type with
  | str text =>
      simp only [statusOf, isHashable, Json.isOneOf, bind, Except.bind, pure,
        Except.pure, iff_true]
      split
      · exact ⟨_, rfl⟩
      · split
        · exact ⟨_, rfl⟩
        · split <;> exact ⟨_, rfl⟩
  | _ => simp [statusOf, isHashable, Json.isOneOf, bind, Except.bind, pure,
      Except.pure]

theorem PayPalProvider.mapPayload_returns (payload : Json) :
    (∃ parsed, mapPayload payload = .ok parsed ∧ parsed.accepted = true) ↔
      isEvent payload = true := by
  cases payload with
  | obj fields =>
      unfold mapPayload isEvent
      simp only [Json.get_obj, bind, Except.bind]
      generalize ((fields.lookup "resource").getD (.obj [])).orElse
        (.obj []) = resource
      cases resource with
      | obj resource =>
          unfold hasUnits
          simp only [Json.get_obj]
          cases (((resource.lookup "purchase_units").getD (.arr [])).orElse
              (.arr [])).items with
          | error raised => simp
          | ok units =>
              have searched := referencedOrder_returns units
              have mapped := statusOf_returns
                ((fields.lookup "event_type").getD (.str ""))
              cases found : referencedOrder units with
              | error raised =>
                  have notObjects : unitsAreObjects units = false := by
                    simpa [found] using searched
                  simp [notObjects, found]
              | ok order =>
                  have objects : unitsAreObjects units = true := by
                    simpa [found] using searched
                  cases status : statusOf
                      ((fields.lookup "event_type").getD (.str "")) with
                  | error raised =>
                      rw [status] at mapped
                      simp [objects, found, ← mapped]
                  | ok newStatus =>
                      rw [status] at mapped
                      simp [objects, found, ← mapped, pure, Except.pure]
      | _ => simp [Json.get]
  | _ => simp [mapPayload, isEvent, Json.get, bind, Except.bind]

end Readers

namespace PaymentProvider

/-- When an accepted request is one under a secret: Click and Payme need the
secret to be set, and PayPal needs the caller to have signed the request. -/
def IsChecked (signatures : Signatures) (gateway : Gateway)
    (headers : Headers) (body : Bytes) : PaymentProvider → Prop
  | stripe | manual => True
  | click => ClickProvider.secretKey gateway ≠ "" ∨
      ¬ClickProvider.IsSigned gateway body
  | payme => PaymeProvider.secretKey gateway ≠ "" ∨
      PaymeProvider.basicCredentials headers ≠ some ("Paycom", "") ∨
      bodyIs PaymeProvider.isCall body = false
  | paypal => PayPalProvider.clientId gateway = "" ∨
      bodyIs PayPalProvider.isEvent body = false ∨
      PayPalProvider.clientSecret gateway ≠ "" ∧
        signatures.transmissionSigned headers body
          (PayPalProvider.clientSecret gateway)

end PaymentProvider

section Providers

variable {gateway : Gateway} {headers : Headers} {body : Bytes}

theorem accepts_stripe
    (accepts : PaymentProvider.stripe.Accepts gateway headers body) :
    StripeProvider.webhookSecret gateway ≠ "" ∧
      ∃ sdk ∈ gateway.stripe, ∃ event, sdk.constructEvent body
        (StripeProvider.signature headers "")
        (StripeProvider.webhookSecret gateway) = .event event := by
  obtain ⟨parsed, isParsed, accepted⟩ := accepts
  change StripeProvider.parseWebhook gateway headers body = _ at isParsed
  unfold StripeProvider.parseWebhook at isParsed
  by_cases noSecret : StripeProvider.webhookSecret gateway = ""
  · rw [if_pos noSecret] at isParsed
    cases isParsed
    cases accepted
  · rw [if_neg noSecret] at isParsed
    refine ⟨noSecret, ?_⟩
    cases installed : gateway.stripe with
    | none =>
        simp only [installed] at isParsed
        cases isParsed
        cases accepted
    | some sdk =>
        simp only [installed] at isParsed
        refine ⟨sdk, rfl, ?_⟩
        cases constructed : sdk.constructEvent body
            (StripeProvider.signature headers "")
            (StripeProvider.webhookSecret gateway) with
        | event event => exact ⟨event, rfl⟩
        | refused text =>
            simp only [constructed] at isParsed
            cases isParsed
            cases accepted
        | raised exception =>
            simp only [constructed] at isParsed
            cases isParsed

theorem accepts_click_iff :
    PaymentProvider.click.Accepts gateway headers body ↔
      ClickProvider.IsSigned gateway body := by
  unfold PaymentProvider.Accepts PaymentProvider.parseWebhook
    ClickProvider.parseWebhook ClickProvider.IsSigned
  dsimp only
  cases intOf (ClickProvider.field (ClickProvider.bodyParams body) "action"
      "0") with
  | none => simp
  | some action =>
      cases signed : ClickProvider.signMatches gateway
          (ClickProvider.bodyParams body) action <;> simp [signed]

theorem accepts_payme_iff :
    PaymentProvider.payme.Accepts gateway headers body ↔
      PaymeProvider.basicCredentials headers =
          some ("Paycom", PaymeProvider.secretKey gateway) ∧
        bodyIs PaymeProvider.isCall body = true := by
  have verifies : PaymeProvider.verifyBasicAuth gateway headers = true ↔
      PaymeProvider.basicCredentials headers =
        some ("Paycom", PaymeProvider.secretKey gateway) := by
    unfold PaymeProvider.verifyBasicAuth
    cases PaymeProvider.basicCredentials headers with
    | none => simp
    | some credentials =>
        obtain ⟨user, password⟩ := credentials
        simp
  rw [← verifies]
  unfold PaymentProvider.Accepts PaymentProvider.parseWebhook
    PaymeProvider.parseWebhook bodyIs
  cases PaymeProvider.verifyBasicAuth gateway headers with
  | false => simp
  | true =>
      cases Json.loads body with
      | error raised => cases raised <;> simp
      | ok payload => simpa using PaymeProvider.mapPayload_returns payload

theorem accepts_paypal_iff :
    PaymentProvider.paypal.Accepts gateway headers body ↔
      PayPalProvider.clientId gateway ≠ "" ∧
        bodyIs PayPalProvider.isEvent body = true := by
  unfold PaymentProvider.Accepts PaymentProvider.parseWebhook
    PayPalProvider.parseWebhook bodyIs
  by_cases noClient : PayPalProvider.clientId gateway = ""
  · simp [noClient]
  · cases Json.loads body with
    | error raised => cases raised <;> simp [noClient]
    | ok payload =>
        simpa [noClient] using PayPalProvider.mapPayload_returns payload

theorem not_accepts_manual :
    ¬PaymentProvider.manual.Accepts gateway headers body := by
  rintro ⟨parsed, isParsed, accepted⟩
  cases isParsed
  cases accepted

theorem acceptsAuthentic_iff (headers : Headers) (body : Bytes)
    {signatures : Signatures} (sound : signatures.Sound gateway)
    (provider : PaymentProvider) :
    provider.AcceptsAuthentic signatures gateway headers body ↔
      provider.IsChecked signatures gateway headers body := by
  unfold PaymentProvider.AcceptsAuthentic
  cases provider with
  | stripe =>
      refine iff_of_true ?_ trivial
      intro accepts
      obtain ⟨hasSecret, sdk, installed, event, constructed⟩ :=
        accepts_stripe accepts
      exact ⟨hasSecret, sound sdk installed _ _ _ _ constructed⟩
  | manual =>
      exact iff_of_true (fun accepts => absurd accepts not_accepts_manual)
        trivial
  | click =>
      rw [accepts_click_iff]
      by_cases signed : ClickProvider.IsSigned gateway body <;>
        simp [signed, PaymentProvider.secret, PaymentProvider.Authentic,
          PaymentProvider.IsChecked]
  | payme =>
      rw [accepts_payme_iff]
      by_cases noSecret : PaymeProvider.secretKey gateway = "" <;>
        simp [noSecret, PaymentProvider.secret, PaymentProvider.Authentic,
          PaymentProvider.IsChecked] <;> tauto
  | paypal =>
      rw [accepts_paypal_iff]
      by_cases noClient : PayPalProvider.clientId gateway = "" <;>
        by_cases isEvent : bodyIs PayPalProvider.isEvent body = true <;>
          simp [noClient, isEvent, PaymentProvider.secret,
            PaymentProvider.Authentic, PaymentProvider.IsChecked]

/-- A webhook that is not accepted changes nothing. -/
theorem settle_of_not_accepts {provider : PaymentProvider} {name : String}
    (registered : getProvider name = .ok provider)
    (rejected : ¬provider.Accepts gateway headers body) (session : Session)
    (db : Database) :
    settle (handleWebhook session gateway name headers body) db = db := by
  rcases settle_handleWebhook session gateway name headers body db with
    unchanged | ⟨found, parsed, order, recorded, moved, sameName, isParsed,
      matched⟩
  · exact unchanged
  · have same : found = provider := by
      rw [registered] at sameName
      exact (Except.ok.inj sameName).symm
    exact absurd ⟨parsed, same ▸ isParsed, matched.accepted⟩ rejected

end Providers

/-- Webhook authenticity: a request that is accepted carries a credential under
a non-empty secret exactly where it is checked, and there a request without
such a credential changes nothing. -/
theorem webhook_authentic_iff (signatures : Signatures) (gateway : Gateway)
    (sound : signatures.Sound gateway) (provider : PaymentProvider)
    (headers : Headers) (body : Bytes) :
    (provider.AcceptsAuthentic signatures gateway headers body ↔
      provider.IsChecked signatures gateway headers body) ∧
      (provider.IsChecked signatures gateway headers body →
        ¬(provider.secret gateway ≠ "" ∧
          provider.Authentic signatures gateway headers body) →
        ∀ session name db, getProvider name = .ok provider →
          settle (handleWebhook session gateway name headers body) db =
            db) := by
  have authentic_iff := acceptsAuthentic_iff headers body sound provider
  refine ⟨authentic_iff, ?_⟩
  intro isChecked forged session name db registered
  apply settle_of_not_accepts registered
  intro accepts
  exact forged (authentic_iff.mpr isChecked accepts)

/-- The body that the sample deployment with Stripe has a signature for. -/
def stripeBody : Bytes :=
  "\x7b\"type\":\"payment_intent.succeeded\"\x7d".toUTF8.toList

/-- The signature of that body under `whsec`. -/
def stripeSignature : String :=
  "t=1700000000,v1=" ++
    "e7f58e2096b035295ae0e830f993e550a3d66d91aab4c59b6df2dcff794efe29"

/-- What is signed as far as the sample deployments can tell: one body by
Stripe, and whatever names a transmission signature by PayPal. -/
def sampleSignatures : Signatures where
  stripeSigned := fun body signature secret =>
    body = stripeBody ∧ signature = stripeSignature ∧ secret = "whsec"
  transmissionSigned := fun headers _ _ =>
    (headers.lookup "Paypal-Transmission-Sig").isSome = true

/-- A deployment with Stripe. -/
def stripeDeployment : Gateway :=
  { deployment accepted with
    settings := { stripeWebhookSecret := some "whsec" }
    stripe := some {
      constructEvent := fun body signature secret =>
        if body = stripeBody ∧ signature = stripeSignature ∧
            secret = "whsec" then
          .event (.obj [("type", .str "payment_intent.succeeded")])
        else .refused
          "No signatures found matching the expected signature for payload"
      createSession := fun _ _ => .error "no network" } }

/-- A deployment whose settings are all missing. -/
def bareDeployment : Gateway :=
  { deployment accepted with
    settings := { }
    md5Hex := fun text =>
      if text = "0" then "cfcd208495d565ef66e7dff9f98764da" else "" }

theorem sampleSignatures_sound : sampleSignatures.Sound stripeDeployment := by
  intro sdk installed body signature secret event constructed
  cases installed
  by_contra unsigned
  simp only [sampleSignatures] at unsigned
  simp only [if_neg unsigned] at constructed
  cases constructed

theorem Signatures.sound_of_noSdk {signatures : Signatures}
    {gateway : Gateway} (notInstalled : gateway.stripe = none) :
    signatures.Sound gateway := by
  intro sdk installed
  rw [notInstalled] at installed
  cases installed

theorem webhook_authentic_iff_stripe :
    PaymentProvider.stripe.Accepts stripeDeployment
        [("Stripe-Signature", stripeSignature)] stripeBody ∧
      settle (handleWebhook { now := 5 } stripeDeployment "stripe" []
        stripeBody) (twoCarts 5) = twoCarts 5 := by
  constructor
  · have parsed : StripeProvider.parseWebhook stripeDeployment
        [("Stripe-Signature", stripeSignature)] stripeBody = .ok {
          accepted := true
          eventType := .str "payment_intent.succeeded"
          newStatus := some .captured } := by
      unfold StripeProvider.parseWebhook
      rw [if_neg (by decide)]
      dsimp only [stripeDeployment]
      rw [if_pos ⟨rfl, by decide, rfl⟩]
      rfl
    exact ⟨_, parsed, rfl⟩
  · refine (webhook_authentic_iff sampleSignatures stripeDeployment
      sampleSignatures_sound .stripe [] stripeBody).2 trivial ?_
        { now := 5 } "stripe" (twoCarts 5) rfl
    rintro ⟨-, -, signed, -⟩
    revert signed
    decide

/-- PayPal events are accepted without any signature, so that anyone can have
an order paid, and Payme and Click accept the empty secret if none is set. -/
theorem unsigned_event_pays :
    ¬PaymentProvider.paypal.AcceptsAuthentic sampleSignatures
        (deployment accepted) [] (eventBody "CHECKOUT.ORDER.APPROVED") ∧
      (exec StoreCommand.step (twoCarts 5)
        [checkoutOf 10 "N1", chargeOf accepted,
          .handleWebhook { now := 5 } (deployment accepted) "paypal" []
            (eventBody "CHECKOUT.ORDER.APPROVED")]).orders.rows.map
              Order.status = [.paid] ∧
      ¬PaymentProvider.payme.AcceptsAuthentic sampleSignatures
        bareDeployment [("Authorization", "Basic UGF5Y29tOg==")]
        "\x7b\x7d".toUTF8.toList ∧
      ¬PaymentProvider.click.AcceptsAuthentic sampleSignatures
        bareDeployment []
        "sign_string=cfcd208495d565ef66e7dff9f98764da".toUTF8.toList := by
  refine ⟨?_, by decide +kernel, ?_, ?_⟩
  · rw [acceptsAuthentic_iff _ _ (Signatures.sound_of_noSdk rfl)]
    rintro (noClient | notEvent | ⟨-, signed⟩)
    · revert noClient
      decide
    · revert notEvent
      decide +kernel
    · cases signed
  · rw [acceptsAuthentic_iff _ _ (Signatures.sound_of_noSdk rfl)]
    rintro (hasSecret | otherUser | notCall)
    · exact hasSecret rfl
    · revert otherUser
      decide +kernel
    · revert notCall
      decide +kernel
  · rw [acceptsAuthentic_iff _ _ (Signatures.sound_of_noSdk rfl)]
    rintro (hasSecret | unsigned)
    · exact hasSecret rfl
    · unfold ClickProvider.IsSigned at unsigned
      rw [ClickProvider.bodyParams_toUTF8] at unsigned
      exact unsigned ⟨0, by decide +kernel, by decide +kernel⟩

end NovaCommerce
