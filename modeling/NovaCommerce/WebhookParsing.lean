import NovaCommerce.WebhookAuthenticity

/-!
# Which webhook bodies can be parsed

Anyone can send any bytes to a webhook.  Click drops what is not UTF-8 and
reads a form, which every text is.  Payme and PayPal read JSON and answer for
the errors of its syntax only: bytes that are no text, and values of another
shape than the one that is walked through, raise; and a value of the wrong
type that is merely passed on is accepted.
-/

namespace NovaCommerce

open TextDecoding RequestText

namespace Json

def isStr : Json → Bool
  | str _ => true
  | _ => false

def isStrOrNull : Json → Bool
  | str _ | null => true
  | _ => false

/-- A field is missing or has a value of some shape. -/
def fieldIs (fields : List (String × Json)) (name : String)
    (shape : Json → Bool) : Bool :=
  (fields.lookup name).all shape

/-- What a field is read as has the shape if its default has it. -/
theorem shape_getD {fields : List (String × Json)} {name : String}
    {shape : Json → Bool} {default : Json}
    (isField : fieldIs fields name shape = true)
    (isDefault : shape default = true) :
    shape ((fields.lookup name).getD default) = true := by
  unfold fieldIs at isField
  cases found : fields.lookup name with
  | none => exact isDefault
  | some value =>
      rw [found] at isField
      exact isField

end Json

namespace PaymeProvider

def isAccount : Json → Bool
  | .null => true
  | .obj account => Json.fieldIs account "order_id" Json.isStr
  | _ => false

def isParams : Json → Bool
  | .obj params => Json.fieldIs params "account" isAccount &&
      Json.fieldIs params "id" Json.isStr
  | _ => false

/-- A call whose fields, where they are not missing, have the types that the
result of a webhook declares for them. -/
def isWellFormed : Json → Bool
  | .obj fields => Json.fieldIs fields "method" Json.isStr &&
      Json.fieldIs fields "params" isParams
  | _ => false

end PaymeProvider

namespace PayPalProvider

def isUnit : Json → Bool
  | .obj unit => Json.fieldIs unit "reference_id" Json.isStrOrNull
  | _ => false

def isUnits : Json → Bool
  | .null => true
  | .arr units => units.all isUnit
  | _ => false

def isResource : Json → Bool
  | .null => true
  | .obj resource => Json.fieldIs resource "id" Json.isStr &&
      Json.fieldIs resource "purchase_units" isUnits
  | _ => false

/-- An event whose fields, where they are not missing, have the types that the
result of a webhook declares for them. -/
def isWellFormed : Json → Bool
  | .obj fields => Json.fieldIs fields "event_type" Json.isStr &&
      Json.fieldIs fields "resource" isResource
  | _ => false

end PayPalProvider

section Shapes

theorem PaymeProvider.isObject_of_isAccount {account : Json}
    (wellFormed : isAccount account = true) :
    (account.orElse (.obj [])).isObject = true := by
  cases account with
  | null => rfl
  | obj fields => cases fields <;> rfl
  | _ => cases wellFormed

theorem PaymeProvider.isCall_of_isWellFormed {payload : Json}
    (wellFormed : isWellFormed payload = true) : isCall payload = true := by
  cases payload with
  | obj fields =>
      obtain ⟨-, params⟩ := Bool.and_eq_true_iff.mp wellFormed
      have isParam := Json.shape_getD params
        (show isParams (.obj []) = true from rfl)
      unfold isCall
      dsimp only
      cases given : (fields.lookup "params").getD (.obj []) with
      | obj params =>
          rw [given] at isParam
          obtain ⟨account, -⟩ := Bool.and_eq_true_iff.mp isParam
          exact isObject_of_isAccount
            (Json.shape_getD account (show isAccount .null = true from rfl))
      | _ =>
          rw [given] at isParam
          cases isParam
  | _ => cases wellFormed

theorem PayPalProvider.unitsAreObjects_of_isUnit {units : List Json}
    (wellFormed : units.all isUnit = true) : unitsAreObjects units = true := by
  induction units with
  | nil => rfl
  | cons unit units ih =>
      rw [List.all_cons, Bool.and_eq_true] at wellFormed
      cases unit with
      | obj fields => simp [unitsAreObjects, ih wellFormed.2]
      | _ => cases wellFormed.1

theorem PayPalProvider.hasUnits_of_isUnits {resource : List (String × Json)}
    (wellFormed : isUnits
      ((resource.lookup "purchase_units").getD (.arr [])) = true) :
    hasUnits resource = true := by
  unfold hasUnits
  cases given : (resource.lookup "purchase_units").getD (.arr []) with
  | null => rfl
  | arr units =>
      rw [given] at wellFormed
      have objects := unitsAreObjects_of_isUnit wellFormed
      cases units with
      | nil => rfl
      | cons unit units => exact objects
  | _ =>
      rw [given] at wellFormed
      cases wellFormed

theorem PayPalProvider.isEvent_of_isWellFormed {payload : Json}
    (wellFormed : isWellFormed payload = true) : isEvent payload = true := by
  cases payload with
  | obj fields =>
      obtain ⟨type, resource⟩ := Bool.and_eq_true_iff.mp wellFormed
      have isText := Json.shape_getD type
        (show Json.isStr (.str "") = true from rfl)
      have isGiven := Json.shape_getD resource
        (show isResource (.obj []) = true from rfl)
      have hashable :
          isHashable ((fields.lookup "event_type").getD (.str "")) = true := by
        cases typed : (fields.lookup "event_type").getD (.str "") with
        | str text => rfl
        | _ =>
            rw [typed] at isText
            cases isText
      unfold isEvent
      dsimp only
      cases given : (fields.lookup "resource").getD (.obj []) with
      | null => exact Bool.and_eq_true_iff.mpr ⟨rfl, hashable⟩
      | obj resource =>
          rw [given] at isGiven
          obtain ⟨-, units⟩ := Bool.and_eq_true_iff.mp isGiven
          have hasUnits := hasUnits_of_isUnits
            (Json.shape_getD units (show isUnits (.arr []) = true from rfl))
          cases resource with
          | nil => exact Bool.and_eq_true_iff.mpr ⟨rfl, hashable⟩
          | cons first rest =>
              exact Bool.and_eq_true_iff.mpr ⟨hasUnits, hashable⟩
      | _ =>
          rw [given] at isGiven
          cases isGiven
  | _ => cases wellFormed

end Shapes

/-- The parser returns a result, and accepts events only. -/
def ReturnsEventsOnly (parsed : Raising WebhookResult) (isEvent : Prop) :
    Prop :=
  ∃ result, parsed = .ok result ∧ (result.accepted = true → isEvent)

/-- The body is JSON of some shape, or a text that is refused as no JSON. -/
def isReadAs (shape : Json → Bool) (body : Bytes) : Bool :=
  match Json.loads body with
  | .ok payload => shape payload
  | .error (.decodeError _) => true
  | .error _ => false

/-- How Payme and PayPal read a body. -/
def readBody (mapPayload : Json → Raising WebhookResult) (body : Bytes) :
    Raising WebhookResult :=
  match Json.loads body with
  | .error (.decodeError text) => .ok { accepted := false, error := text }
  | .error .unicodeDecodeError => .error (.builtinError "UnicodeDecodeError")
  | .error .valueError => .error (.builtinError "ValueError")
  | .ok payload => mapPayload payload

theorem raising_bind_eq_ok {First Second : Type} {first : Raising First}
    {next : First → Raising Second} {result : Second} :
    (first >>= next) = .ok result ↔
      ∃ value, first = .ok value ∧ next value = .ok result := by
  cases first with
  | error raised => simp [bind, Except.bind]
  | ok value => simp [bind, Except.bind]

theorem PaymeProvider.accepted_of_mapPayload {payload : Json}
    {result : WebhookResult} (mapped : mapPayload payload = .ok result) :
    result.accepted = true := by
  unfold mapPayload at mapped
  obtain ⟨_, _, mapped⟩ := raising_bind_eq_ok.mp mapped
  obtain ⟨_, _, mapped⟩ := raising_bind_eq_ok.mp mapped
  obtain ⟨_, _, mapped⟩ := raising_bind_eq_ok.mp mapped
  obtain ⟨_, _, mapped⟩ := raising_bind_eq_ok.mp mapped
  obtain ⟨_, _, mapped⟩ := raising_bind_eq_ok.mp mapped
  cases mapped
  rfl

theorem PayPalProvider.accepted_of_mapPayload {payload : Json}
    {result : WebhookResult} (mapped : mapPayload payload = .ok result) :
    result.accepted = true := by
  unfold mapPayload at mapped
  obtain ⟨_, _, mapped⟩ := raising_bind_eq_ok.mp mapped
  obtain ⟨_, _, mapped⟩ := raising_bind_eq_ok.mp mapped
  obtain ⟨_, _, mapped⟩ := raising_bind_eq_ok.mp mapped
  obtain ⟨_, _, mapped⟩ := raising_bind_eq_ok.mp mapped
  obtain ⟨_, _, mapped⟩ := raising_bind_eq_ok.mp mapped
  obtain ⟨_, _, mapped⟩ := raising_bind_eq_ok.mp mapped
  obtain ⟨_, _, mapped⟩ := raising_bind_eq_ok.mp mapped
  cases mapped
  rfl

section Readers

variable {mapPayload : Json → Raising WebhookResult}
  {shape wellFormed : Json → Bool}

/-- A body is read without an error exactly if the value in it, where there is
one, has the shape that is walked through. -/
theorem readBody_returns_iff
    (accepts : ∀ payload,
      (∃ result, mapPayload payload = .ok result ∧ result.accepted = true) ↔
        shape payload = true)
    (accepted : ∀ payload result, mapPayload payload = .ok result →
      result.accepted = true) (body : Bytes) :
    (∃ result, readBody mapPayload body = .ok result) ↔
      isReadAs shape body = true := by
  unfold readBody isReadAs
  cases Json.loads body with
  | error failure => cases failure <;> simp
  | ok payload =>
      dsimp only
      rw [← accepts payload]
      constructor
      · rintro ⟨result, mapped⟩
        exact ⟨result, mapped, accepted payload result mapped⟩
      · rintro ⟨result, mapped, _⟩
        exact ⟨result, mapped⟩

/-- Events only are accepted exactly if the value in a body is one. -/
theorem readBody_eventsOnly_iff
    (accepts : ∀ payload,
      (∃ result, mapPayload payload = .ok result ∧ result.accepted = true) ↔
        shape payload = true)
    (accepted : ∀ payload result, mapPayload payload = .ok result →
      result.accepted = true)
    (narrower : ∀ payload, wellFormed payload = true → shape payload = true)
    (body : Bytes) :
    ReturnsEventsOnly (readBody mapPayload body)
        (bodyIs wellFormed body = true) ↔
      isReadAs wellFormed body = true := by
  unfold ReturnsEventsOnly readBody bodyIs isReadAs
  cases Json.loads body with
  | error failure => cases failure <;> simp
  | ok payload =>
      dsimp only
      constructor
      · rintro ⟨result, mapped, onlyEvents⟩
        exact onlyEvents (accepted payload result mapped)
      · intro isWellFormed
        obtain ⟨result, mapped, _⟩ :=
          (accepts payload).mpr (narrower payload isWellFormed)
        exact ⟨result, mapped, fun _ => isWellFormed⟩

end Readers

section Gates

variable {gate isRead isEvent : Prop} {parsed read : Raising WebhookResult}
  {refusal : WebhookResult}

/-- A parser that answers with a refusal before it reads returns a result if
the reader does behind the gate. -/
theorem returns_iff_of_gate (opened : gate → parsed = read)
    (closed : ¬gate → parsed = .ok refusal)
    (reads : (∃ result, read = .ok result) ↔ isRead) :
    (∃ result, parsed = .ok result) ↔ (gate → isRead) := by
  by_cases isOpen : gate
  · rw [opened isOpen, reads]
    exact ⟨fun holds _ => holds, fun holds => holds isOpen⟩
  · rw [closed isOpen]
    exact ⟨fun _ holds => absurd holds isOpen, fun _ => ⟨refusal, rfl⟩⟩

theorem eventsOnly_iff_of_gate (opened : gate → parsed = read)
    (closed : ¬gate → parsed = .ok refusal)
    (refused : refusal.accepted = false)
    (reads : ReturnsEventsOnly read isEvent ↔ isRead) :
    ReturnsEventsOnly parsed isEvent ↔ (gate → isRead) := by
  by_cases isOpen : gate
  · rw [opened isOpen, reads]
    exact ⟨fun holds _ => holds, fun holds => holds isOpen⟩
  · have refusesAll : ReturnsEventsOnly (.ok refusal) isEvent :=
      ⟨refusal, rfl, fun accepted =>
        absurd (refused.symm.trans accepted) Bool.false_ne_true⟩
    rw [closed isOpen]
    exact ⟨fun _ holds => absurd holds isOpen, fun _ => refusesAll⟩

end Gates

section Providers

variable (gateway : Gateway) (headers : Headers) (body : Bytes)

/-- Click reads every body and accepts the signed ones. -/
theorem ClickProvider.parseWebhook_returns :
    ReturnsEventsOnly (parseWebhook gateway headers body)
      (IsSigned gateway body) := by
  unfold parseWebhook
  dsimp only
  cases read : intOf (field (bodyParams body) "action" "0") with
  | none => exact ⟨_, rfl, fun accepted => absurd accepted Bool.false_ne_true⟩
  | some action =>
      dsimp only
      by_cases signed : signMatches gateway (bodyParams body) action = true
      · rw [if_pos signed]
        exact ⟨_, rfl, fun _ => ⟨action, read, signed⟩⟩
      · rw [if_neg signed]
        exact ⟨_, rfl, fun accepted => absurd accepted Bool.false_ne_true⟩

theorem PaymeProvider.parseWebhook_of_verified
    (verified : verifyBasicAuth gateway headers = true) :
    parseWebhook gateway headers body = readBody mapPayload body := by
  unfold parseWebhook
  rw [if_pos verified]
  rfl

theorem PaymeProvider.parseWebhook_of_forged
    (forged : ¬verifyBasicAuth gateway headers = true) :
    parseWebhook gateway headers body =
      .ok { accepted := false, error := "basic auth failed" } := by
  unfold parseWebhook
  rw [if_neg forged]

theorem PayPalProvider.parseWebhook_of_configured
    (configured : clientId gateway ≠ "") :
    parseWebhook gateway headers body = readBody mapPayload body := by
  unfold parseWebhook
  rw [if_neg configured]
  rfl

theorem PayPalProvider.parseWebhook_of_unset
    (unset : ¬clientId gateway ≠ "") :
    parseWebhook gateway headers body =
      .ok { accepted := false, error := "paypal not configured" } := by
  unfold parseWebhook
  rw [if_pos (not_ne_iff.mp unset)]

/-- When parsing a webhook raises nothing: Click always, Payme and PayPal if
the value in the body has the shape that they walk through. -/
theorem webhook_returns_iff :
    (∃ result, ClickProvider.parseWebhook gateway headers body =
        .ok result) ∧
      ((∃ result, PaymeProvider.parseWebhook gateway headers body =
          .ok result) ↔
        (PaymeProvider.verifyBasicAuth gateway headers = true →
          isReadAs PaymeProvider.isCall body = true)) ∧
      ((∃ result, PayPalProvider.parseWebhook gateway headers body =
          .ok result) ↔
        (PayPalProvider.clientId gateway ≠ "" →
          isReadAs PayPalProvider.isEvent body = true)) := by
  refine ⟨?_, ?_, ?_⟩
  · obtain ⟨result, parsed, _⟩ :=
      ClickProvider.parseWebhook_returns gateway headers body
    exact ⟨result, parsed⟩
  · exact returns_iff_of_gate
      (PaymeProvider.parseWebhook_of_verified gateway headers body)
      (PaymeProvider.parseWebhook_of_forged gateway headers body)
      (readBody_returns_iff PaymeProvider.mapPayload_returns
        (fun _ _ => PaymeProvider.accepted_of_mapPayload) body)
  · exact returns_iff_of_gate
      (PayPalProvider.parseWebhook_of_configured gateway headers body)
      (PayPalProvider.parseWebhook_of_unset gateway headers body)
      (readBody_returns_iff PayPalProvider.mapPayload_returns
        (fun _ _ => PayPalProvider.accepted_of_mapPayload) body)

/-- When parsing a webhook raises nothing and accepts well-formed events only:
Click always; Payme if the request is authorized and PayPal if a client is set
need a well-formed event in the body, or none that the JSON reader finds. -/
theorem webhook_parsing_iff :
    ReturnsEventsOnly (ClickProvider.parseWebhook gateway headers body)
        (ClickProvider.IsSigned gateway body) ∧
      (ReturnsEventsOnly (PaymeProvider.parseWebhook gateway headers body)
          (bodyIs PaymeProvider.isWellFormed body = true) ↔
        (PaymeProvider.verifyBasicAuth gateway headers = true →
          isReadAs PaymeProvider.isWellFormed body = true)) ∧
      (ReturnsEventsOnly (PayPalProvider.parseWebhook gateway headers body)
          (bodyIs PayPalProvider.isWellFormed body = true) ↔
        (PayPalProvider.clientId gateway ≠ "" →
          isReadAs PayPalProvider.isWellFormed body = true)) := by
  refine ⟨ClickProvider.parseWebhook_returns gateway headers body, ?_, ?_⟩
  · exact eventsOnly_iff_of_gate
      (PaymeProvider.parseWebhook_of_verified gateway headers body)
      (PaymeProvider.parseWebhook_of_forged gateway headers body) rfl
      (readBody_eventsOnly_iff PaymeProvider.mapPayload_returns
        (fun _ _ => PaymeProvider.accepted_of_mapPayload)
        (fun _ => PaymeProvider.isCall_of_isWellFormed) body)
  · exact eventsOnly_iff_of_gate
      (PayPalProvider.parseWebhook_of_configured gateway headers body)
      (PayPalProvider.parseWebhook_of_unset gateway headers body) rfl
      (readBody_eventsOnly_iff PayPalProvider.mapPayload_returns
        (fun _ _ => PayPalProvider.accepted_of_mapPayload)
        (fun _ => PayPalProvider.isEvent_of_isWellFormed) body)

end Providers

/-- A deployment with all secrets set. -/
def fullDeployment : Gateway :=
  { deployment accepted with
    settings := {
      paypalClientId := some "client"
      paypalClientSecret := some "secret"
      clickServiceId := some "5"
      clickSecretKey := some "secret"
      paymeMerchantId := some "merchant"
      paymeSecretKey := some "key" } }

/-- The authorization of a call to that deployment by Payme. -/
def paymeHeaders : Headers :=
  [("Authorization", "Basic UGF5Y29tOmtleQ==")]

/-- The parser raises a built-in exception. -/
def raises (parsed : Raising WebhookResult) (exception : String) : Bool :=
  match parsed with
  | .error (.builtinError name) => name = exception
  | _ => false

/-- An array, a null for an object and a byte that is no text raise, and an
event whose type is a number is accepted. -/
theorem webhook_parsing_raises :
    raises (PayPalProvider.parseWebhook fullDeployment [] "[]".toUTF8.toList)
        "AttributeError" = true ∧
      raises (PaymeProvider.parseWebhook fullDeployment paymeHeaders
        "\x7b\"params\":null\x7d".toUTF8.toList) "AttributeError" = true ∧
      raises (PayPalProvider.parseWebhook fullDeployment []
        [0x22, 0xff, 0x22]) "UnicodeDecodeError" = true ∧
      ¬ReturnsEventsOnly
        (PayPalProvider.parseWebhook fullDeployment []
          "\x7b\"event_type\":5\x7d".toUTF8.toList)
        (bodyIs PayPalProvider.isWellFormed
          "\x7b\"event_type\":5\x7d".toUTF8.toList = true) := by
  refine ⟨by decide +kernel, by decide +kernel, by decide +kernel, ?_⟩
  rintro ⟨result, parsed, onlyEvents⟩
  have notEvent : bodyIs PayPalProvider.isWellFormed
      "\x7b\"event_type\":5\x7d".toUTF8.toList = false := by
    decide +kernel
  have accepts : PaymentProvider.paypal.Accepts fullDeployment []
      "\x7b\"event_type\":5\x7d".toUTF8.toList :=
    accepts_paypal_iff.mpr (by decide +kernel)
  obtain ⟨other, otherParsed, accepted⟩ := accepts
  have same : other = result := Except.ok.inj (otherParsed.symm.trans parsed)
  rw [onlyEvents (same ▸ accepted)] at notEvent
  cases notEvent

end NovaCommerce
