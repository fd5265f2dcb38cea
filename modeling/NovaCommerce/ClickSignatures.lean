import NovaCommerce.WebhookAuthenticity
import Mathlib.Logic.Equiv.List

/-!
# What a Click signature fixes

Click signs the fields of a message one after the other, without separators
between them.  Whatever the digest, the signature therefore fixes the text that
the fields make together, and the fields themselves only once their lengths
are known: the same text can be cut into the fields of another message.
-/

namespace NovaCommerce

open TextDecoding RequestText

theorem digits_injective {first second : Nat}
    (same : Nat.toDigits 10 first = Nat.toDigits 10 second) :
    first = second := by
  have numbers := congrArg (fun digits => Nat.ofDigitChars 10 digits 0) same
  simpa using numbers

theorem minus_notMem_digits (number : Nat) :
    '-' ∉ Nat.toDigits 10 number := by
  intro member
  have isDigit := Nat.isDigit_of_mem_toDigits (by decide) (by decide) member
  revert isDigit
  decide

theorem numeral_injective {first second : Int}
    (same : toString first = toString second) : first = second := by
  have texts := congrArg String.toList same
  simp only [Int.toString_eq_repr, Int.repr_eq_if] at texts
  by_cases firstNonneg : 0 ≤ first <;> by_cases secondNonneg : 0 ≤ second <;>
    simp only [firstNonneg, secondNonneg, if_true, if_false,
      String.toList_append, Nat.toList_repr] at texts
  · have := digits_injective texts
    omega
  · have starts : '-' ∈ Nat.toDigits 10 first.toNat := by
      rw [texts]
      simp
    exact absurd starts (minus_notMem_digits _)
  · have starts : '-' ∈ Nat.toDigits 10 second.toNat := by
      rw [← texts]
      simp
    exact absurd starts (minus_notMem_digits _)
  · have := digits_injective (List.append_cancel_left texts)
    omega

namespace ClickProvider

/-- The texts that are signed one after the other. -/
def signedFields (gateway : Gateway) (params : List (String × String))
    (action : Int) : List String :=
  [field params "click_trans_id", field params "service_id",
    secretKey gateway, field params "merchant_trans_id",
    if action = 1 then field params "merchant_prepare_id" else "",
    field params "amount", toString action, field params "sign_time"]

theorem toList_signedText (gateway : Gateway)
    (params : List (String × String)) (action : Int) :
    (signedText gateway params action).toList =
      ((signedFields gateway params action).map String.toList).flatten := by
  simp [signedText, signedFields, String.toList_append]

/-- The action that a body asks for, if it is an integer. -/
def actionOf (body : Bytes) : Option Int :=
  intOf (field (bodyParams body) "action" "0")

def signString (body : Bytes) : String :=
  field (bodyParams body) "sign_string"

/-- Two messages are the same as far as they are signed. -/
structure SameMessage (first second : List (String × String))
    (firstAction secondAction : Int) : Prop where
  action_eq : firstAction = secondAction
  clickTransId_eq :
    field first "click_trans_id" = field second "click_trans_id"
  serviceId_eq : field first "service_id" = field second "service_id"
  merchantTransId_eq :
    field first "merchant_trans_id" = field second "merchant_trans_id"
  prepareId_eq : firstAction = 1 →
    field first "merchant_prepare_id" = field second "merchant_prepare_id"
  amount_eq : field first "amount" = field second "amount"
  signTime_eq : field first "sign_time" = field second "sign_time"

theorem signedFields_eq_iff {gateway : Gateway}
    {first second : List (String × String)} {firstAction secondAction : Int} :
    signedFields gateway first firstAction =
        signedFields gateway second secondAction ↔
      SameMessage first second firstAction secondAction := by
  constructor
  · intro same
    simp only [signedFields, List.cons.injEq, and_true, true_and] at same
    obtain ⟨transId, service, order, prepare, amount, action, time⟩ := same
    have sameAction : firstAction = secondAction := numeral_injective action
    subst sameAction
    refine ⟨rfl, transId, service, order, ?_, amount, time⟩
    intro isComplete
    simpa only [isComplete, if_true] using prepare
  · intro same
    obtain ⟨rfl, transId, service, order, prepare, amount, time⟩ := same
    simp only [signedFields, transId, service, order, amount, time]
    by_cases isComplete : firstAction = 1
    · rw [if_pos isComplete, if_pos isComplete, prepare isComplete]
    · rw [if_neg isComplete, if_neg isComplete]

/-- One text is cut into the same fields exactly if they have the same
lengths. -/
theorem lengths_eq_iff {gateway : Gateway}
    {first second : List (String × String)} {firstAction secondAction : Int}
    (sameText : signedText gateway first firstAction =
      signedText gateway second secondAction) :
    (signedFields gateway first firstAction).map String.length =
        (signedFields gateway second secondAction).map String.length ↔
      SameMessage first second firstAction secondAction := by
  rw [← @signedFields_eq_iff gateway]
  constructor
  · intro sameLengths
    have texts := congrArg String.toList sameText
    rw [toList_signedText, toList_signedText] at texts
    have lists := List.eq_iff_flatten_eq.mpr ⟨texts, by
      simpa [List.map_map, Function.comp_def, String.length_toList]
        using sameLengths⟩
    exact List.map_injective_iff.mpr
      (fun _ _ => String.toList_injective) lists
  · intro same
    rw [same]

/-- The text ends with the action and the time, so that these can not be cut
apart in two ways if they are as long. -/
theorem action_eq_of_lengths {gateway : Gateway}
    {first second : List (String × String)} {firstAction secondAction : Int}
    (sameText : signedText gateway first firstAction =
      signedText gateway second secondAction)
    (sameNumeral : (toString firstAction).length =
      (toString secondAction).length)
    (sameTime : (field first "sign_time").length =
      (field second "sign_time").length) :
    firstAction = secondAction := by
  have texts := congrArg String.toList sameText
  simp only [signedText, String.toList_append] at texts
  obtain ⟨untilTime, -⟩ := List.append_inj' texts sameTime
  obtain ⟨-, numerals⟩ := List.append_inj' untilTime sameNumeral
  exact numeral_injective (String.toList_injective numerals)

section Accepted

variable {gateway : Gateway} {headers later : Headers}
  {body first second : Bytes} {action firstAction secondAction : Int}

theorem accepts_click_of_read
    (read : actionOf body = some action) :
    PaymentProvider.click.Accepts gateway headers body ↔
      lower (expectedSign gateway (bodyParams body) action) =
        lower (signString body) := by
  rw [accepts_click_iff]
  constructor
  · rintro ⟨other, otherRead, signed⟩
    have same : other = action := by
      have := otherRead.symm.trans read
      exact Option.some.inj this
    rw [same] at signed
    exact of_decide_eq_true signed
  · intro signed
    exact ⟨action, read, decide_eq_true signed⟩

/-- Under one sign string just those messages are accepted that make one
text. -/
theorem accepts_click_iff_sameText
    (injective : Function.Injective gateway.md5Hex)
    (lowerCase : ∀ text,
      lower (gateway.md5Hex text) = (gateway.md5Hex text).toList)
    (firstRead : actionOf first = some firstAction)
    (secondRead : actionOf second = some secondAction)
    (sameSign : signString first =
      signString second)
    (accepts : PaymentProvider.click.Accepts gateway headers first) :
    PaymentProvider.click.Accepts gateway later second ↔
      signedText gateway (bodyParams first) firstAction =
        signedText gateway (bodyParams second) secondAction := by
  rw [accepts_click_of_read firstRead, sameSign] at accepts
  rw [accepts_click_of_read secondRead, ← accepts]
  unfold expectedSign
  rw [lowerCase, lowerCase, String.toList_inj, injective.eq_iff]
  exact eq_comm

/-- A Click signature fixes the text that the signed fields make together: of
two messages with one sign string the second one is accepted as well exactly if
they make the same text.  Then they are the same message exactly if their
signed fields have the same lengths, and they have the same action if the
numerals of the actions and the times have. -/
theorem signature_fixes_text
    (injective : Function.Injective gateway.md5Hex)
    (lowerCase : ∀ text,
      lower (gateway.md5Hex text) = (gateway.md5Hex text).toList)
    (firstRead : actionOf first = some firstAction)
    (secondRead : actionOf second = some secondAction)
    (sameSign : signString first =
      signString second)
    (accepts : PaymentProvider.click.Accepts gateway headers first) :
    (PaymentProvider.click.Accepts gateway later second ↔
      signedText gateway (bodyParams first) firstAction =
        signedText gateway (bodyParams second) secondAction) ∧
      (PaymentProvider.click.Accepts gateway later second →
        ((signedFields gateway (bodyParams first)
              firstAction).map String.length =
            (signedFields gateway (bodyParams second)
              secondAction).map String.length ↔
          SameMessage (bodyParams first) (bodyParams second)
            firstAction secondAction) ∧
        ((toString firstAction).length = (toString secondAction).length →
          (field (bodyParams first) "sign_time").length =
              (field (bodyParams second) "sign_time").length →
            firstAction = secondAction)) := by
  have sameText_iff := @accepts_click_iff_sameText _ _ later _ _ _ _ injective
    lowerCase firstRead secondRead sameSign accepts
  refine ⟨sameText_iff, ?_⟩
  intro alsoAccepts
  have sameText := sameText_iff.mp alsoAccepts
  exact ⟨lengths_eq_iff sameText, action_eq_of_lengths sameText⟩

end Accepted

end ClickProvider

/-- The text of a message that asks to prepare a payment of 5000 for the order
N11, under the key `secret`. -/
def preparedText : String :=
  "7secretN11500002026-01-01"

/-- A digest without collisions that agrees with MD5 on that text. -/
def sampleDigest (text : String) : String :=
  if text = preparedText then "cfb372d02669f3a3af7616c099a99cbf"
  else String.ofList
    (List.replicate (Encodable.encode (text.toList.map Char.toNat)) 'x')

/-- A deployment with Click under that digest. -/
def digestDeployment : Gateway :=
  { deployment accepted with
    settings := { clickSecretKey := some "secret" }
    md5Hex := sampleDigest }

theorem sampleDigest_lower (text : String) :
    lower (sampleDigest text) = (sampleDigest text).toList := by
  unfold sampleDigest lower
  split
  · decide
  · simp [List.map_replicate]

theorem sampleDigest_injective : Function.Injective sampleDigest := by
  have differ : ∀ count, "cfb372d02669f3a3af7616c099a99cbf" ≠
      String.ofList (List.replicate count 'x') := by
    intro count same
    have member : 'c' ∈ List.replicate count 'x' := by
      rw [← String.toList_ofList (l := List.replicate count 'x'), ← same]
      decide
    exact absurd (List.eq_of_mem_replicate member) (by decide)
  intro first second same
  by_cases isFirst : first = preparedText <;>
    by_cases isSecond : second = preparedText <;>
    simp only [sampleDigest, isFirst, isSecond, if_true, if_false] at same
  · rw [isFirst, isSecond]
  · exact absurd same (differ _)
  · exact absurd same.symm (differ _)
  · have lists := congrArg String.toList same
    rw [String.toList_ofList, String.toList_ofList] at lists
    have codes := congrArg List.length lists
    rw [List.length_replicate, List.length_replicate] at codes
    have chars := List.map_injective_iff.mpr (fun _ _ => Char.toNat_inj.mp)
      (Encodable.encode_injective codes)
    exact String.toList_injective chars

/-- The parameters of a message with the sign string of that text. -/
def sampleParams (fields : List (String × String)) : List (String × String) :=
  ("click_trans_id", "7") :: fields ++
    [("sign_string", "cfb372d02669f3a3af7616c099a99cbf")]

def prepareBody : Bytes :=
  ("click_trans_id=7&merchant_trans_id=N11&amount=5000&action=0" ++
    "&sign_time=2026-01-01" ++
    "&sign_string=cfb372d02669f3a3af7616c099a99cbf").toUTF8.toList

/-- The last digit of the order has become the action, and the amount and the
former action have become a part of the time. -/
def completeBody : Bytes :=
  ("click_trans_id=7&merchant_trans_id=N1&action=1" ++
    "&sign_time=500002026-01-01" ++
    "&sign_string=cfb372d02669f3a3af7616c099a99cbf").toUTF8.toList

theorem bodyParams_prepareBody :
    ClickProvider.bodyParams prepareBody = sampleParams
      [("merchant_trans_id", "N11"), ("amount", "5000"), ("action", "0"),
        ("sign_time", "2026-01-01")] := by
  rw [prepareBody, ClickProvider.bodyParams_toUTF8]
  decide +kernel

theorem bodyParams_completeBody :
    ClickProvider.bodyParams completeBody = sampleParams
      [("merchant_trans_id", "N1"), ("action", "1"),
        ("sign_time", "500002026-01-01")] := by
  rw [completeBody, ClickProvider.bodyParams_toUTF8]
  decide +kernel

theorem actionOf_prepareBody :
    ClickProvider.actionOf prepareBody = some 0 := by
  rw [ClickProvider.actionOf, bodyParams_prepareBody]
  decide

theorem actionOf_completeBody :
    ClickProvider.actionOf completeBody = some 1 := by
  rw [ClickProvider.actionOf, bodyParams_completeBody]
  decide

theorem signString_samples :
    ClickProvider.signString prepareBody =
      ClickProvider.signString completeBody := by
  rw [ClickProvider.signString, ClickProvider.signString,
    bodyParams_prepareBody, bodyParams_completeBody]
  decide

theorem accepts_prepareBody :
    PaymentProvider.click.Accepts digestDeployment [] prepareBody := by
  rw [ClickProvider.accepts_click_of_read actionOf_prepareBody,
    ClickProvider.signString, bodyParams_prepareBody]
  decide +kernel

theorem signedText_samples :
    ClickProvider.signedText digestDeployment
        (ClickProvider.bodyParams prepareBody) 0 =
      ClickProvider.signedText digestDeployment
        (ClickProvider.bodyParams completeBody) 1 := by
  rw [bodyParams_prepareBody, bodyParams_completeBody]
  decide

/-- The sign string of a message that asks to prepare a payment is accepted for
a message that completes a payment for another order. -/
theorem click_signature_recut :
    Function.Injective digestDeployment.md5Hex ∧
      ClickProvider.secretKey digestDeployment ≠ "" ∧
      PaymentProvider.click.Accepts digestDeployment [] prepareBody ∧
      PaymentProvider.click.Accepts digestDeployment [] completeBody ∧
      ClickProvider.signString prepareBody =
        ClickProvider.signString completeBody ∧
      ClickProvider.actionOf prepareBody = some 0 ∧
      ClickProvider.actionOf completeBody = some 1 ∧
      ClickProvider.field (ClickProvider.bodyParams prepareBody)
        "merchant_trans_id" = "N11" ∧
      ClickProvider.field (ClickProvider.bodyParams completeBody)
        "merchant_trans_id" = "N1" := by
  refine ⟨sampleDigest_injective, by decide, accepts_prepareBody, ?_,
    signString_samples, actionOf_prepareBody, actionOf_completeBody, ?_, ?_⟩
  · exact (@ClickProvider.accepts_click_iff_sameText digestDeployment [] []
      prepareBody completeBody 0 1 sampleDigest_injective sampleDigest_lower
      actionOf_prepareBody actionOf_completeBody signString_samples
      accepts_prepareBody).mpr signedText_samples
  · rw [bodyParams_prepareBody]
    decide
  · rw [bodyParams_completeBody]
    decide

theorem signature_fixes_text_prepared :
    PaymentProvider.click.Accepts digestDeployment [] prepareBody ∧
      PaymentProvider.click.Accepts digestDeployment [] completeBody ∧
      ¬ClickProvider.SameMessage (ClickProvider.bodyParams prepareBody)
        (ClickProvider.bodyParams completeBody) 0 1 := by
  obtain ⟨sameText_iff, fixes⟩ := @ClickProvider.signature_fixes_text
    digestDeployment [] [] prepareBody completeBody 0 1
    sampleDigest_injective sampleDigest_lower actionOf_prepareBody
    actionOf_completeBody signString_samples accepts_prepareBody
  have alsoAccepts := sameText_iff.mpr signedText_samples
  refine ⟨accepts_prepareBody, alsoAccepts, ?_⟩
  rw [← (fixes alsoAccepts).1, bodyParams_prepareBody,
    bodyParams_completeBody]
  decide

end NovaCommerce
