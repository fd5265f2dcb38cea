import NovaCommerce.StockViews
import NovaCommerce.WebhookAuthenticity

/-!
# The amount in a Click callback

A Click callback carries the amount that was paid, and its signature covers the
amount; nothing else in the repository reads it, and a webhook result of no
provider has a place for one.  A callback that moves an order to paid names the
order by its payment reference, and the same callback over another amount does
the same.
-/

namespace NovaCommerce

open AtomicCall GuardedRun TextDecoding RequestText

/-- The event without what a request said. -/
def OrderEvent.unread (event : OrderEvent) : OrderEvent :=
  { event with payload := .obj [] }

theorem OrderEvent.key_unread (event : OrderEvent) :
    Keyed.key event.unread = Keyed.key event :=
  rfl

/-- The payment without what a request said. -/
def Payment.unread (payment : Payment) : Payment :=
  { payment with rawResponse := .obj [] }

theorem Payment.key_unread (payment : Payment) :
    Keyed.key payment.unread = Keyed.key payment :=
  rfl

/-- The database without the requests that are stored in it. -/
def Database.unread (db : Database) : Database :=
  { db with
    orderEvents := db.orderEvents.alter OrderEvent.unread OrderEvent.key_unread
    payments := db.payments.alter Payment.unread Payment.key_unread }

/-- The result without the request that it carries. -/
def WebhookResult.unread (parsed : WebhookResult) : WebhookResult :=
  { parsed with raw := .obj [] }

theorem showsStock_unread : ShowsStock Database.unread :=
  ⟨fun _ => rfl, fun _ _ => rfl, fun _ _ => rfl⟩

/-- A swallowed call does on a view what it does on the database. -/
theorem Mirrors.swallow {view : Database → Database} {Value : Type}
    {call image : Service Value} {db : Database}
    (mirrors : Mirrors view call image db) :
    Mirrors view (NovaCommerce.swallow call) (NovaCommerce.swallow image)
      db := by
  unfold Mirrors NovaCommerce.swallow
  rw [mirrors]
  cases call db <;> rfl

section Unread

variable (session : Session) (gateway : Gateway) (db : Database)

/-- An event is recorded next to events without their payloads. -/
theorem unread_createOrderEvent (order : Uuid) (code message : String)
    (actor : Option Uuid) {payload : Json}
    (holds : payload.storable = true) :
    Mirrors Database.unread
      (createOrderEvent session order code message actor payload)
      (createOrderEvent session order code message actor (.obj [])) db := by
  have events : (db.unread.orderEvents.create
        (createdEvent session order code message actor (.obj []))
        (key_createdEvent session order code message actor (.obj []))) =
      (db.orderEvents.create
        (createdEvent session order code message actor payload)
        (key_createdEvent session order code message actor payload)).alter
          OrderEvent.unread OrderEvent.key_unread := by
    apply Table.ext
    simp [Database.unread, OrderEvent.unread, createdEvent]
  have sameFit : recordable code message payload =
      recordable code message (.obj []) := by
    rw [recordable, recordable, holds]
    rfl
  unfold createOrderEvent
  rw [sameFit]
  split
  · exact mirrors_throw _
  · apply mirrors_modify
    rw [events]
    rfl

theorem unread_transitionStatus (orderId : Uuid) (newStatus : OrderStatus)
    (actor : Option Uuid) (message : String) :
    Mirrors Database.unread
      (transitionStatus session orderId newStatus actor message)
      (transitionStatus session orderId newStatus actor message) db := by
  have locks : Mirrors Database.unread (lockOrder orderId)
      (lockOrder orderId) db := by
    apply mirrors_get_bind
    rw [show db.unread.orders = db.orders from rfl]
    split
    · exact mirrors_pure _
    · exact mirrors_throw _
  apply Mirrors.atomic
  apply locks.bind
  intro order locked called
  split
  · apply (showsStock_unread.settleStock session rfl newStatus).bind
    intro _ settled _
    have saves : Mirrors Database.unread
        (saveOrder (order.enterStatus newStatus session.now))
        (saveOrder (order.enterStatus newStatus session.now)) settled :=
      mirrors_modify rfl
    apply saves.bind
    intro _ saved _
    apply (unread_createOrderEvent session saved _ _ _ _ rfl).bind
    intro _ recorded _
    exact mirrors_pure _
  · exact mirrors_throw _

theorem unread_moveOrder (order : Order) (newStatus : Option PaymentStatus) :
    Mirrors Database.unread (moveOrder session order newStatus)
      (moveOrder session order newStatus) db := by
  have discarded (status : OrderStatus) (message : String) :
      Mirrors Database.unread
        (do let _ ← transitionStatus session order.id status none message)
        (do let _ ← transitionStatus session order.id status none message)
        db :=
    (unread_transitionStatus session db _ _ _ _).bind
      fun _ _ _ => mirrors_pure _
  cases newStatus with
  | none => exact mirrors_pure _
  | some status =>
      cases status with
      | captured =>
          exact Mirrors.swallow (unread_transitionStatus session db _ _ _ _)
      | refunded => exact discarded _ _
      | pending | authorized => exact mirrors_pure _
      | failed | cancelled =>
          simp only [moveOrder]
          split
          · exact discarded _ _
          · exact mirrors_pure _

/-- Orders are looked up without reading what was stored of requests. -/
theorem unread_matchOrder (parsed : WebhookResult) :
    Mirrors Database.unread (matchOrder session gateway parsed)
      (matchOrder session gateway parsed.unread) db := by
  have byKey : Mirrors Database.unread (orderByKey gateway parsed.orderId)
      (orderByKey gateway parsed.orderId) db := by
    unfold orderByKey
    split
    · cases gateway.primaryKey parsed.orderId with
      | none => exact mirrors_throw _
      | some key =>
          apply mirrors_get_bind
          exact mirrors_pure _
    · exact mirrors_pure _
  apply byKey.bind
  intro found after called
  cases found with
  | some order => exact mirrors_pure _
  | none =>
      apply (mirrors_raising _ _).bind
      intro _ queried _
      apply mirrors_get_bind
      exact mirrors_pure _

omit session gateway in
theorem unread_updatedPayments (order : Uuid) (provider : Provider)
    (parsed : WebhookResult) :
    updatedPayments db.unread.payments order provider parsed.unread =
      (updatedPayments db.payments order provider parsed).alter
        Payment.unread Payment.key_unread := by
  unfold updatedPayments Database.unread
  rw [Table.alter_alter, Table.alter_alter]
  apply Table.alter_congr
  intro payment _
  change payment.unread.updatedBy _ _ _ = (payment.updatedBy _ _ _).unread
  unfold Payment.updatedBy
  have sameAlive : alive payment.unread = alive payment := rfl
  have sameOrder : payment.unread.isOf order provider =
      payment.isOf order provider := rfl
  rw [sameAlive, sameOrder]
  split <;> rfl

theorem unread_applyWebhook (provider : PaymentProvider)
    {parsed : WebhookResult} (holds : parsed.raw.storable = true) :
    Mirrors Database.unread (applyWebhook session gateway provider parsed)
      (applyWebhook session gateway provider parsed.unread) db := by
  unfold applyWebhook
  change Mirrors _ _ (if parsed.accepted = true then _ else _) db
  split
  · apply (unread_matchOrder session gateway db parsed).bind
    intro found matched _
    cases found with
    | none => exact mirrors_pure _
    | some order =>
        apply (unread_createOrderEvent session matched _ _ _ _ holds).bind
        intro _ recorded _
        apply (unread_moveOrder session recorded order _).bind
        intro _ moved _
        apply Mirrors.bind
        · apply mirrors_modify
          rw [unread_updatedPayments]
          rfl
        · intro _ updated _
          exact mirrors_pure _
  · exact mirrors_pure _

end Unread

namespace ClickProvider

/-- The form has the same fields, but for the amount and the signature. -/
def SameButAmount (params others : List (String × String)) : Prop :=
  ∀ name, name ≠ "amount" → name ≠ "sign_string" →
    others.lookup name = params.lookup name

/-- The fields of a form that the amount does not change. -/
def isFixed (param : String × String) : Bool :=
  param.1 ≠ "amount" && param.1 ≠ "sign_string"

theorem lookup_fixed {name : String} (notAmount : name ≠ "amount")
    (notSign : name ≠ "sign_string") (params : List (String × String)) :
    (params.filter isFixed).lookup name = params.lookup name := by
  induction params with
  | nil => rfl
  | cons param params ih =>
      obtain ⟨key, value⟩ := param
      by_cases same : name = key
      · subst same
        rw [List.filter_cons_of_pos (by simp [isFixed, notAmount, notSign])]
        simp
      · have differs : (name == key) = false := beq_false_of_ne same
        rw [List.lookup_cons, differs]
        by_cases fixed : isFixed (key, value) = true
        · rw [List.filter_cons_of_pos fixed, List.lookup_cons, differs]
          exact ih
        · rw [List.filter_cons_of_neg fixed]
          exact ih

theorem sameButAmount_of_fixed {params others : List (String × String)}
    (same : others.filter isFixed = params.filter isFixed) :
    SameButAmount params others := by
  intro name notAmount notSign
  rw [← lookup_fixed notAmount notSign, same, lookup_fixed notAmount notSign]

/-- The result of a callback whose signature matches. -/
def acceptedResult (params : List (String × String)) (action : Int) :
    WebhookResult where
  accepted := true
  eventType := .str s!"click.action.{action}"
  paymentReference := .str (field params "merchant_trans_id")
  newStatus := statusOf action
  raw := paramsJson params

theorem parseWebhook_of_signed {gateway : Gateway} {headers : Headers}
    {body : Bytes} {action : Int}
    (isAction : intOf (field (bodyParams body) "action" "0") = some action)
    (signed : signMatches gateway (bodyParams body) action = true) :
    parseWebhook gateway headers body =
      .ok (acceptedResult (bodyParams body) action) := by
  simp only [parseWebhook, isAction, signed, if_true]
  rfl

theorem parseWebhook_eq_ok {gateway : Gateway} {headers : Headers}
    {body : Bytes} {parsed : WebhookResult}
    (isParsed : parseWebhook gateway headers body = .ok parsed)
    (accepted : parsed.accepted = true) :
    ∃ action, intOf (field (bodyParams body) "action" "0") = some action ∧
      parsed = acceptedResult (bodyParams body) action := by
  unfold parseWebhook at isParsed
  cases isAction : intOf (field (bodyParams body) "action" "0") with
  | none =>
      simp only [isAction] at isParsed
      cases isParsed
      cases accepted
  | some action =>
      refine ⟨action, rfl, ?_⟩
      simp only [isAction] at isParsed
      split at isParsed
      · cases isParsed
        rfl
      · cases isParsed
        cases accepted

/-- What is stored of the request is all that tells the results of two
callbacks over different amounts apart. -/
theorem unread_acceptedResult {params others : List (String × String)}
    (same : SameButAmount params others) (action : Int) :
    (acceptedResult others action).unread =
      (acceptedResult params action).unread := by
  have sameOrder := same "merchant_trans_id" (by decide) (by decide)
  simp only [acceptedResult, WebhookResult.unread, field, sameOrder]

end ClickProvider

section Click

variable {session : Session} {gateway : Gateway} {headers : Headers}
  {body : Bytes} {db after : Database}

theorem storable_of_isRecordable {parsed : WebhookResult}
    (records : parsed.isRecordable gateway = true) :
    parsed.raw.storable = true := by
  rw [WebhookResult.isRecordable, recordable, Bool.and_eq_true] at records
  exact records.2

theorem handleWebhook_click (session : Session) (gateway : Gateway)
    (headers : Headers) (body : Bytes) {parsed : WebhookResult}
    (isParsed : ClickProvider.parseWebhook gateway headers body = .ok parsed)
    (db : Database) :
    handleWebhook session gateway "click" headers body db =
      atomic (applyWebhook session gateway .click parsed) db := by
  have parses : PaymentProvider.parseWebhook gateway headers body .click =
      .ok parsed := isParsed
  rw [handleWebhook, atomic, atomic,
    bind_of_eq_ok (show raising (getProvider "click") db = .ok .click db
      from rfl), parses,
    bind_of_eq_ok (show raising (.ok parsed) db = .ok parsed db from rfl)]

/-- An order that a transition or nothing has changed is the only one. -/
theorem Moved.orders_eq {order : Order} {status : Option PaymentStatus}
    (moved : Moved session order status db after) :
    after.orders = db.orders ∨
      ∃ row : Order, row.id = order.id ∧ after.orders = db.orders.save row := by
  have saved : ∀ {newStatus : OrderStatus} {db after : Database},
      Transitioned session order newStatus db after →
        ∃ row : Order, row.id = order.id ∧
          after.orders = db.orders.save row := by
    intro newStatus db after transitioned
    refine ⟨order.enterStatus newStatus session.now, ?_, ?_⟩
    · exact congrArg TimeStampedUUIDModel.id (base_enterStatus _ _ _)
    · rw [transitioned.frame]
  cases moved with
  | paid transitioned => exact Or.inr (saved transitioned)
  | notPaid => exact Or.inl rfl
  | cancelled _ _ transitioned => exact Or.inr (saved transitioned)
  | notCancelled => exact Or.inl rfl
  | refunded transitioned => exact Or.inr (saved transitioned)
  | stayed => exact Or.inl rfl

/-- A webhook changes the row of the order that it is matched with, and no
other order. -/
theorem WebhookMatched.eq_of_changed {provider : PaymentProvider}
    {parsed : WebhookResult} {matched : Order} {recorded moved : Database}
    (handled : WebhookMatched session gateway provider parsed matched db
      recorded moved after) {order changed : Order}
    (member : order ∈ db.orders.rows)
    (changedMem : changed ∈ after.orders.rows) (sameId : changed.id = order.id)
    (differs : changed.status ≠ order.status) :
    matched = order := by
  have sameOrders : recorded.orders = db.orders := handled.recorded_orders
  rw [handled.after_orders] at changedMem
  have unchanged : changed ∉ db.orders.rows := by
    intro stays
    have same := db.orders.eq_of_key_eq stays member sameId
    exact differs (congrArg Order.status same)
  rcases handled.movedOrder.orders_eq with same | ⟨row, rowId, saved⟩
  · rw [same, sameOrders] at changedMem
    exact absurd changedMem unchanged
  · rw [saved, sameOrders] at changedMem
    rcases Table.mem_save.mp changedMem with ⟨stays, _⟩ | ⟨rfl, _⟩
    · exact absurd stays unchanged
    · exact db.orders.eq_of_key_eq handled.member member
        (rowId.symm.trans sameId)

/-- An event without an order identifier is looked up by its reference. -/
theorem matchOrder_of_noKey {parsed : WebhookResult}
    (noKey : parsed.orderId.truthy = false)
    (queried : queryable gateway parsed.paymentReference = .ok ()) :
    matchOrder session gateway parsed db =
      .ok (orderByReference session gateway db parsed.paymentReference) db := by
  have noOrder : orderByKey gateway parsed.orderId db = .ok none db := by
    rw [orderByKey, noKey]
    rfl
  rw [matchOrder, bind_of_eq_ok noOrder]
  simp only [queried]
  rfl

/-- What was looked up held no null character. -/
theorem queryable_of_matched {parsed : WebhookResult} {found : Option Order}
    (noKey : parsed.orderId.truthy = false)
    (matched : matchOrder session gateway parsed db = .ok found db) :
    queryable gateway parsed.paymentReference = .ok () := by
  have noOrder : orderByKey gateway parsed.orderId db = .ok none db := by
    rw [orderByKey, noKey]
    rfl
  rw [matchOrder, bind_of_eq_ok noOrder] at matched
  obtain ⟨_, _, asked, _⟩ := bind_eq_ok.mp matched
  exact (raising_eq_ok asked).1

/-- An order that is looked up by its reference alone has the reference. -/
theorem paymentReference_of_matched {parsed : WebhookResult} {order : Order}
    {reference : String} (noKey : parsed.orderId = .str "")
    (named : parsed.paymentReference = .str reference)
    (matched : matchOrder session gateway parsed db = .ok (some order) db) :
    order.paymentReference = reference := by
  have noOrder : parsed.orderId.truthy = false := by
    rw [noKey]
    rfl
  rw [matchOrder_of_noKey noOrder (queryable_of_matched noOrder matched)]
    at matched
  obtain ⟨found, _⟩ := EStateM.Result.ok.inj matched
  unfold orderByReference at found
  split at found
  · have selected := List.mem_of_head? found
    have row := (session.orderBy_perm _ _ _).mem_iff.mp selected
    simp only [List.mem_filter, Bool.and_eq_true, decide_eq_true_eq, named]
      at row
    exact row.2.2
  · cases found

/-- A Click callback that moves an order to paid names the order by its payment
reference, and its amount does not count: the same callback signed over another
amount, which a column can hold, moves the order as well, and leaves the same
database but for what is stored of the requests. -/
theorem click_amount_unread {outcome : WebhookOutcome}
    (handled : handleWebhook session gateway "click" headers body db =
      .ok outcome after) {order paid : Order} (member : order ∈ db.orders.rows)
    (notPaid : order.status ≠ .paid) (paidMem : paid ∈ after.orders.rows)
    (sameId : paid.id = order.id) (isPaid : paid.status = .paid) :
    order.paymentReference = ClickProvider.field
        (ClickProvider.bodyParams body) "merchant_trans_id" ∧
      ∀ otherHeaders other,
        ClickProvider.SameButAmount (ClickProvider.bodyParams body)
            (ClickProvider.bodyParams other) →
          (ClickProvider.paramsJson
            (ClickProvider.bodyParams other)).storable = true →
          ClickProvider.IsSigned gateway other →
            ∃ otherAfter,
              handleWebhook session gateway "click" otherHeaders other db =
                .ok outcome otherAfter ∧ otherAfter.unread = after.unread := by
  have differs : paid.status ≠ order.status := by
    rw [isPaid]
    exact Ne.symm notPaid
  have unchanged : db ≠ after := by
    rintro rfl
    have same := db.orders.eq_of_key_eq paidMem member sameId
    exact differs (congrArg Order.status same)
  obtain ⟨parsed, isParsed, applied⟩ : ∃ parsed,
      ClickProvider.parseWebhook gateway headers body = .ok parsed ∧
        applyWebhook session gateway .click parsed db = .ok outcome after := by
    rw [handleWebhook, atomic_eq_ok] at handled
    obtain ⟨provider, _, looked, rest⟩ := bind_eq_ok.mp handled
    obtain ⟨registered, rfl⟩ := raising_eq_ok looked
    obtain rfl : .click = provider := Except.ok.inj registered
    obtain ⟨parsed, _, read, rest⟩ := bind_eq_ok.mp rest
    obtain ⟨isParsed, rfl⟩ := raising_eq_ok read
    exact ⟨parsed, isParsed, rest⟩
  rcases applyWebhook_eq_ok applied with
    same | ⟨found, recorded, moved, matched⟩
  · exact absurd same unchanged
  obtain ⟨action, isAction, rfl⟩ :=
    ClickProvider.parseWebhook_eq_ok isParsed matched.accepted
  obtain rfl := matched.eq_of_changed member paidMem sameId differs
  refine ⟨paymentReference_of_matched rfl rfl matched.matched, ?_⟩
  rintro otherHeaders other same holds ⟨otherAction, hasAction, signed⟩
  have sameAction := same "action" (by decide) (by decide)
  have actions : some otherAction = some action := by
    rw [← isAction, ← Option.mem_def.mp hasAction]
    simp only [ClickProvider.field, sameAction]
  obtain rfl := Option.some.inj actions
  have otherParsed : ClickProvider.parseWebhook gateway otherHeaders other =
      .ok (ClickProvider.acceptedResult (ClickProvider.bodyParams other)
        otherAction) :=
    ClickProvider.parseWebhook_of_signed hasAction signed
  have image := (unread_applyWebhook session gateway db .click
    (storable_of_isRecordable matched.records)).eq_ok applied
  rw [← ClickProvider.unread_acceptedResult same,
    unread_applyWebhook session gateway db .click holds] at image
  rw [handleWebhook_click session gateway otherHeaders other otherParsed]
  cases called : applyWebhook session gateway .click
      (ClickProvider.acceptedResult (ClickProvider.bodyParams other)
        otherAction) db with
  | ok otherOutcome otherAfter =>
      rw [called] at image
      obtain ⟨rfl, sameAfter⟩ := EStateM.Result.ok.inj image
      exact ⟨otherAfter, atomic_eq_ok.mpr called, sameAfter⟩
  | error raised otherAfter =>
      rw [called] at image
      cases image

end Click

/-- A deployment with Click, and the digests that it needs. -/
def clickDeployment : Gateway :=
  { deployment accepted with
    settings := {
      clickServiceId := some "5"
      clickMerchantId := some "9"
      clickSecretKey := some "secret" }
    md5Hex := fun text =>
      if text = "secretN129.981" then "3deb58063b7143b7151602b6b5a0a128"
      else if text = "secretN10.011" then "687c57044294d7c449c86de625171bcd"
      else "" }

/-- The callback over what the order `N1` costs. -/
def fullBody : Bytes :=
  ascii ("merchant_trans_id=N1&amount=29.98&action=1&" ++
    "sign_string=3deb58063b7143b7151602b6b5a0a128")

/-- The callback over a cent. -/
def centBody : Bytes :=
  ascii ("merchant_trans_id=N1&amount=0.01&action=1&" ++
    "sign_string=687c57044294d7c449c86de625171bcd")

/-- The fields of a callback. -/
def clickParams (amount sign : String) : List (String × String) :=
  [("merchant_trans_id", "N1"), ("amount", amount), ("action", "1"),
    ("sign_string", sign)]

theorem bodyParams_fullBody : ClickProvider.bodyParams fullBody =
    clickParams "29.98" "3deb58063b7143b7151602b6b5a0a128" := by
  decide +kernel

theorem bodyParams_centBody : ClickProvider.bodyParams centBody =
    clickParams "0.01" "687c57044294d7c449c86de625171bcd" := by
  decide +kernel

/-- What the fields of a signed callback do. -/
def clickCallback (amount sign : String) : Service WebhookOutcome :=
  atomic (applyWebhook { now := 5 } clickDeployment .click
    (ClickProvider.acceptedResult (clickParams amount sign) 1))

/-- A callback that is read as a signed form is handled as its fields say. -/
theorem handleWebhook_clickParams {body : Bytes} {amount sign : String}
    (isForm : ClickProvider.bodyParams body = clickParams amount sign)
    (signed : ClickProvider.signMatches clickDeployment
      (clickParams amount sign) 1 = true) (db : Database) :
    ClickProvider.IsSigned clickDeployment body ∧
      handleWebhook { now := 5 } clickDeployment "click" [] body db =
        clickCallback amount sign db := by
  have isAction : intOf (ClickProvider.field (ClickProvider.bodyParams body)
      "action" "0") = some 1 := by
    rw [isForm]
    change intOf "1" = some 1
    decide
  rw [clickCallback, ← isForm]
  rw [← isForm] at signed
  exact ⟨⟨1, isAction, signed⟩, handleWebhook_click _ _ _ _
    (ClickProvider.parseWebhook_of_signed isAction signed) db⟩

/-- An order with a Click charge. -/
def clickOrder : Database :=
  exec StoreCommand.step (twoCarts 5) [checkoutOf 10 "N1",
    .createPayment { now := 4 } clickDeployment 1 "click" "" ""]

theorem click_amount_unread_full :
    ∃ outcome after,
      handleWebhook { now := 5 } clickDeployment "click" [] fullBody
        clickOrder = .ok outcome after ∧
      ∃ otherAfter, handleWebhook { now := 5 } clickDeployment "click" []
        centBody clickOrder = .ok outcome otherAfter ∧
          otherAfter.unread = after.unread := by
  have handles := (handleWebhook_clickParams bodyParams_fullBody
    (by decide +kernel) clickOrder).2
  have signed := (handleWebhook_clickParams bodyParams_centBody
    (by decide +kernel) clickOrder).1
  have same : ClickProvider.SameButAmount
      (ClickProvider.bodyParams fullBody)
      (ClickProvider.bodyParams centBody) := by
    rw [bodyParams_fullBody, bodyParams_centBody]
    exact ClickProvider.sameButAmount_of_fixed rfl
  have returns : Returns (clickCallback "29.98"
      "3deb58063b7143b7151602b6b5a0a128") clickOrder := by
    decide +kernel
  have pays : ∃ order ∈ clickOrder.orders.rows, order.status ≠ .paid ∧
      ∃ paid ∈ (settle (clickCallback "29.98"
        "3deb58063b7143b7151602b6b5a0a128") clickOrder).orders.rows,
        paid.id = order.id ∧ paid.status = .paid := by
    decide +kernel
  obtain ⟨outcome, after, applied⟩ := returns
  rw [settle_of_eq_ok applied] at pays
  obtain ⟨order, member, notPaid, paid, paidMem, sameId, isPaid⟩ := pays
  have returned := handles.trans applied
  have unread := click_amount_unread returned member notPaid paidMem sameId
    isPaid
  have holds : (ClickProvider.paramsJson
      (ClickProvider.bodyParams centBody)).storable = true := by
    rw [bodyParams_centBody]
    decide +kernel
  exact ⟨outcome, after, returned, unread.2 [] centBody same holds signed⟩

/-- A callback over a cent, signed under the secret, moves the order to
paid. -/
theorem paid_for_a_cent :
    let after := settle
      (handleWebhook { now := 5 } clickDeployment "click" [] centBody)
      clickOrder
    ClickProvider.secretKey clickDeployment ≠ "" ∧
      ClickProvider.IsSigned clickDeployment centBody ∧
      ClickProvider.field (ClickProvider.bodyParams centBody) "amount" =
        amountText 1 ∧
      clickOrder.orders.rows.map Order.status = [.pending] ∧
      after.orders.rows.map Order.status = [.paid] ∧
      after.orders.rows.map Order.grandTotal = [2998] := by
  obtain ⟨signed, handles⟩ := handleWebhook_clickParams bodyParams_centBody
    (by decide +kernel) clickOrder
  rw [bodyParams_centBody, settle, handles]
  refine ⟨by decide, signed, by decide +kernel, ?_⟩
  decide +kernel

end NovaCommerce
