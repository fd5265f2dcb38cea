import NovaCommerce.OrderTransactions
import NovaCommerce.PaymentEffects
import NovaCommerce.Savepoints

/-!
# The payment services, statement by statement

A charge attempt writes its payment row, and then its order, whose row lock it
waits for.  A webhook locks the order that it names before it looks at the
status; a transition to `paid` runs under a savepoint, so that a webhook is
recorded even if its order cannot be moved.  Alone, the statements return what
the services return.
-/

namespace NovaCommerce

open AtomicCall LockingTransactions

namespace Statements

/-- A step that reads and writes nothing. -/
def raising {Value : Type} (result : Raising Value) : Statements Value :=
  match result with
  | .ok value => pure value
  | .error exception => .fail exception

/-- `Payment.objects.create`; `paymentId` is the identifier that the payment
draws. -/
def createPaymentRow (session : Session) (order : Order)
    (provider : Provider) (intent : ChargeIntent) (paymentId : Uuid) :
    Statements Payment := do
  let db ← .query true
  if !intent.jsonable.storable then
    .fail (.databaseError "value does not fit its column")
  else if (db.orders.find? order.id).isNone then
    .fail (.integrityError "foreign key order")
  else if paymentId ∈ db.payments.keys then
    .fail (.integrityError "unique id")
  else do
    .execute fun db => { db with
      payments := db.payments.insertNew
        (newPayment session order provider intent paymentId) }
    pure (newPayment session order provider intent paymentId)

/-- `payment.save(update_fields=[...])`: no other client sees the row yet. -/
def savePayment (payment : Payment) : Statements Unit :=
  if !payment.fitsColumns then
    .fail (.databaseError "value does not fit its column")
  else .execute fun db => { db with payments := db.payments.save payment }

/-- The orders with another payment reference in one row. -/
def withReference (orders : Table Order) (id : Uuid)
    (provider reference : String) : Table Order :=
  orders.alter
    (fun row => if row.id = id then { row with
        paymentProvider := provider
        paymentReference := reference } else row)
    (by
      intro row
      split <;> rfl)

/-- `order.save(update_fields=["payment_provider", ...])`: an update, which
waits for the lock of the row. -/
def saveOrderReference (order : Uuid) (provider reference : String) :
    Statements Unit := do
  let db ← .acquire (.order order)
  if (db.orders.find? order).isNone then
    .fail (.databaseError "Save with update_fields did not affect any rows.")
  else .execute fun db => { db with
    orders := withReference db.orders order provider reference }

def recordCharge (order : Uuid) (provider : String) (result : ChargeResult) :
    Statements Unit :=
  if result.success then
    saveOrderReference order provider result.providerReference
  else pure ()

def createPayment (session : Session) (gateway : Gateway) (order : Order)
    (paymentId : Uuid) (providerCode successUrl cancelUrl : String) :
    Statements Payment := do
  let provider ← raising (getProvider providerCode)
  let intent := chargeIntent order successUrl cancelUrl
  let payment ← createPaymentRow session order provider.code intent paymentId
  let result ← raising (provider.createCharge gateway intent)
  savePayment (payment.answered result)
  recordCharge order.id providerCode result
  pure (payment.answered result)

/-- `select_for_update()...first()`: rows are locked in the order of the query
until one is found that is still `current`. -/
def lockFirst {Row : Type} (key : Uuid → RowKey)
    (current : Database → Uuid → Option Row) :
    List Uuid → Statements (Option Row)
  | [] => pure none
  | id :: ids => do
      let db ← .acquire (key id)
      match current db id with
      | some row => pure (some row)
      | none => lockFirst key current ids

/-- `Order.objects.select_for_update().get(pk=...)`, or no order. -/
def orderByKey (gateway : Gateway) (orderId : Json) :
    Statements (Option Order) :=
  if orderId.truthy then
    match gateway.primaryKey orderId with
    | none => .fail (.validationError "is not a valid UUID")
    | some key => do
        let orders ← selectForUpdate .order Database.orders
          (fun _ order => order.id = key)
          (fun db => ((objects db.orders).find? fun order =>
            order.id = key).toList)
        pure orders.head?
  else pure none

/-- `Order.objects.select_for_update().filter(payment_reference=...)`. -/
def orderByReference (session : Session) (gateway : Gateway)
    (reference : Json) : Statements (Option Order) :=
  if reference.truthy then do
    let db ← .query true
    lockFirst .order
      (selectedRow Database.orders fun _ order =>
        order.paymentReference = gateway.text reference)
      ((session.orderBy db.orders
        (fun order => order.paymentReference = gateway.text reference)
        (fun first second => second.createdAt ≤ first.createdAt)).map
          Keyed.key)
  else pure none

def matchOrder (session : Session) (gateway : Gateway)
    (parsed : WebhookResult) : Statements (Option Order) := do
  match ← orderByKey gateway parsed.orderId with
  | some order => pure (some order)
  | none => do
      raising (queryable gateway parsed.paymentReference)
      orderByReference session gateway parsed.paymentReference

/-- `try: ... except Exception: ...` around an atomic call. -/
def swallow {Value : Type} (call : Statements Value) : Statements Unit := do
  let _ ← call.attempt
  pure ()

def moveOrder (session : Session) (order : Order)
    (newStatus : Option PaymentStatus) : Statements Unit :=
  match newStatus with
  | some .captured =>
      swallow (transitionStatus session order.id .paid none "paid via webhook")
  | some .refunded => do
      let _ ← transitionStatus session order.id .refunded none
        "refunded via webhook"
      pure ()
  | some status =>
      if (status = .failed || status = .cancelled) &&
          order.status = .pending then do
        let _ ← transitionStatus session order.id .cancelled none
          s!"cancelled via webhook ({status.value})"
        pure ()
      else pure ()
  | none => pure ()

/-- `Payment.objects.filter(...).update(...)`: whoever else updates payments of
the order holds its lock. -/
def updatePayments (order : Uuid) (provider : Provider)
    (parsed : WebhookResult) : Statements Unit :=
  .execute fun db => { db with
    payments := updatedPayments db.payments order provider parsed }

def applyWebhook (session : Session) (gateway : Gateway)
    (provider : PaymentProvider) (parsed : WebhookResult) :
    Statements WebhookOutcome :=
  if parsed.accepted then do
    match ← matchOrder session gateway parsed with
    | none => pure .unmatched
    | some order => do
        createOrderEvent session order.id
          s!"webhook:{gateway.text parsed.eventType}"
          "payment provider webhook" none parsed.raw
        moveOrder session order parsed.newStatus
        updatePayments order.id provider.code parsed
        pure (.matched order.number)
  else pure (.rejected parsed.error)

def handleWebhook (session : Session) (gateway : Gateway)
    (providerCode : String) (headers : Headers) (body : TextDecoding.Bytes) :
    Statements WebhookOutcome := do
  let provider ← raising (getProvider providerCode)
  let parsed ← raising (provider.parseWebhook gateway headers body)
  applyWebhook session gateway provider parsed

end Statements

section Alone

open Transaction

variable {session : Session} {gateway : Gateway} {db after : Database}

theorem alone_raising {Value : Type} (result : Raising Value) :
    (Statements.raising result).alone = raising result := by
  cases result <;> rfl

/-- Alone, the identifier that is drawn may be the first free one. -/
theorem alone_createPaymentRow (order : Order) (provider : Provider)
    (intent : ChargeIntent) :
    (Statements.createPaymentRow session order provider intent
        (FreshKey.fresh db.payments.keys)).alone db =
      createPaymentRow session order provider intent db := by
  have unused : FreshKey.fresh db.payments.keys ∉ db.payments.keys :=
    FreshKey.fresh_notMem _
  rw [Statements.createPaymentRow, alone_query_bind, createPaymentRow,
    get_bind]
  by_cases unstorable : (!intent.jsonable.storable) = true
  · rw [if_pos unstorable, if_pos unstorable]
    rfl
  rw [if_neg unstorable, if_neg unstorable]
  by_cases missing : (db.orders.find? order.id).isNone = true
  · rw [if_pos missing, if_pos missing]
    rfl
  · rw [if_neg missing, if_neg missing, if_neg unused]
    have inserted : db.payments.insertNew (newPayment session order provider
        intent (FreshKey.fresh db.payments.keys)) =
      db.payments.create (newPayment session order provider intent)
        (key_newPayment session order provider intent) :=
      Table.ext ((Table.rows_insertNew unused).trans
        (Table.rows_create _ _ _).symm)
    exact congrArg (fun payments => EStateM.Result.ok
      (newPayment session order provider intent _)
      { db with payments := payments }) inserted

theorem withReference_eq_save {orders : Table Order} {row : Order}
    (member : row ∈ orders.rows) (provider reference : String) :
    Statements.withReference orders row.id provider reference =
      orders.save { row with
        paymentProvider := provider
        paymentReference := reference } := by
  refine Eq.trans (Table.alter_eq_save _ member fun other otherNe =>
    if_neg otherNe) ?_
  rw [if_pos rfl]

theorem alone_saveOrderReference (order : Uuid)
    (provider reference : String) :
    (Statements.saveOrderReference order provider reference).alone db =
      saveOrderReference order provider reference db := by
  have acquired : (Transaction.acquire (.order order) :
      Statements Database).alone db = .ok db db := rfl
  rw [Statements.saveOrderReference, alone_bind, bind_of_eq_ok acquired,
    saveOrderReference, get_bind]
  cases found : db.orders.find? order with
  | none => rfl
  | some row =>
      obtain ⟨member, rfl⟩ := Table.find?_eq_some.mp found
      exact congrArg (fun orders => EStateM.Result.ok ()
        { db with orders := orders })
        (withReference_eq_save member provider reference)

theorem alone_savePayment (payment : Payment) :
    (Statements.savePayment payment).alone = savePayment payment := by
  unfold Statements.savePayment savePayment
  split <;> rfl

/-- Alone, the statements of a charge attempt return exactly what the service
returns. -/
theorem alone_createPayment {order : Order}
    {providerCode successUrl cancelUrl : String} {payment : Payment} :
    (Statements.createPayment session gateway order
        (FreshKey.fresh db.payments.keys) providerCode successUrl
        cancelUrl).alone db = .ok payment after ↔
      createPayment session gateway order providerCode successUrl cancelUrl
        db = .ok payment after := by
  rw [createPayment, atomic_eq_ok, Statements.createPayment, alone_bind,
    alone_raising, bind_eq_ok, bind_eq_ok]
  refine exists_congr fun provider => exists_congr fun middle => ?_
  refine and_congr_right fun looked => ?_
  obtain ⟨_, rfl⟩ := raising_eq_ok looked
  rw [alone_bind, bind_eq_ok, bind_eq_ok, alone_createPaymentRow]
  refine exists_congr fun row => exists_congr fun created => ?_
  refine and_congr_right fun _ => ?_
  rw [alone_bind, alone_raising, bind_eq_ok, bind_eq_ok]
  refine exists_congr fun result => exists_congr fun charged => ?_
  refine and_congr_right fun _ => ?_
  rw [alone_bind, alone_savePayment, bind_eq_ok, bind_eq_ok]
  refine exists_congr fun _ => exists_congr fun saved => ?_
  refine and_congr_right fun _ => ?_
  rw [alone_bind, bind_eq_ok, bind_eq_ok]
  refine exists_congr fun _ => exists_congr fun final => ?_
  have recorded : (Statements.recordCharge order.id providerCode
      result).alone saved = recordCharge order.id providerCode result
        saved := by
    unfold Statements.recordCharge recordCharge
    split
    · exact alone_saveOrderReference _ _ _
    · rfl
  rw [recorded]
  rfl

theorem alone_lockFirst {Row : Type} (key : Uuid → RowKey)
    (current : Database → Uuid → Option Row) (ids : List Uuid) :
    (Statements.lockFirst key current ids).alone db =
      .ok (ids.filterMap (current db)).head? db := by
  induction ids with
  | nil => rfl
  | cons id ids ih =>
      have acquired : (Transaction.acquire (key id) :
          Statements Database).alone db = .ok db db := rfl
      rw [Statements.lockFirst, alone_bind, bind_of_eq_ok acquired]
      cases selected : current db id with
      | none =>
          rw [List.filterMap_cons_none selected]
          exact ih
      | some row =>
          rw [List.filterMap_cons_some selected]
          rfl

theorem alone_orderByKey (orderId : Json) :
    (Statements.orderByKey gateway orderId).alone db =
      orderByKey gateway orderId db := by
  unfold Statements.orderByKey orderByKey
  split
  · cases gateway.primaryKey orderId with
    | none => rfl
    | some key =>
        have locked : (Statements.selectForUpdate .order Database.orders
            (fun _ order => decide (order.id = key))
            (fun db => ((objects db.orders).find? fun order =>
              order.id = key).toList)).alone db =
            .ok ((objects db.orders).find? fun order =>
              order.id = key).toList db := by
          apply alone_selectForUpdate
          intro row listed
          have found := Option.mem_toList.mp listed
          have selected := List.mem_filter.mp (List.mem_of_find?_eq_some found)
          have hasKey := List.find?_some found
          exact ⟨selected.1, by rw [selected.2, hasKey]; rfl⟩
        dsimp only
        rw [alone_bind, bind_of_eq_ok locked, get_bind]
        cases (objects db.orders).find? fun order => order.id = key <;> rfl
  · rfl

theorem alone_orderByReference (reference : Json) :
    (Statements.orderByReference session gateway reference).alone db =
      .ok (orderByReference session gateway db reference) db := by
  unfold Statements.orderByReference orderByReference
  split
  · rw [alone_query_bind, alone_lockFirst, filterMap_selectedRow]
    intro row listed
    have selected := (session.orderBy_perm _ _ _).mem_iff.mp listed
    exact List.mem_filter.mp selected
  · rfl

theorem alone_matchOrder (parsed : WebhookResult) :
    (Statements.matchOrder session gateway parsed).alone db =
      matchOrder session gateway parsed db := by
  rw [Statements.matchOrder, matchOrder, alone_bind]
  cases looked : orderByKey gateway parsed.orderId db with
  | error raised failed =>
      rw [bind_of_eq_error looked,
        bind_of_eq_error ((alone_orderByKey _).trans looked)]
  | ok found middle =>
      rw [bind_of_eq_ok looked,
        bind_of_eq_ok ((alone_orderByKey _).trans looked)]
      cases found with
      | some order => rfl
      | none =>
          dsimp only
          rw [alone_bind, alone_raising]
          cases asked : queryable gateway parsed.paymentReference with
          | error raised => rfl
          | ok _ => exact alone_orderByReference _

/-- A transition that fails under a savepoint leaves nothing behind. -/
theorem alone_swallow_transitionStatus {orderId : Uuid}
    {newStatus : OrderStatus} {actor : Option Uuid} {message : String} :
    (Statements.swallow (Statements.transitionStatus session orderId newStatus
        actor message)).alone db =
      swallow (transitionStatus session orderId newStatus actor message)
        db := by
  rw [Statements.swallow, alone_bind, swallow]
  cases called : transitionStatus session orderId newStatus actor message
      db with
  | ok changed moved =>
      rw [bind_of_eq_ok
        (alone_attempt_of_ok (alone_transitionStatus.mpr called))]
      rfl
  | error raised failed =>
      have unchanged : failed = db := atomic_eq_error called
      cases alone : (Statements.transitionStatus session orderId newStatus
          actor message).alone db with
      | ok changed moved =>
          rw [alone_transitionStatus.mp alone] at called
          cases called
      | error _ _ =>
          rw [bind_of_eq_ok (alone_attempt_of_error alone), unchanged]
          rfl

theorem alone_moveOrder {order : Order} {newStatus : Option PaymentStatus} :
    (Statements.moveOrder session order newStatus).alone db = .ok () after ↔
      moveOrder session order newStatus db = .ok () after := by
  have moves : ∀ status message,
      (do let _ ← Statements.transitionStatus session order.id status none
            message
          pure () : Statements Unit).alone db = .ok () after ↔
        (do let _ ← transitionStatus session order.id status none message
            pure () : Service Unit) db = .ok () after := by
    intro status message
    rw [alone_bind, bind_eq_ok, bind_eq_ok]
    exact exists_congr fun _ => exists_congr fun _ =>
      and_congr_left fun _ => alone_transitionStatus
  have cancels : ∀ status : PaymentStatus,
      (if (status = .failed || status = .cancelled) &&
          order.status = .pending then do
        let _ ← Statements.transitionStatus session order.id .cancelled none
          s!"cancelled via webhook ({status.value})"
        pure ()
      else pure () : Statements Unit).alone db = .ok () after ↔
      (if (status = .failed || status = .cancelled) &&
          order.status = .pending then do
        let _ ← transitionStatus session order.id .cancelled none
          s!"cancelled via webhook ({status.value})"
      else pure () : Service Unit) db = .ok () after := by
    intro status
    split
    · exact moves _ _
    · rfl
  cases newStatus with
  | none => rfl
  | some status =>
      cases status with
      | captured =>
          exact Eq.congr_left alone_swallow_transitionStatus
      | refunded => exact moves _ _
      | pending => exact cancels .pending
      | authorized => exact cancels .authorized
      | failed => exact cancels .failed
      | cancelled => exact cancels .cancelled

/-- Alone, the statements of a webhook return exactly what the service
returns. -/
theorem alone_handleWebhook {providerCode : String} {headers : Headers}
    {body : TextDecoding.Bytes} {outcome : WebhookOutcome} :
    (Statements.handleWebhook session gateway providerCode headers
        body).alone db = .ok outcome after ↔
      handleWebhook session gateway providerCode headers body db =
        .ok outcome after := by
  rw [handleWebhook, atomic_eq_ok, Statements.handleWebhook, alone_bind,
    alone_raising, bind_eq_ok, bind_eq_ok]
  refine exists_congr fun provider => exists_congr fun _ => ?_
  refine and_congr_right fun _ => ?_
  rw [alone_bind, alone_raising, bind_eq_ok, bind_eq_ok]
  refine exists_congr fun parsed => exists_congr fun _ => ?_
  refine and_congr_right fun _ => ?_
  unfold Statements.applyWebhook applyWebhook
  split
  · rw [alone_bind, bind_eq_ok, bind_eq_ok]
    refine exists_congr fun found => exists_congr fun _ => ?_
    rw [alone_matchOrder]
    refine and_congr_right fun _ => ?_
    cases found with
    | none => rfl
    | some order =>
        dsimp only
        rw [alone_bind, alone_createOrderEvent, bind_eq_ok, bind_eq_ok]
        refine exists_congr fun _ => exists_congr fun _ => ?_
        refine and_congr_right fun _ => ?_
        rw [alone_bind, bind_eq_ok, bind_eq_ok]
        refine exists_congr fun _ => exists_congr fun _ => ?_
        rw [alone_moveOrder]
        rfl
  · rfl

end Alone

end NovaCommerce
