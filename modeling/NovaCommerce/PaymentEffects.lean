import NovaCommerce.PaymentServices
import NovaCommerce.TransitionEffects

/-!
# What the payment services do to the tables

A charge attempt appends one payment row and may write the reference of its
order.  A webhook that is matched records an event, moves the order if the
event asks for it, and rewrites the status of every payment that the order has
with the provider.
-/

namespace NovaCommerce

open AtomicCall TextDecoding

theorem raising_eq_ok {Value : Type} {result : Raising Value} {value : Value}
    {db after : Database}
    (returned : raising result db = .ok value after) :
    result = .ok value ∧ db = after := by
  cases result with
  | error raised =>
      rw [raising] at returned
      exact (throw_eq_ok.mp returned).elim
  | ok result =>
      obtain ⟨rfl, rfl⟩ := pure_eq_ok.mp returned
      exact ⟨rfl, rfl⟩

/-- One payment row was appended for a charge attempt. -/
structure Charged (session : Session) (order : Order)
    (provider : PaymentProvider) (db after : Database) (payment : Payment) :
    Prop where
  hasOrder : order.id ∈ db.orders.keys
  payments_eq : after.payments.rows = db.payments.rows ++ [payment]
  isAlive : alive payment = true
  order_eq : payment.order = order.id
  provider_eq : payment.provider = provider.code
  amount_eq : payment.amount = order.grandTotal
  currency_eq : payment.currency = order.currency
  status_eq : payment.status = .pending ∨ payment.status = .failed
  orders_eq : after.orders = db.orders ∨
    ∃ row ∈ db.orders.rows, ∃ reference providerCode,
      after.orders = db.orders.save { row with
        paymentProvider := providerCode
        paymentReference := reference }
  frame : after = { db with
    payments := after.payments
    orders := after.orders }

section Charge

variable {session : Session} {order : Order} {db after : Database}

theorem createPaymentRow_eq_ok {provider : Provider} {intent : ChargeIntent}
    {payment : Payment}
    (returned : createPaymentRow session order provider intent db =
      .ok payment after) :
    order.id ∈ db.orders.keys ∧
      payment = newPayment session order provider intent
        (FreshKey.fresh db.payments.keys) ∧
      after = { db with
        payments := db.payments.create
          (newPayment session order provider intent)
          (key_newPayment session order provider intent) } := by
  obtain ⟨_, _, read, rest⟩ := bind_eq_ok.mp returned
  obtain ⟨rfl, rfl⟩ := get_eq_ok.mp read
  obtain ⟨_, rest⟩ := refusing_eq_ok.mp rest
  cases found : db.orders.find? order.id with
  | none => simp [found] at rest
  | some row =>
      simp only [found, Option.isNone_some] at rest
      obtain ⟨_, _, modified, finished⟩ := bind_eq_ok.mp rest
      obtain ⟨rfl, rfl⟩ := pure_eq_ok.mp finished
      have rowKey := Table.find?_eq_some.mp found
      exact ⟨rowKey.2 ▸ List.mem_map_of_mem rowKey.1, rfl,
        (modify_eq_ok.mp modified).symm⟩

theorem saveOrderReference_eq_ok {id : Uuid} {provider reference : String}
    (returned : saveOrderReference id provider reference db = .ok () after) :
    ∃ row, db.orders.find? id = some row ∧ after = { db with
      orders := db.orders.save { row with
        paymentProvider := provider
        paymentReference := reference } } := by
  obtain ⟨_, _, read, rest⟩ := bind_eq_ok.mp returned
  obtain ⟨rfl, rfl⟩ := get_eq_ok.mp read
  cases found : db.orders.find? id with
  | none => simp [found] at rest
  | some row =>
      simp only [found, saveOrder, modify_eq_ok] at rest
      exact ⟨row, rfl, rest.symm⟩

theorem base_answered (payment : Payment) (result : ChargeResult) :
    (payment.answered result).toTimeStampedUUIDModel =
      payment.toTimeStampedUUIDModel := by
  unfold Payment.answered
  split <;> rfl

/-- The answer of the provider writes neither the order, the provider, the
amount nor the currency of a payment. -/
theorem answered_eq (payment : Payment) (result : ChargeResult) :
    (payment.answered result).order = payment.order ∧
      (payment.answered result).provider = payment.provider ∧
      (payment.answered result).amount = payment.amount ∧
      (payment.answered result).currency = payment.currency ∧
      ((payment.answered result).status = .pending ∨
        (payment.answered result).status = .failed) := by
  unfold Payment.answered
  split
  · exact ⟨rfl, rfl, rfl, rfl, Or.inl rfl⟩
  · exact ⟨rfl, rfl, rfl, rfl, Or.inr rfl⟩

/-- A charge attempt appends a payment; if it was successful, its order gets
the reference of the payment. -/
theorem createPayment_charges {gateway : Gateway}
    {providerCode successUrl cancelUrl : String} {payment : Payment}
    (returned : createPayment session gateway order providerCode successUrl
      cancelUrl db = .ok payment after) :
    ∃ provider, getProvider providerCode = .ok provider ∧
      Charged session order provider db after payment ∧
      (payment.status = .failed ∧ after.orders = db.orders ∨
        payment.status = .pending ∧
          ∃ row, db.orders.find? order.id = some row ∧
            after.orders = db.orders.save { row with
              paymentProvider := providerCode
              paymentReference := payment.providerReference }) := by
  rw [createPayment, atomic_eq_ok] at returned
  obtain ⟨provider, _, looked, rest⟩ := bind_eq_ok.mp returned
  obtain ⟨registered, rfl⟩ := raising_eq_ok looked
  obtain ⟨created, _, inserted, rest⟩ := bind_eq_ok.mp rest
  obtain ⟨hasOrder, rfl, rfl⟩ := createPaymentRow_eq_ok inserted
  obtain ⟨result, _, asked, rest⟩ := bind_eq_ok.mp rest
  obtain ⟨_, rfl⟩ := raising_eq_ok asked
  obtain ⟨_, _, saved, rest⟩ := bind_eq_ok.mp rest
  obtain ⟨_, saved⟩ := refusing_eq_ok.mp saved
  obtain rfl := modify_eq_ok.mp saved
  obtain ⟨order_eq, provider_eq, amount_eq, currency_eq, status_eq⟩ :=
    answered_eq
    (newPayment session order provider.code
      (chargeIntent order successUrl cancelUrl)
      (FreshKey.fresh db.payments.keys)) result
  have base := base_answered
    (newPayment session order provider.code
      (chargeIntent order successUrl cancelUrl)
      (FreshKey.fresh db.payments.keys)) result
  have isAlive := congrArg (fun base => base.deletedAt.isNone) base
  have rows := db.payments.rows_save_create
    (newPayment session order provider.code
      (chargeIntent order successUrl cancelUrl))
    (key_newPayment session order provider.code
      (chargeIntent order successUrl cancelUrl))
    (congrArg TimeStampedUUIDModel.id base)
  refine ⟨provider, registered, ?_⟩
  obtain ⟨_, _, referenced, finished⟩ := bind_eq_ok.mp rest
  obtain ⟨rfl, rfl⟩ := pure_eq_ok.mp finished
  unfold recordCharge at referenced
  by_cases success : result.success = true
  · simp only [success, if_true] at referenced
    obtain ⟨row, found, rfl⟩ := saveOrderReference_eq_ok referenced
    have rowMem := (Table.find?_eq_some.mp found).1
    exact ⟨⟨hasOrder, rows, isAlive, order_eq, provider_eq, amount_eq,
      currency_eq, status_eq, Or.inr ⟨row, rowMem, _, _, rfl⟩, rfl⟩,
      Or.inr ⟨by simp [Payment.answered, success], row, found,
        by simp [Payment.answered, success]⟩⟩
  · simp only [success] at referenced
    obtain ⟨_, rfl⟩ := pure_eq_ok.mp referenced
    exact ⟨⟨hasOrder, rows, isAlive, order_eq, provider_eq, amount_eq,
      currency_eq, status_eq, Or.inl rfl, rfl⟩,
      Or.inl ⟨by simp [Payment.answered, success], rfl⟩⟩

theorem createPayment_eq_ok {gateway : Gateway}
    {providerCode successUrl cancelUrl : String} {payment : Payment}
    (returned : createPayment session gateway order providerCode successUrl
      cancelUrl db = .ok payment after) :
    ∃ provider, getProvider providerCode = .ok provider ∧
      Charged session order provider db after payment := by
  obtain ⟨provider, registered, charged, _⟩ := createPayment_charges returned
  exact ⟨provider, registered, charged⟩

/-- A payment that a charge attempt returns was stored. -/
theorem fitsColumns_of_createPayment {gateway : Gateway}
    {providerCode successUrl cancelUrl : String} {payment : Payment}
    (returned : createPayment session gateway order providerCode successUrl
      cancelUrl db = .ok payment after) : payment.fitsColumns = true := by
  rw [createPayment, atomic_eq_ok] at returned
  obtain ⟨provider, _, _, rest⟩ := bind_eq_ok.mp returned
  obtain ⟨created, _, _, rest⟩ := bind_eq_ok.mp rest
  obtain ⟨result, _, _, rest⟩ := bind_eq_ok.mp rest
  obtain ⟨_, _, saving, rest⟩ := bind_eq_ok.mp rest
  obtain ⟨_, _, _, finished⟩ := bind_eq_ok.mp rest
  rw [(pure_eq_ok.mp finished).1.symm]
  simpa using (refusing_eq_ok.mp saving).1

end Charge

/-- How a webhook moves its order: by what the new status asks for, and from
which the database follows. -/
inductive Moved (session : Session) (order : Order) :
    Option PaymentStatus → Database → Database → Prop
  | paid {db after : Database}
      (transitioned : Transitioned session order .paid db after) :
      Moved session order (some .captured) db after
  | notPaid {db : Database}
      (refused : ¬Returns (transitionStatus session order.id .paid none
        "paid via webhook") db) :
      Moved session order (some .captured) db db
  | cancelled {status : PaymentStatus} {db after : Database}
      (calledOff : status = .failed ∨ status = .cancelled)
      (isPending : order.status = .pending)
      (transitioned : Transitioned session order .cancelled db after) :
      Moved session order (some status) db after
  | notCancelled {status : PaymentStatus} {db : Database}
      (calledOff : status = .failed ∨ status = .cancelled)
      (notPending : order.status ≠ .pending) :
      Moved session order (some status) db db
  | refunded {db after : Database}
      (transitioned : Transitioned session order .refunded db after) :
      Moved session order (some .refunded) db after
  | stayed {status : Option PaymentStatus} {db : Database}
      (noMove : status.getD .pending = .pending ∨ status = some .authorized) :
      Moved session order status db db

section Webhook

variable {session : Session} {gateway : Gateway} {db after : Database}
  {order : Order}

/-- The transition of a locked order is a transition of that very row. -/
theorem transitioned_of_member {newStatus : OrderStatus}
    {actor : Option Uuid} {message : String} {changed : Order}
    (member : order ∈ db.orders.rows)
    (returned : transitionStatus session order.id newStatus actor message db =
      .ok changed after) :
    Transitioned session order newStatus db after := by
  obtain ⟨row, sameId, _, transitioned⟩ := transitionStatus_eq_ok returned
  have rowEq : row = order :=
    db.orders.eq_of_key_eq transitioned.member member sameId
  exact rowEq ▸ transitioned

theorem moveOrder_eq_ok {newStatus : Option PaymentStatus}
    (member : order ∈ db.orders.rows)
    (returned : moveOrder session order newStatus db = .ok () after) :
    Moved session order newStatus db after := by
  have callsOff : ∀ status : PaymentStatus,
      status = .failed ∨ status = .cancelled →
      moveOrder session order (some status) db = .ok () after →
      Moved session order (some status) db after := by
    intro status calledOff returned
    by_cases isPending : order.status = .pending
    · rcases calledOff with rfl | rfl <;>
        simp only [moveOrder, isPending] at returned
      · obtain ⟨_, _, called, finished⟩ := bind_eq_ok.mp returned
        obtain ⟨_, rfl⟩ := pure_eq_ok.mp finished
        exact .cancelled (Or.inl rfl) isPending
          (transitioned_of_member member called)
      · obtain ⟨_, _, called, finished⟩ := bind_eq_ok.mp returned
        obtain ⟨_, rfl⟩ := pure_eq_ok.mp finished
        exact .cancelled (Or.inr rfl) isPending
          (transitioned_of_member member called)
    · have unmoved : after = db := by
        rcases calledOff with rfl | rfl <;>
          simpa [moveOrder, isPending, eq_comm] using returned
      rw [unmoved]
      exact .notCancelled calledOff isPending
  cases newStatus with
  | none =>
      obtain ⟨_, rfl⟩ := pure_eq_ok.mp returned
      exact .stayed (Or.inl rfl)
  | some status =>
      cases status with
      | failed => exact callsOff .failed (Or.inl rfl) returned
      | cancelled => exact callsOff .cancelled (Or.inr rfl) returned
      | captured =>
          unfold moveOrder swallow at returned
          cases called : transitionStatus session order.id .paid none
              "paid via webhook" db with
          | ok changed middle =>
              simp only [called] at returned
              cases returned
              exact .paid (transitioned_of_member member called)
          | error raised middle =>
              simp only [called] at returned
              cases returned
              have unchanged : after = db := atomic_eq_error called
              rw [unchanged]
              refine .notPaid ?_
              rintro ⟨_, _, returned⟩
              rw [called] at returned
              cases returned
      | refunded =>
          obtain ⟨_, _, called, finished⟩ := bind_eq_ok.mp returned
          obtain ⟨_, rfl⟩ := pure_eq_ok.mp finished
          exact .refunded (transitioned_of_member member called)
      | pending =>
          have unmoved : db = after := by simpa [moveOrder] using returned
          rw [unmoved]
          exact .stayed (Or.inl rfl)
      | authorized =>
          have unmoved : db = after := by simpa [moveOrder] using returned
          rw [unmoved]
          exact .stayed (Or.inr rfl)

/-- The order that a webhook matched is a visible row, found under the
identifier or the reference that the event names. -/
theorem matchOrder_eq_ok {parsed : WebhookResult} {found : Option Order}
    (returned : matchOrder session gateway parsed db = .ok found after) :
    db = after ∧ ∀ order ∈ found, order ∈ db.orders.rows ∧
      alive order = true := by
  have keyed : ∀ {byKey : Option Order} {middle : Database},
      orderByKey gateway parsed.orderId db = .ok byKey middle →
      db = middle ∧ ∀ order ∈ byKey, order ∈ db.orders.rows ∧
        alive order = true := by
    intro byKey middle looked
    unfold orderByKey at looked
    by_cases named : parsed.orderId.truthy = true
    · simp only [named, if_true] at looked
      cases key : gateway.primaryKey parsed.orderId with
      | none =>
          simp only [key] at looked
          exact (throw_eq_ok.mp looked).elim
      | some id =>
          simp only [key] at looked
          obtain ⟨_, _, read, finished⟩ := bind_eq_ok.mp looked
          obtain ⟨rfl, rfl⟩ := get_eq_ok.mp read
          obtain ⟨rfl, rfl⟩ := pure_eq_ok.mp finished
          refine ⟨rfl, ?_⟩
          intro order orderMem
          exact List.mem_filter.mp (List.mem_of_find?_eq_some orderMem)
    · simp only [named] at looked
      obtain ⟨rfl, rfl⟩ := pure_eq_ok.mp looked
      exact ⟨rfl, by simp⟩
  obtain ⟨byKey, _, looked, rest⟩ := bind_eq_ok.mp returned
  obtain ⟨rfl, visible⟩ := keyed looked
  cases byKey with
  | some row =>
      obtain ⟨rfl, rfl⟩ := pure_eq_ok.mp rest
      exact ⟨rfl, visible⟩
  | none =>
      obtain ⟨_, _, queried, rest⟩ := bind_eq_ok.mp rest
      obtain ⟨_, rfl⟩ := raising_eq_ok queried
      obtain ⟨_, _, read, finished⟩ := bind_eq_ok.mp rest
      obtain ⟨rfl, rfl⟩ := get_eq_ok.mp read
      obtain ⟨rfl, rfl⟩ := pure_eq_ok.mp finished
      refine ⟨rfl, ?_⟩
      intro order orderMem
      unfold orderByReference at orderMem
      split at orderMem
      · have selected := List.mem_of_head? orderMem
        have row := (session.orderBy_perm _ _ _).mem_iff.mp selected
        simp only [List.mem_filter, Bool.and_eq_true] at row
        exact ⟨row.1, row.2.1⟩
      · cases orderMem

/-- What a webhook that was matched has done to the tables: `recorded` is the
database with the event, and `moved` the one after the order was moved. -/
structure WebhookMatched (session : Session) (gateway : Gateway)
    (provider : PaymentProvider) (parsed : WebhookResult) (order : Order)
    (db recorded moved after : Database) : Prop where
  accepted : parsed.accepted = true
  matched : matchOrder session gateway parsed db = .ok (some order) db
  member : order ∈ db.orders.rows
  isAlive : alive order = true
  records : parsed.isRecordable gateway = true
  recorded_eq : recorded = { db with orderEvents := recorded.orderEvents }
  movedOrder : Moved session order parsed.newStatus recorded moved
  after_eq : after = { moved with
    payments := updatedPayments moved.payments order.id provider.code parsed }

namespace WebhookMatched

variable {provider : PaymentProvider} {parsed : WebhookResult}
  {order : Order} {recorded moved : Database}
  (matched : WebhookMatched session gateway provider parsed order db recorded
    moved after)

include matched

/-- The record of the event leaves the orders as they are. -/
theorem recorded_orders : recorded.orders = db.orders := by
  rw [matched.recorded_eq]

theorem recorded_stocks : recorded.stocks = db.stocks := by
  rw [matched.recorded_eq]

theorem recorded_mem : order ∈ recorded.orders.rows :=
  matched.recorded_orders ▸ matched.member

/-- The update of the payments leaves the orders as they are. -/
theorem after_orders : after.orders = moved.orders := by
  rw [matched.after_eq]

end WebhookMatched

theorem applyWebhook_eq_ok {provider : PaymentProvider}
    {parsed : WebhookResult} {outcome : WebhookOutcome}
    (returned : applyWebhook session gateway provider parsed db =
      .ok outcome after) :
    db = after ∨ ∃ order recorded moved,
      WebhookMatched session gateway provider parsed order db recorded moved
        after := by
  unfold applyWebhook at returned
  by_cases accepted : parsed.accepted = true
  · simp only [accepted, if_true] at returned
    obtain ⟨found, _, looked, rest⟩ := bind_eq_ok.mp returned
    obtain ⟨rfl, visible⟩ := matchOrder_eq_ok looked
    cases found with
    | none =>
        obtain ⟨_, rfl⟩ := pure_eq_ok.mp rest
        exact Or.inl rfl
    | some order =>
        obtain ⟨member, isAlive⟩ := visible order rfl
        obtain ⟨_, recorded, recording, rest⟩ := bind_eq_ok.mp rest
        obtain ⟨records, recording⟩ := recorded_of_createOrderEvent recording
        obtain ⟨_, moved, moving, rest⟩ := bind_eq_ok.mp rest
        obtain ⟨_, _, updated, finished⟩ := bind_eq_ok.mp rest
        obtain ⟨_, rfl⟩ := pure_eq_ok.mp finished
        have recordedMem : order ∈ recorded.orders.rows := by
          rw [recording]
          exact member
        refine Or.inr ⟨order, recorded, moved, accepted, looked, member,
          isAlive, records, ?_, moveOrder_eq_ok recordedMem moving,
          (modify_eq_ok.mp updated).symm⟩
        rw [recording]
  · simp only [accepted] at returned
    obtain ⟨_, rfl⟩ := pure_eq_ok.mp returned
    exact Or.inl rfl

/-- A webhook changes nothing, or was parsed, accepted and matched. -/
theorem settle_handleWebhook (session : Session) (gateway : Gateway)
    (providerCode : String) (headers : Headers) (body : Bytes)
    (db : Database) :
    settle (handleWebhook session gateway providerCode headers body) db = db ∨
      ∃ provider parsed order recorded moved,
        getProvider providerCode = .ok provider ∧
        provider.parseWebhook gateway headers body = .ok parsed ∧
        WebhookMatched session gateway provider parsed order db recorded moved
          (settle (handleWebhook session gateway providerCode headers body)
            db) := by
  rcases settle_atomic
    (do
      let provider ← raising (getProvider providerCode)
      let parsed ← raising (provider.parseWebhook gateway headers body)
      applyWebhook session gateway provider parsed) db with
    ⟨outcome, returned⟩ | unchanged
  · obtain ⟨provider, _, looked, rest⟩ := bind_eq_ok.mp returned
    obtain ⟨registered, rfl⟩ := raising_eq_ok looked
    obtain ⟨parsed, _, read, rest⟩ := bind_eq_ok.mp rest
    obtain ⟨isParsed, rfl⟩ := raising_eq_ok read
    rcases applyWebhook_eq_ok rest with
      unchanged | ⟨order, recorded, moved, matched⟩
    · exact Or.inl unchanged.symm
    · exact Or.inr
        ⟨provider, parsed, order, recorded, moved, registered, isParsed,
          matched⟩
  · exact Or.inl unchanged

end Webhook

end NovaCommerce
