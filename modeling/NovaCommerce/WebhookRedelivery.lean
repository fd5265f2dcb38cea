import NovaCommerce.OrderHistories
import NovaCommerce.OrderPaymentAgreement

/-!
# Webhooks that are delivered again

Providers deliver an event at least once.  A delivery is harmless when it is
accepted and writes nothing but events.  This is so exactly when it can be
recorded and there is nothing left to do: the order is where the event takes
it, or stays where it is, and the payments show what the event says.  A refund
is never harmless, since the transition of a refunded order raises.
-/

namespace NovaCommerce

open AtomicCall GuardedRun TextDecoding

/-- A webhook request, and what its handling takes from outside. -/
structure Delivery where
  session : Session
  gateway : Gateway
  providerCode : String
  headers : Headers := []
  body : Bytes

/-- The `accepted` entry of the answer. -/
def WebhookOutcome.accepted : WebhookOutcome → Bool
  | rejected _ => false
  | unmatched => true
  | matched _ => true

namespace Delivery

def handle (delivery : Delivery) : Service WebhookOutcome :=
  handleWebhook delivery.session delivery.gateway delivery.providerCode
    delivery.headers delivery.body

/-- What the provider makes of the request. -/
def parsed (delivery : Delivery) : Raising WebhookResult := do
  let provider ← getProvider delivery.providerCode
  provider.parseWebhook delivery.gateway delivery.headers delivery.body

/-- The provider accepts the request. -/
def IsAccepted (delivery : Delivery) : Prop :=
  ∃ parsed, delivery.parsed = .ok parsed ∧ parsed.accepted = true

instance (delivery : Delivery) : Decidable delivery.IsAccepted :=
  match isParsed : delivery.parsed with
  | .ok parsed =>
      if accepted : parsed.accepted = true then
        isTrue ⟨parsed, isParsed, accepted⟩
      else isFalse (by
        rintro ⟨other, again, isAccepted⟩
        rw [isParsed] at again
        cases again
        exact accepted isAccepted)
  | .error _ => isFalse (by
      rintro ⟨other, again, _⟩
      rw [isParsed] at again
      cases again)

/-- The event of the request, if it is matched to an order. -/
def event (delivery : Delivery) (db : Database) : Option MatchedEvent :=
  requestEvent db delivery.session delivery.gateway delivery.providerCode
    delivery.headers delivery.body

/-- The request is accepted, and nothing but events is written. -/
def Harmless (delivery : Delivery) (db : Database) : Prop :=
  ∃ outcome after, delivery.handle db = .ok outcome after ∧
    outcome.accepted = true ∧
    (∃ events, after.orderEvents.rows = db.orderEvents.rows ++ events) ∧
    after = { db with orderEvents := after.orderEvents }

end Delivery

namespace MatchedEvent

/-- The event has nothing left to do: it does not refund, it can not pay its
order, its order does not wait to be called off, and the payments show it. -/
structure NothingLeft (event : MatchedEvent) (db : Database) : Prop where
  notRefunded : event.parsed.newStatus ≠ some .refunded
  notPaying : event.parsed.newStatus = some .captured → ¬event.CanBePaid db
  notCancelling : event.parsed.newStatus = some .failed ∨
    event.parsed.newStatus = some .cancelled → event.order.status ≠ .pending
  shown : ∀ payment ∈ objects db.payments, event.concerns payment = true →
    payment.status = event.status ∧ payment.rawResponse = event.parsed.raw

/-- Two events report the same fact about the same order. -/
structure SameFact (first second : MatchedEvent) : Prop where
  provider_eq : second.provider.code = first.provider.code
  newStatus_eq : second.parsed.newStatus = first.parsed.newStatus
  order_eq : second.order.id = first.order.id

end MatchedEvent

section Delivered

variable {session : Session} {db after : Database} {event : MatchedEvent}

/-- What a request that is matched has done when it returned. -/
theorem handleWebhook_eq_ok {gateway : Gateway} {providerCode : String}
    {headers : Headers} {body : Bytes} {outcome : WebhookOutcome}
    (isEvent : requestEvent db session gateway providerCode headers body =
      some event)
    (returned : handleWebhook session gateway providerCode headers body db =
      .ok outcome after) :
    ∃ recorded moved note, WebhookMatched session gateway event.provider
        event.parsed event.order db recorded moved after ∧
      recorded.orderEvents.rows = db.orderEvents.rows ++ [note] ∧
      outcome = .matched event.order.number := by
  rw [handleWebhook_of_event isEvent, atomic_eq_ok] at returned
  obtain ⟨_, _, accepted, matching⟩ := requestEvent_eq_some_iff.mp isEvent
  obtain ⟨member, isAlive⟩ := requestEvent_order isEvent
  obtain ⟨_, recorded, recording, rest⟩ := bind_eq_ok.mp returned
  obtain ⟨_, moved, moving, rest⟩ := bind_eq_ok.mp rest
  obtain ⟨_, _, updating, finished⟩ := bind_eq_ok.mp rest
  obtain ⟨rfl, rfl⟩ := pure_eq_ok.mp finished
  obtain ⟨note, _, _, events_eq, frame⟩ := createOrderEvent_eq_ok recording
  have recordedMem : event.order ∈ recorded.orders.rows := by
    rw [frame]
    exact member
  exact ⟨recorded, moved, note, ⟨accepted, matching, member, isAlive,
    (recorded_of_createOrderEvent recording).1, frame,
    moveOrder_eq_ok recordedMem moving, (modify_eq_ok.mp updating).symm⟩,
    events_eq, rfl⟩

/-- Payments that show an event are not changed by it. -/
theorem updatedPayments_of_shown (order : Uuid) (provider : Provider)
    (parsed : WebhookResult) (payments : Table Payment)
    (shown : ∀ payment ∈ objects payments,
      payment.isOf order provider = true →
        payment.status = parsed.newStatus.getD .pending ∧
          payment.rawResponse = parsed.raw) :
    updatedPayments payments order provider parsed = payments := by
  apply Table.alter_self
  intro payment member
  unfold Payment.updatedBy
  split
  · next concerned =>
    obtain ⟨isAlive, isOf⟩ := Bool.and_eq_true _ _ ▸ concerned
    obtain ⟨status_eq, raw_eq⟩ := shown payment
      (List.mem_filter.mpr ⟨member, isAlive⟩) isOf
    rw [← status_eq, ← raw_eq]
  · rfl

/-- After the update of an event the payments show it. -/
theorem shown_updatedPayments (order : Uuid) (provider : Provider)
    (parsed : WebhookResult) (payments : Table Payment) :
    ∀ payment ∈ objects (updatedPayments payments order provider parsed),
      payment.isOf order provider = true →
        payment.status = parsed.newStatus.getD .pending ∧
          payment.rawResponse = parsed.raw := by
  intro payment listed isOf
  obtain ⟨member, isAlive⟩ := List.mem_filter.mp listed
  obtain ⟨old, _, rfl⟩ := List.mem_map.mp member
  unfold Payment.updatedBy at isOf isAlive ⊢
  split at isOf
  · next concerned =>
    rw [if_pos concerned]
    exact ⟨rfl, rfl⟩
  · next unconcerned =>
    rw [if_neg unconcerned] at isAlive
    rw [isAlive, isOf] at unconcerned
    exact absurd rfl unconcerned

/-- A transition is seen in its order. -/
theorem Transitioned.orders_ne {order : Order} {newStatus : OrderStatus}
    (transitioned : Transitioned session order newStatus db after) :
    after.orders ≠ db.orders := by
  intro same
  have sameKey : Keyed.key (order.enterStatus newStatus session.now) =
      Keyed.key order :=
    congrArg TimeStampedUUIDModel.id (base_enterStatus _ _ _)
  have saved : order.enterStatus newStatus session.now ∈ db.orders.rows := by
    rw [← same, transitioned.frame, Table.mem_save]
    exact Or.inr ⟨rfl, sameKey ▸ List.mem_map_of_mem transitioned.member⟩
  have sameRow := db.orders.eq_of_key_eq saved transitioned.member sameKey
  have sameStatus := congrArg Order.status sameRow
  rw [status_enterStatus] at sameStatus
  have allowed := transitioned.allowed
  rw [Order.canTransitionTo, ← sameStatus] at allowed
  cases newStatus <;> simp [OrderStatus.allowedTransitions] at allowed

theorem swallow_of_eq_error {Value : Type} {call : Service Value}
    {raised : Exception} (failed : call db = .error raised after) :
    swallow call db = .ok () after := by
  unfold swallow
  rw [failed]

/-- An event that has nothing left to do does not move its order. -/
theorem moveOrder_of_nothingLeft (sound : SoundRows db.stocks)
    (member : event.order ∈ db.orders.rows)
    (isAlive : alive event.order = true) (nothing : event.NothingLeft db) :
    moveOrder session event.order event.parsed.newStatus db = .ok () db := by
  cases newStatus : event.parsed.newStatus with
  | none => rfl
  | some status =>
      cases status with
      | captured =>
          have refused : ¬Returns (transitionStatus session event.order.id
              .paid none "paid via webhook") db := fun returns =>
            nothing.notPaying newStatus
              ((canBePaid_iff sound event member isAlive
                fitsColumn_paidViaWebhook).mp returns)
          cases called : transitionStatus session event.order.id .paid none
              "paid via webhook" db with
          | ok changed paid => exact absurd ⟨_, _, called⟩ refused
          | error raised middle =>
              have unchanged : middle = db := atomic_eq_error called
              exact swallow_of_eq_error (unchanged ▸ called)
      | refunded => exact absurd newStatus nothing.notRefunded
      | failed =>
          have notPending := nothing.notCancelling (Or.inl newStatus)
          simp [moveOrder, notPending]
      | cancelled =>
          have notPending := nothing.notCancelling (Or.inr newStatus)
          simp [moveOrder, notPending]
      | pending | authorized => rfl

/-- An event that was recorded and changed neither its order nor a payment had
nothing left to do. -/
theorem WebhookMatched.nothingLeft {gateway : Gateway}
    {recorded moved : Database} (sound : SoundRows db.stocks)
    (matched : WebhookMatched session gateway event.provider event.parsed
      event.order db recorded moved after)
    (sameOrders : after.orders = db.orders)
    (samePayments : after.payments = db.payments) :
    event.NothingLeft db := by
  have unmoved : moved.orders = recorded.orders := by
    rw [← matched.after_orders, sameOrders, matched.recorded_orders]
  have shown : ∀ payment ∈ objects db.payments,
      event.concerns payment = true → payment.status = event.status ∧
        payment.rawResponse = event.parsed.raw := by
    rw [← samePayments, matched.after_eq]
    exact shown_updatedPayments _ _ _ _
  have movedOrder := matched.movedOrder
  generalize newStatus : event.parsed.newStatus = status at movedOrder
  cases movedOrder with
  | paid transitioned => exact absurd unmoved transitioned.orders_ne
  | cancelled _ _ transitioned => exact absurd unmoved transitioned.orders_ne
  | refunded transitioned => exact absurd unmoved transitioned.orders_ne
  | notPaid refused =>
      refine ⟨by simp [newStatus], ?_, by simp [newStatus], shown⟩
      intro _ canBePaid
      have recordedSound : SoundRows recorded.stocks :=
        matched.recorded_stocks ▸ sound
      apply refused
      apply (canBePaid_iff recordedSound event matched.recorded_mem
        matched.isAlive fitsColumn_paidViaWebhook).mpr
      rw [matched.recorded_eq]
      exact canBePaid
  | notCancelled calledOff notPending =>
      refine ⟨?_, ?_, fun _ => notPending, shown⟩ <;> rw [newStatus] <;>
        rcases calledOff with rfl | rfl <;> simp
  | stayed noMove =>
      refine ⟨?_, ?_, ?_, shown⟩ <;> rw [newStatus]
      · rintro rfl
        simp at noMove
      · rintro rfl
        simp at noMove
      · rintro (rfl | rfl) <;> simp at noMove

/-- An event that can be recorded and has nothing left to do is accepted and
recorded, and no more. -/
theorem harmless_of_nothingLeft {delivery : Delivery}
    (sound : SoundRows db.stocks) (isEvent : delivery.event db = some event)
    (records : event.parsed.isRecordable delivery.gateway = true)
    (nothing : event.NothingLeft db) : delivery.Harmless db := by
  obtain ⟨member, isAlive⟩ := requestEvent_order isEvent
  obtain ⟨recorded, recording⟩ : ∃ recorded, createOrderEvent
      delivery.session event.order.id
      s!"webhook:{delivery.gateway.text event.parsed.eventType}"
      "payment provider webhook" none event.parsed.raw db =
        .ok () recorded := ⟨_, createOrderEvent_of_recordable records _ _ _ _⟩
  obtain ⟨note, _, _, events_eq, frame⟩ := createOrderEvent_eq_ok recording
  have nothingThen : event.NothingLeft recorded := by
    rw [frame]
    exact ⟨nothing.notRefunded, nothing.notPaying, nothing.notCancelling,
      nothing.shown⟩
  have recordedSound : SoundRows recorded.stocks := by
    rw [frame]
    exact sound
  have recordedMem : event.order ∈ recorded.orders.rows := by
    rw [frame]
    exact member
  have stays : moveOrder delivery.session event.order event.parsed.newStatus
      recorded = .ok () recorded :=
    moveOrder_of_nothingLeft recordedSound recordedMem isAlive nothingThen
  have samePayments := updatedPayments_of_shown event.order.id
    event.provider.code event.parsed recorded.payments nothingThen.shown
  refine ⟨.matched event.order.number, recorded, ?_, rfl, ⟨[note], events_eq⟩,
    frame⟩
  refine (handleWebhook_of_event isEvent).trans (atomic_eq_ok.mpr ?_)
  rw [bind_of_eq_ok recording, bind_of_eq_ok stays]
  change EStateM.Result.ok _ { recorded with
    payments := updatedPayments recorded.payments event.order.id
      event.provider.code event.parsed } = _
  rw [samePayments]

/-- A delivery that is matched is harmless exactly if it can be recorded and
there is nothing left to do. -/
theorem harmless_iff {delivery : Delivery} (sound : SoundRows db.stocks)
    (isEvent : delivery.event db = some event) :
    delivery.Harmless db ↔
      event.parsed.isRecordable delivery.gateway = true ∧
        event.NothingLeft db := by
  constructor
  · rintro ⟨outcome, after, returned, _, _, frame⟩
    obtain ⟨recorded, moved, note, matched, _, _⟩ :=
      handleWebhook_eq_ok isEvent returned
    refine ⟨matched.records, ?_⟩
    apply matched.nothingLeft sound <;> rw [frame]
  · rintro ⟨records, nothing⟩
    exact harmless_of_nothingLeft sound isEvent records nothing

end Delivered

section Again

variable {db after : Database} {first second : Delivery}
  {event again : MatchedEvent} {outcome : WebhookOutcome}

theorem Transitioned.status_of_id {session : Session} {order row : Order}
    {newStatus : OrderStatus}
    (transitioned : Transitioned session order newStatus db after)
    (member : row ∈ after.orders.rows) (sameId : row.id = order.id) :
    row.status = newStatus := by
  have sameKey : (order.enterStatus newStatus session.now).id = order.id :=
    congrArg TimeStampedUUIDModel.id (base_enterStatus _ _ _)
  rw [transitioned.frame, Table.mem_save] at member
  rcases member with ⟨_, otherKey⟩ | ⟨rfl, _⟩
  · exact absurd (sameId.trans sameKey.symm) otherKey
  · exact status_enterStatus _ _ _

/-- After an event was handled, there is nothing left to do for another one
that reports the same fact, unless it refunds or brings other data to a
payment. -/
theorem nothingLeft_again (sound : SoundRows db.stocks)
    (isEvent : first.event db = some event)
    (returned : first.handle db = .ok outcome after)
    (isAgain : second.event after = some again)
    (same : event.SameFact again) :
    again.NothingLeft after ↔ again.parsed.newStatus ≠ some .refunded ∧
      (again.parsed.raw = event.parsed.raw ∨ ¬again.HasPayment after) := by
  obtain ⟨recorded, moved, note, matched, _, _⟩ :=
    handleWebhook_eq_ok isEvent returned
  have againMem := (requestEvent_order isAgain).1
  have shown : ∀ payment ∈ objects after.payments,
      again.concerns payment = true → payment.status = again.status ∧
        payment.rawResponse = event.parsed.raw := by
    intro payment listed concerned
    rw [MatchedEvent.concerns, same.order_eq, same.provider_eq] at concerned
    rw [matched.after_eq] at listed
    rw [MatchedEvent.status, same.newStatus_eq]
    exact shown_updatedPayments _ _ _ _ payment listed concerned
  constructor
  · intro nothing
    refine ⟨nothing.notRefunded, ?_⟩
    by_cases hasPayment : again.HasPayment after
    · obtain ⟨payment, listed, concerned⟩ := hasPayment
      left
      exact (nothing.shown payment listed concerned).2.symm.trans
        (shown payment listed concerned).2
    · exact Or.inr hasPayment
  · rintro ⟨notRefunded, sameRaw⟩
    have againMoved : again.order ∈ moved.orders.rows :=
      matched.after_orders ▸ againMem
    have stays : moved = recorded → again.order = event.order := by
      intro unmoved
      rw [unmoved, matched.recorded_orders] at againMoved
      exact db.orders.eq_of_key_eq againMoved matched.member same.order_eq
    have movedOrder := matched.movedOrder
    rw [← same.newStatus_eq] at movedOrder
    generalize newStatus : again.parsed.newStatus = status at movedOrder
    refine ⟨notRefunded, ?_, ?_, ?_⟩
    · rintro isCaptured ⟨isPending, committable⟩
      obtain rfl : status = some .captured := newStatus.symm.trans isCaptured
      cases movedOrder with
      | paid transitioned =>
          rw [transitioned.status_of_id againMoved same.order_eq] at isPending
          cases isPending
      | notPaid refused =>
          have recordedSound : SoundRows recorded.stocks :=
            matched.recorded_stocks ▸ sound
          apply refused
          apply (canBePaid_iff recordedSound event matched.recorded_mem
            matched.isAlive fitsColumn_paidViaWebhook).mpr
          refine ⟨stays rfl ▸ isPending, ?_⟩
          rw [matched.after_eq, same.order_eq] at committable
          exact committable
      | cancelled calledOff => simp at calledOff
      | notCancelled calledOff => simp at calledOff
      | stayed noMove => simp at noMove
    · intro calledOff isPending
      rw [newStatus] at calledOff
      cases movedOrder with
      | paid | notPaid | refunded => simp at calledOff
      | cancelled _ _ transitioned =>
          rw [transitioned.status_of_id againMoved same.order_eq] at isPending
          cases isPending
      | notCancelled _ notPending =>
          exact notPending (stays rfl ▸ isPending)
      | stayed noMove => rcases calledOff with rfl | rfl <;> simp at noMove
    · intro payment listed concerned
      obtain ⟨status_eq, raw_eq⟩ := shown payment listed concerned
      refine ⟨status_eq, ?_⟩
      rcases sameRaw with sameRaw | noPayment
      · rw [sameRaw, raw_eq]
      · exact absurd ⟨payment, listed, concerned⟩ noPayment

/-- Every order that can be seen before can be seen afterwards. -/
def KeepsOrders (db after : Database) : Prop :=
  ∀ row ∈ db.orders.rows, alive row = true →
    ∃ now ∈ after.orders.rows, now.id = row.id ∧ alive now = true

theorem KeepsOrders.of_same (same : after.orders = db.orders) :
    KeepsOrders db after := by
  intro row rowMem isAlive
  exact ⟨row, same ▸ rowMem, rfl, isAlive⟩

theorem Transitioned.keepsOrders {session : Session} {order : Order}
    {newStatus : OrderStatus}
    (transitioned : Transitioned session order newStatus db after) :
    KeepsOrders db after := by
  intro row rowMem isAlive
  have sameBase := base_enterStatus order newStatus session.now
  have sameId := congrArg TimeStampedUUIDModel.id sameBase
  rw [transitioned.frame]
  by_cases isOrder : row.id = order.id
  · obtain rfl := db.orders.eq_of_key_eq rowMem transitioned.member isOrder
    refine ⟨row.enterStatus newStatus session.now, ?_, sameId, ?_⟩
    · have sameKey : Keyed.key (row.enterStatus newStatus session.now) =
          Keyed.key row := sameId
      exact Table.mem_save.mpr
        (Or.inr ⟨rfl, sameKey ▸ List.mem_map_of_mem rowMem⟩)
    · exact (congrArg (fun base => base.deletedAt.isNone) sameBase).trans
        isAlive
  · exact ⟨row, Table.mem_save_of_ne rowMem
      (fun same => isOrder (same.trans sameId)), rfl, isAlive⟩

theorem Moved.keepsOrders {session : Session} {order : Order}
    {status : Option PaymentStatus}
    (moved : Moved session order status db after) :
    KeepsOrders db after := by
  cases moved with
  | paid transitioned | cancelled _ _ transitioned
  | refunded transitioned => exact transitioned.keepsOrders
  | notPaid | notCancelled | stayed => exact .of_same rfl

/-- No delivery takes an order out of sight. -/
theorem Delivery.keepsOrders {delivery : Delivery}
    (returned : delivery.handle db = .ok outcome after) :
    KeepsOrders db after := by
  have effect := stepped db (.handleWebhook delivery.session delivery.gateway
    delivery.providerCode delivery.headers delivery.body)
  have settled : StoreCommand.step db (.handleWebhook delivery.session
      delivery.gateway delivery.providerCode delivery.headers
      delivery.body) = after := settle_of_eq_ok returned
  rw [settled] at effect
  cases effect with
  | unchanged => exact .of_same rfl
  | webhook _ _ matched =>
      intro row rowMem isAlive
      rw [← matched.recorded_orders] at rowMem
      rw [matched.after_orders]
      exact matched.movedOrder.keepsOrders row rowMem isAlive

/-- The look-up of an order that returned returns again, as long as the orders
that were seen are seen. -/
theorem matchOrder_returns {session other : Session} {gateway : Gateway}
    {parsed : WebhookResult} {found : Option Order}
    (keeps : KeepsOrders db after)
    (returned : matchOrder session gateway parsed db = .ok found db) :
    ∃ again, matchOrder other gateway parsed after = .ok again after := by
  obtain ⟨byKey, middle, looked, rest⟩ := bind_eq_ok.mp returned
  have looks : ∃ row, orderByKey gateway parsed.orderId after =
      .ok row after ∧ (byKey.isSome = true → row.isSome = true) := by
    unfold orderByKey at looked ⊢
    split at looked
    · next named =>
      rw [if_pos named]
      cases key : gateway.primaryKey parsed.orderId with
      | none =>
          simp only [key] at looked
          exact (throw_eq_ok.mp looked).elim
      | some id =>
          simp only [key] at looked
          cases looked
          refine ⟨_, rfl, ?_⟩
          simp only [List.find?_isSome]
          rintro ⟨old, listed, hasKey⟩
          obtain ⟨member, isAlive⟩ := List.mem_filter.mp listed
          obtain ⟨now, nowMem, sameId, nowAlive⟩ := keeps old member isAlive
          exact ⟨now, List.mem_filter.mpr ⟨nowMem, nowAlive⟩,
            by rwa [sameId]⟩
    · next unnamed =>
      rw [if_neg unnamed]
      cases looked
      exact ⟨_, rfl, id⟩
  obtain ⟨row, looks, stillSome⟩ := looks
  unfold matchOrder
  rw [bind_of_eq_ok looks]
  cases row with
  | some order => exact ⟨_, rfl⟩
  | none =>
      cases byKey with
      | some order => cases stillSome rfl
      | none =>
          obtain ⟨_, _, asked, _⟩ := bind_eq_ok.mp rest
          simp only [(raising_eq_ok asked).1]
          exact ⟨_, rfl⟩

theorem Delivery.parsed_eq_ok {delivery : Delivery} {parsed : WebhookResult} :
    delivery.parsed = .ok parsed ↔ ∃ provider,
      getProvider delivery.providerCode = .ok provider ∧
        provider.parseWebhook delivery.gateway delivery.headers
          delivery.body = .ok parsed := by
  unfold Delivery.parsed
  cases getProvider delivery.providerCode with
  | error raised => exact ⟨nofun, fun ⟨_, impossible, _⟩ => nomatch impossible⟩
  | ok provider =>
      constructor
      · intro isParsed
        exact ⟨provider, rfl, isParsed⟩
      · rintro ⟨_, same, isParsed⟩
        cases same
        exact isParsed

theorem Delivery.handle_of_parsed {delivery : Delivery}
    {provider : PaymentProvider} {parsed : WebhookResult}
    (registered : getProvider delivery.providerCode = .ok provider)
    (isParsed : provider.parseWebhook delivery.gateway delivery.headers
      delivery.body = .ok parsed) :
    delivery.handle db = atomic (applyWebhook delivery.session
      delivery.gateway provider parsed) db := by
  rw [handle, handleWebhook, registered, atomic, atomic]
  rw [bind_of_eq_ok (show raising (.ok provider) db = .ok provider db from rfl),
    isParsed, bind_of_eq_ok (show raising (.ok parsed) db = .ok parsed db
      from rfl)]

/-- A request that is accepted and not matched writes nothing. -/
theorem harmless_of_unmatched {delivery : Delivery} {parsed : WebhookResult}
    {found : Option Order} (isParsed : delivery.parsed = .ok parsed)
    (accepted : parsed.accepted = true)
    (matching : matchOrder delivery.session delivery.gateway parsed db =
      .ok found db) (noEvent : delivery.event db = none) :
    delivery.Harmless db := by
  obtain ⟨provider, registered, parsing⟩ := Delivery.parsed_eq_ok.mp isParsed
  cases found with
  | some order =>
      have isEvent : delivery.event db = some ⟨provider, parsed, order⟩ :=
        requestEvent_eq_some_iff.mpr ⟨registered, parsing, accepted, matching⟩
      rw [noEvent] at isEvent
      cases isEvent
  | none =>
      refine ⟨.unmatched, db, ?_, rfl, ⟨[], (List.append_nil _).symm⟩, rfl⟩
      rw [Delivery.handle_of_parsed registered parsing, atomic_eq_ok,
        applyWebhook, if_pos accepted, bind_of_eq_ok matching]
      rfl

/-- A request that was handled was matched, to an order or to none. -/
theorem Delivery.matchOrder_of_returned {delivery : Delivery}
    {parsed : WebhookResult} (isParsed : delivery.parsed = .ok parsed)
    (accepted : parsed.accepted = true)
    (returned : delivery.handle db = .ok outcome after) :
    ∃ found, matchOrder delivery.session delivery.gateway parsed db =
      .ok found db := by
  obtain ⟨provider, registered, parsing⟩ := Delivery.parsed_eq_ok.mp isParsed
  rw [handle_of_parsed registered parsing, atomic_eq_ok, applyWebhook,
    if_pos accepted] at returned
  obtain ⟨found, middle, matching, _⟩ := bind_eq_ok.mp returned
  obtain ⟨rfl, _⟩ := matchOrder_eq_ok matching
  exact ⟨found, matching⟩

/-- The same request says the same again. -/
theorem Delivery.same_of_redelivered (delivery : Delivery) (session : Session)
    (isEvent : delivery.event db = some event)
    (isAgain : Delivery.event { delivery with session } after = some again) :
    again.provider = event.provider ∧ again.parsed = event.parsed := by
  obtain ⟨registered, parsing, _, _⟩ := requestEvent_eq_some_iff.mp isEvent
  obtain ⟨registered', parsing', _, _⟩ := requestEvent_eq_some_iff.mp isAgain
  have sameProvider : again.provider = event.provider :=
    Except.ok.inj (registered'.symm.trans registered)
  rw [sameProvider] at parsing'
  exact ⟨sameProvider, Except.ok.inj (parsing'.symm.trans parsing)⟩

end Again

/-- The second request delivers the same event again, or another event that
reports the same fact. -/
inductive Delivery.Repeats (first : Delivery) (db after : Database) :
    Delivery → Prop
  | redelivered (session : Session) :
      first.Repeats db after { first with session }
  | sameFact {second : Delivery} {event again : MatchedEvent}
      (isEvent : first.event db = some event)
      (isAgain : second.event after = some again)
      (same : event.SameFact again) : first.Repeats db after second

/-- What makes a second delivery that can be recorded harmless: it does not
refund the order of the first one, and brings no other data to a payment; for
another order, nothing is left to do. -/
def MatchedEvent.RepeatsHarmlessly (again : MatchedEvent)
    (first : Option MatchedEvent) (after : Database) : Prop :=
  match first with
  | none => again.NothingLeft after
  | some event =>
      if again.order.id = event.order.id then
        again.parsed.newStatus ≠ some .refunded ∧
          (again.parsed.raw = event.parsed.raw ∨ ¬again.HasPayment after)
      else again.NothingLeft after

theorem soundRows_reached {start : Database} (sound : SoundRows start.stocks)
    (commands : List StoreCommand) :
    SoundRows (exec StoreCommand.step start commands).stocks := by
  have preserved : ∀ (db : Database) (command : StoreCommand),
      SoundRows db.stocks → SoundRows (command.step db).stocks :=
    fun _ command sound => soundRows_step command sound
  exact exec_invariant_of_steps preserved sound commands

/-- The approval of the first order, as PayPal sends it. -/
def approval : Delivery where
  session := { now := 5 }
  gateway := deployment accepted
  providerCode := "paypal"
  body := eventBody "CHECKOUT.ORDER.APPROVED"

/-- An order with a PayPal charge. -/
def chargedOrder : List StoreCommand :=
  [checkoutOf 10 "N1", chargeOf accepted]

/-- A Stripe event about order 1. -/
def stripeEvent (type : String) : Json :=
  .obj [("type", .str type), ("data", .obj [("object", .obj [
    ("id", .str "ch_1"),
    ("metadata", .obj [("order_id", .str "1")])])])]

/-- The body of that event. -/
def stripeEventBody (type : String) : Bytes :=
  ("\x7b\"type\":\"" ++ type ++
    "\",\"data\":\x7b\"object\":\x7b\"id\":\"ch_1\"," ++
    "\"metadata\":\x7b\"order_id\":\"1\"\x7d\x7d\x7d\x7d").toUTF8.toList

/-- Two types of a refund, with the signatures of their bodies under
`whsec`. -/
def signedRefunds : List (String × String) :=
  [("charge.refunded", "t=1700000000,v1=" ++
      "004c7545e7a1fbfb1967dcea53ad06e0269e30d5f7be7bbcb97e55ee0aca035e"),
    ("refund.created", "t=1700000000,v1=" ++
      "44f3995795b00cebe14f2f5803da60b51e5c0317aae44426e06bed29315c49f9")]

/-- `stripe.Webhook.construct_event` on these two events. -/
def constructRefund (body : Bytes) (signature secret : String) :
    StripeOutcome :=
  match signedRefunds.find? (fun signed =>
      body = stripeEventBody signed.1 && signature = signed.2 &&
        secret = "whsec") with
  | some signed => .event (stripeEvent signed.1)
  | none => .refused
      "No signatures found matching the expected signature for payload"

/-- A deployment with Stripe, which knows these two events. -/
def refundDeployment : Gateway :=
  { deployment accepted with
    settings := { stripeWebhookSecret := some "whsec" }
    stripe := some
      { constructEvent := constructRefund
        createSession := fun _ _ => .error "no network" }
    primaryKey := fun
      | .str "1" => some 1
      | _ => none }

/-- The delivery of a refund. -/
def refundDelivery (type signature : String) : Delivery where
  session := { now := 5 }
  gateway := refundDeployment
  providerCode := "stripe"
  headers := [("Stripe-Signature", signature)]
  body := stripeEventBody type

end NovaCommerce
