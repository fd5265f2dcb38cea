import NovaCommerce.StoreRuns

/-!
# What the calls do to the payments

The payment rows change in three ways: a charge attempt appends one, a matched
webhook gives its status to all payments that its order has with its provider,
and the periodic task fails the pending ones.
-/

namespace NovaCommerce

open AtomicCall TextDecoding

/-- An event that was accepted and matched to an order. -/
structure MatchedEvent where
  provider : PaymentProvider
  parsed : WebhookResult
  order : Order

namespace MatchedEvent

/-- The status that the event gives to payments. -/
def status (event : MatchedEvent) : PaymentStatus :=
  event.parsed.newStatus.getD .pending

/-- The payment belongs to the order and the provider of the event. -/
def concerns (event : MatchedEvent) (payment : Payment) : Bool :=
  payment.isOf event.order.id event.provider.code

end MatchedEvent

/-- The event of a request, if it is accepted and matched. -/
def requestEvent (db : Database) (session : Session) (gateway : Gateway)
    (providerCode : String) (headers : Headers) (body : Bytes) :
    Option MatchedEvent :=
  match getProvider providerCode with
  | .error _ => none
  | .ok provider =>
      match provider.parseWebhook gateway headers body with
      | .error _ => none
      | .ok parsed =>
          match matchOrder session gateway parsed db with
          | .ok (some order) _ =>
              if parsed.accepted then some { provider, parsed, order }
              else none
          | _ => none

/-- The event of a call, if it is a webhook that is accepted and matched. -/
def StoreCommand.matchedEvent (db : Database) :
    StoreCommand → Option MatchedEvent
  | .handleWebhook session gateway providerCode headers body =>
      requestEvent db session gateway providerCode headers body
  | _ => none

section Effects

variable {session : Session} {gateway : Gateway} {db after : Database}

/-- What a request that is matched has to be. -/
theorem requestEvent_eq_some_iff {gateway : Gateway} {providerCode : String}
    {headers : Headers} {body : Bytes} {event : MatchedEvent} :
    requestEvent db session gateway providerCode headers body = some event ↔
      getProvider providerCode = .ok event.provider ∧
        event.provider.parseWebhook gateway headers body = .ok event.parsed ∧
        event.parsed.accepted = true ∧
        matchOrder session gateway event.parsed db =
          .ok (some event.order) db := by
  constructor
  · intro isEvent
    unfold requestEvent at isEvent
    cases registered : getProvider providerCode with
    | error raised => simp [registered] at isEvent
    | ok provider =>
        cases isParsed : provider.parseWebhook gateway headers body with
        | error raised => simp [registered, isParsed] at isEvent
        | ok parsed =>
            cases matching : matchOrder session gateway parsed db with
            | error raised middle =>
                simp [registered, isParsed, matching] at isEvent
            | ok found middle =>
                obtain ⟨rfl, _⟩ := matchOrder_eq_ok matching
                cases found with
                | none => simp [registered, isParsed, matching] at isEvent
                | some order =>
                    simp only [registered, isParsed, matching] at isEvent
                    split at isEvent
                    · next accepted =>
                      cases isEvent
                      exact ⟨rfl, isParsed, accepted, matching⟩
                    · cases isEvent
  · rintro ⟨registered, isParsed, accepted, matching⟩
    simp only [requestEvent, registered, isParsed, matching, accepted, if_true]

theorem requestEvent_eq_some {providerCode : String} {headers : Headers}
    {body : Bytes} {provider : PaymentProvider} {parsed : WebhookResult}
    {order : Order} {recorded moved : Database}
    (registered : getProvider providerCode = .ok provider)
    (isParsed : provider.parseWebhook gateway headers body = .ok parsed)
    (matched : WebhookMatched session gateway provider parsed order db
      recorded moved after) :
    requestEvent db session gateway providerCode headers body =
      some { provider, parsed, order } :=
  requestEvent_eq_some_iff.mpr
    ⟨registered, isParsed, matched.accepted, matched.matched⟩

/-- The order of a matched event is a visible row. -/
theorem requestEvent_order {providerCode : String} {headers : Headers}
    {body : Bytes} {event : MatchedEvent}
    (isEvent : requestEvent db session gateway providerCode headers body =
      some event) :
    event.order ∈ db.orders.rows ∧ alive event.order = true := by
  obtain ⟨_, _, _, matching⟩ := requestEvent_eq_some_iff.mp isEvent
  exact (matchOrder_eq_ok matching).2 event.order rfl

/-- The handling of a request that is matched. -/
theorem handleWebhook_of_event {gateway : Gateway} {providerCode : String}
    {headers : Headers} {body : Bytes} {event : MatchedEvent}
    (isEvent : requestEvent db session gateway providerCode headers body =
      some event) :
    handleWebhook session gateway providerCode headers body db =
      atomic (do
        createOrderEvent session event.order.id
          s!"webhook:{gateway.text event.parsed.eventType}"
          "payment provider webhook" none event.parsed.raw
        moveOrder session event.order event.parsed.newStatus
        modify fun db => { db with
          payments := updatedPayments db.payments event.order.id
            event.provider.code event.parsed }
        pure (.matched event.order.number)) db := by
  obtain ⟨registered, isParsed, accepted, matching⟩ :=
    requestEvent_eq_some_iff.mp isEvent
  rw [handleWebhook, registered, atomic, atomic]
  rw [bind_of_eq_ok (show raising (.ok event.provider) db =
    .ok event.provider db from rfl), isParsed,
    bind_of_eq_ok (show raising (.ok event.parsed) db =
      .ok event.parsed db from rfl), applyWebhook, if_pos accepted,
    bind_of_eq_ok matching]

/-- A request that is matched is answered with the number of its order. -/
theorem outcome_of_event {gateway : Gateway} {providerCode : String}
    {headers : Headers} {body : Bytes} {event : MatchedEvent}
    (isEvent : requestEvent db session gateway providerCode headers body =
      some event) {outcome : WebhookOutcome}
    (returned : handleWebhook session gateway providerCode headers body db =
      .ok outcome after) : outcome = .matched event.order.number := by
  rw [handleWebhook_of_event isEvent, atomic_eq_ok] at returned
  obtain ⟨_, _, _, rest⟩ := bind_eq_ok.mp returned
  obtain ⟨_, _, _, rest⟩ := bind_eq_ok.mp rest
  obtain ⟨_, _, _, finished⟩ := bind_eq_ok.mp rest
  exact (pure_eq_ok.mp finished).1.symm

theorem CheckedOut.payments_eq {cart : Cart} {user : Option Uuid}
    {payload : CheckoutInput} {middle : Database} {order : Order}
    {coupon : Option Coupon} {discount : Cents} {sold : List OrderItem}
    {amount : Uuid → Int} {row : Cart}
    (checkedOut : CheckedOut session cart user payload db after order coupon
      discount middle sold amount row) :
    after.payments = db.payments := by
  rw [checkedOut.after_eq, checkedOut.itemsSold.frame]

theorem Moved.payments_eq {order : Order} {status : Option PaymentStatus}
    (moved : Moved session order status db after) :
    after.payments = db.payments := by
  cases moved with
  | paid transitioned => rw [transitioned.frame]
  | cancelled _ _ transitioned => rw [transitioned.frame]
  | refunded transitioned => rw [transitioned.frame]
  | notPaid | notCancelled | stayed => rfl

theorem WebhookMatched.payments_eq {provider : PaymentProvider}
    {parsed : WebhookResult} {order : Order} {recorded moved : Database}
    (matched : WebhookMatched session gateway provider parsed order db
      recorded moved after) :
    after.payments =
      updatedPayments db.payments order.id provider.code parsed := by
  rw [matched.after_eq, matched.movedOrder.payments_eq, matched.recorded_eq]

end Effects

/-- What a call does to the payments. -/
inductive PaymentsStepped (db : Database) (command : StoreCommand) :
    Table Payment → Prop
  | same : PaymentsStepped db command db.payments
  | charged {payments : Table Payment} {order : Order} {payment : Payment}
      (rows : payments.rows = db.payments.rows ++ [payment])
      (member : order ∈ db.orders.rows)
      (isAlive : alive payment = true)
      (order_eq : payment.order = order.id)
      (amount_eq : payment.amount = order.grandTotal)
      (status_eq : payment.status = .pending ∨ payment.status = .failed) :
      PaymentsStepped db command payments
  | updated {event : MatchedEvent} (matched : event ∈ command.matchedEvent db)
      (member : event.order ∈ db.orders.rows) :
      PaymentsStepped db command (updatedPayments db.payments event.order.id
        event.provider.code event.parsed)
  | expired (cutoff : Time) :
      PaymentsStepped db command (expiredPayments db.payments cutoff)

theorem paymentsStepped (db : Database) (command : StoreCommand) :
    PaymentsStepped db command (command.step db).payments := by
  have effect := stepped db command
  generalize command.step db = after at effect
  cases effect with
  | unchanged => exact .same
  | checkedOut checkedOut =>
      rw [checkedOut.payments_eq]
      exact .same
  | charged member charged =>
      exact .charged charged.payments_eq member charged.isAlive
        charged.order_eq charged.amount_eq charged.status_eq
  | @webhook _ _ _ _ _ provider parsed order _ _ _ registered isParsed
      matched =>
      rw [matched.payments_eq]
      have isEvent : (⟨provider, parsed, order⟩ : MatchedEvent) ∈
          StoreCommand.matchedEvent db (.handleWebhook _ _ _ _ _) :=
        requestEvent_eq_some registered isParsed matched
      exact .updated isEvent matched.member
  | transitioned transitioned =>
      rw [transitioned.frame]
      exact .same
  | adjusted _ _ _ after_eq =>
      rw [after_eq]
      exact .same
  | expired cutoff => exact .expired cutoff

/-- The identifier, the order, the provider and the amount of a charge attempt
are the same. -/
structure Payment.SameCharge (old new : Payment) : Prop where
  base_eq : new.toTimeStampedUUIDModel = old.toTimeStampedUUIDModel
  order_eq : new.order = old.order
  provider_eq : new.provider = old.provider
  amount_eq : new.amount = old.amount

namespace Payment.SameCharge

variable {old new : Payment}

theorem id_eq (same : old.SameCharge new) : new.id = old.id :=
  congrArg TimeStampedUUIDModel.id same.base_eq

theorem alive_eq (same : old.SameCharge new) : alive new = alive old :=
  congrArg (fun base => base.deletedAt.isNone) same.base_eq

end Payment.SameCharge

theorem sameCharge_updatedBy (payment : Payment) (order : Uuid)
    (provider : Provider) (parsed : WebhookResult) :
    payment.SameCharge (payment.updatedBy order provider parsed) := by
  unfold Payment.updatedBy
  split <;> exact ⟨rfl, rfl, rfl, rfl⟩

theorem sameCharge_expiredAt (payment : Payment) (cutoff : Time) :
    payment.SameCharge (payment.expiredAt cutoff) := by
  unfold Payment.expiredAt
  split <;> exact ⟨rfl, rfl, rfl, rfl⟩

/-- A visible payment that the event concerns gets the status of the event. -/
theorem status_updatedBy (payment : Payment) (event : MatchedEvent) :
    (payment.updatedBy event.order.id event.provider.code
        event.parsed).status =
      if alive payment && event.concerns payment then event.status
      else payment.status := by
  unfold Payment.updatedBy MatchedEvent.concerns MatchedEvent.status
  split <;> rfl

/-- A payment that is captured after an update was captured before and is not
concerned, or is concerned by a captured event. -/
theorem captured_updatedBy {event : MatchedEvent} {payment : Payment}
    (isCaptured : (payment.updatedBy event.order.id event.provider.code
      event.parsed).status = .captured) :
    payment.status = .captured ∧
        (alive payment && event.concerns payment) = false ∨
      event.status = .captured ∧ alive payment = true ∧
        event.concerns payment = true := by
  rw [status_updatedBy] at isCaptured
  split at isCaptured
  · rename_i concerned
    exact Or.inr ⟨isCaptured, Bool.and_eq_true _ _ ▸ concerned⟩
  · rename_i unconcerned
    exact Or.inl ⟨isCaptured, Bool.eq_false_of_not_eq_true unconcerned⟩

/-- Only a pending payment expires. -/
theorem status_expiredAt (payment : Payment) (cutoff : Time) :
    (payment.expiredAt cutoff).status = payment.status ∨
      payment.status = .pending ∧
        (payment.expiredAt cutoff).status = .failed := by
  unfold Payment.expiredAt
  split
  · rename_i expires
    simp only [Bool.and_eq_true, decide_eq_true_eq] at expires
    exact Or.inr ⟨expires.1.2, rfl⟩
  · exact Or.inl rfl

end NovaCommerce
