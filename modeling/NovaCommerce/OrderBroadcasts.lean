import NovaCommerce.MirroredCall
import NovaCommerce.PaymentRuns
import NovaCommerce.CartServices

/-!
# Broadcasts of order events

Every order event that is saved is broadcast at once, to the group of its
order and to the group of the order's owner.  A transaction that is undone
takes the event back, but not the broadcast.  The services that save events
are run here with what they broadcast; on the database they do what they do
without it.
-/

namespace NovaCommerce

open AtomicCall TextDecoding

/-- The message of `broadcast_order_event`. -/
structure OrderPush where
  orderId : String
  code : String
  message : String
  status : String
  deriving DecidableEq, Repr

structure Broadcast where
  group : String
  payload : OrderPush
  deriving DecidableEq, Repr

def orderGroup (orderId : String) : String :=
  "order." ++ orderId

def userGroup (userId : Uuid) : String :=
  "user." ++ toString userId

/-- What the handler of `post_save` is called with: the event, and the order
object that it was created with. -/
structure SavedEvent where
  order : Order
  event : OrderEvent

/-- `broadcast_order_event`. -/
def SavedEvent.broadcasts (saved : SavedEvent) : List Broadcast :=
  let payload :=
    { orderId := toString saved.event.order
      code := saved.event.code
      message := saved.event.message
      status := saved.order.status.value }
  ⟨orderGroup (toString saved.event.order), payload⟩ ::
    (saved.order.user.map fun user => ⟨userGroup user, payload⟩).toList

/-- The database, and the events whose handler was called so far. -/
structure Signals where
  db : Database
  saved : List SavedEvent := []

/-- A service call that saves events. -/
abbrev Broadcasting (Value : Type) := EStateM Exception Signals Value

/-- The event row that is created next. -/
def newOrderEvent (session : Session) (db : Database) (order : Uuid)
    (code message : String) (actor : Option Uuid) (payload : Json) :
    OrderEvent :=
  { id := FreshKey.fresh db.orderEvents.keys, createdAt := session.now,
    order, code, message, actor, payload }

namespace Broadcasting

/-- A call that saves no event. -/
def silently {Value : Type} (call : Service Value) : Broadcasting Value :=
  fun before => mapStore (fun db => { before with db }) (call before.db)

/-- A transaction undoes what was written, not what was sent. -/
def transaction {Value : Type} (call : Broadcasting Value) :
    Broadcasting Value := fun before =>
  match call before with
  | .ok value after => .ok value after
  | .error raised after => .error raised { after with db := before.db }

def createOrderEvent (session : Session) (order : Order)
    (code message : String) (actor : Option Uuid) (payload : Json) :
    Broadcasting Unit := do
  let state ← get
  silently (NovaCommerce.createOrderEvent session order.id code message actor
    payload)
  let event := newOrderEvent session state.db order.id code message actor
    payload
  modify fun state => { state with saved := state.saved ++ [⟨order, event⟩] }

def createOrderFromCart (session : Session) (cart : Cart)
    (user : Option Uuid) (payload : CheckoutInput) : Broadcasting Order :=
  transaction do
    let state ← get
    if (state.db.itemsOf cart.id).isEmpty then
      throw (.checkoutError "cart is empty")
    else do
      let subtotal := state.db.cartSubtotal cart.id
      let (coupon, discount) ←
        silently (applyCoupon session payload.couponCode subtotal)
      let order ← silently (createOrder session
        (pricedOrder session cart user payload coupon subtotal discount)
        (key_pricedOrder session cart user payload coupon subtotal discount))
      let state ← get
      silently (checkoutItems session order.id
        (session.scan CartItem (state.db.itemsOf cart.id)))
      silently (countCouponUse coupon)
      createOrderEvent session order "created" "Order created" user (.obj [])
      silently (emptyCart session cart.id)
      pure order

def transitionStatus (session : Session) (orderId : Uuid)
    (newStatus : OrderStatus) (actor : Option Uuid := none)
    (message : String := "") : Broadcasting Order :=
  transaction do
    let order ← silently (lockOrder orderId)
    if order.canTransitionTo newStatus then do
      silently (settleStock session order newStatus)
      silently (saveOrder (order.enterStatus newStatus session.now))
      createOrderEvent session (order.enterStatus newStatus session.now)
        s!"status:{newStatus.value}"
        (if message = "" then s!"Status changed to {newStatus.value}"
          else message)
        actor (.obj [])
      pure (order.enterStatus newStatus session.now)
    else
      throw (.checkoutError
        s!"cannot transition order {order.number} from {order.status.value} to {newStatus.value}")

/-- `try: ... except Exception: ...`. -/
def swallow {Value : Type} (call : Broadcasting Value) : Broadcasting Unit :=
  fun before =>
    match call before with
    | .ok _ after => .ok () after
    | .error _ after => .ok () after

def moveOrder (session : Session) (order : Order)
    (newStatus : Option PaymentStatus) : Broadcasting Unit :=
  match newStatus with
  | some .captured =>
      swallow (transitionStatus session order.id .paid none "paid via webhook")
  | some .refunded => do
      let _ ← transitionStatus session order.id .refunded none
        "refunded via webhook"
  | some status =>
      if (status = .failed || status = .cancelled) &&
          order.status = .pending then do
        let _ ← transitionStatus session order.id .cancelled none
          s!"cancelled via webhook ({status.value})"
      else pure ()
  | none => pure ()

def applyWebhook (session : Session) (gateway : Gateway)
    (provider : PaymentProvider) (parsed : WebhookResult) :
    Broadcasting WebhookOutcome :=
  if parsed.accepted then do
    match ← silently (matchOrder session gateway parsed) with
    | none => pure .unmatched
    | some order => do
        createOrderEvent session order
          s!"webhook:{gateway.text parsed.eventType}"
          "payment provider webhook" none parsed.raw
        moveOrder session order parsed.newStatus
        silently (modify fun db => { db with
          payments :=
            updatedPayments db.payments order.id provider.code parsed })
        pure (.matched order.number)
  else pure (.rejected parsed.error)

def handleWebhook (session : Session) (gateway : Gateway)
    (providerCode : String) (headers : Headers) (body : Bytes) :
    Broadcasting WebhookOutcome :=
  transaction do
    let provider ← silently (raising (getProvider providerCode))
    let parsed ← silently
      (raising (provider.parseWebhook gateway headers body))
    applyWebhook session gateway provider parsed

/-- What is left of a broadcasting call without its broadcasts. -/
abbrev Erases {Value : Type} (call : Broadcasting Value)
    (service : Service Value) (before : Signals) : Prop :=
  Mirrors Signals.db call service before

variable {Value : Type} {call : Broadcasting Value} {service : Service Value}

theorem erases_silently (service : Service Value) (before : Signals) :
    Erases (silently service) service before := by
  unfold Erases Mirrors silently
  cases service before.db <;> rfl

theorem Erases.transaction {before : Signals}
    (erases : Erases call service before) :
    Erases (transaction call) (atomic service) before := by
  unfold Erases Mirrors
  cases called : call before with
  | ok value after =>
      rw [atomic_eq_ok.mpr (erases.eq_ok called), Broadcasting.transaction,
        called]
      rfl
  | error raised after =>
      rw [atomic, erases.eq_error called, Broadcasting.transaction, called]
      rfl

theorem Erases.swallow {before : Signals}
    (erases : Erases call service before) :
    Erases (swallow call) (NovaCommerce.swallow service) before := by
  unfold Erases Mirrors NovaCommerce.swallow Broadcasting.swallow
  rw [erases]
  cases call before <;> rfl

theorem erases_createOrderEvent (session : Session) (order : Order)
    (code message : String) (actor : Option Uuid) (payload : Json)
    (before : Signals) :
    Erases (createOrderEvent session order code message actor payload)
      (NovaCommerce.createOrderEvent session order.id code message actor
        payload) before := by
  unfold Erases Mirrors createOrderEvent NovaCommerce.createOrderEvent
  cases fits : recordable code message payload <;> simp only [Bool.not_true,
    Bool.not_false, if_true] <;> rfl

theorem erases_createOrderFromCart (session : Session) (cart : Cart)
    (user : Option Uuid) (payload : CheckoutInput) (before : Signals) :
    Erases (createOrderFromCart session cart user payload)
      (NovaCommerce.createOrderFromCart session cart user payload)
      before := by
  apply Erases.transaction
  apply mirrors_get_bind
  split
  · exact mirrors_throw _
  · apply (erases_silently _ _).bind
    rintro ⟨coupon, discount⟩ priced _
    apply (erases_silently _ _).bind
    intro order ordered _
    apply mirrors_get_bind
    apply (erases_silently _ _).bind
    intro _ sold _
    apply (erases_silently _ _).bind
    intro _ counted _
    apply (erases_createOrderEvent _ _ _ _ _ _ _).bind
    intro _ recorded _
    apply (erases_silently _ _).bind
    intro _ emptied _
    exact mirrors_pure _

theorem erases_transitionStatus (session : Session) (orderId : Uuid)
    (newStatus : OrderStatus) (actor : Option Uuid) (message : String)
    (before : Signals) :
    Erases (transitionStatus session orderId newStatus actor message)
      (NovaCommerce.transitionStatus session orderId newStatus actor message)
      before := by
  apply Erases.transaction
  apply (erases_silently _ _).bind
  intro order locked _
  split
  · apply (erases_silently _ _).bind
    intro _ settled _
    apply (erases_silently _ _).bind
    intro _ saved _
    have sameId : (order.enterStatus newStatus session.now).id = order.id :=
      congrArg TimeStampedUUIDModel.id (base_enterStatus _ _ _)
    rw [← sameId]
    apply (erases_createOrderEvent _ _ _ _ _ _ _).bind
    intro _ recorded _
    exact mirrors_pure _
  · exact mirrors_throw _

theorem erases_moveOrder (session : Session) (order : Order)
    (newStatus : Option PaymentStatus) (before : Signals) :
    Erases (moveOrder session order newStatus)
      (NovaCommerce.moveOrder session order newStatus) before := by
  have discarded : ∀ status message, Erases
      (do let _ ← transitionStatus session order.id status none message)
      (do let _ ← NovaCommerce.transitionStatus session order.id status none
            message) before := fun _ _ =>
    (erases_transitionStatus _ _ _ _ _ _).bind fun _ _ _ => mirrors_pure _
  cases newStatus with
  | none => exact mirrors_pure _
  | some status =>
      cases status with
      | captured => exact (erases_transitionStatus _ _ _ _ _ _).swallow
      | refunded => exact discarded _ _
      | pending | authorized => exact mirrors_pure _
      | failed | cancelled =>
          simp only [moveOrder, NovaCommerce.moveOrder]
          split
          · exact discarded _ _
          · exact mirrors_pure _

theorem erases_applyWebhook (session : Session) (gateway : Gateway)
    (provider : PaymentProvider) (parsed : WebhookResult)
    (before : Signals) :
    Erases (applyWebhook session gateway provider parsed)
      (NovaCommerce.applyWebhook session gateway provider parsed) before := by
  unfold applyWebhook NovaCommerce.applyWebhook
  split
  · apply (erases_silently _ _).bind
    intro found matched _
    cases found with
    | none => exact mirrors_pure _
    | some order =>
        apply (erases_createOrderEvent _ _ _ _ _ _ _).bind
        intro _ recorded _
        apply (erases_moveOrder _ _ _ _).bind
        intro _ moved _
        apply (erases_silently _ _).bind
        intro _ updated _
        exact mirrors_pure _
  · exact mirrors_pure _

theorem erases_handleWebhook (session : Session) (gateway : Gateway)
    (providerCode : String) (headers : Headers) (body : Bytes)
    (before : Signals) :
    Erases (handleWebhook session gateway providerCode headers body)
      (NovaCommerce.handleWebhook session gateway providerCode headers body)
      before := by
  apply Erases.transaction
  apply (erases_silently _ _).bind
  intro provider registered _
  apply (erases_silently _ _).bind
  intro parsed isParsed _
  exact erases_applyWebhook _ _ _ _ _

theorem silently_eq_ok {before after : Signals} {value : Value} :
    silently service before = .ok value after ↔
      ∃ db, service before.db = .ok value db ∧ after = { before with db } := by
  unfold silently
  cases service before.db with
  | ok answer db => simp [mapStore, eq_comm]
  | error raised db => simp [mapStore]

theorem silently_eq_error {before after : Signals} {raised : Exception} :
    silently service before = .error raised after ↔
      ∃ db, service before.db = .error raised db ∧
        after = { before with db } := by
  unfold silently
  cases service before.db with
  | ok answer db => simp [mapStore]
  | error raised db => simp [mapStore, eq_comm]

theorem transaction_eq_ok {before after : Signals} {value : Value} :
    transaction call before = .ok value after ↔
      call before = .ok value after := by
  unfold transaction
  cases call before <;> simp

theorem transaction_eq_error {before after : Signals} {raised : Exception} :
    transaction call before = .error raised after ↔
      ∃ middle, call before = .error raised middle ∧
        after = { middle with db := before.db } := by
  unfold transaction
  cases call before with
  | ok answer middle => simp
  | error raised middle => simp [eq_comm]

end Broadcasting

/-- The event is one of its order, and the owner of that order is the one that
the table has, if the order is in the table. -/
structure SavedEvent.IsOf (saved : SavedEvent) (db : Database) : Prop where
  order_eq : saved.event.order = saved.order.id
  owner_eq : ∀ row ∈ db.orders.rows, row.id = saved.order.id →
    row.user = saved.order.user

/-- The handler was called for these events, and all of them are in the
table. -/
structure Told (before after : Signals) (events : List SavedEvent) : Prop where
  saved_eq : after.saved = before.saved ++ events
  rows_eq : after.db.orderEvents.rows =
    before.db.orderEvents.rows ++ events.map SavedEvent.event
  areOf : ∀ saved ∈ events, saved.IsOf before.db

theorem Told.nil (before : Signals) : Told before before [] :=
  ⟨(List.append_nil _).symm, (List.append_nil _).symm, by simp⟩

/-- The event asks for a refund that its order does not allow. -/
def MatchedEvent.RefundsInVain (event : MatchedEvent) : Prop :=
  event.parsed.newStatus = some .refunded ∧
    event.order.canTransitionTo .refunded = false

instance (event : MatchedEvent) : Decidable event.RefundsInVain :=
  inferInstanceAs (Decidable (_ ∧ _))

theorem swallow_returns {Value : Type} (call : Service Value)
    (db : Database) : Returns (swallow call) db := by
  unfold Returns swallow
  cases call db with
  | ok value after => exact ⟨(), after, rfl⟩
  | error raised after => exact ⟨(), after, rfl⟩

theorem fitsColumn_calledOff (status : PaymentStatus) :
    fitsColumn 500 s!"cancelled via webhook ({status.value})" = true := by
  cases status <;> decide +kernel

/-- Only a refund that is not allowed stops an event. -/
theorem moveOrder_returns_iff {session : Session} {db : Database}
    {event : MatchedEvent} (member : event.order ∈ db.orders.rows)
    (isAlive : alive event.order = true) :
    Returns (moveOrder session event.order event.parsed.newStatus) db ↔
      ¬event.RefundsInVain := by
  constructor
  · rintro ⟨_, after, returned⟩ ⟨refunds, notAllowed⟩
    rw [refunds] at returned
    cases moveOrder_eq_ok member returned with
    | refunded transitioned =>
        rw [transitioned.allowed] at notAllowed
        cases notAllowed
    | stayed noMove => simp at noMove
    | cancelled calledOff | notCancelled calledOff => simp at calledOff
  · intro notInVain
    have discarded : ∀ status message, fitsColumn 500 message = true →
        status ≠ OrderStatus.paid →
        event.order.canTransitionTo status = true → Returns (do
          let _ ← transitionStatus session event.order.id status none message :
            Service Unit) db := by
      intro status message fits notPaid allowed
      obtain ⟨_, after, returned⟩ := transitionStatus_returns none fits
        member isAlive allowed (settleStock_returns session _ notPaid db)
      exact ⟨(), after, bind_eq_ok.mpr ⟨_, _, returned, rfl⟩⟩
    cases newStatus : event.parsed.newStatus with
    | none => exact ⟨(), db, rfl⟩
    | some status =>
        cases status with
        | pending | authorized => exact ⟨(), db, rfl⟩
        | captured =>
            exact swallow_returns _ db
        | refunded =>
            have allowed : event.order.canTransitionTo .refunded = true := by
              by_contra notAllowed
              exact notInVain ⟨newStatus, by simpa using notAllowed⟩
            exact discarded .refunded "refunded via webhook"
              (by decide +kernel) (by decide) allowed
        | failed | cancelled =>
            simp only [moveOrder]
            split
            · next guard =>
              have isPending : event.order.status = .pending := by
                simpa using guard
              have allowed : event.order.canTransitionTo .cancelled = true := by
                rw [Order.canTransitionTo, isPending]
                rfl
              exact discarded .cancelled _
                (fitsColumn_calledOff _) (by decide) allowed
            · exact ⟨(), db, rfl⟩

namespace Broadcasting

section Returned

variable {session : Session} {before after : Signals} {actor : Option Uuid}
  {message : String}

theorem createOrderEvent_eq_ok {order : Order} {code : String}
    {payload : Json}
    (returned : createOrderEvent session order code message actor payload
      before = .ok () after) :
    ∃ event, event.order = order.id ∧
      event.id ∉ before.db.orderEvents.keys ∧
      after.saved = before.saved ++ [⟨order, event⟩] ∧
      after.db.orderEvents.rows = before.db.orderEvents.rows ++ [event] ∧
      after.db = { before.db with orderEvents := after.db.orderEvents } := by
  rw [createOrderEvent, get_bind] at returned
  obtain ⟨_, _, recording, noting⟩ := bind_eq_ok.mp returned
  obtain ⟨_, recorded, rfl⟩ := silently_eq_ok.mp recording
  obtain ⟨_, rfl⟩ := recorded_of_createOrderEvent recorded
  rw [← modify_eq_ok.mp noting]
  exact ⟨_, rfl, FreshKey.fresh_notMem _, rfl, rfl, rfl⟩

/-- An event that does not fit its columns is not told of. -/
theorem createOrderEvent_eq_error {order : Order} {code : String}
    {payload : Json} {raised : Exception}
    (failed : createOrderEvent session order code message actor payload
      before = .error raised after) :
    after = before ∧ recordable code message payload = false := by
  rw [createOrderEvent, get_bind] at failed
  rcases bind_eq_error.mp failed with stopped | ⟨_, _, _, impossible⟩
  · obtain ⟨db, refused, rfl⟩ := silently_eq_error.mp stopped
    unfold NovaCommerce.createOrderEvent at refused
    cases fits : recordable code message payload with
    | true =>
        rw [fits] at refused
        cases refused
    | false =>
        rw [fits] at refused
        cases refused
        exact ⟨rfl, rfl⟩
  · cases impossible

/-- What was recorded fits its columns. -/
theorem recordable_of_eq_ok {order : Order} {code : String} {payload : Json}
    {value : Unit}
    (returned : createOrderEvent session order code message actor payload
      before = .ok value after) : recordable code message payload = true := by
  rw [createOrderEvent, get_bind] at returned
  obtain ⟨_, _, recording, _⟩ := bind_eq_ok.mp returned
  obtain ⟨_, recorded, _⟩ := silently_eq_ok.mp recording
  exact (recorded_of_createOrderEvent recorded).1

/-- An event that fits its columns is recorded. -/
theorem createOrderEvent_returns {order : Order} {code : String}
    {payload : Json} (fits : recordable code message payload = true) :
    ∃ recorded, createOrderEvent session order code message actor payload
      before = .ok () recorded := by
  cases recording : createOrderEvent session order code message actor payload
      before with
  | ok value recorded => exact ⟨recorded, rfl⟩
  | error raised last =>
      rw [(createOrderEvent_eq_error recording).2] at fits
      cases fits

/-- A transition tells of itself. -/
theorem transitionStatus_eq_ok {orderId : Uuid} {newStatus : OrderStatus}
    {changed : Order}
    (returned : transitionStatus session orderId newStatus actor message
      before = .ok changed after) :
    ∃ event, Told before after [⟨changed, event⟩] := by
  rw [transitionStatus, transaction_eq_ok] at returned
  obtain ⟨order, _, locking, rest⟩ := bind_eq_ok.mp returned
  obtain ⟨_, locked, rfl⟩ := silently_eq_ok.mp locking
  obtain ⟨rfl, member, _, _⟩ := lockOrder_eq_ok locked
  by_cases allowed : order.canTransitionTo newStatus = true
  · simp only [allowed, if_true] at rest
    obtain ⟨_, _, settling, rest⟩ := bind_eq_ok.mp rest
    obtain ⟨settled, isSettled, rfl⟩ := silently_eq_ok.mp settling
    have stockOnly := settleStock_stockOnly isSettled
    obtain ⟨_, _, saving, rest⟩ := bind_eq_ok.mp rest
    obtain ⟨_, saved, rfl⟩ := silently_eq_ok.mp saving
    rw [saveOrder, modify_eq_ok] at saved
    subst saved
    obtain ⟨_, _, recording, finished⟩ := bind_eq_ok.mp rest
    obtain ⟨event, ofOrder, _, saved_eq, rows_eq, _⟩ :=
      createOrderEvent_eq_ok recording
    obtain ⟨rfl, rfl⟩ := pure_eq_ok.mp finished
    have sameBase := base_enterStatus order newStatus session.now
    have sameUser : (order.enterStatus newStatus session.now).user =
        order.user := by
      cases newStatus <;> rfl
    rw [stockOnly] at rows_eq
    refine ⟨event, saved_eq, rows_eq, ?_⟩
    intro each isEach
    obtain rfl := List.mem_singleton.mp isEach
    refine ⟨ofOrder, ?_⟩
    intro row rowMem sameId
    rw [congrArg TimeStampedUUIDModel.id sameBase] at sameId
    rw [before.db.orders.eq_of_key_eq rowMem member sameId]
    exact sameUser.symm
  · simp only [allowed] at rest
    exact (throw_eq_ok.mp rest).elim

/-- A transition that raises has told nothing. -/
theorem transitionStatus_eq_error {orderId : Uuid} {newStatus : OrderStatus}
    {raised : Exception}
    (failed : transitionStatus session orderId newStatus actor message
      before = .error raised after) : after = before := by
  rw [transitionStatus, transaction_eq_error] at failed
  obtain ⟨middle, failed, rfl⟩ := failed
  suffices sameSaved : middle.saved = before.saved by
    rw [sameSaved]
  rcases bind_eq_error.mp failed with unlocked | ⟨order, _, locking, rest⟩
  · obtain ⟨_, _, rfl⟩ := silently_eq_error.mp unlocked
    rfl
  · obtain ⟨_, locked, rfl⟩ := silently_eq_ok.mp locking
    by_cases allowed : order.canTransitionTo newStatus = true
    · simp only [allowed, if_true] at rest
      rcases bind_eq_error.mp rest with unsettled | ⟨_, _, settling, rest⟩
      · obtain ⟨_, _, rfl⟩ := silently_eq_error.mp unsettled
        rfl
      · obtain ⟨_, _, rfl⟩ := silently_eq_ok.mp settling
        rcases bind_eq_error.mp rest with unsaved | ⟨_, _, saving, rest⟩
        · obtain ⟨_, _, rfl⟩ := silently_eq_error.mp unsaved
          rfl
        · obtain ⟨_, _, rfl⟩ := silently_eq_ok.mp saving
          rcases bind_eq_error.mp rest with unrecorded |
            ⟨_, _, _, impossible⟩
          · rw [(createOrderEvent_eq_error unrecorded).1]
          · cases impossible
    · simp only [allowed] at rest
      cases rest
      rfl

/-- A checkout tells that its order was created. -/
theorem createOrderFromCart_eq_ok {cart : Cart} {user : Option Uuid}
    {payload : CheckoutInput} {order : Order}
    (returned : createOrderFromCart session cart user payload before =
      .ok order after) :
    ∃ event, Told before after [⟨order, event⟩] := by
  rw [createOrderFromCart, transaction_eq_ok, get_bind]
    at returned
  by_cases isEmpty : (before.db.itemsOf cart.id).isEmpty = true
  · simp only [isEmpty, if_true] at returned
    exact (throw_eq_ok.mp returned).elim
  simp only [isEmpty] at returned
  obtain ⟨⟨coupon, discount⟩, _, applying, rest⟩ := bind_eq_ok.mp returned
  obtain ⟨_, applied, rfl⟩ := silently_eq_ok.mp applying
  obtain ⟨rfl, _⟩ := applyCoupon_eq_ok applied
  obtain ⟨created, _, creating, rest⟩ := bind_eq_ok.mp rest
  obtain ⟨_, ordered, rfl⟩ := silently_eq_ok.mp creating
  obtain ⟨rfl, created_eq⟩ := createOrder_eq_ok ordered
  rw [get_bind]
    at rest
  obtain ⟨_, _, looping, rest⟩ := bind_eq_ok.mp rest
  obtain ⟨middle, looped, rfl⟩ := silently_eq_ok.mp looping
  obtain ⟨_, _, itemsSold⟩ := checkoutItems_eq_ok looped
  obtain ⟨_, _, counting, rest⟩ := bind_eq_ok.mp rest
  obtain ⟨_, counted, rfl⟩ := silently_eq_ok.mp counting
  rw [countCouponUse_eq] at counted
  cases counted
  obtain ⟨_, recorded, recording, rest⟩ := bind_eq_ok.mp rest
  obtain ⟨event, ofOrder, _, saved_eq, rows_eq, _⟩ :=
    createOrderEvent_eq_ok recording
  obtain ⟨_, _, emptying, finished⟩ := bind_eq_ok.mp rest
  obtain ⟨_, emptied, rfl⟩ := silently_eq_ok.mp emptying
  obtain ⟨_, _, rfl⟩ := emptyCart_eq_ok emptied
  obtain ⟨rfl, rfl⟩ := pure_eq_ok.mp finished
  rw [itemsSold.frame] at rows_eq
  refine ⟨event, saved_eq, rows_eq, ?_⟩
  intro each isEach
  obtain rfl := List.mem_singleton.mp isEach
  refine ⟨ofOrder, ?_⟩
  intro row rowMem sameId
  have unused : created.id ∉ before.db.orders.keys := by
    rw [created_eq]
    exact FreshKey.fresh_notMem _
  exact absurd (sameId ▸ List.mem_map_of_mem rowMem) unused

/-- Only a cart that is not there can not be emptied. -/
theorem find?_eq_none_of_unemptied {cart : Uuid} {db middle : Database}
    {raised : Exception}
    (failed : emptyCart session cart db = .error raised middle) :
    db.carts.find? cart = none := by
  cases found : db.carts.find? cart with
  | none => rfl
  | some row =>
      rw [emptyCart_of_found found] at failed
      cases failed

/-- A checkout that raises has told nothing, unless it found no cart to
empty. -/
theorem createOrderFromCart_eq_error {cart : Cart} {user : Option Uuid}
    {payload : CheckoutInput} {raised : Exception}
    (failed : createOrderFromCart session cart user payload before =
      .error raised after) :
    after = before ∨ before.db.itemsOf cart.id ≠ [] ∧
      before.db.carts.find? cart.id = none ∧
      ∃ saved : SavedEvent, after =
        { before with saved := before.saved ++ [saved] } ∧
          saved.IsOf before.db := by
  rw [createOrderFromCart, transaction_eq_error] at failed
  obtain ⟨last, failed, rfl⟩ := failed
  rw [get_bind]
    at failed
  by_cases isEmpty : (before.db.itemsOf cart.id).isEmpty = true
  · simp only [isEmpty, if_true] at failed
    cases failed
    exact Or.inl rfl
  have nonempty : before.db.itemsOf cart.id ≠ [] := by
    simpa using isEmpty
  simp only [isEmpty] at failed
  rcases bind_eq_error.mp failed with stopped | ⟨⟨coupon, discount⟩, _,
    applying, rest⟩
  · obtain ⟨_, _, rfl⟩ := silently_eq_error.mp stopped
    exact Or.inl rfl
  obtain ⟨_, applied, rfl⟩ := silently_eq_ok.mp applying
  obtain ⟨rfl, _⟩ := applyCoupon_eq_ok applied
  rcases bind_eq_error.mp rest with stopped | ⟨created, _, creating, rest⟩
  · obtain ⟨_, _, rfl⟩ := silently_eq_error.mp stopped
    exact Or.inl rfl
  obtain ⟨_, ordered, rfl⟩ := silently_eq_ok.mp creating
  obtain ⟨rfl, created_eq⟩ := createOrder_eq_ok ordered
  rw [get_bind]
    at rest
  rcases bind_eq_error.mp rest with stopped | ⟨_, _, looping, rest⟩
  · obtain ⟨_, _, rfl⟩ := silently_eq_error.mp stopped
    exact Or.inl rfl
  obtain ⟨middle, looped, rfl⟩ := silently_eq_ok.mp looping
  obtain ⟨_, _, itemsSold⟩ := checkoutItems_eq_ok looped
  rcases bind_eq_error.mp rest with stopped | ⟨_, _, counting, rest⟩
  · obtain ⟨_, _, rfl⟩ := silently_eq_error.mp stopped
    exact Or.inl rfl
  obtain ⟨_, counted, rfl⟩ := silently_eq_ok.mp counting
  rw [countCouponUse_eq] at counted
  cases counted
  rcases bind_eq_error.mp rest with stopped | ⟨_, recorded, recording, rest⟩
  · rw [(createOrderEvent_eq_error stopped).1]
    exact Or.inl rfl
  obtain ⟨event, ofOrder, _, saved_eq, _, frame⟩ :=
    createOrderEvent_eq_ok recording
  rcases bind_eq_error.mp rest with stopped | ⟨_, _, _, impossible⟩
  · obtain ⟨_, unemptied, rfl⟩ := silently_eq_error.mp stopped
    refine Or.inr ⟨nonempty, ?_, ⟨created, event⟩, ?_, ofOrder, ?_⟩
    · have sameCarts : recorded.db.carts = before.db.carts := by
        rw [frame, itemsSold.frame]
      rw [← sameCarts]
      exact find?_eq_none_of_unemptied unemptied
    · rw [saved_eq]
    · intro row rowMem sameId
      have unused : created.id ∉ before.db.orders.keys := by
        rw [created_eq]
        exact FreshKey.fresh_notMem _
      exact absurd (sameId ▸ List.mem_map_of_mem rowMem) unused
  · cases impossible

theorem moveOrder_eq_ok {order : Order} {newStatus : Option PaymentStatus}
    (returned : moveOrder session order newStatus before = .ok () after) :
    ∃ events, Told before after events := by
  have discarded : ∀ status message, (do
      let _ ← transitionStatus session order.id status none message :
        Broadcasting Unit) before = .ok () after →
      ∃ events, Told before after events := by
    intro status message returned
    obtain ⟨changed, _, called, finished⟩ := bind_eq_ok.mp returned
    obtain ⟨_, rfl⟩ := pure_eq_ok.mp finished
    obtain ⟨event, told⟩ := transitionStatus_eq_ok called
    exact ⟨_, told⟩
  have stayed : (pure () : Broadcasting Unit) before = .ok () after →
      ∃ events, Told before after events := by
    intro finished
    obtain ⟨_, rfl⟩ := pure_eq_ok.mp finished
    exact ⟨[], .nil before⟩
  cases newStatus with
  | none => exact stayed returned
  | some status =>
      cases status with
      | captured =>
          unfold moveOrder swallow at returned
          cases called : transitionStatus session order.id .paid none
              "paid via webhook" before with
          | ok changed paid =>
              simp only [called] at returned
              cases returned
              obtain ⟨event, told⟩ := transitionStatus_eq_ok called
              exact ⟨_, told⟩
          | error raised middle =>
              simp only [called] at returned
              cases returned
              rw [transitionStatus_eq_error called]
              exact ⟨[], .nil before⟩
      | refunded => exact discarded _ _ returned
      | pending | authorized => exact stayed returned
      | failed | cancelled =>
          simp only [moveOrder] at returned
          split at returned
          · exact discarded _ _ returned
          · exact stayed returned

theorem moveOrder_eq_error {order : Order} {newStatus : Option PaymentStatus}
    {raised : Exception}
    (failed : moveOrder session order newStatus before =
      .error raised after) : after = before := by
  have discarded : ∀ status message, (do
      let _ ← transitionStatus session order.id status none message :
        Broadcasting Unit) before = .error raised after →
      after = before := by
    intro status message failed
    rcases bind_eq_error.mp failed with called | ⟨_, _, _, impossible⟩
    · exact transitionStatus_eq_error called
    · cases impossible
  cases newStatus with
  | none => cases failed
  | some status =>
      cases status with
      | captured =>
          unfold moveOrder swallow at failed
          cases called : transitionStatus session order.id .paid none
              "paid via webhook" before <;>
            simp only [called] at failed <;> cases failed
      | refunded => exact discarded _ _ failed
      | pending | authorized => cases failed
      | failed | cancelled =>
          simp only [moveOrder] at failed
          split at failed
          · exact discarded _ _ failed
          · cases failed

/-- The orders that a broadcasting call was given are those of the table. -/
theorem isOf_congr {saved : SavedEvent} {db other : Database}
    (same : other.orders = db.orders) (isOf : saved.IsOf other) :
    saved.IsOf db :=
  ⟨isOf.order_eq, same ▸ isOf.owner_eq⟩

theorem isOf_of_mem {order : Order} {event : OrderEvent} {db : Database}
    (member : order ∈ db.orders.rows) (ofOrder : event.order = order.id) :
    SavedEvent.IsOf ⟨order, event⟩ db := by
  refine ⟨ofOrder, ?_⟩
  intro row rowMem sameId
  rw [db.orders.eq_of_key_eq rowMem member sameId]

/-- The handling of a request that is matched. -/
theorem handleWebhook_of_event {gateway : Gateway} {providerCode : String}
    {headers : Headers} {body : Bytes} {event : MatchedEvent}
    (isEvent : requestEvent before.db session gateway providerCode headers
      body = some event) :
    handleWebhook session gateway providerCode headers body before =
      transaction (do
        createOrderEvent session event.order
          s!"webhook:{gateway.text event.parsed.eventType}"
          "payment provider webhook" none event.parsed.raw
        moveOrder session event.order event.parsed.newStatus
        silently (modify fun db => { db with
          payments := updatedPayments db.payments event.order.id
            event.provider.code event.parsed })
        pure (.matched event.order.number)) before := by
  obtain ⟨registered, isParsed, accepted, matching⟩ :=
    requestEvent_eq_some_iff.mp isEvent
  have quiet : ∀ {Value : Type} {service : Service Value} {value : Value},
      service before.db = .ok value before.db →
        silently service before = .ok value before := fun returned =>
    silently_eq_ok.mpr ⟨_, returned, rfl⟩
  rw [handleWebhook, transaction, transaction]
  rw [bind_of_eq_ok (quiet (show raising (getProvider providerCode) before.db =
      .ok event.provider before.db by rw [registered]; rfl)),
    bind_of_eq_ok (quiet (show raising (event.provider.parseWebhook gateway
      headers body) before.db = .ok event.parsed before.db by
        rw [isParsed]; rfl)),
    applyWebhook, if_pos accepted, bind_of_eq_ok (quiet matching)]

/-- A request that is not matched tells of nothing. -/
theorem handleWebhook_of_noEvent {gateway : Gateway} {providerCode : String}
    {headers : Headers} {body : Bytes}
    (noEvent : requestEvent before.db session gateway providerCode headers
      body = none) :
    settle (handleWebhook session gateway providerCode headers body) before =
      before := by
  rw [handleWebhook]
  cases registered : getProvider providerCode with
  | error raised => rfl
  | ok provider =>
      change settle (transaction (do
        let parsed ← silently
          (raising (provider.parseWebhook gateway headers body))
        applyWebhook session gateway provider parsed)) before = before
      cases isParsed : provider.parseWebhook gateway headers body with
      | error raised => rfl
      | ok parsed =>
          change settle (transaction
            (applyWebhook session gateway provider parsed)) before = before
          unfold applyWebhook
          split
          · next accepted =>
            cases matching : matchOrder session gateway parsed before.db with
            | error raised db =>
                rw [settle, transaction, bind_of_eq_error
                  (silently_eq_error.mpr ⟨_, matching, rfl⟩)]
            | ok found db =>
                obtain ⟨rfl, _⟩ := matchOrder_eq_ok matching
                rw [settle, transaction, bind_of_eq_ok
                  (silently_eq_ok.mpr ⟨_, matching, rfl⟩)]
                cases found with
                | none => rfl
                | some order =>
                    have isEvent : requestEvent before.db session gateway
                        providerCode headers body =
                          some ⟨provider, parsed, order⟩ :=
                      requestEvent_eq_some_iff.mpr
                        ⟨registered, isParsed, accepted, matching⟩
                    rw [noEvent] at isEvent
                    cases isEvent
          · rfl

/-- A request that can not be recorded tells of nothing. -/
theorem handleWebhook_of_unrecorded {gateway : Gateway}
    {providerCode : String} {headers : Headers} {body : Bytes}
    {event : MatchedEvent}
    (isEvent : requestEvent before.db session gateway providerCode headers
      body = some event)
    (unrecorded : ¬event.parsed.isRecordable gateway = true) :
    settle (handleWebhook session gateway providerCode headers body) before =
      before := by
  rw [settle, handleWebhook_of_event isEvent]
  cases recording : createOrderEvent session event.order
      s!"webhook:{gateway.text event.parsed.eventType}"
      "payment provider webhook" none event.parsed.raw before with
  | ok value recorded => exact absurd (recordable_of_eq_ok recording) unrecorded
  | error raised last =>
      obtain ⟨rfl, _⟩ := createOrderEvent_eq_error recording
      rw [transaction, bind_of_eq_error recording]

/-- A matched request that is recorded tells of its receipt and of what it did
to the order, or it is undone and has told of its receipt. -/
theorem handleWebhook_saves {gateway : Gateway} {providerCode : String}
    {headers : Headers} {body : Bytes} {event : MatchedEvent}
    (isEvent : requestEvent before.db session gateway providerCode headers
      body = some event)
    (records : event.parsed.isRecordable gateway = true) :
    ∃ noted : SavedEvent, noted.IsOf before.db ∧
      noted.event.id ∉ before.db.orderEvents.keys ∧
      (if event.RefundsInVain then
        settle (handleWebhook session gateway providerCode headers body)
          before = { before with saved := before.saved ++ [noted] }
      else ∃ after events,
        handleWebhook session gateway providerCode headers body before =
          .ok (.matched event.order.number) after ∧
          Told before after (noted :: events)) := by
  obtain ⟨member, isAlive⟩ := requestEvent_order isEvent
  obtain ⟨recorded, recording⟩ : ∃ recorded, createOrderEvent session
      event.order s!"webhook:{gateway.text event.parsed.eventType}"
      "payment provider webhook" none event.parsed.raw before =
        .ok () recorded := createOrderEvent_returns records
  obtain ⟨note, ofOrder, isNew, saved_eq, rows_eq, frame⟩ :=
    createOrderEvent_eq_ok recording
  have moves : Returns (moveOrder session event.order event.parsed.newStatus)
      recorded ↔ ¬event.RefundsInVain := by
    rw [← (erases_moveOrder session event.order event.parsed.newStatus
      recorded).returns_iff]
    apply moveOrder_returns_iff _ isAlive
    rw [frame]
    exact member
  refine ⟨⟨event.order, note⟩, isOf_of_mem member ofOrder, isNew, ?_⟩
  split
  · next inVain =>
    cases moving : moveOrder session event.order event.parsed.newStatus
        recorded with
    | ok _ moved => exact absurd inVain (moves.mp ⟨_, _, moving⟩)
    | error raised middle =>
        obtain rfl := moveOrder_eq_error moving
        rw [settle, handleWebhook_of_event isEvent, transaction,
          bind_of_eq_ok recording, bind_of_eq_error moving]
        simp only [saved_eq]
  · next notInVain =>
    obtain ⟨_, moved, moving⟩ := moves.mpr notInVain
    obtain ⟨events, told⟩ := moveOrder_eq_ok moving
    rw [handleWebhook_of_event isEvent]
    refine ⟨{ moved with db := { moved.db with
      payments := updatedPayments moved.db.payments event.order.id
        event.provider.code event.parsed } }, events,
      transaction_eq_ok.mpr ?_, ?_, ?_, ?_⟩
    · rw [bind_of_eq_ok recording, bind_of_eq_ok moving]
      rfl
    · change moved.saved = _
      rw [told.saved_eq, saved_eq]
      simp
    · change moved.db.orderEvents.rows = _
      rw [told.rows_eq, rows_eq]
      simp
    · intro saved savedMem
      rcases List.mem_cons.mp savedMem with rfl | later
      · exact isOf_of_mem member ofOrder
      · exact isOf_congr (by rw [frame]) (told.areOf saved later)

end Returned

end Broadcasting

/-- A call with the events whose handler it has called. -/
def StoreCommand.run (db : Database) : StoreCommand → Signals
  | .createOrderFromCart session cart user payload =>
      settle (Broadcasting.createOrderFromCart session cart user payload)
        { db }
  | .handleWebhook session gateway providerCode headers body =>
      settle (Broadcasting.handleWebhook session gateway providerCode headers
        body) { db }
  | .transitionStatus session orderId newStatus actor message =>
      settle (Broadcasting.transitionStatus session orderId newStatus actor
        message) { db }
  | command => { db := command.step db }

/-- On the database a call does what it does without its broadcasts. -/
theorem StoreCommand.run_db (db : Database) (command : StoreCommand) :
    (command.run db).db = command.step db := by
  cases command with
  | createOrderFromCart session cart user payload =>
      exact (Broadcasting.erases_createOrderFromCart session cart user payload
        { db }).settle.symm
  | handleWebhook session gateway providerCode headers body =>
      exact (Broadcasting.erases_handleWebhook session gateway providerCode
        headers body { db }).settle.symm
  | transitionStatus session orderId newStatus actor message =>
      exact (Broadcasting.erases_transitionStatus session orderId newStatus
        actor message { db }).settle.symm
  | createPayment | adjustStock | expirePendingPayments => rfl

/-- Every event that is told of is one of its order. -/
theorem StoreCommand.saved_isOf (db : Database) (command : StoreCommand) :
    ∀ saved ∈ (command.run db).saved, saved.IsOf db := by
  have none : ∀ {after : Signals}, after = { db } →
      ∀ saved ∈ after.saved, saved.IsOf db := by
    rintro _ rfl saved savedMem
    cases savedMem
  have told : ∀ {after : Signals} {events : List SavedEvent},
      Told { db } after events → ∀ saved ∈ after.saved, saved.IsOf db := by
    intro after events told saved savedMem
    rw [told.saved_eq] at savedMem
    exact told.areOf saved savedMem
  cases command with
  | createOrderFromCart session cart user payload =>
      rw [StoreCommand.run, settle]
      split
      · next returned =>
        obtain ⟨event, isTold⟩ :=
          Broadcasting.createOrderFromCart_eq_ok returned
        exact told isTold
      · next failed =>
        rcases Broadcasting.createOrderFromCart_eq_error failed with
          unchanged | ⟨_, _, only, rfl, isOf⟩
        · exact none unchanged
        · intro saved savedMem
          rw [List.mem_singleton.mp savedMem]
          exact isOf
  | handleWebhook session gateway providerCode headers body =>
      rw [StoreCommand.run]
      cases isEvent : requestEvent db session gateway providerCode headers
          body with
      | none =>
          exact none (Broadcasting.handleWebhook_of_noEvent isEvent)
      | some event =>
          have received : requestEvent ({ db } : Signals).db session gateway
              providerCode headers body = some event := isEvent
          by_cases records : event.parsed.isRecordable gateway = true
          swap
          · exact none
              (Broadcasting.handleWebhook_of_unrecorded received records)
          obtain ⟨noted, isOf, _, saves⟩ :=
            Broadcasting.handleWebhook_saves received records
          split at saves
          · rw [saves]
            intro saved savedMem
            rw [List.mem_singleton.mp savedMem]
            exact isOf
          · obtain ⟨after, events, returned, isTold⟩ := saves
            rw [settle_of_eq_ok returned]
            exact told isTold
  | transitionStatus session orderId newStatus actor message =>
      rw [StoreCommand.run, settle]
      split
      · next returned =>
        obtain ⟨event, isTold⟩ := Broadcasting.transitionStatus_eq_ok returned
        exact told isTold
      · next failed =>
        exact none (Broadcasting.transitionStatus_eq_error failed)
  | createPayment | adjustStock | expirePendingPayments =>
      intro saved savedMem
      cases savedMem

end NovaCommerce
