import Mathlib.Data.List.Chain
import NovaCommerce.PaymentHistory

/-!
# The history of an order in its events

Every transition stamps its order and appends an event under a code that names
the new status.  Checkouts, charge attempts and webhooks append other events or
none, and write other columns.  In every run the events of an order spell the
path of allowed transitions that it has taken since it was pending, and its
moments tell the same: an order that is cancelled or refunded stays so.
-/

namespace NovaCommerce

open AtomicCall GuardedRun TextDecoding

/-- The code of the event of a transition. -/
def statusCode (status : OrderStatus) : String :=
  s!"status:{status.value}"

/-- `code__startswith="status:"`. -/
def isStatusCode (code : String) : Bool :=
  "status:".toList.isPrefixOf code.toList

theorem isStatusCode_statusCode (status : OrderStatus) :
    isStatusCode (statusCode status) = true := by
  cases status <;> decide

theorem isStatusCode_webhook (eventType : String) :
    isStatusCode s!"webhook:{eventType}" = false := by
  rw [isStatusCode, String.toList_append]
  rfl

/-- The codes of the status events of an order, in the order of their
creation. -/
def Database.statusCodes (db : Database) (order : Uuid) : List String :=
  (db.orderEvents.rows.filter fun event =>
    event.order = order && isStatusCode event.code).map OrderEvent.code

/-- The columns of an order that tell its history. -/
def Order.stamps (order : Order) :
    Uuid × OrderStatus × Option Time × Option Time × Option Time :=
  (order.id, order.status, order.paidAt, order.cancelledAt, order.refundedAt)

/-- The order has come from `pending` to its status over a path of allowed
transitions, and its moments are those of the path. -/
structure Order.HasTaken (order : Order) (path : List OrderStatus) : Prop where
  allowed : List.IsChain (fun old new => new ∈ old.allowedTransitions)
    (.pending :: path)
  status_eq : path.getLastD .pending = order.status
  paid : order.paidAt.isSome ↔ .paid ∈ path
  cancelled : order.cancelledAt.isSome ↔ path.getLast? = some .cancelled
  refunded : order.refundedAt.isSome ↔ path.getLast? = some .refunded

namespace Order

variable {order row : Order} {path : List OrderStatus}

theorem HasTaken.congr (taken : order.HasTaken path)
    (same : row.stamps = order.stamps) : row.HasTaken path := by
  simp only [stamps, Prod.mk.injEq] at same
  obtain ⟨_, status_eq, paid_eq, cancelled_eq, refunded_eq⟩ := same
  exact ⟨taken.allowed, status_eq ▸ taken.status_eq, paid_eq ▸ taken.paid,
    cancelled_eq ▸ taken.cancelled, refunded_eq ▸ taken.refunded⟩

/-- A new order has taken no step. -/
theorem hasTaken_nil (isPending : order.status = .pending)
    (unpaid : order.paidAt = none) (uncancelled : order.cancelledAt = none)
    (unrefunded : order.refundedAt = none) : order.HasTaken [] where
  allowed := List.isChain_singleton _
  status_eq := isPending.symm
  paid := by simp [unpaid]
  cancelled := by simp [uncancelled]
  refunded := by simp [unrefunded]

/-- A moment that is set ends the path. -/
theorem HasTaken.status_eq_last (taken : order.HasTaken path)
    {status : OrderStatus} (last : path.getLast? = some status) :
    order.status = status := by
  rw [← taken.status_eq, List.getLastD_eq_getLast?, last]
  rfl

/-- An order that may still move is neither cancelled nor refunded. -/
theorem HasTaken.notEnded (taken : order.HasTaken path) {new : OrderStatus}
    (allowed : order.canTransitionTo new = true) :
    order.cancelledAt.isSome = false ∧ order.refundedAt.isSome = false := by
  have ended : ∀ status : OrderStatus, status.allowedTransitions = [] →
      path.getLast? ≠ some status := by
    intro status noWay last
    rw [canTransitionTo, taken.status_eq_last last, noWay] at allowed
    cases allowed
  rw [Bool.eq_false_iff, Bool.eq_false_iff, Ne, taken.cancelled, Ne,
    taken.refunded]
  exact ⟨ended .cancelled rfl, ended .refunded rfl⟩

/-- An allowed transition continues the path. -/
theorem HasTaken.enterStatus (taken : order.HasTaken path)
    {new : OrderStatus} (allowed : order.canTransitionTo new = true)
    (now : Time) : (order.enterStatus new now).HasTaken (path ++ [new]) := by
  obtain ⟨uncancelled, unrefunded⟩ := taken.notEnded allowed
  constructor
  case allowed =>
    change List.IsChain _ ((.pending :: path) ++ [new])
    refine taken.allowed.append (List.isChain_singleton new) ?_
    intro old atLast next atHead
    have oldEq : old = order.status := by
      rw [← taken.status_eq, List.getLastD_eq_getLast?]
      simpa [List.getLast?_cons, eq_comm] using atLast
    obtain rfl : new = next := by simpa using atHead
    rw [oldEq]
    simpa [canTransitionTo] using allowed
  case status_eq => simp [status_enterStatus]
  case paid =>
    have before := taken.paid
    cases new <;> simp_all [Order.enterStatus]
  case cancelled =>
    rw [List.getLast?_concat]
    cases new <;> simp [Order.enterStatus, uncancelled]
  case refunded =>
    rw [List.getLast?_concat]
    cases new <;> simp [Order.enterStatus, unrefunded]

end Order

/-- What happens to the orders and to their events, in one of three ways. -/
inductive LogStep (db after : Database) : Prop
  | noted {notes : List OrderEvent}
      (sameOrders : after.orders.rows.map Order.stamps =
        db.orders.rows.map Order.stamps)
      (events_eq : after.orderEvents.rows = db.orderEvents.rows ++ notes)
      (areNotes : ∀ event ∈ notes, isStatusCode event.code = false ∧
        event.order ∈ db.orders.keys)
  | placed {order : Order} {event : OrderEvent}
      (unused : order.id ∉ db.orders.keys)
      (isNew : order.stamps = (order.id, .pending, none, none, none))
      (orders_eq : after.orders.rows = db.orders.rows ++ [order])
      (events_eq : after.orderEvents.rows = db.orderEvents.rows ++ [event])
      (ofOrder : event.order = order.id)
      (isNote : isStatusCode event.code = false)
  | moved {order : Order} {new : OrderStatus} {now : Time}
      {event : OrderEvent} (member : order ∈ db.orders.rows)
      (allowed : order.canTransitionTo new = true)
      (orders_eq : after.orders = db.orders.save (order.enterStatus new now))
      (events_eq : after.orderEvents.rows = db.orderEvents.rows ++ [event])
      (ofOrder : event.order = order.id)
      (code_eq : event.code = statusCode new)

/-- The events tell the histories of all orders. -/
structure Database.TellsHistories (db : Database) : Prop where
  eventsHaveOrders : ∀ event ∈ db.orderEvents.rows, event.order ∈ db.orders.keys
  histories : ∀ order ∈ db.orders.rows, ∃ path,
    db.statusCodes order.id = path.map statusCode ∧ order.HasTaken path

/-- An order that has ended stays as it is, and so do its status events. -/
def Database.KeepsEnded (db after : Database) : Prop :=
  ∀ order ∈ db.orders.rows, order.status.allowedTransitions = [] →
    (∃ row ∈ after.orders.rows, row.id = order.id ∧
      row.status = order.status) ∧
      after.statusCodes order.id = db.statusCodes order.id

section Log

variable {db after : Database}

/-- Other events do not belong to the log of an order. -/
theorem statusCodes_append {order : Uuid} {events : List OrderEvent}
    (events_eq : after.orderEvents.rows = db.orderEvents.rows ++ events)
    (others : ∀ event ∈ events, event.order = order →
      isStatusCode event.code = false) :
    after.statusCodes order = db.statusCodes order := by
  have none : events.filter (fun event =>
      event.order = order && isStatusCode event.code) = [] := by
    apply List.filter_eq_nil_iff.mpr
    intro event member
    by_cases ofOrder : event.order = order
    · simp [ofOrder, others event member ofOrder]
    · simp [ofOrder]
  rw [Database.statusCodes, events_eq, List.filter_append, none,
    List.append_nil]
  rfl

theorem statusCodes_append_self {order : Uuid} {event : OrderEvent}
    {new : OrderStatus}
    (events_eq : after.orderEvents.rows = db.orderEvents.rows ++ [event])
    (ofOrder : event.order = order) (code_eq : event.code = statusCode new) :
    after.statusCodes order = db.statusCodes order ++ [statusCode new] := by
  rw [Database.statusCodes, events_eq, List.filter_append, List.map_append]
  simp [ofOrder, code_eq, isStatusCode_statusCode, Database.statusCodes]

theorem keys_of_stamps (same : after.orders.rows.map Order.stamps =
    db.orders.rows.map Order.stamps) : after.orders.keys = db.orders.keys := by
  have ids := congrArg (List.map Prod.fst) same
  rw [List.map_map, List.map_map] at ids
  exact ids

theorem exists_stamps (same : after.orders.rows.map Order.stamps =
      db.orders.rows.map Order.stamps) {row : Order}
    (member : row ∈ after.orders.rows) :
    ∃ order ∈ db.orders.rows, row.stamps = order.stamps := by
  have listed : row.stamps ∈ db.orders.rows.map Order.stamps :=
    same ▸ List.mem_map_of_mem member
  obtain ⟨order, orderMem, stamps_eq⟩ := List.mem_map.mp listed
  exact ⟨order, orderMem, stamps_eq.symm⟩

/-- A new order has no events yet. -/
theorem statusCodes_of_unused {order : Uuid}
    (tells : db.TellsHistories) (unused : order ∉ db.orders.keys) :
    db.statusCodes order = [] := by
  rw [Database.statusCodes, List.map_eq_nil_iff, List.filter_eq_nil_iff]
  intro event member
  have other : event.order ≠ order := by
    rintro rfl
    exact unused (tells.eventsHaveOrders event member)
  simp [other]

theorem LogStep.tellsHistories (step : LogStep db after)
    (tells : db.TellsHistories) : after.TellsHistories := by
  cases step with
  | noted sameOrders events_eq areNotes =>
      constructor
      · intro event member
        rw [keys_of_stamps sameOrders]
        rw [events_eq, List.mem_append] at member
        rcases member with member | member
        · exact tells.eventsHaveOrders event member
        · exact (areNotes event member).2
      · intro row member
        obtain ⟨order, orderMem, same⟩ := exists_stamps sameOrders member
        obtain ⟨path, codes_eq, taken⟩ := tells.histories order orderMem
        have sameId : row.id = order.id := congrArg Prod.fst same
        refine ⟨path, ?_, taken.congr same⟩
        rw [statusCodes_append events_eq fun event member _ =>
          (areNotes event member).1, sameId, codes_eq]
  | @placed order event unused isNew orders_eq events_eq ofOrder isNote =>
      have keys_eq : after.orders.keys = db.orders.keys ++ [order.id] := by
        rw [Table.keys, orders_eq, List.map_append]
        rfl
      constructor
      · intro other member
        rw [keys_eq]
        rw [events_eq, List.mem_append, List.mem_singleton] at member
        rcases member with member | rfl
        · exact List.mem_append_left _ (tells.eventsHaveOrders other member)
        · exact List.mem_append_right _ (by simp [ofOrder])
      · intro row member
        rw [statusCodes_append events_eq fun other member _ =>
          List.mem_singleton.mp member ▸ isNote]
        rw [orders_eq, List.mem_append, List.mem_singleton] at member
        rcases member with member | rfl
        · exact tells.histories row member
        · refine ⟨[], statusCodes_of_unused tells unused, ?_⟩
          simp only [Order.stamps, Prod.mk.injEq] at isNew
          exact row.hasTaken_nil isNew.2.1 isNew.2.2.1 isNew.2.2.2.1
            isNew.2.2.2.2
  | @moved order new now event member allowed orders_eq events_eq ofOrder
      code_eq =>
      have sameId : (order.enterStatus new now).id = order.id :=
        congrArg TimeStampedUUIDModel.id (base_enterStatus _ _ _)
      constructor
      · intro other otherMem
        rw [orders_eq, Table.keys_save]
        rw [events_eq, List.mem_append, List.mem_singleton] at otherMem
        rcases otherMem with otherMem | rfl
        · exact tells.eventsHaveOrders other otherMem
        · rw [ofOrder]
          exact List.mem_map_of_mem member
      · intro row rowMem
        rw [orders_eq, Table.mem_save] at rowMem
        rcases rowMem with ⟨rowMem, otherKey⟩ | ⟨rfl, _⟩
        · have notOrder : event.order ≠ row.id := by
            rw [ofOrder, ← sameId]
            exact fun same => otherKey same.symm
          rw [statusCodes_append events_eq fun other otherMem ofRow =>
            absurd (List.mem_singleton.mp otherMem ▸ ofRow) notOrder]
          exact tells.histories row rowMem
        · obtain ⟨path, codes_eq, taken⟩ := tells.histories order member
          refine ⟨path ++ [new], ?_, taken.enterStatus allowed now⟩
          rw [sameId, statusCodes_append_self events_eq ofOrder code_eq,
            codes_eq, List.map_append]
          rfl

theorem Database.KeepsEnded.refl (db : Database) : db.KeepsEnded db :=
  fun order member _ => ⟨⟨order, member, rfl, rfl⟩, rfl⟩

theorem Database.KeepsEnded.trans {first second third : Database}
    (before : first.KeepsEnded second) (later : second.KeepsEnded third) :
    first.KeepsEnded third := by
  intro order member ended
  obtain ⟨⟨row, rowMem, sameId, sameStatus⟩, codes_eq⟩ :=
    before order member ended
  obtain ⟨⟨last, lastMem, lastId, lastStatus⟩, lastCodes⟩ :=
    later row rowMem (sameStatus ▸ ended)
  rw [sameId] at lastId lastCodes
  exact ⟨⟨last, lastMem, lastId, lastStatus.trans sameStatus⟩,
    lastCodes.trans codes_eq⟩

theorem LogStep.keepsEnded (step : LogStep db after) : db.KeepsEnded after := by
  intro order orderMem ended
  cases step with
  | noted sameOrders events_eq areNotes =>
      refine ⟨?_, statusCodes_append events_eq fun event member _ =>
        (areNotes event member).1⟩
      obtain ⟨row, rowMem, same⟩ := exists_stamps sameOrders.symm orderMem
      simp only [Order.stamps, Prod.mk.injEq] at same
      exact ⟨row, rowMem, same.1.symm, same.2.1.symm⟩
  | placed _ _ orders_eq events_eq _ isNote =>
      refine ⟨⟨order, ?_, rfl, rfl⟩, statusCodes_append events_eq
        fun event member _ => List.mem_singleton.mp member ▸ isNote⟩
      rw [orders_eq]
      exact List.mem_append_left _ orderMem
  | @moved moving new now event member allowed orders_eq events_eq ofOrder _ =>
      have elsewhere : order ≠ moving := by
        rintro rfl
        rw [Order.canTransitionTo, ended] at allowed
        cases allowed
      have otherId : order.id ≠ moving.id := fun sameId =>
        elsewhere (db.orders.eq_of_key_eq orderMem member sameId)
      have sameId : (moving.enterStatus new now).id = moving.id :=
        congrArg TimeStampedUUIDModel.id (base_enterStatus _ _ _)
      refine ⟨⟨order, ?_, rfl, rfl⟩, statusCodes_append events_eq
        fun other otherMem ofOther => absurd ?_ otherId⟩
      · rw [orders_eq]
        apply Table.mem_save_of_ne orderMem
        exact fun same => otherId (same.trans sameId)
      · rw [← ofOther, List.mem_singleton.mp otherMem, ofOrder]

end Log

section Calls

variable {session : Session} {db after : Database}

theorem LogStep.same (sameOrders : after.orders = db.orders)
    (sameEvents : after.orderEvents = db.orderEvents) : LogStep db after := by
  have noNotes : ∀ event ∈ ([] : List OrderEvent),
      isStatusCode event.code = false ∧ event.order ∈ db.orders.keys := nofun
  refine .noted (by rw [sameOrders]) ?_ noNotes
  rw [sameEvents, List.append_nil]

/-- One event was appended. -/
theorem createOrderEvent_eq_ok {order : Uuid} {code message : String}
    {actor : Option Uuid} {payload : Json}
    (returned : createOrderEvent session order code message actor payload db =
      .ok () after) :
    ∃ event : OrderEvent, event.order = order ∧ event.code = code ∧
      after.orderEvents.rows = db.orderEvents.rows ++ [event] ∧
      after = { db with orderEvents := after.orderEvents } := by
  obtain ⟨_, rfl⟩ := recorded_of_createOrderEvent returned
  exact ⟨createdEvent session order code message actor payload _, rfl, rfl,
    rfl, rfl⟩

/-- A transition appends the event of its status. -/
theorem transitionStatus_logs {orderId : Uuid} {newStatus : OrderStatus}
    {actor : Option Uuid} {message : String} {changed : Order}
    (returned : transitionStatus session orderId newStatus actor message db =
      .ok changed after) :
    LogStep db after := by
  rw [transitionStatus, atomic_eq_ok] at returned
  obtain ⟨order, found, locked, rest⟩ := bind_eq_ok.mp returned
  obtain ⟨rfl, member, _, _⟩ := lockOrder_eq_ok locked
  by_cases allowed : order.canTransitionTo newStatus = true
  · simp only [allowed, if_true] at rest
    obtain ⟨_, settled, settling, rest⟩ := bind_eq_ok.mp rest
    obtain ⟨_, _, saving, rest⟩ := bind_eq_ok.mp rest
    obtain ⟨_, recorded, recording, finished⟩ := bind_eq_ok.mp rest
    obtain ⟨_, rfl⟩ := pure_eq_ok.mp finished
    rw [saveOrder, modify_eq_ok] at saving
    subst saving
    obtain ⟨event, ofOrder, code_eq, events_eq, frame⟩ :=
      createOrderEvent_eq_ok recording
    have stockOnly := settleStock_stockOnly settling
    have orders_eq : recorded.orders =
        found.orders.save (order.enterStatus newStatus session.now) := by
      rw [frame, stockOnly]
    rw [stockOnly] at events_eq
    exact .moved member allowed orders_eq events_eq ofOrder code_eq
  · simp only [allowed] at rest
    exact (throw_eq_ok.mp rest).elim

/-- A checkout appends an event that the order was created. -/
theorem createOrderFromCart_logs {cart : Cart} {user : Option Uuid}
    {payload : CheckoutInput} {order : Order}
    (returned : createOrderFromCart session cart user payload db =
      .ok order after) :
    LogStep db after := by
  rw [createOrderFromCart, atomic_eq_ok, get_bind] at returned
  by_cases isEmpty : (db.itemsOf cart.id).isEmpty = true
  · simp only [isEmpty, if_true] at returned
    exact (throw_eq_ok.mp returned).elim
  simp only [isEmpty] at returned
  obtain ⟨⟨coupon, discount⟩, _, applied, rest⟩ := bind_eq_ok.mp returned
  obtain ⟨rfl, _⟩ := applyCoupon_eq_ok applied
  obtain ⟨created, _, ordered, rest⟩ := bind_eq_ok.mp rest
  obtain ⟨rfl, created_eq⟩ := createOrder_eq_ok ordered
  rw [get_bind]
    at rest
  obtain ⟨_, middle, looped, rest⟩ := bind_eq_ok.mp rest
  obtain ⟨_, _, itemsSold⟩ := checkoutItems_eq_ok looped
  rw [bind_of_eq_ok (countCouponUse_eq coupon middle)] at rest
  obtain ⟨_, recorded, recording, rest⟩ := bind_eq_ok.mp rest
  obtain ⟨event, ofOrder, code_eq, events_eq, frame⟩ :=
    createOrderEvent_eq_ok recording
  obtain ⟨_, _, emptied, finished⟩ := bind_eq_ok.mp rest
  obtain ⟨_, _, rfl⟩ := emptyCart_eq_ok emptied
  obtain ⟨_, rfl⟩ := pure_eq_ok.mp finished
  rw [itemsSold.frame] at events_eq frame
  refine .placed ?_ ?_ ?_ events_eq ofOrder (code_eq ▸ by decide)
  · rw [created_eq]
    exact FreshKey.fresh_notMem _
  · rw [created_eq]
    rfl
  · rw [frame, created_eq]
    rfl

/-- A charge attempt writes other columns of an order, whatever order object
it was given. -/
theorem createPayment_logs {gateway : Gateway} {order : Order}
    {providerCode successUrl cancelUrl : String} {payment : Payment}
    (returned : createPayment session gateway order providerCode successUrl
      cancelUrl db = .ok payment after) :
    LogStep db after := by
  obtain ⟨_, _, charged⟩ := createPayment_eq_ok returned
  have sameEvents : after.orderEvents.rows = db.orderEvents.rows ++ [] := by
    rw [charged.frame, List.append_nil]
  refine .noted ?_ sameEvents nofun
  rcases charged.orders_eq with same | ⟨row, rowMem, _, _, saved⟩
  · rw [same]
  · rw [saved]
    refine Table.map_save rowMem ?_ Order.stamps ?_ <;> rfl

/-- A webhook may move its order, once or not at all. -/
theorem moveOrder_logs {order : Order} {newStatus : Option PaymentStatus}
    (returned : moveOrder session order newStatus db = .ok () after) :
    LogStep db after := by
  have cancels : ∀ status : PaymentStatus,
      ((if (status = .failed || status = .cancelled) &&
          order.status = .pending then do
        let _ ← transitionStatus session order.id .cancelled none
          s!"cancelled via webhook ({status.value})"
      else pure () : Service Unit) db = .ok () after) → LogStep db after := by
    intro status returned
    split at returned
    · obtain ⟨_, _, called, finished⟩ := bind_eq_ok.mp returned
      obtain ⟨_, rfl⟩ := pure_eq_ok.mp finished
      exact transitionStatus_logs called
    · obtain ⟨_, rfl⟩ := pure_eq_ok.mp returned
      exact .same rfl rfl
  cases newStatus with
  | none =>
      obtain ⟨_, rfl⟩ := pure_eq_ok.mp returned
      exact .same rfl rfl
  | some status =>
      cases status with
      | captured =>
          unfold moveOrder swallow at returned
          cases called : transitionStatus session order.id .paid none
              "paid via webhook" db with
          | ok changed middle =>
              simp only [called] at returned
              cases returned
              exact transitionStatus_logs called
          | error raised middle =>
              simp only [called] at returned
              cases returned
              have unchanged : after = db := atomic_eq_error called
              rw [unchanged]
              exact .same rfl rfl
      | refunded =>
          obtain ⟨_, _, called, finished⟩ := bind_eq_ok.mp returned
          obtain ⟨_, rfl⟩ := pure_eq_ok.mp finished
          exact transitionStatus_logs called
      | pending => exact cancels .pending returned
      | authorized => exact cancels .authorized returned
      | failed => exact cancels .failed returned
      | cancelled => exact cancels .cancelled returned

/-- The steps of a call, one after the other. -/
def Logs : Database → Database → Prop :=
  Relation.ReflTransGen LogStep

theorem Logs.tellsHistories (logs : Logs db after)
    (tells : db.TellsHistories) : after.TellsHistories := by
  induction logs with
  | refl => exact tells
  | tail _ step ih => exact step.tellsHistories ih

theorem Logs.keepsEnded (logs : Logs db after) : db.KeepsEnded after := by
  induction logs with
  | refl => exact .refl db
  | tail _ step ih => exact ih.trans step.keepsEnded

/-- A webhook records an event, may move its order, and updates payments. -/
theorem handleWebhook_logs {gateway : Gateway} {providerCode : String}
    {headers : Headers} {body : Bytes} {outcome : WebhookOutcome}
    (returned : handleWebhook session gateway providerCode headers body db =
      .ok outcome after) :
    Logs db after := by
  obtain ⟨provider, _, looked, rest⟩ :=
    bind_eq_ok.mp (atomic_eq_ok.mp returned)
  obtain ⟨_, rfl⟩ := raising_eq_ok looked
  obtain ⟨parsed, _, parsing, rest⟩ := bind_eq_ok.mp rest
  obtain ⟨_, rfl⟩ := raising_eq_ok parsing
  unfold applyWebhook at rest
  by_cases accepted : parsed.accepted = true
  · simp only [accepted, if_true] at rest
    obtain ⟨found, _, matching, rest⟩ := bind_eq_ok.mp rest
    obtain ⟨rfl, visible⟩ := matchOrder_eq_ok matching
    cases found with
    | none =>
        obtain ⟨_, rfl⟩ := pure_eq_ok.mp rest
        exact .refl
    | some order =>
        obtain ⟨member, _⟩ := visible order rfl
        obtain ⟨_, recorded, recording, rest⟩ := bind_eq_ok.mp rest
        obtain ⟨_, moved, moving, rest⟩ := bind_eq_ok.mp rest
        obtain ⟨_, _, updating, finished⟩ := bind_eq_ok.mp rest
        obtain ⟨_, rfl⟩ := pure_eq_ok.mp finished
        rw [modify_eq_ok] at updating
        subst updating
        obtain ⟨event, ofOrder, code_eq, events_eq, frame⟩ :=
          createOrderEvent_eq_ok recording
        have noted : LogStep db recorded := by
          refine .noted (by rw [frame]) events_eq fun other otherMem => ?_
          rw [List.mem_singleton.mp otherMem, code_eq, ofOrder]
          exact ⟨isStatusCode_webhook _, List.mem_map_of_mem member⟩
        have updated : LogStep moved { moved with
            payments := updatedPayments moved.payments order.id provider.code
              parsed } :=
          .same rfl rfl
        exact ((Relation.ReflTransGen.single noted).tail
          (moveOrder_logs moving)).tail updated
  · simp only [accepted] at rest
    obtain ⟨_, rfl⟩ := pure_eq_ok.mp rest
    exact .refl

end Calls

/-- A call of the store; a charge attempt may be given any order object, such
as one that was read before other calls changed the row. -/
inductive HistoryCall where
  | store (command : StoreCommand)
  | createPayment (session : Session) (gateway : Gateway) (order : Order)
      (providerCode successUrl cancelUrl : String)

/-- The database after a call, whether it returned or raised. -/
def HistoryCall.step (db : Database) : HistoryCall → Database
  | store command => command.step db
  | createPayment session gateway order providerCode successUrl cancelUrl =>
      settle (NovaCommerce.createPayment session gateway order providerCode
        successUrl cancelUrl) db

theorem logs_settle {Value : Type} {call : Service Value} {db : Database}
    (undoes : ∀ error after, call db = .error error after → after = db)
    (logs : ∀ value after, call db = .ok value after → Logs db after) :
    Logs db (settle call db) := by
  rcases settle_cases call undoes with ⟨value, returned⟩ | unchanged
  · exact logs value _ returned
  · rw [unchanged]
    exact .refl

theorem StoreCommand.logs (db : Database) (command : StoreCommand) :
    Logs db (command.step db) := by
  cases command with
  | createOrderFromCart session cart user payload =>
      exact logs_settle (fun _ _ => atomic_eq_error)
        fun _ _ returned => .single (createOrderFromCart_logs returned)
  | createPayment session gateway orderId providerCode successUrl cancelUrl =>
      rw [StoreCommand.step]
      split
      · exact .refl
      · exact logs_settle (fun _ _ => atomic_eq_error)
          fun _ _ returned => .single (createPayment_logs returned)
  | handleWebhook session gateway providerCode headers body =>
      exact logs_settle (fun _ _ => atomic_eq_error)
        fun _ _ returned => handleWebhook_logs returned
  | transitionStatus session orderId newStatus actor message =>
      exact logs_settle (fun _ _ => atomic_eq_error)
        fun _ _ returned => .single (transitionStatus_logs returned)
  | adjustStock session variantId warehouseCode delta note =>
      refine logs_settle (fun _ _ => atomic_eq_error) fun _ _ returned => ?_
      obtain ⟨_, _, _, _, _, _, after_eq⟩ := adjustStock_eq_ok returned
      rw [after_eq]
      exact .single (.same rfl rfl)
  | expirePendingPayments session olderThanMinutes =>
      exact .single (.same rfl rfl)

theorem HistoryCall.logs (db : Database) (call : HistoryCall) :
    Logs db (call.step db) := by
  cases call with
  | store command => exact command.logs db
  | createPayment session gateway order providerCode successUrl cancelUrl =>
      exact logs_settle (fun _ _ => atomic_eq_error)
        fun _ _ returned => .single (createPayment_logs returned)

theorem HistoryCall.tellsHistories {db : Database} (calls : List HistoryCall)
    (tells : db.TellsHistories) :
    (exec HistoryCall.step db calls).TellsHistories := by
  have preserved : ∀ (state : Database) (call : HistoryCall),
      state.TellsHistories → (call.step state).TellsHistories :=
    fun state call tells => (call.logs state).tellsHistories tells
  exact exec_invariant_of_steps preserved tells calls

theorem HistoryCall.keepsEnded (db : Database) (calls : List HistoryCall) :
    db.KeepsEnded (exec HistoryCall.step db calls) :=
  exec_relation Database.KeepsEnded .refl (fun _ _ _ => .trans)
    (fun state call _ => (call.logs state).keepsEnded) (guarded_true db calls)

/-- The event log and the moments tell the true history: in every state that
is reached, the status events of every order spell the path of allowed
transitions from `pending` to its status, its moments are set as the path
says, and once it is cancelled or refunded no later call changes its status or
adds a status event. -/
theorem events_tell_histories {db : Database} (noOrders : db.NoOrders)
    (noEvents : db.orderEvents.rows = []) (calls : List HistoryCall) :
    let reached := exec HistoryCall.step db calls
    ∀ order ∈ reached.orders.rows,
      (∃ path, reached.statusCodes order.id = path.map statusCode ∧
        order.HasTaken path) ∧
      (order.status = .cancelled ∨ order.status = .refunded →
        ∀ later : List HistoryCall,
          (∃ row ∈ (exec HistoryCall.step reached later).orders.rows,
            row.id = order.id ∧ row.status = order.status) ∧
          (exec HistoryCall.step reached later).statusCodes order.id =
            reached.statusCodes order.id) := by
  intro reached order member
  have tells : db.TellsHistories := by
    constructor
    · intro event eventMem
      rw [noEvents] at eventMem
      cases eventMem
    · intro order orderMem
      rw [noOrders.orders_eq] at orderMem
      cases orderMem
  refine ⟨(HistoryCall.tellsHistories calls tells).histories order member, ?_⟩
  intro isEnded later
  apply HistoryCall.keepsEnded reached later order member
  rcases isEnded with isEnded | isEnded <;> rw [isEnded] <;> rfl

/-- An order is charged, paid by a webhook, charged again with the order object
of before the payment, and refunded. -/
def refundedOrder : List HistoryCall :=
  [.store (checkoutOf 10 "N1"), .store (chargeOf accepted),
    .store (paypalEvent "CHECKOUT.ORDER.APPROVED"),
    .createPayment { now := 6 } (deployment accepted)
      { id := 1, createdAt := 1, number := "N1", user := none,
        emailSnapshot := "buyer@example.com", phoneSnapshot := "" }
      "paypal" "" "",
    .store (transitionOf 1 .refunded)]

theorem events_tell_histories_refunded :
    let reached := exec HistoryCall.step (twoCarts 5) refundedOrder
    reached.statusCodes 1 = ["status:paid", "status:refunded"] ∧
      ∀ order ∈ reached.orders.rows, ∃ path,
        reached.statusCodes order.id = path.map statusCode ∧
          order.HasTaken path := by
  refine ⟨by decide +kernel, ?_⟩
  intro order member
  exact (events_tell_histories ⟨rfl, rfl⟩ rfl refundedOrder order member).1

end NovaCommerce
