import NovaCommerce.CapturedAttempts
import NovaCommerce.StockCommitment

/-!
# Orders and payments agree

An order with a captured payment is on its way to the customer, and an order
that an event of a provider has paid for has a captured payment of that
provider.  The two tables are written by different statements of one handler,
and by calls that look at one of them only, so the agreement rests on what the
events and transitions find.
-/

namespace NovaCommerce

open AtomicCall GuardedRun TextDecoding

namespace OrderStatus

/-- The order is paid for, and neither cancelled nor refunded. -/
def isActive : OrderStatus → Bool
  | paid | packed | shipped | delivered => true
  | pending | cancelled | refunded => false

end OrderStatus

namespace Database

/-- The status of an order. -/
def statusOf (db : Database) (order : Uuid) : Option OrderStatus :=
  (db.orders.find? order).map Order.status

/-- The order was cancelled or refunded. -/
def isCalledOff (db : Database) (order : Uuid) : Bool :=
  db.statusOf order = some .cancelled || db.statusOf order = some .refunded

end Database

/-- The database, and the orders that an event of a provider has moved to
`paid` and that have not been cancelled or refunded since. -/
structure TrackedStore where
  db : Database
  paidVia : List (Uuid × Provider) := []

/-- The order that a call moves to `paid` as an event of a provider. -/
def paidByEvent (db after : Database) (command : StoreCommand) :
    List (Uuid × Provider) :=
  match command.matchedEvent db with
  | some event =>
      if event.order.status ≠ .paid ∧
          after.statusOf event.order.id = some .paid then
        [(event.order.id, event.provider.code)]
      else []
  | none => []

namespace TrackedStore

def step (store : TrackedStore) (command : StoreCommand) : TrackedStore where
  db := command.step store.db
  paidVia :=
    (paidByEvent store.db (command.step store.db) command ++
      store.paidVia).filter fun entry =>
        !(command.step store.db).isCalledOff entry.1

end TrackedStore

namespace MatchedEvent

/-- The order has a payment with the provider. -/
def HasPayment (event : MatchedEvent) (db : Database) : Prop :=
  ∃ payment ∈ objects db.payments, event.concerns payment = true

/-- The order waits for its payment, and its units can be sold. -/
def CanBePaid (event : MatchedEvent) (db : Database) : Prop :=
  event.order.status = .pending ∧ db.isCommittable event.order.id

/-- A captured event finds a payment exactly if its order is or can be paid
for; a refund finds no captured payment of another provider; other events are
not about an order that an event of their provider has paid for. -/
def Agrees (event : MatchedEvent) (store : TrackedStore) : Prop :=
  (event.status = .captured →
    (event.HasPayment store.db →
      event.order.status.isActive = true ∨ event.CanBePaid store.db) ∧
    (event.CanBePaid store.db → event.HasPayment store.db)) ∧
  (event.status = .refunded → event.order.canTransitionTo .refunded = true →
    ∀ payment ∈ objects store.db.payments, payment.order = event.order.id →
      payment.status = .captured →
      payment.provider = event.provider.code) ∧
  (event.status ≠ .captured → event.status ≠ .refunded →
    (event.order.id, event.provider.code) ∉ store.paidVia)

instance (event : MatchedEvent) (db : Database) :
    Decidable (event.HasPayment db) :=
  inferInstanceAs (Decidable
    (∃ payment ∈ objects db.payments, event.concerns payment = true))

instance (event : MatchedEvent) (db : Database) :
    Decidable (event.CanBePaid db) :=
  inferInstanceAs (Decidable
    (event.order.status = .pending ∧ db.isCommittable event.order.id))

instance (event : MatchedEvent) (store : TrackedStore) :
    Decidable (event.Agrees store) := by
  unfold Agrees
  infer_instance

end MatchedEvent

namespace StoreCommand

/-- An order is cancelled or refunded directly only without a captured
payment. -/
def CallsOffUnpaid (db : Database) : StoreCommand → Prop
  | transitionStatus _ orderId newStatus _ _ =>
      newStatus = .cancelled ∨ newStatus = .refunded →
      ∀ order ∈ objects db.orders, order.id = orderId →
        order.canTransitionTo newStatus = true →
        ∀ payment ∈ objects db.payments, payment.order = orderId →
          payment.status ≠ .captured
  | _ => True

instance (db : Database) :
    ∀ command : StoreCommand, Decidable (command.CallsOffUnpaid db)
  | transitionStatus _ orderId newStatus _ _ =>
      inferInstanceAs (Decidable
        (newStatus = .cancelled ∨ newStatus = .refunded →
          ∀ order ∈ objects db.orders, order.id = orderId →
            order.canTransitionTo newStatus = true →
            ∀ payment ∈ objects db.payments, payment.order = orderId →
              payment.status ≠ .captured))
  | createOrderFromCart .. | createPayment .. | handleWebhook ..
  | adjustStock .. | expirePendingPayments .. =>
      inferInstanceAs (Decidable True)

end StoreCommand

/-- Events and transitions keep the orders and the payments in agreement. -/
def TrackedStore.Agrees (store : TrackedStore) (command : StoreCommand) :
    Prop :=
  command.CallsOffUnpaid store.db ∧
    ∀ event ∈ command.matchedEvent store.db, event.Agrees store

instance (store : TrackedStore) (command : StoreCommand) :
    Decidable (store.Agrees command) :=
  inferInstanceAs (Decidable (command.CallsOffUnpaid store.db ∧
    ∀ event ∈ command.matchedEvent store.db, event.Agrees store))

/-- Stock rows are sound, and payments are visible and have orders. -/
structure Grounded (db : Database) : Prop where
  sound : SoundRows db.stocks
  allAlive : ∀ payment ∈ db.payments.rows, alive payment = true
  haveOrders : ∀ payment ∈ db.payments.rows, payment.order ∈ db.orders.keys

section Grounds

variable {db after : Database}

theorem SameGoods.soundRows (same : SameGoods db after)
    (sound : SoundRows db.stocks) : SoundRows after.stocks :=
  same.stocks_eq ▸ sound

theorem soundRows_transitioned {session : Session} {order : Order}
    {newStatus : OrderStatus} (sound : SoundRows db.stocks)
    (transitioned : Transitioned session order newStatus db after) :
    SoundRows after.stocks := by
  cases newStatus with
  | paid =>
      obtain ⟨_, draws⟩ := transitioned.draws_paid sound
      exact draws.soundRows_sell sound
  | cancelled =>
      obtain ⟨_, _, draws⟩ := transitioned.draws_released
      exact draws.soundRows_release sound
  | pending | packed | shipped | delivered | refunded =>
      rw [transitioned.stocks_eq (by simp) (by simp)]
      exact sound

theorem soundRows_checkedOut {session : Session} {cart : Cart}
    {user : Option Uuid} {payload : CheckoutInput} {middle : Database}
    {order : Order} {coupon : Option Coupon} {discount : Cents}
    {sold : List OrderItem} {amount : Uuid → Int} {row : Cart}
    (sound : SoundRows db.stocks)
    (checkedOut : CheckedOut session cart user payload db after order coupon
      discount middle sold amount row) : SoundRows after.stocks := by
  have stocksEq : after.stocks = middle.stocks := by rw [checkedOut.after_eq]
  rw [stocksEq]
  apply checkedOut.itemsSold.draws.soundRows_reserve _ sound
  intro stock selected
  exact (Bool.and_eq_true _ _ ▸ selected).1

/-- Every call keeps the stock rows sound. -/
theorem soundRows_step (command : StoreCommand)
    (sound : SoundRows db.stocks) : SoundRows (command.step db).stocks := by
  have effect := goodsStepped db command
  generalize command.step db = after at effect
  cases effect with
  | same same => exact same.soundRows sound
  | checkedOut checkedOut => exact soundRows_checkedOut sound checkedOut
  | transitioned transitioned =>
      exact soundRows_transitioned sound transitioned
  | webhook before transitioned _ later =>
      exact later.soundRows
        (soundRows_transitioned (before.soundRows sound) transitioned)
  | adjusted _ _ row after_eq =>
      exact soundRows_adjusted sound row (congrArg Database.stocks after_eq)

theorem OrdersKept.keys (kept : OrdersKept db after) {id : Uuid}
    (member : id ∈ db.orders.keys) : id ∈ after.orders.keys := by
  obtain ⟨order, orderMem, rfl⟩ := List.mem_map.mp member
  obtain ⟨later, laterMem, sameId, _⟩ := kept order orderMem
  exact List.mem_map.mpr ⟨later, laterMem, sameId⟩

/-- A change of the payments that keeps the charges keeps the grounds. -/
theorem Grounded.of_alter {change : Payment → Payment}
    (grounded : Grounded db) (sound : SoundRows after.stocks)
    (kept : OrdersKept db after)
    (rows : after.payments.rows = db.payments.rows.map change)
    (same : ∀ payment : Payment, payment.SameCharge (change payment)) :
    Grounded after := by
  refine ⟨sound, ?_, ?_⟩ <;> rw [rows]
  · intro row rowMem
    obtain ⟨payment, member, rfl⟩ := List.mem_map.mp rowMem
    exact (same payment).alive_eq.trans (grounded.allAlive payment member)
  · intro row rowMem
    obtain ⟨payment, member, rfl⟩ := List.mem_map.mp rowMem
    rw [(same payment).order_eq]
    exact kept.keys (grounded.haveOrders payment member)

theorem grounded_step (command : StoreCommand) (grounded : Grounded db) :
    Grounded (command.step db) := by
  have sound := soundRows_step command grounded.sound
  have kept := ordersKept_step db command
  have effect := paymentsStepped db command
  generalize command.step db = after at sound kept effect
  generalize paymentsEq : after.payments = payments at effect
  cases effect with
  | same =>
      refine ⟨sound, paymentsEq ▸ grounded.allAlive, ?_⟩
      intro payment member
      rw [paymentsEq] at member
      exact kept.keys (grounded.haveOrders payment member)
  | charged rows member isAlive order_eq =>
      rw [← paymentsEq] at rows
      refine ⟨sound, ?_, ?_⟩ <;> rw [rows]
      · intro row rowMem
        rcases List.mem_append.mp rowMem with old | new
        · exact grounded.allAlive row old
        · rw [List.mem_singleton.mp new]
          exact isAlive
      · intro row rowMem
        rcases List.mem_append.mp rowMem with old | new
        · exact kept.keys (grounded.haveOrders row old)
        · rw [List.mem_singleton.mp new, order_eq]
          exact kept.keys (List.mem_map_of_mem member)
  | updated =>
      exact grounded.of_alter sound kept (congrArg Table.rows paymentsEq)
        (fun payment => sameCharge_updatedBy payment _ _ _)
  | expired cutoff =>
      exact grounded.of_alter sound kept (congrArg Table.rows paymentsEq)
        (fun payment => sameCharge_expiredAt payment cutoff)

end Grounds

section Orders

variable {db after : Database}

theorem statusOf_of_mem {order : Order} (member : order ∈ db.orders.rows) :
    db.statusOf order.id = some order.status := by
  have found : db.orders.find? order.id = some order :=
    Table.find?_eq_some.mpr ⟨member, rfl⟩
  rw [Database.statusOf, found]
  rfl

/-- One order entered a status, and the others stayed as they were. -/
structure EnteredStatus (order : Order) (new : OrderStatus)
    (db after : Database) : Prop where
  rows : ∀ row ∈ after.orders.rows,
    row ∈ db.orders.rows ∧ row.id ≠ order.id ∨
      row.id = order.id ∧ row.status = new
  statusOf_eq : after.statusOf order.id = some new

theorem Transitioned.entered {session : Session} {order : Order}
    {newStatus : OrderStatus}
    (transitioned : Transitioned session order newStatus db after) :
    EnteredStatus order newStatus db after := by
  have saved : after.orders =
      db.orders.save (order.enterStatus newStatus session.now) := by
    rw [transitioned.frame]
  have sameId : (order.enterStatus newStatus session.now).id = order.id :=
    congrArg TimeStampedUUIDModel.id (base_enterStatus _ _ _)
  constructor
  · intro row rowMem
    rw [saved] at rowMem
    rcases Table.mem_save.mp rowMem with ⟨member, keyNe⟩ | ⟨rfl, _⟩
    · exact Or.inl ⟨member, fun equal => keyNe (equal.trans sameId.symm)⟩
    · exact Or.inr ⟨sameId, status_enterStatus _ _ _⟩
  · have inKeys : Keyed.key (order.enterStatus newStatus session.now) ∈
        db.orders.keys :=
      List.mem_map.mpr ⟨order, transitioned.member, sameId.symm⟩
    have entered : order.enterStatus newStatus session.now ∈
        after.orders.rows := by
      rw [saved]
      exact Table.mem_save.mpr (Or.inr ⟨rfl, inKeys⟩)
    have found := statusOf_of_mem entered
    rw [sameId, status_enterStatus] at found
    exact found

/-- The same of databases with the same orders. -/
theorem EnteredStatus.congr {order : Order} {new : OrderStatus}
    {recorded moved : Database}
    (entered : EnteredStatus order new recorded moved)
    (before : recorded.orders = db.orders)
    (later : after.orders = moved.orders) :
    EnteredStatus order new db after := by
  obtain ⟨rows, statusOf_eq⟩ := entered
  rw [before, ← later] at rows
  refine ⟨rows, ?_⟩
  rw [Database.statusOf, later]
  exact statusOf_eq

/-- Every order after some calls was there before with the same status. -/
theorem SameGoods.exists_order (same : SameGoods db after) {row : Order}
    (rowMem : row ∈ after.orders.rows) :
    ∃ old ∈ db.orders.rows, old.id = row.id ∧ old.status = row.status := by
  rcases same.orders_eq with
    sameOrders | ⟨order, member, changed, sameId, sameStatus, saved⟩
  · exact ⟨row, sameOrders ▸ rowMem, rfl, rfl⟩
  · rw [saved] at rowMem
    rcases Table.mem_save.mp rowMem with ⟨old, _⟩ | ⟨rfl, _⟩
    · exact ⟨row, old, rfl, rfl⟩
    · exact ⟨order, member, sameId.symm, sameStatus.symm⟩

end Orders

/-- An order with a captured payment is active, and an order that an event of
a provider has paid for has a captured payment of that provider. -/
structure Agreement (db : Database) (paidVia : List (Uuid × Provider)) :
    Prop where
  active : ∀ payment ∈ db.payments.rows, payment.status = .captured →
    ∀ order ∈ db.orders.rows, order.id = payment.order →
      order.status.isActive = true
  captured : ∀ entry ∈ paidVia, ∃ payment ∈ db.payments.rows,
    payment.order = entry.1 ∧ payment.provider = entry.2 ∧
      payment.status = .captured

section Calls

variable {db after : Database} {paidVia later : List (Uuid × Provider)}

/-- The orders with captured payments were there before and stay active. -/
def Database.CapturedStayActive (db after : Database) : Prop :=
  ∀ payment ∈ db.payments.rows, payment.status = .captured →
    ∀ row ∈ after.orders.rows, row.id = payment.order →
      ∃ old ∈ db.orders.rows, old.id = row.id ∧
        (old.status.isActive = true → row.status.isActive = true)

/-- A call that captures no payment and takes no capture back keeps the
agreement, if orders with captured payments stay active. -/
theorem Agreement.of_quiet (agreement : Agreement db paidVia)
    (back : ∀ payment ∈ after.payments.rows, payment.status = .captured →
      ∃ old ∈ db.payments.rows, old.status = .captured ∧
        old.order = payment.order)
    (forth : ∀ payment ∈ db.payments.rows, payment.status = .captured →
      ∃ new ∈ after.payments.rows, new.status = .captured ∧
        new.order = payment.order ∧ new.provider = payment.provider)
    (stays : db.CapturedStayActive after)
    (fewer : ∀ entry ∈ later, entry ∈ paidVia) :
    Agreement after later := by
  constructor
  · intro payment member isCaptured row rowMem sameOrder
    obtain ⟨old, oldMem, wasCaptured, ofOrder⟩ :=
      back payment member isCaptured
    obtain ⟨order, orderMem, sameId, staysActive⟩ :=
      stays old oldMem wasCaptured row rowMem (sameOrder.trans ofOrder.symm)
    exact staysActive (agreement.active old oldMem wasCaptured order orderMem
      (sameId.trans (sameOrder.trans ofOrder.symm)))
  · intro entry entryMem
    obtain ⟨payment, member, ofOrder, ofProvider, isCaptured⟩ :=
      agreement.captured entry (fewer entry entryMem)
    obtain ⟨new, newMem, newCaptured, newOrder, newProvider⟩ :=
      forth payment member isCaptured
    exact ⟨new, newMem, newOrder.trans ofOrder,
      newProvider.trans ofProvider, newCaptured⟩

/-- The same of a call that leaves the payments alone. -/
theorem Agreement.of_samePayments (agreement : Agreement db paidVia)
    (same : after.payments = db.payments)
    (stays : db.CapturedStayActive after)
    (fewer : ∀ entry ∈ later, entry ∈ paidVia) :
    Agreement after later := by
  apply agreement.of_quiet _ _ stays fewer <;> rw [same]
  · exact fun payment member isCaptured =>
      ⟨payment, member, isCaptured, rfl⟩
  · exact fun payment member isCaptured =>
      ⟨payment, member, isCaptured, rfl, rfl⟩

theorem stays_of_sameGoods (same : SameGoods db after) :
    db.CapturedStayActive after := by
  intro _ _ _ row rowMem _
  obtain ⟨old, oldMem, sameId, sameStatus⟩ := same.exists_order rowMem
  exact ⟨old, oldMem, sameId, fun isActive => sameStatus ▸ isActive⟩

theorem agreement_checkedOut {session : Session} {cart : Cart}
    {user : Option Uuid} {payload : CheckoutInput} {middle : Database}
    {order : Order} {coupon : Option Coupon} {discount : Cents}
    {sold : List OrderItem} {amount : Uuid → Int} {row : Cart}
    (grounded : Grounded db) (agreement : Agreement db paidVia)
    (checkedOut : CheckedOut session cart user payload db after order coupon
      discount middle sold amount row)
    (fewer : ∀ entry ∈ later, entry ∈ paidVia) :
    Agreement after later := by
  apply agreement.of_samePayments checkedOut.payments_eq _ fewer
  intro payment member _ row rowMem sameOrder
  rw [(exactConversion_of_checkedOut checkedOut).orders_eq] at rowMem
  rcases List.mem_append.mp rowMem with old | new
  · exact ⟨row, old, rfl, id⟩
  · -- No payment was made for an order that is new.
    have used := grounded.haveOrders payment member
    rw [← sameOrder, List.mem_singleton.mp new] at used
    exact absurd used checkedOut.isNew

theorem agreement_transitioned {session : Session} {order : Order}
    {newStatus : OrderStatus} {actor : Option Uuid} {message : String}
    (grounded : Grounded db) (agreement : Agreement db paidVia)
    (transitioned : Transitioned session order newStatus db after)
    (unpaid : StoreCommand.CallsOffUnpaid db
      (.transitionStatus session order.id newStatus actor message))
    (fewer : ∀ entry ∈ later, entry ∈ paidVia) :
    Agreement after later := by
  have entered := transitioned.entered
  have allowed := transitioned.allowed
  apply agreement.of_samePayments (by rw [transitioned.frame]) _ fewer
  intro payment member isCaptured row rowMem sameOrder
  rcases entered.rows row rowMem with ⟨old, _⟩ | ⟨isOrder, hasStatus⟩
  · exact ⟨row, old, rfl, id⟩
  · refine ⟨order, transitioned.member, isOrder.symm, ?_⟩
    intro wasActive
    have notCalledOff : ¬(newStatus = .cancelled ∨ newStatus = .refunded) := by
      intro calledOff
      have visible : order ∈ objects db.orders :=
        List.mem_filter.mpr ⟨transitioned.member, transitioned.isAlive⟩
      have paymentVisible : payment ∈ objects db.payments :=
        List.mem_filter.mpr ⟨member, grounded.allAlive payment member⟩
      exact unpaid calledOff order visible rfl allowed payment paymentVisible
        (sameOrder.symm.trans isOrder) isCaptured
    rw [hasStatus]
    cases status : order.status <;> cases newStatus <;>
      simp [Order.canTransitionTo, OrderStatus.allowedTransitions, status,
        OrderStatus.isActive] at allowed notCalledOff ⊢

theorem agreement_charged {session : Session} {order : Order}
    {provider : PaymentProvider} {payment : Payment}
    (agreement : Agreement db paidVia)
    (charged : Charged session order provider db after payment)
    (fewer : ∀ entry ∈ later, entry ∈ paidVia) :
    Agreement after later := by
  have payments_eq := charged.payments_eq
  have notCaptured : payment.status ≠ .captured := by
    rcases charged.status_eq with isPending | hasFailed
    · simp [isPending]
    · simp [hasFailed]
  apply agreement.of_quiet _ _ (stays_of_sameGoods charged.sameGoods) fewer
  · intro row member isCaptured
    rw [payments_eq] at member
    rcases List.mem_append.mp member with old | new
    · exact ⟨row, old, isCaptured, rfl⟩
    · rw [List.mem_singleton.mp new] at isCaptured
      exact absurd isCaptured notCaptured
  · intro row member isCaptured
    refine ⟨row, ?_, isCaptured, rfl, rfl⟩
    rw [payments_eq]
    exact List.mem_append_left _ member

/-- The periodic task touches no captured payment. -/
theorem agreement_expired (agreement : Agreement db paidVia) (cutoff : Time)
    (fewer : ∀ entry ∈ later, entry ∈ paidVia) :
    Agreement
      { db with
        payments := expiredPayments db.payments cutoff }
      later := by
  have same : SameGoods db
      { db with
        payments := expiredPayments db.payments cutoff } :=
    ⟨rfl, rfl, Or.inl rfl⟩
  apply agreement.of_quiet _ _ (stays_of_sameGoods same) fewer
  · intro payment member isCaptured
    obtain ⟨old, oldMem, rfl⟩ := List.mem_map.mp member
    rcases status_expiredAt old cutoff with same | ⟨_, hasFailed⟩
    · exact ⟨old, oldMem, same ▸ isCaptured,
        (sameCharge_expiredAt old cutoff).order_eq.symm⟩
    · rw [hasFailed] at isCaptured
      cases isCaptured
  · intro payment member isCaptured
    have kept := sameCharge_expiredAt payment cutoff
    refine ⟨_, List.mem_map_of_mem member, ?_, kept.order_eq,
      kept.provider_eq⟩
    rcases status_expiredAt payment cutoff with same | ⟨wasPending, _⟩
    · exact same.trans isCaptured
    · rw [wasPending] at isCaptured
      cases isCaptured

end Calls

section Events

variable {db after : Database} {paidVia later : List (Uuid × Provider)}
  {event : MatchedEvent}

theorem concerns_iff {payment : Payment} :
    event.concerns payment = true ↔
      payment.order = event.order.id ∧
        payment.provider = event.provider.code := by
  simp [MatchedEvent.concerns, Payment.isOf]

/-- A captured event captures the payments that it concerns. -/
theorem agreement_captured (agreement : Agreement db paidVia)
    (captures : event.status = .captured)
    (member : event.order ∈ db.orders.rows)
    (payments_eq : after.payments = updatedPayments db.payments
      event.order.id event.provider.code event.parsed)
    (orderActive :
      event.HasPayment db ∨ event.order.status.isActive = true →
      ∀ row ∈ after.orders.rows, row.id = event.order.id →
        row.status.isActive = true)
    (others : ∀ row ∈ after.orders.rows, row.id ≠ event.order.id →
      row ∈ db.orders.rows)
    (fewer : ∀ entry ∈ later, entry ∈ paidVia ∨
      entry = (event.order.id, event.provider.code) ∧
        event.HasPayment db) :
    Agreement after later := by
  constructor
  · intro payment paymentMem isCaptured row rowMem sameOrder
    rw [payments_eq] at paymentMem
    obtain ⟨old, oldMem, rfl⟩ := List.mem_map.mp paymentMem
    rw [(sameCharge_updatedBy old _ _ _).order_eq] at sameOrder
    rcases captured_updatedBy isCaptured with
      ⟨wasCaptured, _⟩ | ⟨_, isAlive, concerned⟩
    · by_cases isOrder : row.id = event.order.id
      · apply orderActive (Or.inr _) row rowMem isOrder
        exact agreement.active old oldMem wasCaptured event.order member
          (isOrder.symm.trans sameOrder)
      · exact agreement.active old oldMem wasCaptured row
          (others row rowMem isOrder) sameOrder
    · have hasPayment : event.HasPayment db :=
        ⟨old, List.mem_filter.mpr ⟨oldMem, isAlive⟩, concerned⟩
      exact orderActive (Or.inl hasPayment) row rowMem
        (sameOrder.trans (concerns_iff.mp concerned).1)
  · have found : ∀ payment ∈ db.payments.rows,
        (alive payment && event.concerns payment) = true ∨
          payment.status = .captured →
        ∃ new ∈ after.payments.rows, new.order = payment.order ∧
          new.provider = payment.provider ∧ new.status = .captured := by
      intro payment paymentMem isCaptured
      have same := sameCharge_updatedBy payment event.order.id
        event.provider.code event.parsed
      refine ⟨_, payments_eq ▸ List.mem_map_of_mem paymentMem, same.order_eq,
        same.provider_eq, ?_⟩
      rw [status_updatedBy]
      split
      · exact captures
      · rename_i unconcerned
        exact isCaptured.resolve_left unconcerned
    intro entry entryMem
    rcases fewer entry entryMem with old | ⟨rfl, payment, visible, concerned⟩
    · obtain ⟨payment, paymentMem, ofOrder, ofProvider, isCaptured⟩ :=
        agreement.captured entry old
      obtain ⟨new, newMem, newOrder, newProvider, newCaptured⟩ :=
        found payment paymentMem (Or.inr isCaptured)
      exact ⟨new, newMem, newOrder.trans ofOrder,
        newProvider.trans ofProvider, newCaptured⟩
    · obtain ⟨paymentMem, isAlive⟩ := List.mem_filter.mp visible
      obtain ⟨new, newMem, newOrder, newProvider, newCaptured⟩ :=
        found payment paymentMem (Or.inl (by rw [isAlive, concerned]; rfl))
      obtain ⟨ofOrder, ofProvider⟩ := concerns_iff.mp concerned
      exact ⟨new, newMem, newOrder.trans ofOrder,
        newProvider.trans ofProvider, newCaptured⟩

/-- Another event takes the captures of the payments that it concerns back. -/
theorem agreement_notCaptured (agreement : Agreement db paidVia)
    (captures : event.status ≠ .captured)
    (payments_eq : after.payments = updatedPayments db.payments
      event.order.id event.provider.code event.parsed)
    (stays : ∀ payment ∈ db.payments.rows, payment.status = .captured →
      (alive payment && event.concerns payment) = false →
      ∀ row ∈ after.orders.rows, row.id = payment.order →
        row.status.isActive = true)
    (fewer : ∀ entry ∈ later, entry ∈ paidVia ∧
      entry ≠ (event.order.id, event.provider.code)) :
    Agreement after later := by
  constructor
  · intro payment paymentMem isCaptured row rowMem sameOrder
    rw [payments_eq] at paymentMem
    obtain ⟨old, oldMem, rfl⟩ := List.mem_map.mp paymentMem
    rw [(sameCharge_updatedBy old _ _ _).order_eq] at sameOrder
    rcases captured_updatedBy isCaptured with
      ⟨wasCaptured, unconcerned⟩ | ⟨captured, _⟩
    · exact stays old oldMem wasCaptured unconcerned row rowMem sameOrder
    · exact absurd captured captures
  · intro entry entryMem
    obtain ⟨old, otherEntry⟩ := fewer entry entryMem
    obtain ⟨payment, paymentMem, ofOrder, ofProvider, isCaptured⟩ :=
      agreement.captured entry old
    have unconcerned : ¬(alive payment && event.concerns payment) = true := by
      intro concerned
      obtain ⟨sameOrder, sameProvider⟩ :=
        concerns_iff.mp (Bool.and_eq_true _ _ ▸ concerned).2
      apply otherEntry
      rw [← sameOrder, ← sameProvider, ofOrder, ofProvider]
    have same := sameCharge_updatedBy payment event.order.id
      event.provider.code event.parsed
    refine ⟨_, payments_eq ▸ List.mem_map_of_mem paymentMem,
      same.order_eq.trans ofOrder, same.provider_eq.trans ofProvider, ?_⟩
    rw [status_updatedBy, if_neg unconcerned]
    exact isCaptured

end Events

section Webhook

variable {store : TrackedStore} {session : Session} {gateway : Gateway}
  {provider : PaymentProvider} {parsed : WebhookResult} {order : Order}
  {recorded moved after : Database} {later : List (Uuid × Provider)}

theorem fitsColumn_paidViaWebhook :
    fitsColumn 500 "paid via webhook" = true := by
  decide +kernel

/-- An order can be moved to `paid` exactly if it waits for its payment and
its units can be sold. -/
theorem canBePaid_iff {db : Database} (sound : SoundRows db.stocks)
    (event : MatchedEvent) (member : event.order ∈ db.orders.rows)
    (isAlive : alive event.order = true) {message : String}
    (fits : fitsColumn 500 message = true) :
    Returns (transitionStatus session event.order.id .paid none message) db ↔
      event.CanBePaid db := by
  constructor
  · rintro ⟨changed, after, returned⟩
    have transitioned := transitioned_of_member member returned
    have allowed := transitioned.allowed
    obtain ⟨middle, settled, _⟩ := transitioned.settled
    refine ⟨?_, (settleStock_paid_iff sound event.order).mp ⟨_, _, settled⟩⟩
    cases status : event.order.status <;>
      simp [Order.canTransitionTo, OrderStatus.allowedTransitions, status]
        at allowed ⊢
  · rintro ⟨isPending, committable⟩
    have allowed : event.order.canTransitionTo .paid = true := by
      rw [Order.canTransitionTo, isPending]
      rfl
    exact transitionStatus_returns none fits member isAlive allowed
      ((settleStock_paid_iff sound event.order).mpr committable)

variable (agreement : Agreement store.db store.paidVia)
  (matched : WebhookMatched session gateway provider parsed order store.db
    recorded moved after)
  (entries : ∀ entry ∈ later, after.isCalledOff entry.1 = false ∧
    (entry ∈ store.paidVia ∨
      entry = (order.id, provider.code) ∧ order.status ≠ .paid ∧
        after.statusOf order.id = some .paid))

include agreement matched entries

/-- An event that calls its order off. -/
theorem agreement_calledOff {newStatus : OrderStatus}
    (grounded : Grounded store.db)
    (captures : parsed.newStatus ≠ some .captured)
    (calledOff : newStatus = .cancelled ∨ newStatus = .refunded)
    (entered : EnteredStatus order newStatus store.db after)
    (unpaid : ∀ payment ∈ store.db.payments.rows,
      payment.status = .captured →
      MatchedEvent.concerns ⟨provider, parsed, order⟩ payment = false →
      payment.order ≠ order.id) :
    Agreement after later := by
  have notCaptured :
      MatchedEvent.status ⟨provider, parsed, order⟩ ≠ .captured := by
    cases status : parsed.newStatus <;>
      simp_all [MatchedEvent.status]
  apply agreement_notCaptured agreement notCaptured matched.payments_eq
  · intro payment member isCaptured unconcerned row rowMem sameOrder
    rw [grounded.allAlive payment member, Bool.true_and] at unconcerned
    rcases entered.rows row rowMem with ⟨old, _⟩ | ⟨isOrder, _⟩
    · exact agreement.active payment member isCaptured row old sameOrder
    · exact absurd (sameOrder.symm.trans isOrder)
        (unpaid payment member isCaptured unconcerned)
  · intro entry entryMem
    obtain ⟨notCalledOff, origin⟩ := entries entry entryMem
    have isCalledOff : after.isCalledOff order.id = true := by
      rw [Database.isCalledOff, entered.statusOf_eq]
      rcases calledOff with rfl | rfl <;> rfl
    rcases origin with old | ⟨new, _⟩
    · refine ⟨old, ?_⟩
      rintro rfl
      rw [isCalledOff] at notCalledOff
      cases notCalledOff
    · rw [new, isCalledOff] at notCalledOff
      cases notCalledOff

variable (agrees : MatchedEvent.Agrees ⟨provider, parsed, order⟩ store)

include agrees

theorem agreement_movedToPaid (grounded : Grounded store.db)
    (captures : parsed.newStatus = some .captured)
    (transitioned : Transitioned session order .paid recorded moved) :
    Agreement after later := by
  have entered := transitioned.entered.congr matched.recorded_orders
    matched.after_orders
  have captured : MatchedEvent.status ⟨provider, parsed, order⟩ = .captured :=
    by simp [MatchedEvent.status, captures]
  have hasPayment : MatchedEvent.HasPayment ⟨provider, parsed, order⟩
      store.db := by
    apply (agrees.1 captured).2
    have allowed := transitioned.allowed
    obtain ⟨middle, settled, _⟩ := transitioned.settled
    have recordedSound : SoundRows recorded.stocks :=
      matched.recorded_stocks ▸ grounded.sound
    have committable :=
      (settleStock_paid_iff recordedSound order).mp ⟨_, _, settled⟩
    rw [matched.recorded_eq] at committable
    refine ⟨?_, committable⟩
    cases status : order.status <;>
      simp [Order.canTransitionTo, OrderStatus.allowedTransitions, status]
        at allowed ⊢
  apply agreement_captured agreement captured matched.member
    matched.payments_eq
  · intro _ row rowMem isOrder
    rcases entered.rows row rowMem with ⟨_, other⟩ | ⟨_, isPaid⟩
    · exact absurd isOrder other
    · rw [isPaid]
      rfl
  · intro row rowMem other
    rcases entered.rows row rowMem with ⟨old, _⟩ | ⟨isOrder, _⟩
    · exact old
    · exact absurd isOrder other
  · intro entry entryMem
    rcases (entries entry entryMem).2 with old | ⟨new, _⟩
    · exact Or.inl old
    · exact Or.inr ⟨new, hasPayment⟩

theorem agreement_notPaid (captures : parsed.newStatus = some .captured)
    (sameOrders : after.orders = store.db.orders)
    (refused : ¬MatchedEvent.CanBePaid ⟨provider, parsed, order⟩ store.db) :
    Agreement after later := by
  have captured : MatchedEvent.status ⟨provider, parsed, order⟩ = .captured :=
    by simp [MatchedEvent.status, captures]
  apply agreement_captured agreement captured matched.member
    matched.payments_eq
  · intro hasPayment row rowMem isOrder
    rw [sameOrders] at rowMem
    have rowEq : row = order :=
      store.db.orders.eq_of_key_eq rowMem matched.member isOrder
    rw [rowEq]
    rcases hasPayment with hasPayment | isActive
    · rcases (agrees.1 captured).1 hasPayment with isActive | canBePaid
      · exact isActive
      · exact absurd canBePaid refused
    · exact isActive
  · intro row rowMem _
    exact sameOrders ▸ rowMem
  · intro entry entryMem
    rcases (entries entry entryMem).2 with old | ⟨_, notPaid, isPaid⟩
    · exact Or.inl old
    · rw [Database.statusOf, sameOrders] at isPaid
      have status := statusOf_of_mem matched.member
      rw [Database.statusOf, isPaid] at status
      exact absurd (Option.some.inj status).symm notPaid

/-- An event that moves no order and captures no payment. -/
theorem agreement_stayed (captures : parsed.newStatus ≠ some .captured)
    (refunds : parsed.newStatus ≠ some .refunded)
    (sameOrders : after.orders = store.db.orders) :
    Agreement after later := by
  have notCaptured :
      MatchedEvent.status ⟨provider, parsed, order⟩ ≠ .captured := by
    cases status : parsed.newStatus <;>
      simp_all [MatchedEvent.status]
  have notRefunded :
      MatchedEvent.status ⟨provider, parsed, order⟩ ≠ .refunded := by
    cases status : parsed.newStatus <;>
      simp_all [MatchedEvent.status]
  apply agreement_notCaptured agreement notCaptured matched.payments_eq
  · intro payment member isCaptured _ row rowMem sameOrder
    rw [sameOrders] at rowMem
    exact agreement.active payment member isCaptured row rowMem sameOrder
  · intro entry entryMem
    rcases (entries entry entryMem).2 with old | ⟨_, notPaid, isPaid⟩
    · refine ⟨old, ?_⟩
      rintro rfl
      exact agrees.2.2 notCaptured notRefunded old
    · rw [Database.statusOf, sameOrders] at isPaid
      have status := statusOf_of_mem matched.member
      rw [Database.statusOf, isPaid] at status
      exact absurd (Option.some.inj status).symm notPaid

/-- A matched webhook keeps the agreement. -/
theorem agreement_webhook (grounded : Grounded store.db) :
    Agreement after later := by
  have movedOrder := matched.movedOrder
  generalize statusEq : parsed.newStatus = status at movedOrder
  cases movedOrder with
  | paid transitioned =>
      exact agreement_movedToPaid agreement matched entries agrees grounded
        statusEq transitioned
  | notPaid refused =>
      apply agreement_notPaid agreement matched entries agrees statusEq
        (matched.after_orders.trans matched.recorded_orders)
      intro canBePaid
      have recordedSound : SoundRows recorded.stocks :=
        matched.recorded_stocks ▸ grounded.sound
      apply refused
      apply (canBePaid_iff recordedSound ⟨provider, parsed, order⟩
        matched.recorded_mem matched.isAlive fitsColumn_paidViaWebhook).mpr
      rw [matched.recorded_eq]
      exact canBePaid
  | cancelled calledOff isPending transitioned =>
      apply agreement_calledOff agreement matched entries grounded _
        (Or.inl rfl)
        (transitioned.entered.congr matched.recorded_orders
          matched.after_orders)
      · -- A pending order has no captured payment.
        intro payment member isCaptured _ ofOrder
        have isActive := agreement.active payment member isCaptured order
          matched.member ofOrder.symm
        rw [isPending] at isActive
        cases isActive
      · rw [statusEq]
        rcases calledOff with rfl | rfl <;> simp
  | notCancelled calledOff =>
      have captures : parsed.newStatus ≠ some .captured := by
        rw [statusEq]
        rcases calledOff with rfl | rfl <;> simp
      have refunds : parsed.newStatus ≠ some .refunded := by
        rw [statusEq]
        rcases calledOff with rfl | rfl <;> simp
      exact agreement_stayed agreement matched entries agrees captures refunds
        (matched.after_orders.trans matched.recorded_orders)
  | refunded transitioned =>
      have refunds :
          MatchedEvent.status ⟨provider, parsed, order⟩ = .refunded := by
        simp [MatchedEvent.status, statusEq]
      apply agreement_calledOff agreement matched entries grounded
        (by rw [statusEq]; simp) (Or.inr rfl)
        (transitioned.entered.congr matched.recorded_orders
          matched.after_orders)
      intro payment member isCaptured unconcerned ofOrder
      have ofProvider := agrees.2.1 refunds transitioned.allowed payment
        (List.mem_filter.mpr ⟨member, grounded.allAlive payment member⟩)
        ofOrder isCaptured
      have concerned := concerns_iff.mpr ⟨ofOrder, ofProvider⟩
      rw [concerned] at unconcerned
      cases unconcerned
  | stayed noMove =>
      have captures : parsed.newStatus ≠ some .captured := by
        intro captured
        rcases noMove with isPending | authorized
        · rw [← statusEq, captured] at isPending
          cases isPending
        · rw [← statusEq, captured] at authorized
          cases authorized
      have refunds : parsed.newStatus ≠ some .refunded := by
        intro refunded
        rcases noMove with isPending | authorized
        · rw [← statusEq, refunded] at isPending
          cases isPending
        · rw [← statusEq, refunded] at authorized
          cases authorized
      exact agreement_stayed agreement matched entries agrees captures refunds
        (matched.after_orders.trans matched.recorded_orders)

end Webhook

section Runs

theorem mem_paidByEvent {db after : Database} {command : StoreCommand}
    {entry : Uuid × Provider} (member : entry ∈ paidByEvent db after command) :
    ∃ event ∈ command.matchedEvent db,
      entry = (event.order.id, event.provider.code) ∧
        event.order.status ≠ .paid ∧
        after.statusOf event.order.id = some .paid := by
  unfold paidByEvent at member
  cases matched : command.matchedEvent db with
  | none => simp [matched] at member
  | some event =>
      simp only [matched] at member
      split at member
      · rename_i moved
        exact ⟨event, rfl, List.mem_singleton.mp member, moved⟩
      · cases member

theorem matchedEvent_order {db : Database} {command : StoreCommand}
    {event : MatchedEvent} (matched : event ∈ command.matchedEvent db) :
    event.order ∈ db.orders.rows := by
  cases command with
  | handleWebhook => exact (requestEvent_order matched).1
  | createOrderFromCart | createPayment | transitionStatus | adjustStock
  | expirePendingPayments => cases matched

theorem agreement_step {store : TrackedStore} {command : StoreCommand}
    (grounded : Grounded store.db)
    (agreement : Agreement store.db store.paidVia)
    (agrees : store.Agrees command) :
    Agreement (store.step command).db (store.step command).paidVia := by
  have entries : ∀ entry ∈ (store.step command).paidVia,
      (command.step store.db).isCalledOff entry.1 = false ∧
        (entry ∈ store.paidVia ∨
          entry ∈ paidByEvent store.db (command.step store.db) command) := by
    intro entry entryMem
    obtain ⟨origin, notCalledOff⟩ := List.mem_filter.mp entryMem
    refine ⟨by simpa using notCalledOff, ?_⟩
    exact (List.mem_append.mp origin).symm
  have effect := stepped store.db command
  change Agreement (command.step store.db) (store.step command).paidVia
  generalize (store.step command).paidVia = later at entries ⊢
  generalize command.step store.db = after at entries effect ⊢
  have fewer : (∀ event ∈ command.matchedEvent store.db,
      event.order.status ≠ .paid →
        after.statusOf event.order.id ≠ some .paid) →
      ∀ entry ∈ later, entry ∈ store.paidVia := by
    intro notMoved entry entryMem
    rcases (entries entry entryMem).2 with old | new
    · exact old
    · obtain ⟨event, matched, _, notPaid, isPaid⟩ := mem_paidByEvent new
      exact absurd isPaid (notMoved event matched notPaid)
  obtain ⟨unpaid, eventAgrees⟩ := agrees
  cases effect with
  | unchanged =>
      apply agreement.of_samePayments rfl (stays_of_sameGoods (.refl _))
      apply fewer
      intro event matched notPaid isPaid
      rw [statusOf_of_mem (matchedEvent_order matched)] at isPaid
      exact notPaid (Option.some.inj isPaid)
  | checkedOut checkedOut =>
      exact agreement_checkedOut grounded agreement checkedOut
        (fewer fun _ matched => by cases matched)
  | charged _ charged =>
      exact agreement_charged agreement charged
        (fewer fun _ matched => by cases matched)
  | @webhook _ _ _ _ _ provider parsed order _ _ _ registered isParsed
      matched =>
      have isEvent := requestEvent_eq_some registered isParsed matched
      apply agreement_webhook agreement matched _
        (eventAgrees ⟨provider, parsed, order⟩ isEvent) grounded
      intro entry entryMem
      obtain ⟨notCalledOff, origin⟩ := entries entry entryMem
      refine ⟨notCalledOff, origin.imp_right ?_⟩
      intro new
      obtain ⟨event, found, rest⟩ := mem_paidByEvent new
      have eventEq : event = ⟨provider, parsed, order⟩ :=
        Option.some.inj (found.symm.trans isEvent)
      rw [eventEq] at rest
      exact rest
  | transitioned transitioned =>
      exact agreement_transitioned grounded agreement transitioned unpaid
        (fewer fun _ matched => by cases matched)
  | adjusted _ _ _ after_eq =>
      apply agreement.of_samePayments (by rw [after_eq]) _
        (fewer fun _ matched => by cases matched)
      intro _ _ _ row rowMem _
      rw [after_eq] at rowMem
      exact ⟨row, rowMem, rfl, id⟩
  | expired cutoff =>
      exact agreement_expired agreement cutoff
        (fewer fun _ matched => by cases matched)

end Runs

/-- Orders and payments agree: in every run whose events and transitions find
what they have to find, an order with a captured payment is paid, packed,
shipped or delivered, and an order that an event of a provider has moved to
`paid`, and that has not been cancelled or refunded since, has a captured
payment of that provider. -/
theorem orders_payments_agree {db : Database} {commands : List StoreCommand}
    (sound : SoundRows db.stocks) (noPayments : db.payments.rows = [])
    (agrees : Guarded TrackedStore.step TrackedStore.Agrees { db := db }
      commands) :
    (∀ payment ∈
        (exec TrackedStore.step { db := db } commands).db.payments.rows,
      payment.status = .captured →
      ∀ order ∈
        (exec TrackedStore.step { db := db } commands).db.orders.rows,
        order.id = payment.order → order.status = .paid ∨
          order.status = .packed ∨ order.status = .shipped ∨
          order.status = .delivered) ∧
      ∀ entry ∈ (exec TrackedStore.step { db := db } commands).paidVia,
        ∃ payment ∈
          (exec TrackedStore.step { db := db } commands).db.payments.rows,
          payment.order = entry.1 ∧ payment.provider = entry.2 ∧
            payment.status = .captured := by
  have grounded : Grounded db := by
    refine ⟨sound, ?_, ?_⟩ <;> simp [noPayments]
  have agreement : Agreement db [] := by
    constructor <;> simp [noPayments]
  have reached := exec_invariant
    (fun (store : TrackedStore) command
        (holds : Grounded store.db ∧ Agreement store.db store.paidVia)
        meets =>
      And.intro (grounded_step command holds.1)
        (agreement_step holds.1 holds.2 meets))
    ⟨grounded, agreement⟩ agrees
  refine ⟨?_, reached.2.captured⟩
  intro payment member isCaptured order orderMem sameOrder
  have isActive := reached.2.active payment member isCaptured order orderMem
    sameOrder
  cases status : order.status <;>
    simp [status, OrderStatus.isActive] at isActive ⊢

/-- An order is paid through PayPal and packed, while the periodic task
runs. -/
theorem orders_payments_agree_packed :
    ∃ payment ∈ (exec TrackedStore.step { db := twoCarts 5 }
        [checkoutOf 10 "N1", chargeOf accepted,
          paypalEvent "CHECKOUT.ORDER.APPROVED", transitionOf 1 .packed,
          .expirePendingPayments { now := 61 * minute } 60]).db.payments.rows,
      payment.order = 1 ∧ payment.provider = .paypal ∧
        payment.status = .captured :=
  (orders_payments_agree (soundRows_of_unreserved (by decide)) rfl
    (by decide +kernel)).2 (1, .paypal) (by decide +kernel)

/-- The cancellation of a paid order leaves its payment captured, and an event
that says nothing about the status leaves a paid order without a captured
payment. -/
theorem orders_payments_disagree :
    SoundRows (twoCarts 5).stocks ∧
      (exec TrackedStore.step { db := twoCarts 5 }
        [checkoutOf 10 "N1", chargeOf accepted,
          paypalEvent "CHECKOUT.ORDER.APPROVED",
          transitionOf 1 .cancelled]).db.payments.rows.map
            (fun payment => (payment.order, payment.status)) =
        [(1, .captured)] ∧
      (exec TrackedStore.step { db := twoCarts 5 }
        [checkoutOf 10 "N1", chargeOf accepted,
          paypalEvent "CHECKOUT.ORDER.APPROVED",
          transitionOf 1 .cancelled]).db.orders.rows.map
            (fun order => (order.id, order.status)) = [(1, .cancelled)] ∧
      (exec TrackedStore.step { db := twoCarts 5 }
        [checkoutOf 10 "N1", chargeOf accepted,
          paypalEvent "CHECKOUT.ORDER.APPROVED",
          paypalEvent "CHECKOUT.ORDER.SAVED"]).paidVia = [(1, .paypal)] ∧
      (exec TrackedStore.step { db := twoCarts 5 }
        [checkoutOf 10 "N1", chargeOf accepted,
          paypalEvent "CHECKOUT.ORDER.APPROVED",
          paypalEvent "CHECKOUT.ORDER.SAVED"]).db.payments.rows.map
            Payment.status = [.pending] := by
  refine ⟨soundRows_of_unreserved (by decide), ?_⟩
  decide +kernel

end NovaCommerce
