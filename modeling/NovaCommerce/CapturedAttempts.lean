import NovaCommerce.PaymentHistory

/-!
# At most one captured attempt

Every attempt to charge an order asks for its grand total, so the captured
payments of an order stay within it exactly when there is at most one.  A
captured event is written to all payments that the order has with the
provider: it keeps to one attempt only where no other payment of the order is
of the provider or captured before.
-/

namespace NovaCommerce

open AtomicCall GuardedRun

section Orders

variable {db after : Database}

/-- Every order is still there, with the grand total that it had. -/
def OrdersKept (db after : Database) : Prop :=
  ∀ order ∈ db.orders.rows, ∃ later ∈ after.orders.rows,
    later.id = order.id ∧ later.grandTotal = order.grandTotal

theorem OrdersKept.of_eq (same : after.orders = db.orders) :
    OrdersKept db after := by
  intro order member
  exact ⟨order, same ▸ member, rfl, rfl⟩

theorem OrdersKept.of_save {order changed : Order}
    (member : order ∈ db.orders.rows) (sameId : changed.id = order.id)
    (sameTotal : changed.grandTotal = order.grandTotal)
    (saved : after.orders = db.orders.save changed) :
    OrdersKept db after := by
  intro row rowMem
  rw [saved]
  by_cases isSaved : row.id = order.id
  · have rowEq : row = order := db.orders.eq_of_key_eq rowMem member isSaved
    have inKeys : Keyed.key changed ∈ db.orders.keys :=
      List.mem_map.mpr ⟨order, member, sameId.symm⟩
    refine ⟨changed, Table.mem_save.mpr (Or.inr ⟨rfl, inKeys⟩), ?_, ?_⟩
    · rw [rowEq, sameId]
    · rw [rowEq, sameTotal]
  · have keyNe : Keyed.key row ≠ Keyed.key changed := by
      intro equal
      exact isSaved (equal.trans sameId)
    exact ⟨row, Table.mem_save_of_ne rowMem keyNe, rfl, rfl⟩

theorem grandTotal_enterStatus (order : Order) (new : OrderStatus)
    (now : Time) :
    (order.enterStatus new now).grandTotal = order.grandTotal := by
  cases new <;> rfl

theorem Transitioned.ordersKept {session : Session} {order : Order}
    {newStatus : OrderStatus}
    (transitioned : Transitioned session order newStatus db after) :
    OrdersKept db after := by
  have saved : after.orders =
      db.orders.save (order.enterStatus newStatus session.now) := by
    rw [transitioned.frame]
  exact .of_save transitioned.member
    (congrArg TimeStampedUUIDModel.id (base_enterStatus _ _ _))
    (grandTotal_enterStatus _ _ _) saved

theorem Moved.ordersKept {session : Session} {order : Order}
    {status : Option PaymentStatus}
    (moved : Moved session order status db after) : OrdersKept db after := by
  cases moved with
  | paid transitioned => exact transitioned.ordersKept
  | cancelled _ _ transitioned => exact transitioned.ordersKept
  | refunded transitioned => exact transitioned.ordersKept
  | notPaid | notCancelled | stayed => exact .of_eq rfl

/-- No call removes an order or changes its grand total. -/
theorem ordersKept_step (db : Database) (command : StoreCommand) :
    OrdersKept db (command.step db) := by
  have effect := stepped db command
  generalize command.step db = after at effect
  cases effect with
  | unchanged => exact .of_eq rfl
  | checkedOut checkedOut =>
      intro order member
      refine ⟨order, ?_, rfl, rfl⟩
      rw [(exactConversion_of_checkedOut checkedOut).orders_eq]
      exact List.mem_append_left _ member
  | charged _ charged =>
      rcases charged.orders_eq with same | ⟨row, rowMem, _, _, saved⟩
      · exact .of_eq same
      · refine .of_save rowMem ?_ ?_ saved <;> rfl
  | @webhook _ _ _ _ _ _ _ _ recorded _ _ _ _ matched =>
      intro order member
      have recordedMem : order ∈ recorded.orders.rows :=
        matched.recorded_orders ▸ member
      obtain ⟨later, laterMem, kept⟩ :=
        matched.movedOrder.ordersKept order recordedMem
      exact ⟨later, matched.after_orders ▸ laterMem, kept⟩
  | transitioned transitioned => exact transitioned.ordersKept
  | adjusted _ _ _ after_eq => exact .of_eq (by rw [after_eq])
  | expired cutoff => exact .of_eq rfl

end Orders

/-- A call and, if it is an event about a charge, the attempt that the event
reports. -/
structure ReportedCall where
  command : StoreCommand
  attempt : Option Uuid := none

namespace ReportedCall

def step (db : Database) (call : ReportedCall) : Database :=
  call.command.step db

/-- A captured event reports one attempt to charge its order with its
provider. -/
def ReportsAttempt (db : Database) (call : ReportedCall) : Prop :=
  ∀ event ∈ call.command.matchedEvent db, event.status = .captured →
    ∃ payment ∈ objects db.payments, event.concerns payment = true ∧
      call.attempt = some payment.id

/-- A captured event finds no payment of its order, other than the attempt
that it reports, that is of its provider or captured. -/
def FindsOneAttempt (db : Database) (call : ReportedCall) : Prop :=
  ∀ event ∈ call.command.matchedEvent db, event.status = .captured →
    ∀ payment ∈ objects db.payments, payment.order = event.order.id →
      (payment.provider = event.provider.code ∨ payment.status = .captured) →
      call.attempt = some payment.id

/-- A captured event finds no such payment with an amount, and none that has
failed. -/
def FindsOneCharge (db : Database) (call : ReportedCall) : Prop :=
  ∀ event ∈ call.command.matchedEvent db, event.status = .captured →
    ∀ payment ∈ objects db.payments, payment.order = event.order.id →
      (payment.provider = event.provider.code ∨ payment.status = .captured) →
      call.attempt = some payment.id ∨
        (payment.amount = 0 ∧ payment.status ≠ .failed)

instance (db : Database) (call : ReportedCall) :
    Decidable (call.ReportsAttempt db) :=
  inferInstanceAs (Decidable (∀ event ∈ call.command.matchedEvent db,
    event.status = .captured →
      ∃ payment ∈ objects db.payments, event.concerns payment = true ∧
        call.attempt = some payment.id))

instance (db : Database) (call : ReportedCall) :
    Decidable (call.FindsOneCharge db) :=
  inferInstanceAs (Decidable (∀ event ∈ call.command.matchedEvent db,
    event.status = .captured →
      ∀ payment ∈ objects db.payments, payment.order = event.order.id →
        (payment.provider = event.provider.code ∨
          payment.status = .captured) →
        call.attempt = some payment.id ∨
          (payment.amount = 0 ∧ payment.status ≠ .failed)))

end ReportedCall

/-- What the captured payments of an order amount to. -/
def Database.capturedTotal (db : Database) (order : Uuid) : Cents :=
  db.payments.total fun payment =>
    if payment.order = order ∧ payment.status = .captured then payment.amount
    else 0

/-- Every payment asks for the grand total of its order, and every order has
at most one captured payment with an amount. -/
structure OneCaptured (db : Database) : Prop where
  allAlive : ∀ payment ∈ db.payments.rows, alive payment = true
  priced : ∀ payment ∈ db.payments.rows, ∃ order ∈ db.orders.rows,
    order.id = payment.order ∧ payment.amount = order.grandTotal
  unique : ∀ first ∈ db.payments.rows, ∀ second ∈ db.payments.rows,
    first.order = second.order → first.status = .captured →
      second.status = .captured → first.amount ≠ 0 → second.amount ≠ 0 →
        first.id = second.id

theorem oneCaptured_of_noPayments {db : Database}
    (noPayments : db.payments.rows = []) : OneCaptured db := by
  refine ⟨?_, ?_, ?_⟩ <;> simp [noPayments]

section Captured

variable {db : Database}

/-- One captured payment does not exceed the grand total of its order. -/
theorem OneCaptured.capturedTotal_le (captured : OneCaptured db)
    {order : Order} (member : order ∈ db.orders.rows)
    (nonneg : 0 ≤ order.grandTotal) :
    db.capturedTotal order.id ≤ order.grandTotal := by
  rw [Database.capturedTotal, Table.total_ite]
  cases selected : db.payments.rows.filter fun payment =>
      payment.order = order.id ∧ payment.status = .captured with
  | nil => exact nonneg
  | cons payment others =>
      have ofOrder : ∀ row ∈ payment :: others, row ∈ db.payments.rows ∧
          row.order = order.id ∧ row.status = .captured := by
        intro row rowMem
        rw [← selected, List.mem_filter] at rowMem
        simpa using rowMem
      have amount_eq : ∀ row ∈ payment :: others,
          row.amount = order.grandTotal := by
        intro row rowMem
        obtain ⟨paymentMem, paymentOrder, _⟩ := ofOrder row rowMem
        obtain ⟨priced, pricedMem, sameId, amount_eq⟩ :=
          captured.priced row paymentMem
        rw [amount_eq, db.orders.eq_of_key_eq pricedMem member
          (sameId.trans paymentOrder)]
      by_cases isFree : order.grandTotal = 0
      · have noAmount : ((payment :: others).map Payment.amount).sum = 0 := by
          apply List.sum_eq_zero
          intro amount listed
          obtain ⟨row, rowMem, rfl⟩ := List.mem_map.mp listed
          rw [amount_eq row rowMem, isFree]
        exact noAmount.le.trans nonneg
      obtain ⟨paymentMem, paymentOrder, paymentCaptured⟩ :=
        ofOrder payment List.mem_cons_self
      have noOthers : others = [] := by
        rw [List.eq_nil_iff_forall_not_mem]
        intro other otherMem
        obtain ⟨rowMem, otherOrder, otherCaptured⟩ :=
          ofOrder other (List.mem_cons_of_mem _ otherMem)
        have sameRow : payment = other :=
          db.payments.eq_of_key_eq paymentMem rowMem
            (captured.unique payment paymentMem other rowMem
              (paymentOrder.trans otherOrder.symm) paymentCaptured
              otherCaptured (amount_eq payment List.mem_cons_self ▸ isFree)
              (amount_eq other (List.mem_cons_of_mem _ otherMem) ▸ isFree))
        have distinct := db.payments.nodup_rows.filter fun payment =>
          decide (payment.order = order.id ∧ payment.status = .captured)
        rw [selected, List.nodup_cons] at distinct
        exact distinct.1 (sameRow ▸ otherMem)
      rw [noOthers, List.map_singleton, List.sum_singleton,
        amount_eq payment List.mem_cons_self]

section Update

variable {call : ReportedCall} {event : MatchedEvent}
  (matched : event ∈ call.command.matchedEvent db)

include matched

/-- Under one charge no other payment is captured by an update, but for those
that ask for nothing. -/
theorem attempt_or_free_of_captured (finds : call.FindsOneCharge db)
    {payment : Payment} (member : payment ∈ db.payments.rows)
    (notCaptured : payment.status ≠ .captured)
    (isCaptured : (payment.updatedBy event.order.id event.provider.code
      event.parsed).status = .captured) :
    call.attempt = some payment.id ∨
      (payment.amount = 0 ∧ payment.status ≠ .failed) := by
  rcases captured_updatedBy isCaptured with
    ⟨wasCaptured, _⟩ | ⟨captured, isAlive, concerns⟩
  · exact absurd wasCaptured notCaptured
  · obtain ⟨ofOrder, ofProvider⟩ := Bool.and_eq_true _ _ ▸ concerns
    exact finds event matched captured payment
      (List.mem_filter.mpr ⟨member, isAlive⟩) (of_decide_eq_true ofOrder)
      (Or.inl (of_decide_eq_true ofProvider))

/-- Under one attempt no other payment is captured by an update. -/
theorem attempt_of_captured (finds : call.FindsOneAttempt db)
    {payment : Payment} (member : payment ∈ db.payments.rows)
    (notCaptured : payment.status ≠ .captured)
    (isCaptured : (payment.updatedBy event.order.id event.provider.code
      event.parsed).status = .captured) :
    call.attempt = some payment.id := by
  rcases captured_updatedBy isCaptured with
    ⟨wasCaptured, _⟩ | ⟨captured, isAlive, concerns⟩
  · exact absurd wasCaptured notCaptured
  · obtain ⟨ofOrder, ofProvider⟩ := Bool.and_eq_true _ _ ▸ concerns
    exact finds event matched captured payment
      (List.mem_filter.mpr ⟨member, isAlive⟩) (of_decide_eq_true ofOrder)
      (Or.inl (of_decide_eq_true ofProvider))

theorem unique_updatedBy (finds : call.FindsOneCharge db)
    (captured : OneCaptured db) :
    ∀ first ∈ db.payments.rows, ∀ second ∈ db.payments.rows,
      first.order = second.order →
        (first.updatedBy event.order.id event.provider.code
          event.parsed).status = .captured →
        (second.updatedBy event.order.id event.provider.code
          event.parsed).status = .captured →
        first.amount ≠ 0 → second.amount ≠ 0 → first.id = second.id := by
  intro first firstMem second secondMem sameOrder firstCaptured
    secondCaptured firstAmount secondAmount
  -- A payment that was captured before is the reported attempt as well, if
  -- the event captures another payment of its order.
  have reported : ∀ payment ∈ db.payments.rows,
      payment.order = event.order.id → event.status = .captured →
      (payment.updatedBy event.order.id event.provider.code
        event.parsed).status = .captured → payment.amount ≠ 0 →
      call.attempt = some payment.id := by
    intro payment member ofOrder captures isCaptured hasAmount
    by_cases wasCaptured : payment.status = .captured
    · exact (finds event matched captures payment
        (List.mem_filter.mpr ⟨member, captured.allAlive payment member⟩)
        ofOrder (Or.inr wasCaptured)).resolve_right fun free =>
          hasAmount free.1
    · exact (attempt_or_free_of_captured matched finds member wasCaptured
        isCaptured).resolve_right fun free => hasAmount free.1
  by_cases captures : event.status = .captured ∧
      first.order = event.order.id
  · have firstReported :=
      reported first firstMem captures.2 captures.1 firstCaptured firstAmount
    have secondReported := reported second secondMem
      (sameOrder.symm.trans captures.2) captures.1 secondCaptured secondAmount
    exact Option.some.inj (firstReported.symm.trans secondReported)
  · have wasCaptured : ∀ payment : Payment,
        payment.order = first.order →
        (payment.updatedBy event.order.id event.provider.code
          event.parsed).status = .captured →
        payment.status = .captured := by
      intro payment ofOrder isCaptured
      rcases captured_updatedBy isCaptured with
        ⟨before, _⟩ | ⟨captured, _, concerns⟩
      · exact before
      · have concerned := (Bool.and_eq_true _ _ ▸ concerns).1
        exact absurd ⟨captured,
          ofOrder.symm.trans (of_decide_eq_true concerned)⟩ captures
    exact captured.unique first firstMem second secondMem sameOrder
      (wasCaptured first rfl firstCaptured)
      (wasCaptured second sameOrder.symm secondCaptured) firstAmount
      secondAmount

end Update

/-- A change of the payments that keeps the charges and captures at most one
of them keeps the invariant. -/
theorem OneCaptured.of_alter {after : Database} (change : Payment → Payment)
    (captured : OneCaptured db) (kept : OrdersKept db after)
    (rows : after.payments.rows = db.payments.rows.map change)
    (same : ∀ payment : Payment, payment.SameCharge (change payment))
    (unique : ∀ first ∈ db.payments.rows, ∀ second ∈ db.payments.rows,
      first.order = second.order → (change first).status = .captured →
        (change second).status = .captured → first.amount ≠ 0 →
          second.amount ≠ 0 → first.id = second.id) :
    OneCaptured after := by
  refine ⟨?_, ?_, ?_⟩ <;> rw [rows]
  · intro row rowMem
    obtain ⟨payment, member, rfl⟩ := List.mem_map.mp rowMem
    exact (same payment).alive_eq.trans (captured.allAlive payment member)
  · intro row rowMem
    obtain ⟨payment, member, rfl⟩ := List.mem_map.mp rowMem
    obtain ⟨order, orderMem, sameId, priced⟩ := captured.priced payment member
    obtain ⟨later, laterMem, laterId, laterTotal⟩ := kept order orderMem
    refine ⟨later, laterMem, ?_, ?_⟩
    · rw [laterId, sameId, (same payment).order_eq]
    · rw [(same payment).amount_eq, priced, laterTotal]
  · intro first firstMem second secondMem sameOrder
    obtain ⟨one, oneMem, rfl⟩ := List.mem_map.mp firstMem
    obtain ⟨two, twoMem, rfl⟩ := List.mem_map.mp secondMem
    rw [(same one).order_eq, (same two).order_eq] at sameOrder
    rw [(same one).id_eq, (same two).id_eq, (same one).amount_eq,
      (same two).amount_eq]
    exact unique one oneMem two twoMem sameOrder

theorem oneCaptured_step {call : ReportedCall} (captured : OneCaptured db)
    (finds : call.FindsOneCharge db) : OneCaptured (call.step db) := by
  have kept := ordersKept_step db call.command
  have effect := paymentsStepped db call.command
  change OneCaptured (call.command.step db)
  generalize call.command.step db = after at kept effect
  generalize paymentsEq : after.payments = payments at effect
  cases effect with
  | same =>
      apply captured.of_alter id kept
      · rw [paymentsEq, List.map_id]
      · exact fun _ => ⟨rfl, rfl, rfl, rfl⟩
      · exact captured.unique
  | @charged _ order payment rows member isAlive order_eq amount_eq
      status_eq =>
      have notCaptured : payment.status ≠ .captured := by
        rcases status_eq with isPending | hasFailed
        · simp [isPending]
        · simp [hasFailed]
      rw [← paymentsEq] at rows
      refine ⟨?_, ?_, ?_⟩ <;> rw [rows]
      · intro row rowMem
        rcases List.mem_append.mp rowMem with old | new
        · exact captured.allAlive row old
        · rw [List.mem_singleton.mp new]
          exact isAlive
      · intro row rowMem
        rcases List.mem_append.mp rowMem with old | new
        · obtain ⟨priced, pricedMem, sameId, rowPriced⟩ :=
            captured.priced row old
          obtain ⟨later, laterMem, laterId, laterTotal⟩ := kept priced pricedMem
          exact ⟨later, laterMem, laterId.trans sameId,
            rowPriced.trans laterTotal.symm⟩
        · obtain ⟨later, laterMem, laterId, laterTotal⟩ := kept order member
          rw [List.mem_singleton.mp new]
          exact ⟨later, laterMem, laterId.trans order_eq.symm,
            amount_eq.trans laterTotal.symm⟩
      · intro first firstMem second secondMem sameOrder firstCaptured
          secondCaptured
        have wasCaptured : ∀ row ∈ db.payments.rows ++ [payment],
            row.status = .captured → row ∈ db.payments.rows := by
          intro row rowMem rowCaptured
          rcases List.mem_append.mp rowMem with old | new
          · exact old
          · rw [List.mem_singleton.mp new] at rowCaptured
            exact absurd rowCaptured notCaptured
        exact captured.unique first (wasCaptured first firstMem firstCaptured)
          second (wasCaptured second secondMem secondCaptured) sameOrder
          firstCaptured secondCaptured
  | @updated event matched =>
      apply captured.of_alter _ kept
      · rw [paymentsEq]
        rfl
      · exact fun payment => sameCharge_updatedBy payment _ _ _
      · exact unique_updatedBy matched finds captured
  | expired cutoff =>
      apply captured.of_alter _ kept
      · rw [paymentsEq]
        rfl
      · exact fun payment => sameCharge_expiredAt payment cutoff
      · intro first firstMem second secondMem sameOrder firstCaptured
          secondCaptured
        have wasCaptured : ∀ payment : Payment,
            (payment.expiredAt cutoff).status = .captured →
              payment.status = .captured := by
          intro payment isCaptured
          rcases status_expiredAt payment cutoff with
            same | ⟨_, hasFailed⟩
          · exact same ▸ isCaptured
          · rw [hasFailed] at isCaptured
            cases isCaptured
        exact captured.unique first firstMem second secondMem sameOrder
          (wasCaptured first firstCaptured) (wasCaptured second secondCaptured)

/-- A call captures no payment that an update by its event does not. -/
theorem notCaptured_step {call : ReportedCall} {payment later : Payment}
    (unmoved : ∀ event ∈ call.command.matchedEvent db,
      (payment.updatedBy event.order.id event.provider.code
        event.parsed).status ≠ .captured)
    (member : payment ∈ db.payments.rows)
    (notCaptured : payment.status ≠ .captured)
    (laterMem : later ∈ (call.step db).payments.rows)
    (sameId : later.id = payment.id) : later.status ≠ .captured := by
  have effect := paymentsStepped db call.command
  change later ∈ (call.command.step db).payments.rows at laterMem
  generalize (call.command.step db).payments = payments at laterMem effect
  cases effect with
  | same =>
      have laterEq := db.payments.eq_of_key_eq laterMem member sameId
      rw [laterEq]
      exact notCaptured
  | charged rows _ _ _ _ status_eq =>
      rw [rows] at laterMem
      rcases List.mem_append.mp laterMem with old | new
      · have laterEq := db.payments.eq_of_key_eq old member sameId
        rw [laterEq]
        exact notCaptured
      · rw [List.mem_singleton.mp new]
        rcases status_eq with isPending | hasFailed
        · simp [isPending]
        · simp [hasFailed]
  | @updated event matched =>
      obtain ⟨row, rowMem, rfl⟩ := List.mem_map.mp laterMem
      have rowId := (sameCharge_updatedBy row event.order.id
        event.provider.code event.parsed).id_eq
      have rowEq := db.payments.eq_of_key_eq rowMem member
        (rowId.symm.trans sameId)
      rw [rowEq]
      exact unmoved event matched
  | expired cutoff =>
      obtain ⟨row, rowMem, rfl⟩ := List.mem_map.mp laterMem
      have rowId := (sameCharge_expiredAt row cutoff).id_eq
      have rowEq := db.payments.eq_of_key_eq rowMem member
        (rowId.symm.trans sameId)
      rw [rowEq]
      rcases status_expiredAt payment cutoff with same | ⟨_, hasFailed⟩
      · rw [same]
        exact notCaptured
      · simp [hasFailed]

end Captured

/-- At most one captured attempt: in every run whose captured events find the
one charge that they report, the captured payments of an order stay within its
grand total, no event captures a failed payment that it does not report, and,
if it finds no other payment, none at all. -/
theorem captured_within_total {db : Database} {calls : List ReportedCall}
    (noPayments : db.payments.rows = [])
    (finds : Guarded ReportedCall.step ReportedCall.FindsOneCharge db
      calls) :
    (∀ order ∈ (exec ReportedCall.step db calls).orders.rows,
      0 ≤ order.grandTotal →
      (exec ReportedCall.step db calls).capturedTotal order.id ≤
        order.grandTotal) ∧
      ∀ call : ReportedCall,
        ∀ payment ∈ (exec ReportedCall.step db calls).payments.rows,
          payment.status ≠ .captured → call.attempt ≠ some payment.id →
          (call.FindsOneCharge (exec ReportedCall.step db calls) ∧
              payment.status = .failed ∨
            call.FindsOneAttempt (exec ReportedCall.step db calls)) →
          ∀ later ∈
            (call.step (exec ReportedCall.step db calls)).payments.rows,
            later.id = payment.id → later.status ≠ .captured := by
  have reached := exec_invariant
    (fun _ _ captured meets => oneCaptured_step captured meets)
    (oneCaptured_of_noPayments noPayments) finds
  constructor
  · intro order member nonneg
    exact reached.capturedTotal_le member nonneg
  · intro call payment member notCaptured otherAttempt meets later laterMem
      sameId
    refine notCaptured_step ?_ member notCaptured laterMem sameId
    intro event matched isCaptured
    rcases meets with ⟨oneCharge, hasFailed⟩ | oneAttempt
    · exact (attempt_or_free_of_captured matched oneCharge member notCaptured
        isCaptured).elim otherAttempt fun free => free.2 hasFailed
    · exact otherAttempt
        (attempt_of_captured matched oneAttempt member notCaptured isCaptured)

/-- An order of 29.98 is charged once. -/
theorem captured_within_total_charged :
    (exec ReportedCall.step (twoCarts 5)
      [⟨checkoutOf 10 "N1", none⟩, ⟨chargeOf accepted, none⟩,
        ⟨paypalEvent "CHECKOUT.ORDER.APPROVED", some 1⟩]).capturedTotal 1 ≤
      2998 := by
  have finds : Guarded ReportedCall.step ReportedCall.FindsOneCharge
      (twoCarts 5) [⟨checkoutOf 10 "N1", none⟩, ⟨chargeOf accepted, none⟩,
        ⟨paypalEvent "CHECKOUT.ORDER.APPROVED", some 1⟩] := by
    decide +kernel
  obtain ⟨order, member, hasId, total⟩ :
      ∃ order ∈ (exec ReportedCall.step (twoCarts 5)
        [⟨checkoutOf 10 "N1", none⟩, ⟨chargeOf accepted, none⟩,
          ⟨paypalEvent "CHECKOUT.ORDER.APPROVED", some 1⟩]).orders.rows,
        order.id = 1 ∧ order.grandTotal = 2998 := by
    decide +kernel
  have within := (captured_within_total rfl finds).1 order member
    (by rw [total]; decide)
  rw [hasId, total] at within
  exact within

/-- A charge that PayPal refuses. -/
def refused : Nat × Json :=
  (500, .obj [])

/-- The event of a second attempt captures the first one too, which was
recorded as failed, and the order of 29.98 has 59.96 captured. -/
theorem failed_attempt_captured :
    Guarded ReportedCall.step ReportedCall.ReportsAttempt (twoCarts 5)
        [⟨checkoutOf 10 "N1", none⟩, ⟨chargeOf refused, none⟩,
          ⟨chargeOf accepted, none⟩,
          ⟨paypalEvent "CHECKOUT.ORDER.APPROVED", some 2⟩] ∧
      (exec ReportedCall.step (twoCarts 5)
        [⟨checkoutOf 10 "N1", none⟩, ⟨chargeOf refused, none⟩,
          ⟨chargeOf accepted, none⟩]).payments.rows.map
            (fun payment => (payment.id, payment.status)) =
        [(1, .failed), (2, .pending)] ∧
      (exec ReportedCall.step (twoCarts 5)
        [⟨checkoutOf 10 "N1", none⟩, ⟨chargeOf refused, none⟩,
          ⟨chargeOf accepted, none⟩,
          ⟨paypalEvent "CHECKOUT.ORDER.APPROVED", some 2⟩]).payments.rows.map
            (fun payment => (payment.id, payment.status)) =
        [(1, .captured), (2, .captured)] ∧
      (exec ReportedCall.step (twoCarts 5)
        [⟨checkoutOf 10 "N1", none⟩, ⟨chargeOf refused, none⟩,
          ⟨chargeOf accepted, none⟩,
          ⟨paypalEvent "CHECKOUT.ORDER.APPROVED", some 2⟩]).orders.rows.map
            Order.grandTotal = [2998] ∧
      (exec ReportedCall.step (twoCarts 5)
        [⟨checkoutOf 10 "N1", none⟩, ⟨chargeOf refused, none⟩,
          ⟨chargeOf accepted, none⟩,
          ⟨paypalEvent "CHECKOUT.ORDER.APPROVED", some 2⟩]).capturedTotal 1 =
        5996 := by
  decide +kernel

end NovaCommerce
