import NovaCommerce.SalesReports
import NovaCommerce.GuardedRun
import Mathlib.Data.List.Dedup
import Mathlib.Data.List.Perm.Subperm

/-!
# What the sales reports count

All figures of the reports are taken from the orders in status `paid`.  An order
leaves this status as soon as it is packed, so that fulfilment takes its revenue
out of every report; only a run that packs no paid order keeps the figures.
-/

namespace NovaCommerce

open AtomicCall GuardedRun

/-- A transition of an order towards its delivery. -/
structure FulfilmentCall where
  session : Session
  orderId : Uuid
  newStatus : OrderStatus
  fulfils : newStatus = .packed ∨ newStatus = .shipped ∨
    newStatus = .delivered := by decide
  actor : Option Uuid := none
  message : String := ""

namespace FulfilmentCall

def step (db : Database) (call : FulfilmentCall) : Database :=
  settle (transitionStatus call.session call.orderId call.newStatus call.actor
    call.message) db

/-- The call does not pack an order in status `paid`, unless its message is
refused. -/
def KeepsPaid (db : Database) (call : FulfilmentCall) : Prop :=
  ∀ order ∈ ordersIn db .paid, order.id = call.orderId →
    fitsColumn 500 call.message = true → call.newStatus ≠ .packed

instance (db : Database) (call : FulfilmentCall) :
    Decidable (call.KeepsPaid db) :=
  inferInstanceAs (Decidable (∀ order ∈ ordersIn db .paid,
    order.id = call.orderId → fitsColumn 500 call.message = true →
      call.newStatus ≠ .packed))

end FulfilmentCall

/-- The reports say the same of two databases. -/
structure SameReports (calendar : Calendar) (before after : Database) :
    Prop where
  timeseries : ∀ session days day,
    entryFor (revenueTimeseries calendar session after days) day =
      entryFor (revenueTimeseries calendar session before days) day
  revenueToday : ∀ session,
    revenueToday calendar session after = revenueToday calendar session before
  averageOrderValue : ∀ session days,
    averageOrderValue calendar session after days =
      averageOrderValue calendar session before days
  rollup : ∀ session day,
    rollupDailySales calendar session after day =
      rollupDailySales calendar session before day

/-- What fulfilment keeps in any case: no order comes to be paid, cancelled or
created. -/
structure Fulfilled (before after : Database) : Prop where
  paid : (ordersIn after .paid).Sublist (ordersIn before .paid)
  cancelled : ordersIn after .cancelled = ordersIn before .cancelled
  created : (objects after.orders).map (fun order => order.createdAt) =
    (objects before.orders).map fun order => order.createdAt

namespace Fulfilled

variable {before middle after : Database}

theorem refl (db : Database) : Fulfilled db db :=
  ⟨List.Sublist.refl _, rfl, rfl⟩

theorem trans (first : Fulfilled before middle)
    (second : Fulfilled middle after) : Fulfilled before after :=
  ⟨second.paid.trans first.paid, second.cancelled.trans first.cancelled,
    second.created.trans first.created⟩

end Fulfilled

/-- An order that is packed was paid, and one that is shipped or delivered was
packed. -/
theorem status_of_fulfils {old new : OrderStatus}
    (allowed : old.allowedTransitions.contains new = true)
    (fulfils : new = .packed ∨ new = .shipped ∨ new = .delivered) :
    old ≠ .cancelled ∧ (old = .paid ↔ new = .packed) := by
  revert allowed
  rcases fulfils with rfl | rfl | rfl <;> cases old <;> decide

theorem ordersIn_eq (db : Database) (status : OrderStatus) :
    ordersIn db status = db.orders.rows.filter fun order =>
      alive order && decide (order.status = status) := by
  rw [ordersIn, objects, List.filter_filter]
  congr 1
  funext order
  exact Bool.and_comm _ _

section Steps

variable {db after : Database} {order : Order} {session : Session}
  {newStatus : OrderStatus}

/-- The orders in a status after one of them has left for another one. -/
theorem ordersIn_transitioned
    (moved : Transitioned session order newStatus db after)
    {status : OrderStatus} (other : newStatus ≠ status) :
    ordersIn after status = (ordersIn db status).filter fun row =>
      row.id ≠ order.id := by
  have saved : after.orders =
      db.orders.save (order.enterStatus newStatus session.now) := by
    rw [moved.frame]
  have sameId : (order.enterStatus newStatus session.now).id = order.id :=
    congrArg TimeStampedUUIDModel.id (base_enterStatus order _ _)
  rw [ordersIn_eq, ordersIn_eq, saved, Table.filter_save_of_not]
  · apply List.filter_congr
    intro row _
    change decide (row.id ≠ (order.enterStatus newStatus session.now).id) = _
    rw [sameId]
  · simp [other]

theorem fulfilled_of_transitioned
    (moved : Transitioned session order newStatus db after)
    (fulfils : newStatus = .packed ∨ newStatus = .shipped ∨
      newStatus = .delivered) : Fulfilled db after := by
  obtain ⟨notCancelled, _⟩ := status_of_fulfils moved.allowed fulfils
  have notPaid : newStatus ≠ .paid := by
    rcases fulfils with rfl | rfl | rfl <;> decide
  have newNotCancelled : newStatus ≠ .cancelled := by
    rcases fulfils with rfl | rfl | rfl <;> decide
  refine ⟨?_, ?_, ?_⟩
  · rw [ordersIn_transitioned moved notPaid]
    exact List.filter_sublist
  · rw [ordersIn_transitioned moved newNotCancelled, List.filter_eq_self]
    intro row selected
    apply decide_eq_true
    intro sameId
    obtain ⟨visible, isCancelled⟩ := List.mem_filter.mp selected
    have rowEq : row = order := db.orders.eq_of_key_eq
      (List.mem_filter.mp visible).1 moved.member sameId
    rw [rowEq] at isCancelled
    exact notCancelled (of_decide_eq_true isCancelled)
  · have saved : after.orders =
        db.orders.save (order.enterStatus newStatus session.now) := by
      rw [moved.frame]
    have sameBase := base_enterStatus order newStatus session.now
    have columns := Table.map_save moved.member
      (congrArg TimeStampedUUIDModel.id sameBase)
      (fun row : Order => row.toTimeStampedUUIDModel) sameBase
    have visible := congrArg
      (fun rows => (rows.filter fun row : TimeStampedUUIDModel =>
        row.deletedAt.isNone).map TimeStampedUUIDModel.createdAt) columns
    simp only [List.filter_map, List.map_map] at visible
    rw [saved]
    exact visible

/-- Packing a paid order is the only way to lose one. -/
theorem length_paid_transitioned
    (moved : Transitioned session order newStatus db after)
    (fulfils : newStatus = .packed ∨ newStatus = .shipped ∨
      newStatus = .delivered) :
    (ordersIn after .paid).length = (ordersIn db .paid).length ↔
      newStatus ≠ .packed := by
  obtain ⟨_, wasPaid⟩ := status_of_fulfils moved.allowed fulfils
  have notPaid : newStatus ≠ .paid := by
    rcases fulfils with rfl | rfl | rfl <;> decide
  rw [ordersIn_transitioned moved notPaid, List.length_filter_eq_length_iff]
  constructor
  · intro kept isPacked
    have counted : order ∈ ordersIn db .paid :=
      List.mem_filter.mpr ⟨List.mem_filter.mpr ⟨moved.member, moved.isAlive⟩,
        decide_eq_true (wasPaid.mpr isPacked)⟩
    exact of_decide_eq_true (kept order counted) rfl
  · intro notPacked row counted
    apply decide_eq_true
    intro sameId
    obtain ⟨visible, isPaid⟩ := List.mem_filter.mp counted
    have rowEq : row = order := db.orders.eq_of_key_eq
      (List.mem_filter.mp visible).1 moved.member sameId
    rw [rowEq] at isPaid
    exact notPacked (wasPaid.mp (of_decide_eq_true isPaid))

end Steps

/-- A call changes nothing, or it moved the order that it names. -/
theorem FulfilmentCall.step_cases (db : Database) (call : FulfilmentCall) :
    call.step db = db ∨ ∃ order, order.id = call.orderId ∧
      fitsColumn 500 call.message = true ∧
      Transitioned call.session order call.newStatus db (call.step db) := by
  rcases settle_cases (transitionStatus call.session call.orderId
      call.newStatus call.actor call.message)
    (fun _ _ raised => atomic_eq_error raised) with
    ⟨changed, returned⟩ | unchanged
  · obtain ⟨order, hasId, _, moved⟩ := transitionStatus_eq_ok returned
    exact Or.inr ⟨order, hasId, message_fits_of_transitionStatus returned,
      moved⟩
  · exact Or.inl unchanged

theorem fulfilled_step (db : Database) (call : FulfilmentCall) :
    Fulfilled db (call.step db) := by
  rcases call.step_cases db with unchanged | ⟨order, _, _, moved⟩
  · rw [unchanged]
    exact .refl db
  · exact fulfilled_of_transitioned moved call.fulfils

/-- The calls that keep all paid orders are those that pack none. -/
theorem length_paid_step (db : Database) (call : FulfilmentCall) :
    (ordersIn (call.step db) .paid).length = (ordersIn db .paid).length ↔
      call.KeepsPaid db := by
  by_cases packs : call.newStatus = .packed ∧
      fitsColumn 500 call.message = true ∧
      ∃ order ∈ ordersIn db .paid, order.id = call.orderId
  · obtain ⟨isPacked, fits, order, counted, hasId⟩ := packs
    obtain ⟨visible, isPaid⟩ := List.mem_filter.mp counted
    obtain ⟨member, isAlive⟩ := List.mem_filter.mp visible
    have allowed : order.canTransitionTo call.newStatus = true := by
      rw [Order.canTransitionTo, of_decide_eq_true isPaid, isPacked]
      decide
    obtain ⟨changed, after, returned⟩ := transitionStatus_returns
      call.actor fits member isAlive allowed
      (settleStock_returns call.session order (by simp [isPacked]) db)
    have stepped : call.step db = after := by
      rw [FulfilmentCall.step, ← hasId, settle_of_eq_ok returned]
    obtain ⟨_, _, _, moved⟩ := transitionStatus_eq_ok returned
    rw [stepped, length_paid_transitioned moved call.fulfils]
    constructor
    · intro notPacked
      exact absurd isPacked notPacked
    · intro keeps
      exact keeps order counted hasId fits
  · have keeps : call.KeepsPaid db := by
      intro order counted hasId fits isPacked
      exact packs ⟨isPacked, fits, order, counted, hasId⟩
    refine iff_of_true ?_ keeps
    rcases call.step_cases db with unchanged | ⟨order, hasId, fits, moved⟩
    · rw [unchanged]
    · rw [length_paid_transitioned moved call.fulfils]
      intro isPacked
      have wasPaid := (status_of_fulfils moved.allowed call.fulfils).2
      exact packs ⟨isPacked, fits, order, List.mem_filter.mpr
        ⟨List.mem_filter.mpr ⟨moved.member, moved.isAlive⟩,
          decide_eq_true (wasPaid.mpr isPacked)⟩, hasId⟩

section Reports

variable {calendar : Calendar} {before after : Database}

/-- The number of orders of a day depends on the moments of creation only. -/
theorem length_created (calendar : Calendar) (orders : List Order) (day : Day) :
    (orders.filter fun order => calendar.createdDate order = day).length =
      ((orders.map fun order => order.createdAt).filter fun createdAt =>
        calendar.localDate createdAt = day).length := by
  rw [List.filter_map, List.length_map]
  rfl

/-- The reports are figures of the paid orders, of the cancelled ones and of the
moments of creation. -/
theorem sameReports_of_paid_eq (kept : Fulfilled before after)
    (samePaid : ordersIn after .paid = ordersIn before .paid) :
    SameReports calendar before after := by
  have sameFigures : ∀ day,
      dailySales calendar after day = dailySales calendar before day := by
    intro day
    unfold dailySales
    dsimp only
    rw [samePaid, kept.cancelled,
      length_created calendar (objects after.orders), kept.created,
      ← length_created calendar (objects before.orders)]
  refine ⟨?_, ?_, ?_, ?_⟩
  · intro session days day
    unfold revenueTimeseries
    rw [samePaid]
  · intro session
    unfold revenueToday
    rw [samePaid]
  · intro session days
    unfold averageOrderValue
    rw [samePaid]
  · intro session day
    unfold rollupDailySales
    dsimp only
    rw [sameFigures]

/-- The first rollup of a day stores its figures. -/
theorem dailySales_of_rollup {day : Day}
    (same : rollupDailySales calendar { now := 0 } after (some day) =
      rollupDailySales calendar { now := 0 } before (some day)) :
    dailySales calendar after day = dailySales calendar before day := by
  have stored : (EStateM.Result.ok _ ((∅ : Table DailySalesSnapshot).create
      (newSnapshot { now := 0 } day (dailySales calendar after day))
      (key_newSnapshot _ _ _)) : EStateM.Result Exception _ (Day × Cents)) =
      .ok _ ((∅ : Table DailySalesSnapshot).create
        (newSnapshot { now := 0 } day (dailySales calendar before day))
        (key_newSnapshot _ _ _)) := congrFun same ∅
  have figures := congrArg (fun snapshots =>
    snapshots.rows.map DailySalesSnapshot.toDailySales)
    (EStateM.Result.ok.inj stored).2
  exact (List.cons.inj figures).1

/-- A paid order that was lost is missing in the rollup of the day on which it
was created. -/
theorem paid_eq_of_sameReports (kept : Fulfilled before after)
    (same : SameReports calendar before after) :
    ordersIn after .paid = ordersIn before .paid := by
  have subset : ordersIn before .paid ⊆ ordersIn after .paid := by
    intro order counted
    have figures := dailySales_of_rollup
      (same.rollup { now := 0 } (some (calendar.createdDate order)))
    have ofDay := (kept.paid.filter fun row =>
      decide (calendar.createdDate row =
        calendar.createdDate order)).eq_of_length
          (congrArg DailySales.paidOrdersCount figures)
    have selected : order ∈ (ordersIn before .paid).filter fun row =>
        calendar.createdDate row = calendar.createdDate order :=
      List.mem_filter.mpr ⟨counted, decide_eq_true rfl⟩
    exact (List.mem_filter.mp (ofDay ▸ selected)).1
  have nodup : (ordersIn before .paid).Nodup :=
    (before.orders.nodup_rows.filter _).filter _
  exact kept.paid.eq_of_length_le
    (List.subperm_of_subset nodup subset).length_le

end Reports

/-- The reports say the same before and after a run of fulfilment exactly when
no order is packed that is in status `paid`. -/
theorem fulfilment_keeps_reports_iff (calendar : Calendar) (db : Database)
    (calls : List FulfilmentCall) :
    SameReports calendar db (exec FulfilmentCall.step db calls) ↔
      Guarded FulfilmentCall.step FulfilmentCall.KeepsPaid db calls := by
  have anyCalls : Guarded FulfilmentCall.step (fun _ _ => True) db calls :=
    guarded_true db calls
  have kept : Fulfilled db (exec FulfilmentCall.step db calls) :=
    exec_relation Fulfilled .refl (fun _ _ _ => .trans)
      (fun db call _ => fulfilled_step db call) anyCalls
  let counted (db : Database) : ℕᵒᵈ :=
    OrderDual.toDual (ordersIn db .paid).length
  have keptCount : counted (exec FulfilmentCall.step db calls) = counted db ↔
      Guarded FulfilmentCall.step FulfilmentCall.KeepsPaid db calls :=
    exec_eq_iff_guarded counted
      (fun db call => (fulfilled_step db call).paid.length_le)
      length_paid_step db calls
  rw [← keptCount]
  constructor
  · intro same
    exact congrArg List.length (paid_eq_of_sameReports kept same)
  · intro sameCount
    exact sameReports_of_paid_eq kept (kept.paid.eq_of_length sameCount)

/-- The calendar of UTC, with moments in seconds. -/
def utcCalendar : Calendar where
  localDate moment := moment / 86400
  utcDate moment := moment / 86400
  dayLength := 86400

/-- One order of fifty, created on the first day. -/
def onePaidOrder (paidAt : Time) : Database :=
  { orders := ⟨[
      { id := 1, createdAt := 10, number := "N-1", user := none,
        emailSnapshot := "buyer@example.com", phoneSnapshot := "",
        status := .paid, grandTotal := 5000, paidAt := some paidAt }],
      by simp⟩ }

/-- The order is packed. -/
def packing : List FulfilmentCall :=
  [{ session := { now := 30 }, orderId := 1, newStatus := .packed }]

/-- The revenue of the day is gone from every report when the order is
packed. -/
theorem packing_erases_revenue :
    let before := onePaidOrder 20
    let after := exec FulfilmentCall.step before packing
    let evening : Session := { now := 80000 }
    ([before, after].map fun db =>
      entryFor (revenueTimeseries utcCalendar evening db) 0) =
        [some { day := 0, revenue := 5000, orders := 1 }, none] ∧
      [before, after].map (revenueToday utcCalendar evening) =
        [5000, 0] ∧
      ([before, after].map fun db =>
        averageOrderValue utcCalendar evening db) = [5000, 0] ∧
      ([before, after].map fun db =>
        (dailySales utcCalendar db 0).revenue) = [5000, 0] ∧
      ¬SameReports utcCalendar before after := by
  intro before after evening
  have today : [before, after].map (revenueToday utcCalendar evening) =
      [5000, 0] := by
    decide +kernel
  refine ⟨by decide +kernel, today, by decide +kernel, by decide +kernel, ?_⟩
  intro same
  obtain ⟨reported, gone⟩ := List.cons.inj today
  have lost := same.revenueToday evening
  rw [reported, (List.cons.inj gone).1] at lost
  exact absurd lost (by decide)

section Stored

variable {calendar : Calendar} {session : Session} {db : Database}
  {day : Day}

/-- A snapshot that is written is found under its day. -/
theorem storedRevenue_updateOrCreate {defaults : DailySales}
    {snapshots after : Table DailySalesSnapshot}
    (returned : updateOrCreateSnapshot session day defaults snapshots =
      .ok () after) :
    storedRevenue after day = some defaults.revenue := by
  rw [updateOrCreateSnapshot, get_bind] at returned
  cases found : (objects snapshots).find? fun row => row.day = day with
  | some row =>
      simp only [found, modify_eq_ok] at returned
      subst returned
      rw [objects, List.find?_filter] at found
      let saved : DailySalesSnapshot := { row with toDailySales := defaults }
      have sameKey : Keyed.key saved = Keyed.key row := rfl
      have foundSaved := Table.find?_rows_save sameKey rfl found
      rw [storedRevenue, objects, List.find?_filter, foundSaved]
      rfl
  | none =>
      simp only [found] at returned
      split at returned
      · exact (throw_eq_ok.mp returned).elim
      · rw [modify_eq_ok] at returned
        subst returned
        rw [storedRevenue, objects, Table.rows_create, List.filter_append,
          List.find?_append]
        rw [objects] at found
        rw [found]
        simp [newSnapshot, alive, IsModel.base]

/-- A rollup that returned has stored the revenue of the paid orders that were
created on the day. -/
theorem storedRevenue_rollup {snapshots after : Table DailySalesSnapshot}
    {result : Day × Cents}
    (returned : rollupDailySales calendar session db (some day) snapshots =
      .ok result after) :
    storedRevenue after day = some (sumTotals
      ((ordersIn db .paid).filter fun order =>
        calendar.createdDate order = day)) := by
  obtain ⟨_, _, stored, finished⟩ := bind_eq_ok.mp returned
  obtain ⟨_, rfl⟩ := pure_eq_ok.mp finished
  exact storedRevenue_updateOrCreate stored

/-- The revenue that the live report has for a day of its window, zero without
an entry, is that of the paid orders that were paid on the day. -/
theorem entryFor_revenueTimeseries {days : Int}
    (inWindow : calendar.utcDate (calendar.daysAgo session days) ≤ day) :
    ((entryFor (revenueTimeseries calendar session db days) day).map
        DayRevenue.revenue).getD 0 =
      sumTotals ((ordersIn db .paid).filter fun order =>
        calendar.paidDate order = some day) := by
  let since := calendar.utcDate (calendar.daysAgo session days)
  let orders := (ordersIn db .paid).filter fun order =>
    (calendar.paidDate order).any fun day => since ≤ day
  let dates := (orders.filterMap calendar.paidDate).dedup.insertionSort
    (· ≤ ·)
  have ofDay : (orders.filter fun order =>
      calendar.paidDate order = some day) =
      (ordersIn db .paid).filter fun order =>
        calendar.paidDate order = some day := by
    rw [List.filter_filter]
    apply List.filter_congr
    intro order _
    by_cases paidThen : calendar.paidDate order = some day
    · simp [paidThen, since, inWindow]
    · simp [paidThen]
  have isDay : ((fun entry : DayRevenue => decide (entry.day = day)) ∘
      revenueOf calendar orders) = fun date => decide (date = day) := rfl
  change ((List.find? _ (dates.map (revenueOf calendar orders))).map
    DayRevenue.revenue).getD 0 = _
  rw [List.find?_map, isDay, ← ofDay]
  cases found : dates.find? fun date => decide (date = day) with
  | some date =>
      have isDate : date = day := by simpa using List.find?_some found
      rw [isDate]
      rfl
  | none =>
      have noOrders : orders.filter (fun order =>
          calendar.paidDate order = some day) = [] := by
        rw [List.filter_eq_nil_iff]
        intro order counted paidThen
        have date : day ∈ dates := by
          rw [List.mem_insertionSort, List.mem_dedup, List.mem_filterMap]
          exact ⟨order, counted, of_decide_eq_true paidThen⟩
        exact List.find?_eq_none.mp found day date (decide_eq_true rfl)
      rw [noOrders]
      rfl

/-- The totals of a selection are those of its parts. -/
theorem sumTotals_split (orders : List Order) (first second : Order → Bool) :
    sumTotals (orders.filter first) =
      sumTotals (orders.filter fun order => first order && second order) +
        sumTotals (orders.filter fun order =>
          first order && !second order) := by
  unfold sumTotals
  induction orders with
  | nil => rfl
  | cons order orders ih =>
      cases isFirst : first order <;> cases isSecond : second order <;>
        simp [isFirst, isSecond, ih, add_assoc, add_left_comm]

/-- The stored revenue of a day within the window is the one that the live
report has for the day exactly when the paid orders that were only created on
the day have the same total as those that were only paid on it. -/
theorem stored_revenue_agrees_iff (live : Session) {days : Int}
    {snapshots after : Table DailySalesSnapshot} {result : Day × Cents}
    (returned : rollupDailySales calendar session db (some day) snapshots =
      .ok result after)
    (inWindow : calendar.utcDate (calendar.daysAgo live days) ≤ day) :
    storedRevenue after day = some
        (((entryFor (revenueTimeseries calendar live db days) day).map
          DayRevenue.revenue).getD 0) ↔
      sumTotals ((ordersIn db .paid).filter fun order =>
          decide (calendar.createdDate order = day) &&
            !decide (calendar.paidDate order = some day)) =
        sumTotals ((ordersIn db .paid).filter fun order =>
          decide (calendar.paidDate order = some day) &&
            !decide (calendar.createdDate order = day)) := by
  rw [storedRevenue_rollup returned, entryFor_revenueTimeseries inWindow,
    Option.some_inj,
    sumTotals_split _ (fun order => decide (calendar.createdDate order = day))
      fun order => decide (calendar.paidDate order = some day),
    sumTotals_split _ (fun order => decide (calendar.paidDate order = some day))
      fun order => decide (calendar.createdDate order = day)]
  have both : (fun order => decide (calendar.createdDate order = day) &&
      decide (calendar.paidDate order = some day)) =
      fun order => decide (calendar.paidDate order = some day) &&
        decide (calendar.createdDate order = day) := by
    funext order
    exact Bool.and_comm _ _
  rw [both]
  exact add_right_inj _

end Stored

/-- The two figures agree for an order that was paid on the day of its
creation. -/
theorem stored_revenue_agrees_sameDay :
    let morning : Session := { now := 90000 }
    ∃ result after, rollupDailySales utcCalendar morning (onePaidOrder 20)
        (some 0) ∅ = .ok result after ∧
      storedRevenue after 0 = some (((entryFor (revenueTimeseries utcCalendar
        morning (onePaidOrder 20)) 0).map DayRevenue.revenue).getD 0) := by
  intro morning
  have returned : rollupDailySales utcCalendar morning (onePaidOrder 20)
      (some 0) ∅ = .ok _ _ := rfl
  exact ⟨_, _, returned,
    (stored_revenue_agrees_iff morning returned (by decide)).mpr
      (by decide +kernel)⟩

/-- An order that is paid on the day after its creation is stored under the day
of its creation and reported under the day of its payment. -/
theorem stored_revenue_of_other_day :
    let nextWeek : Session := { now := 600000 }
    let db := onePaidOrder 90000
    ([0, 1].map fun day => storedRevenue
        (settle (rollupDailySales utcCalendar nextWeek db (some day)) ∅) day) =
          [some 5000, some 0] ∧
      ([0, 1].map fun day => ((entryFor (revenueTimeseries utcCalendar nextWeek
        db) day).map DayRevenue.revenue).getD 0) = [0, 5000] :=
  ⟨by decide +kernel, by decide +kernel⟩

end NovaCommerce
