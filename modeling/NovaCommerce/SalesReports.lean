import NovaCommerce.TransitionEffects
import NovaCommerce.Decimal

/-!
# The sales reports

The dashboards add up the orders in status `paid`, by the day on which they were
paid; the nightly rollup stores figures of the orders that were created on a
day.
-/

namespace NovaCommerce

open AtomicCall GuardedRun

/-- A date, as a number of days. -/
abbrev Day := Int

/-- How moments are turned into dates: the database in the time zone of the
settings, `timezone.now().date()` in UTC. -/
structure Calendar where
  localDate : Time → Day
  utcDate : Time → Day
  dayLength : Int

namespace Calendar

/-- `timezone.now() - timedelta(days=days)`. -/
def daysAgo (calendar : Calendar) (session : Session) (days : Int) : Time :=
  session.now - days * calendar.dayLength

/-- `paid_at__date`: null if the order was not paid. -/
def paidDate (calendar : Calendar) (order : Order) : Option Day :=
  order.paidAt.map calendar.localDate

/-- `created_at__date`. -/
def createdDate (calendar : Calendar) (order : Order) : Day :=
  calendar.localDate order.createdAt

end Calendar

/-- `Order.objects.filter(status=...)`. -/
def ordersIn (db : Database) (status : OrderStatus) : List Order :=
  (objects db.orders).filter fun order => order.status = status

/-- `Sum("grand_total")`, zero for no rows. -/
def sumTotals (orders : List Order) : Cents :=
  (orders.map Order.grandTotal).sum

def revenueToday (calendar : Calendar) (session : Session) (db : Database) :
    Cents :=
  sumTotals ((ordersIn db .paid).filter fun order =>
    calendar.paidDate order = some (calendar.utcDate session.now))

/-- `Avg("grand_total")` or zero, quantized to cents. -/
def averageOrderValue (calendar : Calendar) (session : Session)
    (db : Database) (days : Int := 30) : Cents :=
  let orders := (ordersIn db .paid).filter fun order =>
    order.paidAt.any fun paidAt => calendar.daysAgo session days ≤ paidAt
  if orders = [] then 0 else roundHalfEven (sumTotals orders) orders.length

structure DayRevenue where
  day : Day
  revenue : Cents
  orders : Nat
  deriving DecidableEq, Repr

/-- The orders of one day of a report. -/
def revenueOf (calendar : Calendar) (orders : List Order) (day : Day) :
    DayRevenue :=
  let ofDay := orders.filter fun order => calendar.paidDate order = some day
  { day, revenue := sumTotals ofDay, orders := ofDay.length }

def revenueTimeseries (calendar : Calendar) (session : Session)
    (db : Database) (days : Int := 30) : List DayRevenue :=
  let since := calendar.utcDate (calendar.daysAgo session days)
  let orders := (ordersIn db .paid).filter fun order =>
    (calendar.paidDate order).any fun day => since ≤ day
  ((orders.filterMap calendar.paidDate).dedup.insertionSort (· ≤ ·)).map
    (revenueOf calendar orders)

/-- The entry of a report for a day. -/
def entryFor (report : List DayRevenue) (day : Day) : Option DayRevenue :=
  report.find? fun entry => entry.day = day

/-- The columns that a rollup writes. -/
structure DailySales where
  ordersCount : Nat
  paidOrdersCount : Nat
  cancelledOrdersCount : Nat
  revenue : Cents
  averageOrderValue : Cents
  deriving DecidableEq, Repr

structure DailySalesSnapshot extends TimeStampedUUIDModel, DailySales where
  day : Day
  deriving DecidableEq, Repr

instance : IsModel DailySalesSnapshot :=
  ⟨DailySalesSnapshot.toTimeStampedUUIDModel⟩

/-- The figures of the orders that were created on a day, as the columns hold
them: the database rounds an average to two decimals, ties away from zero. -/
def dailySales (calendar : Calendar) (db : Database) (day : Day) :
    DailySales :=
  let created (orders : List Order) :=
    orders.filter fun order => calendar.createdDate order = day
  let paid := created (ordersIn db .paid)
  { ordersCount := (created (objects db.orders)).length
    paidOrdersCount := paid.length
    cancelledOrdersCount := (created (ordersIn db .cancelled)).length
    revenue := sumTotals paid
    averageOrderValue :=
      if paid = [] then 0 else roundHalfAway (sumTotals paid) paid.length }

/-- A call on the table of snapshots. -/
abbrev SnapshotService (Value : Type) :=
  EStateM Exception (Table DailySalesSnapshot) Value

def newSnapshot (session : Session) (day : Day) (defaults : DailySales)
    (id : Uuid) : DailySalesSnapshot :=
  { defaults with id, createdAt := session.now, day }

theorem key_newSnapshot (session : Session) (day : Day)
    (defaults : DailySales) (id : Uuid) :
    Keyed.key (newSnapshot session day defaults id) = id :=
  rfl

/-- `DailySalesSnapshot.objects.update_or_create(day=..., defaults=...)`: a day
is unique over all rows, soft-deleted ones included. -/
def updateOrCreateSnapshot (session : Session) (day : Day)
    (defaults : DailySales) : SnapshotService Unit := do
  let snapshots ← get
  match (objects snapshots).find? fun row => row.day = day with
  | some row =>
      modify fun snapshots =>
        snapshots.save { row with toDailySales := defaults }
  | none =>
      if snapshots.rows.any fun row => row.day = day then
        throw (.integrityError "unique day")
      else
        modify fun snapshots =>
          snapshots.create (newSnapshot session day defaults)
            (key_newSnapshot session day defaults)

/-- The rollup of a day, of the day before if none is named. -/
def rollupDailySales (calendar : Calendar) (session : Session)
    (db : Database) (day : Option Day := none) :
    SnapshotService (Day × Cents) := do
  let target := day.getD (calendar.utcDate session.now - 1)
  let figures := dailySales calendar db target
  updateOrCreateSnapshot session target figures
  pure (target, figures.revenue)

/-- The revenue that is stored for a day. -/
def storedRevenue (snapshots : Table DailySalesSnapshot) (day : Day) :
    Option Cents :=
  ((objects snapshots).find? fun row => row.day = day).map fun row =>
    row.revenue

end NovaCommerce
