import NovaCommerce.ReservationAccounting
import NovaCommerce.StoreRuns

/-!
# The limit of a coupon per user

A coupon has a limit for every user, but a checkout only compares its global
counter with its global limit.  A user stays within the limit as long as no
checkout with a valid coupon is tried at the limit.
-/

namespace NovaCommerce

open AtomicCall GuardedRun

/-- The order was placed by the user with the coupon of that code. -/
def Order.isPlacedWith (order : Order) (user : Uuid) (code : String) : Bool :=
  order.user = some user && order.couponCode = code && code ≠ ""

namespace Database

/-- The orders that a user has placed with a coupon, cancelled ones
included. -/
def ordersWith (db : Database) (user : Uuid) (code : String) : Nat :=
  db.orders.rows.countP fun order => order.isPlacedWith user code

/-- No user has placed more orders with a coupon than it allows. -/
def WithinUserLimits (db : Database) : Prop :=
  ∀ coupon ∈ db.coupons.rows, 0 < coupon.perUserLimit →
    ∀ user, db.ordersWith user coupon.code ≤ coupon.perUserLimit

/-- `code` is a unique column of the coupons. -/
def CodesUnique (db : Database) : Prop :=
  (db.coupons.rows.map Coupon.code).Nodup

end Database

/-- A checkout of a user with a valid coupon that returns finds that the user
has placed fewer orders with it than it allows. -/
def StoreCommand.BelowUserLimit (db : Database) : StoreCommand → Prop
  | createOrderFromCart session cart (some user) payload =>
      Returns (NovaCommerce.createOrderFromCart session cart (some user)
          payload) db → payload.couponCode ≠ "" →
        ∀ coupon ∈ db.couponsNamed session payload.couponCode,
          coupon.isValidNow session.now = true → 0 < coupon.perUserLimit →
            db.ordersWith user coupon.code < coupon.perUserLimit
  | _ => True

instance (db : Database) :
    ∀ command : StoreCommand, Decidable (command.BelowUserLimit db)
  | .createOrderFromCart session cart (some user) payload =>
      inferInstanceAs (Decidable (Returns (NovaCommerce.createOrderFromCart
          session cart (some user) payload) db → payload.couponCode ≠ "" →
        ∀ coupon ∈ db.couponsNamed session payload.couponCode,
          coupon.isValidNow session.now = true → 0 < coupon.perUserLimit →
            db.ordersWith user coupon.code < coupon.perUserLimit))
  | .createOrderFromCart _ _ none _ | .createPayment ..
  | .handleWebhook .. | .transitionStatus .. | .adjustStock ..
  | .expirePendingPayments .. =>
      inferInstanceAs (Decidable True)

section Steps

variable {db after : Database} {Column : Type} {column : Order → Column}

/-- A transition writes the status and the moments of an order. -/
theorem Transitioned.map_orders {session : Session} {order : Order}
    {newStatus : OrderStatus}
    (transitioned : Transitioned session order newStatus db after)
    (unmoved : ∀ (order : Order) newStatus now,
      column (order.enterStatus newStatus now) = column order) :
    after.orders.rows.map column = db.orders.rows.map column ∧
      after.coupons = db.coupons := by
  have sameKey : Keyed.key (order.enterStatus newStatus session.now) =
      Keyed.key order :=
    congrArg TimeStampedUUIDModel.id (base_enterStatus _ _ _)
  rw [transitioned.frame]
  exact ⟨Table.map_save transitioned.member sameKey column (unmoved _ _ _),
    rfl⟩

/-- Columns of an order that neither a charge attempt nor a transition writes
stay as they are, until a checkout appends an order. -/
theorem Stepped.map_orders {command : StoreCommand}
    (stepped : Stepped db command after)
    (unreferenced : ∀ (order : Order) provider reference,
      column { order with
        paymentProvider := provider
        paymentReference := reference } = column order)
    (unmoved : ∀ (order : Order) newStatus now,
      column (order.enterStatus newStatus now) = column order) :
    after.orders.rows.map column = db.orders.rows.map column ∧
        after.coupons = db.coupons ∨
      ∃ session cart user payload order coupon discount middle sold amount row,
        command = .createOrderFromCart session cart user payload ∧
        CheckedOut session cart user payload db after order coupon discount
          middle sold amount row := by
  cases stepped with
  | unchanged => exact Or.inl ⟨rfl, rfl⟩
  | checkedOut checkedOut =>
      exact Or.inr ⟨_, _, _, _, _, _, _, _, _, _, _, rfl, checkedOut⟩
  | charged _ charged =>
      refine Or.inl ⟨?_, by rw [charged.frame]⟩
      rcases charged.orders_eq with same | ⟨row, rowMem, _, _, saved⟩
      · rw [same]
      · rw [saved]
        refine Table.map_save rowMem ?_ column ?_
        · rfl
        · exact unreferenced row _ _
  | @webhook _ _ _ _ _ _ _ _ recorded moved _ _ _ matched =>
      left
      have recordedSame : recorded.orders.rows.map column =
          db.orders.rows.map column ∧ recorded.coupons = db.coupons := by
        rw [matched.recorded_eq]
        exact ⟨rfl, rfl⟩
      have movedSame : moved.orders.rows.map column =
          recorded.orders.rows.map column ∧
            moved.coupons = recorded.coupons := by
        have movedOrder := matched.movedOrder
        generalize WebhookResult.newStatus _ = status at movedOrder
        cases movedOrder with
        | paid transitioned => exact transitioned.map_orders unmoved
        | cancelled _ _ transitioned => exact transitioned.map_orders unmoved
        | refunded transitioned => exact transitioned.map_orders unmoved
        | notPaid | notCancelled | stayed => exact ⟨rfl, rfl⟩
      rw [matched.after_eq]
      exact ⟨movedSame.1.trans recordedSame.1,
        movedSame.2.trans recordedSame.2⟩
  | transitioned transitioned => exact Or.inl (transitioned.map_orders unmoved)
  | adjusted _ _ _ after_eq =>
      left
      rw [after_eq]
      exact ⟨rfl, rfl⟩
  | expired => exact Or.inl ⟨rfl, rfl⟩

end Steps

section Limits

variable {db after : Database}

/-- The columns that decide who has placed an order with which coupon. -/
def placedBy (order : Order) : Option Uuid × String :=
  (order.user, order.couponCode)

theorem ordersWith_eq (db : Database) (user : Uuid) (code : String) :
    db.ordersWith user code = (db.orders.rows.map placedBy).countP
      fun placed => placed.1 = some user && placed.2 = code && code ≠ "" := by
  rw [List.countP_map]
  rfl

/-- The columns of a coupon that no checkout writes. -/
def Coupon.limits (coupon : Coupon) : String × Nat :=
  (coupon.code, coupon.perUserLimit)

theorem limits_countedCoupons {coupon : Option Coupon}
    (isRow : ∀ row ∈ coupon, row ∈ db.coupons.rows) :
    (countedCoupons db.coupons coupon).rows.map Coupon.limits =
      db.coupons.rows.map Coupon.limits := by
  cases coupon with
  | none => rfl
  | some row =>
      refine Table.map_save (isRow row rfl) ?_ Coupon.limits ?_ <;> rfl

/-- The two properties only depend on the columns. -/
theorem withinUserLimits_congr
    (samePlaced : after.orders.rows.map placedBy = db.orders.rows.map placedBy)
    (sameLimits : after.coupons.rows.map Coupon.limits =
      db.coupons.rows.map Coupon.limits)
    (within : db.WithinUserLimits) : after.WithinUserLimits := by
  intro coupon member positive user
  have listed : coupon.limits ∈ db.coupons.rows.map Coupon.limits :=
    sameLimits ▸ List.mem_map_of_mem member
  obtain ⟨row, rowMem, same⟩ := List.mem_map.mp listed
  rw [Coupon.limits, Coupon.limits, Prod.mk.injEq] at same
  rw [ordersWith_eq, samePlaced, ← ordersWith_eq, ← same.1, ← same.2]
  exact within row rowMem (same.2.symm ▸ positive) user

theorem codesUnique_congr
    (sameLimits : after.coupons.rows.map Coupon.limits =
      db.coupons.rows.map Coupon.limits)
    (unique : db.CodesUnique) : after.CodesUnique := by
  have codes : ∀ rows : List Coupon,
      rows.map Coupon.code = (rows.map Coupon.limits).map Prod.fst := by
    intro rows
    rw [List.map_map]
    rfl
  rw [Database.CodesUnique, codes, sameLimits, ← codes]
  exact unique

/-- A coupon that a checkout has used is one that its code names. -/
theorem CouponUse.mem {session : Session} {code : String}
    {subtotal discount : Cents} {coupon : Option Coupon}
    (used : CouponUse session db code subtotal coupon discount) :
    ∀ row ∈ coupon, code ≠ "" ∧ row ∈ db.couponsNamed session code ∧
      row.isValidNow session.now = true := by
  cases used with
  | unnamed =>
      intro row found
      cases found
  | named hasCode unique isValid =>
      rintro row ⟨⟩
      exact ⟨hasCode, unique ▸ List.mem_singleton_self _, isValid⟩

theorem mem_of_couponsNamed {code : String} {coupon : Coupon}
    (named : coupon ∈ db.couponsNamed session code) :
    coupon ∈ db.coupons.rows :=
  (List.mem_filter.mp (List.mem_filter.mp named).1).1

theorem withinUserLimits_checkedOut {session : Session} {cart : Cart}
    {user : Option Uuid} {payload : CheckoutInput} {middle : Database}
    {order : Order} {coupon : Option Coupon} {discount : Cents}
    {sold : List OrderItem} {amount : Uuid → Int} {row : Cart}
    (below : (StoreCommand.createOrderFromCart session cart user
      payload).BelowUserLimit db)
    (returned : Returns (createOrderFromCart session cart user payload) db)
    (unique : db.CodesUnique) (within : db.WithinUserLimits)
    (checkedOut : CheckedOut session cart user payload db after order coupon
      discount middle sold amount row) :
    after.CodesUnique ∧ after.WithinUserLimits := by
  have used := checkedOut.couponUse.mem
  have conversion := exactConversion_of_checkedOut checkedOut
  have order_eq := checkedOut.order_eq
  have sameLimits : after.coupons.rows.map Coupon.limits =
      db.coupons.rows.map Coupon.limits := by
    rw [checkedOut.after_eq]
    exact limits_countedCoupons fun row isRow =>
      mem_of_couponsNamed (used row isRow).2.1
  refine ⟨codesUnique_congr sameLimits unique, ?_⟩
  have counted : ∀ buyer code, after.ordersWith buyer code =
      db.ordersWith buyer code +
        if order.isPlacedWith buyer code then 1 else 0 := by
    intro buyer code
    rw [Database.ordersWith, conversion.orders_eq, List.countP_append,
      Database.ordersWith, List.countP_singleton]
  intro limited member positive buyer
  have listed : limited.limits ∈ db.coupons.rows.map Coupon.limits :=
    sameLimits ▸ List.mem_map_of_mem member
  obtain ⟨old, oldMem, same⟩ := List.mem_map.mp listed
  rw [Coupon.limits, Coupon.limits, Prod.mk.injEq] at same
  rw [← same.1, ← same.2, counted]
  have earlier := within old oldMem (same.2.symm ▸ positive) buyer
  split
  · next placed =>
    -- The order was placed with this very coupon, below its limit.
    simp only [Order.isPlacedWith, Bool.and_eq_true, decide_eq_true_eq,
      ne_eq] at placed
    obtain ⟨⟨isBuyer, withCode⟩, hasCode⟩ := placed
    rw [order_eq] at isBuyer withCode
    cases coupon with
    | none => exact (hasCode withCode.symm).elim
    | some row =>
        obtain ⟨named, isNamed, isValid⟩ := used row rfl
        obtain rfl : user = some buyer := isBuyer
        have sameCoupon : row = old :=
          List.inj_on_of_nodup_map unique (mem_of_couponsNamed isNamed) oldMem
            withCode
        subst sameCoupon
        exact below returned named row isNamed isValid
          (same.2.symm ▸ positive)
  · exact earlier

theorem withinUserLimits_step {command : StoreCommand}
    (below : command.BelowUserLimit db)
    (invariant : db.CodesUnique ∧ db.WithinUserLimits) :
    (command.step db).CodesUnique ∧ (command.step db).WithinUserLimits := by
  have unmoved : ∀ (order : Order) newStatus now,
      placedBy (order.enterStatus newStatus now) = placedBy order := by
    intro order newStatus now
    cases newStatus <;> rfl
  rcases (stepped db command).map_orders (fun _ _ _ => rfl) unmoved with
    ⟨samePlaced, sameCoupons⟩ |
    ⟨session, cart, user, payload, _, _, _, _, _, _, _, rfl, checkedOut⟩
  · have sameLimits := congrArg (fun coupons : Table Coupon =>
      coupons.rows.map Coupon.limits) sameCoupons
    exact ⟨codesUnique_congr sameLimits invariant.1,
      withinUserLimits_congr samePlaced sameLimits invariant.2⟩
  · rcases settle_cases (createOrderFromCart session cart user payload)
        (fun _ _ raised => createOrderFromCart_eq_error raised) with
      ⟨order, called⟩ | unchanged
    · exact withinUserLimits_checkedOut below ⟨_, _, called⟩ invariant.1
        invariant.2 checkedOut
    · rw [StoreCommand.step, unchanged]
      exact invariant

end Limits

/-- In every run in which users order with a valid coupon only below its
limit, no user has placed more orders with a coupon than it allows. -/
theorem user_limits_hold {initial : Database} {commands : List StoreCommand}
    (noOrders : initial.NoOrders) (codesUnique : initial.CodesUnique)
    (below : Guarded StoreCommand.step
      (fun db command => command.BelowUserLimit db) initial commands)
    {coupon : Coupon}
    (member : coupon ∈ (exec StoreCommand.step initial commands).coupons.rows)
    (positive : 0 < coupon.perUserLimit) (user : Uuid) :
    (exec StoreCommand.step initial commands).ordersWith user coupon.code ≤
      coupon.perUserLimit := by
  have start : initial.WithinUserLimits := by
    intro coupon _ _ user
    simp [Database.ordersWith, noOrders.orders_eq]
  let Invariant (db : Database) : Prop :=
    db.CodesUnique ∧ db.WithinUserLimits
  have preserved : ∀ (db : Database) (command : StoreCommand), Invariant db →
      command.BelowUserLimit db → Invariant (command.step db) :=
    fun db command holds below => withinUserLimits_step below holds
  have final : Invariant (exec StoreCommand.step initial commands) :=
    exec_invariant preserved ⟨codesUnique, start⟩ below
  exact final.2 coupon member positive user

/-- Two carts, and a coupon that every user may use once. -/
def couponCarts : Database :=
  { twoCarts 5 with
    coupons := ⟨[{ id := 30, createdAt := 0, code := "TEN", value := 1000 }],
      by decide⟩ }

/-- A user checks a cart out with the coupon. -/
def couponOrder (user cart : Uuid) (number : String) : StoreCommand :=
  .createOrderFromCart { now := 1, orderNumber := number }
    { id := cart, createdAt := 0 } (some user)
    { email := "buyer@example.com", phone := "", shippingAddress := .obj [],
      couponCode := "TEN" }

theorem user_limits_hold_twoUsers :
    (exec StoreCommand.step couponCarts
      [couponOrder 3 10 "N1", couponOrder 4 11 "N2"]).ordersWith 3
        "TEN" ≤ 1 := by
  have below : Guarded StoreCommand.step
      (fun db command => command.BelowUserLimit db) couponCarts
      [couponOrder 3 10 "N1", couponOrder 4 11 "N2"] := by
    decide +kernel
  let coupon : Coupon :=
    { id := 30, createdAt := 0, code := "TEN", value := 1000, usedCount := 2 }
  have member : coupon ∈ (exec StoreCommand.step couponCarts
      [couponOrder 3 10 "N1", couponOrder 4 11 "N2"]).coupons.rows := by
    decide +kernel
  have codesUnique : couponCarts.CodesUnique := by
    unfold Database.CodesUnique
    decide
  have noOrders : couponCarts.NoOrders := ⟨rfl, rfl⟩
  have positive : 0 < coupon.perUserLimit := by decide
  have limit := user_limits_hold noOrders codesUnique below member positive 3
  exact limit

/-- The same user checks both carts out with a coupon that allows one order. -/
theorem user_limit_exceeded :
    let db := exec StoreCommand.step couponCarts
      [couponOrder 3 10 "N1", couponOrder 3 11 "N2"]
    couponCarts.NoOrders ∧ couponCarts.CodesUnique ∧
      db.coupons.rows.map Coupon.limits = [("TEN", 1)] ∧
      db.ordersWith 3 "TEN" = 2 := by
  refine ⟨⟨rfl, rfl⟩, ?_, ?_, ?_⟩
  · unfold Database.CodesUnique
    decide
  · decide +kernel
  · decide +kernel

end NovaCommerce
