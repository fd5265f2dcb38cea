import NovaCommerce.ReservationAccounting

/-!
# What cancelling gives back

The units of a variant on hand and the units of its sold orders change
together: a sale moves units from one to the other, and only an adjustment
changes their sum.  The cancellation of an order that was already paid takes
its units out of the sold ones without putting them back on hand.
-/

namespace NovaCommerce

open AtomicCall GuardedRun

namespace StoreCommand

/-- An adjustment does not drive the units on hand below the reserved ones. -/
def AdjustsWithin (db : Database) : StoreCommand → Prop
  | adjustStock session variantId warehouseCode delta note =>
      Returns (NovaCommerce.adjustStock session variantId warehouseCode delta
        note) db →
      ∀ warehouse ∈ db.findWarehouse warehouseCode,
        ((db.findStock variantId warehouse.id).getD
            (newStock session variantId warehouse.id 0)).reserved ≤
          ((db.findStock variantId warehouse.id).getD
            (newStock session variantId warehouse.id 0)).onHand + delta
  | _ => True

/-- No order that was already paid is cancelled. -/
def SparesPaid (db : Database) : StoreCommand → Prop
  | transitionStatus _ orderId .cancelled _ _ =>
      ∀ order ∈ objects db.orders, order.id = orderId →
        order.status ≠ .paid ∧ order.status ≠ .packed
  | _ => True

/-- The units of a variant that a call adds to the stock by hand. -/
def adjustedUnits (variant : Uuid) (db : Database) : StoreCommand → Int
  | adjustStock session variantId warehouseCode delta note =>
      if variantId = variant ∧ Returns (NovaCommerce.adjustStock session
          variantId warehouseCode delta note) db then
        delta
      else 0
  | _ => 0

instance (db : Database) :
    ∀ command : StoreCommand, Decidable (command.AdjustsWithin db)
  | adjustStock session variantId warehouseCode delta note =>
      inferInstanceAs (Decidable
        (Returns (NovaCommerce.adjustStock session variantId warehouseCode
            delta note) db →
          ∀ warehouse ∈ db.findWarehouse warehouseCode,
            ((db.findStock variantId warehouse.id).getD
                (newStock session variantId warehouse.id 0)).reserved ≤
              ((db.findStock variantId warehouse.id).getD
                (newStock session variantId warehouse.id 0)).onHand + delta))
  | createOrderFromCart .. | createPayment .. | handleWebhook ..
  | transitionStatus .. | expirePendingPayments .. =>
      inferInstanceAs (Decidable True)

instance (db : Database) :
    ∀ command : StoreCommand, Decidable (command.SparesPaid db)
  | transitionStatus _ orderId .cancelled _ _ =>
      inferInstanceAs (Decidable
        (∀ order ∈ objects db.orders, order.id = orderId →
          order.status ≠ .paid ∧ order.status ≠ .packed))
  | transitionStatus _ _ .pending _ _ | transitionStatus _ _ .paid _ _
  | transitionStatus _ _ .packed _ _ | transitionStatus _ _ .shipped _ _
  | transitionStatus _ _ .delivered _ _
  | transitionStatus _ _ .refunded _ _
  | createOrderFromCart .. | createPayment .. | handleWebhook ..
  | adjustStock .. | expirePendingPayments .. =>
      inferInstanceAs (Decidable True)

theorem SparesPaid.sparesReserved {db : Database} {command : StoreCommand}
    (spares : command.SparesPaid db) : command.SparesReserved db := by
  cases command with
  | transitionStatus session orderId newStatus actor message =>
      cases newStatus with
      | cancelled =>
          intro order visible hasId wasPaid
          obtain ⟨notPaid, notPacked⟩ := spares order visible hasId
          rcases wasPaid with isPaid | isPacked
          · exact absurd isPaid notPaid
          · exact absurd isPacked notPacked
      | pending | paid | packed | shipped | delivered | refunded => trivial
  | createOrderFromCart | createPayment | handleWebhook | adjustStock
  | expirePendingPayments => trivial

end StoreCommand

/-- Units of a variant that are on hand or have left the stock with an
order. -/
def Database.goodsOf (db : Database) (variant : Uuid) : Int :=
  db.onHandOf variant + db.unitsIn OrderStatus.hasSold variant

section Steps

variable {unclaimed : Uuid → Int} {db after : Database}

/-- Where paid orders are spared, only pending orders are cancelled. -/
theorem Transitioned.pending_of_cancelled {session : Session} {order : Order}
    {actor : Option Uuid} {message : String}
    (transitioned : Transitioned session order .cancelled db after)
    (spares : StoreCommand.SparesPaid db
      (.transitionStatus session order.id .cancelled actor message)) :
    order.status = .pending := by
  have visible : order ∈ objects db.orders :=
    List.mem_filter.mpr ⟨transitioned.member, transitioned.isAlive⟩
  obtain ⟨notPaid, notPacked⟩ := spares order visible rfl
  have allowed := transitioned.allowed
  cases status : order.status <;>
    simp [Order.canTransitionTo, OrderStatus.allowedTransitions, status]
      at allowed notPaid notPacked ⊢

theorem SameGoods.goodsOf_eq (same : SameGoods db after) (variant : Uuid) :
    after.goodsOf variant = db.goodsOf variant := by
  rw [Database.goodsOf, same.onHandOf_eq, same.unitsIn_eq]
  rfl

theorem goodsOf_checkedOut {session : Session} {cart : Cart}
    {user : Option Uuid} {payload : CheckoutInput} {middle : Database}
    {order : Order} {coupon : Option Coupon} {discount : Cents}
    {sold : List OrderItem} {amount : Uuid → Int} {row : Cart}
    (haveOrders : db.ItemsHaveOrders)
    (checkedOut : CheckedOut session cart user payload db after order coupon
      discount middle sold amount row) (variant : Uuid) :
    after.goodsOf variant = db.goodsOf variant := by
  have conversion := exactConversion_of_checkedOut checkedOut
  have draws := checkedOut.itemsSold.draws
  have stocksEq : after.stocks = middle.stocks := by rw [checkedOut.after_eq]
  rw [← stocksEq] at draws
  have sameOnHand : after.onHandOf variant = db.onHandOf variant :=
    draws.onHandOf_reserve variant
  rw [Database.goodsOf, sameOnHand, unitsIn_append haveOrders
    checkedOut.isNew conversion.orders_eq conversion.orderItems_eq
    conversion.soldAs, checkedOut.isPending]
  simp [OrderStatus.hasSold, Database.goodsOf]

/-- A transition that does not cancel a paid order keeps the goods. -/
theorem goodsOf_transitioned {session : Session} {order : Order}
    {newStatus : OrderStatus} (accounted : Accounted unclaimed db)
    (transitioned : Transitioned session order newStatus db after)
    (wasPending : newStatus = .cancelled → order.status = .pending)
    (variant : Uuid) :
    after.goodsOf variant = db.goodsOf variant := by
  have allowed := transitioned.allowed
  have unitsEq := transitioned.unitsIn_eq OrderStatus.hasSold variant
  have unmoved : after.stocks = db.stocks →
      OrderStatus.hasSold order.status = OrderStatus.hasSold newStatus →
      after.goodsOf variant = db.goodsOf variant := by
    intro sameStocks stillSold
    rw [Database.goodsOf, unitsEq, stillSold, sub_add_cancel,
      Database.onHandOf, sameStocks]
    rfl
  cases newStatus with
  | paid =>
      have isPending : order.status = .pending := by
        cases status : order.status <;>
          simp [Order.canTransitionTo, OrderStatus.allowedTransitions, status]
            at allowed ⊢
      obtain ⟨amount, draws⟩ := transitioned.draws_paid accounted.sound
      have sold := draws.onHandOf_sell variant
      simp only [isPending, OrderStatus.hasSold] at unitsEq
      rw [Database.goodsOf, sold, unitsEq, Database.goodsOf]
      simp
  | cancelled =>
      have isPending := wasPending rfl
      obtain ⟨amount, draws⟩ := transitioned.draws_cancelled accounted.sound
        (accounted.covers transitioned.member isPending)
      have released := draws.onHandOf_release variant
      simp only [isPending, OrderStatus.hasSold] at unitsEq
      rw [Database.goodsOf, released, unitsEq, Database.goodsOf]
      simp
  | pending | packed | shipped | delivered | refunded =>
      apply unmoved (transitioned.stocks_eq (by simp) (by simp))
      cases status : order.status <;>
        simp [Order.canTransitionTo, OrderStatus.allowedTransitions, status,
          OrderStatus.hasSold] at allowed ⊢

/-- The cancellation of a paid order loses its units. -/
theorem goodsOf_cancel_paid {session : Session} {order : Order}
    (transitioned : Transitioned session order .cancelled db after)
    (wasPaid : order.status ≠ .pending) (variant : Uuid) :
    after.goodsOf variant =
      db.goodsOf variant - db.unitsOfOrder order.id variant := by
  have allowed := transitioned.allowed
  have hadSold : OrderStatus.hasSold order.status = true := by
    cases status : order.status <;>
      simp [Order.canTransitionTo, OrderStatus.allowedTransitions, status,
        OrderStatus.hasSold] at allowed wasPaid ⊢
  have unitsEq := transitioned.unitsIn_eq OrderStatus.hasSold variant
  rw [hadSold] at unitsEq
  obtain ⟨amount, wanted, draws⟩ := transitioned.draws_released
  have sameOnHand := draws.onHandOf_release variant
  rw [Database.goodsOf, sameOnHand, unitsEq, Database.goodsOf]
  simp [OrderStatus.hasSold, add_sub_assoc]

/-- An adjustment that leaves the reserved units on hand is not cut off at
zero, and adds its delta to the units of its variant. -/
theorem onHandOf_adjusted {session : Session} {variantId warehouse : Uuid}
    {delta : Int} {stocks : Table Stock} {stock : Stock}
    (sound : SoundRows db.stocks)
    (row : AdjustedRow session db variantId warehouse stocks stock)
    (within :
      ((db.findStock variantId warehouse).getD
          (newStock session variantId warehouse 0)).reserved ≤
        ((db.findStock variantId warehouse).getD
          (newStock session variantId warehouse 0)).onHand + delta)
    (stocksEq : after.stocks = stocks.save
      { stock with onHand := max (stock.onHand + delta) 0 })
    (variant : Uuid) :
    after.onHandOf variant =
      db.onHandOf variant + if variantId = variant then delta else 0 := by
  have notCutOff : max (stock.onHand + delta) 0 = stock.onHand + delta := by
    apply max_eq_left
    cases row with
    | existing found =>
        rw [found, Option.getD_some] at within
        have nonneg :=
          (sound stock (findStock_eq_some found).1).reserved_nonneg
        omega
    | created absent =>
        rw [absent, Option.getD_none] at within
        exact within
  have sameKey :
      Keyed.key { stock with onHand := max (stock.onHand + delta) 0 } =
        Keyed.key stock := rfl
  have before : (stocks.total fun stock =>
      if stock.variant = variant then stock.onHand else 0) =
        db.onHandOf variant := by
    cases row with
    | existing => rfl
    | created =>
        rw [Table.total_create, Database.onHandOf, add_eq_left]
        exact ite_self 0
  rw [Database.onHandOf, stocksEq, Table.total_save row.mem sameKey, before,
    notCutOff]
  dsimp only
  rw [row.variant_eq]
  split <;> omega

theorem goodsOf_adjustStock {session : Session} {variantId : Uuid}
    {warehouseCode note : String} {delta : Int} (sound : SoundRows db.stocks)
    (within : StoreCommand.AdjustsWithin db
      (.adjustStock session variantId warehouseCode delta note))
    (variant : Uuid) :
    (StoreCommand.step db (.adjustStock session variantId warehouseCode delta
        note)).goodsOf variant =
      db.goodsOf variant + StoreCommand.adjustedUnits variant db
        (.adjustStock session variantId warehouseCode delta note) := by
  by_cases returns : Returns
      (adjustStock session variantId warehouseCode delta note) db
  · obtain ⟨adjusted, after, called⟩ := returns
    obtain ⟨warehouse, stocks, stock, located, row, rfl, after_eq⟩ :=
      adjustStock_eq_ok called
    have onHandEq := onHandOf_adjusted sound row
      (within ⟨_, _, called⟩ warehouse located)
      (congrArg Database.stocks after_eq) variant
    have unitsEq : after.unitsIn OrderStatus.hasSold variant =
        db.unitsIn OrderStatus.hasSold variant :=
      unitsIn_congr (by rw [after_eq]) (by rw [after_eq])
    have returns : Returns
        (adjustStock session variantId warehouseCode delta note) db :=
      ⟨_, _, called⟩
    rw [StoreCommand.step, settle_of_eq_ok called, Database.goodsOf, onHandEq,
      unitsEq, StoreCommand.adjustedUnits, Database.goodsOf]
    simp only [returns, and_true]
    omega
  · rcases settle_cases (adjustStock session variantId warehouseCode delta
        note) (fun _ _ raised => atomic_eq_error raised) with
      ⟨adjusted, called⟩ | unchanged
    · exact absurd ⟨_, _, called⟩ returns
    · rw [StoreCommand.step, unchanged, StoreCommand.adjustedUnits]
      simp only [returns, and_false, if_false, add_zero]

theorem goodsOf_step {command : StoreCommand}
    (accounted : Accounted unclaimed db)
    (within : command.AdjustsWithin db) (spares : command.SparesPaid db)
    (variant : Uuid) :
    (command.step db).goodsOf variant =
      db.goodsOf variant + command.adjustedUnits variant db := by
  cases isAdjustment : command with
  | adjustStock session variantId warehouseCode delta note =>
      rw [isAdjustment] at within
      exact goodsOf_adjustStock accounted.sound within variant
  | createOrderFromCart | createPayment | handleWebhook | transitionStatus
  | expirePendingPayments =>
      have none : command.adjustedUnits variant db = 0 := by
        rw [isAdjustment]
        rfl
      rw [← isAdjustment, none, add_zero]
      have effect := goodsStepped db command
      generalize command.step db = after at effect ⊢
      cases effect with
      | same same => exact same.goodsOf_eq variant
      | checkedOut checkedOut =>
          exact goodsOf_checkedOut accounted.haveOrders checkedOut variant
      | webhook before transitioned wasPending later =>
          rw [later.goodsOf_eq, goodsOf_transitioned
            (accounted.of_same before) transitioned wasPending,
            before.goodsOf_eq]
      | transitioned transitioned =>
          apply goodsOf_transitioned accounted transitioned
          rintro rfl
          exact transitioned.pending_of_cancelled spares
      | adjusted => cases isAdjustment

end Steps

/-- The rows of a variant that hold reservations keep their safety buffer. -/
def Database.KeepsBuffer (db : Database) (variant : Uuid) : Prop :=
  ∀ stock ∈ objects db.stocks, stock.variant = variant → 0 < stock.reserved →
    stock.reserved + stock.safetyBuffer ≤ stock.onHand

instance (db : Database) (variant : Uuid) :
    Decidable (db.KeepsBuffer variant) :=
  inferInstanceAs (Decidable (∀ stock ∈ objects db.stocks,
    stock.variant = variant → 0 < stock.reserved →
      stock.reserved + stock.safetyBuffer ≤ stock.onHand))

theorem getAvailable_eq_total (db : Database) (variant : Uuid) :
    getAvailable db variant = db.stocks.total fun stock =>
      if stock.variant = variant then
        if alive stock = true then stock.available else 0
      else 0 := by
  unfold getAvailable objects Table.total
  induction db.stocks.rows with
  | nil => rfl
  | cons stock stocks ih =>
      rw [List.map_cons, List.sum_cons, ← ih]
      by_cases visible : alive stock = true <;>
        by_cases ofVariant : stock.variant = variant <;>
          simp [visible, ofVariant]

/-- Units that are given back to rows that keep their safety buffer can be
promised again. -/
theorem getAvailable_release {db after : Database}
    {amount wanted : Uuid → Int} {variant : Uuid}
    (keepsBuffer : db.KeepsBuffer variant)
    (draws : Draws .release alive db.stocks after.stocks amount wanted) :
    getAvailable after variant = getAvailable db variant + wanted variant := by
  have sum := draws.total_column
    (fun stock => if alive stock = true then stock.available else 0) 1 variant
    (by
      intro stock stockMem ofVariant taken bounds
      rw [Drawing.alive_draw, one_mul]
      rcases bounds with rfl | ⟨isAlive, nonneg, atMost⟩
      · rw [Drawing.draw_zero, add_zero]
      · have visible : stock ∈ objects db.stocks :=
          List.mem_filter.mpr ⟨stockMem, isAlive⟩
        have buffered := keepsBuffer stock visible ofVariant
        simp only [Drawing.release] at atMost
        simp only [isAlive, if_true, Drawing.release, Stock.release,
          Stock.available]
        omega)
  rw [one_mul] at sum
  rw [getAvailable_eq_total, getAvailable_eq_total]
  exact sum

/-- The cancellation of a pending order makes its units available again. -/
theorem getAvailable_cancel {unclaimed : Uuid → Int} {db : Database}
    {session : Session} {order : Order} {actor : Option Uuid}
    {message : String} {variant : Uuid} (accounted : Accounted unclaimed db)
    (fits : fitsColumn 500 message = true) (visible : order ∈ objects db.orders)
    (isPending : order.status = .pending)
    (keepsBuffer : db.KeepsBuffer variant) :
    getAvailable (StoreCommand.step db
        (.transitionStatus session order.id .cancelled actor message))
          variant =
      getAvailable db variant + db.unitsOfOrder order.id variant := by
  obtain ⟨member, isAlive⟩ := List.mem_filter.mp visible
  have allowed : order.canTransitionTo .cancelled = true := by
    rw [Order.canTransitionTo, isPending]
    rfl
  obtain ⟨changed, after, called⟩ := transitionStatus_returns actor fits member
    isAlive allowed (settleStock_returns session order (by simp) db)
  have transitioned := transitioned_of_member member called
  obtain ⟨amount, draws⟩ := transitioned.draws_cancelled accounted.sound
    (accounted.covers member isPending)
  rw [StoreCommand.step, settle_of_eq_ok called]
  exact getAvailable_release keepsBuffer draws

/-- Cancelling gives the goods back: in every run whose adjustments leave the
reserved units on hand and that cancels no paid order, the units on hand are
the initial and the adjusted ones without those of sold orders, and the
cancellation of a pending order, with a message that fits its column, makes
exactly its units available again. -/
theorem cancelling_gives_back {db : Database} {commands : List StoreCommand}
    (noOrders : db.NoOrders) (sound : SoundRows db.stocks)
    (within : Guarded StoreCommand.step StoreCommand.AdjustsWithin db commands)
    (spares : Guarded StoreCommand.step StoreCommand.SparesPaid db commands) :
    (∀ variant, (exec StoreCommand.step db commands).onHandOf variant =
      db.onHandOf variant +
        tally StoreCommand.step (StoreCommand.adjustedUnits variant) db
          commands -
        (exec StoreCommand.step db commands).unitsIn OrderStatus.hasSold
          variant) ∧
      ∀ session actor message variant, fitsColumn 500 message = true →
        ∀ order ∈ objects (exec StoreCommand.step db commands).orders,
          order.status = .pending →
          (exec StoreCommand.step db commands).KeepsBuffer variant →
          getAvailable (StoreCommand.step (exec StoreCommand.step db commands)
              (.transitionStatus session order.id .cancelled actor message))
                variant =
            getAvailable (exec StoreCommand.step db commands) variant +
              (exec StoreCommand.step db commands).unitsOfOrder order.id
                variant := by
  have guarded := guarded_and.mpr ⟨within, spares⟩
  have start := accounted_of_noOrders noOrders sound
  have preserved : ∀ state command, Accounted db.reservedOf state →
      StoreCommand.AdjustsWithin state command ∧
        StoreCommand.SparesPaid state command →
      Accounted db.reservedOf (StoreCommand.step state command) :=
    fun _ _ accounted meets =>
      accounted_step accounted meets.2.sparesReserved
  constructor
  · intro variant
    have goods := exec_tally (fun state => state.goodsOf variant)
      (StoreCommand.adjustedUnits variant) preserved
      (fun _ _ accounted meets =>
        goodsOf_step accounted meets.1 meets.2 variant) start guarded
    have noneSold : db.unitsIn OrderStatus.hasSold variant = 0 := by
      simp [Database.unitsIn, Table.total, noOrders.orders_eq]
    simp only [Database.goodsOf, noneSold] at goods
    omega
  · intro session actor message variant fits order visible isPending
      keepsBuffer
    have reached := exec_invariant preserved start guarded
    exact getAvailable_cancel reached fits visible isPending keepsBuffer

/-- Add units of the one variant on the shelf. -/
def restockOf (delta : Int) : StoreCommand :=
  .adjustStock { now := 3 } 7 "main" delta "delivery"

/-- Two units are delivered, one of two orders is paid, and the other one is
cancelled. -/
theorem cancelling_gives_back_twoCarts :
    (exec StoreCommand.step (twoCarts 5)
      [checkoutOf 10 "N1", checkoutOf 11 "N2", restockOf 2,
        transitionOf 1 .paid]).onHandOf 7 = 6 ∧
      getAvailable (exec StoreCommand.step (twoCarts 5)
        [checkoutOf 10 "N1", checkoutOf 11 "N2", restockOf 2,
          transitionOf 1 .paid, transitionOf 2 .cancelled]) 7 =
        getAvailable (exec StoreCommand.step (twoCarts 5)
          [checkoutOf 10 "N1", checkoutOf 11 "N2", restockOf 2,
            transitionOf 1 .paid]) 7 + 1 := by
  have noOrders : (twoCarts 5).NoOrders := ⟨rfl, rfl⟩
  have sound : SoundRows (twoCarts 5).stocks :=
    soundRows_of_unreserved (by decide)
  have within : Guarded StoreCommand.step StoreCommand.AdjustsWithin
      (twoCarts 5) [checkoutOf 10 "N1", checkoutOf 11 "N2", restockOf 2,
        transitionOf 1 .paid] := by
    decide
  obtain ⟨onHand, available⟩ :=
    cancelling_gives_back noOrders sound within (by decide)
  obtain ⟨order, visible, hasId, isPending⟩ :
      ∃ order ∈ objects (exec StoreCommand.step (twoCarts 5)
        [checkoutOf 10 "N1", checkoutOf 11 "N2", restockOf 2,
          transitionOf 1 .paid]).orders,
        order.id = 2 ∧ order.status = .pending := by
    decide
  have raised := available { now := 2 } none "" 7 (by decide) order visible
    isPending (by decide)
  rw [hasId] at raised
  refine ⟨(onHand 7).trans (by decide), ?_⟩
  exact raised.trans (congrArg _ (by decide))

/-- The cancellation of a paid order puts its unit neither back on hand nor
back to the units that can be promised. -/
theorem goods_lost_after_cancel :
    (twoCarts 5).NoOrders ∧ SoundRows (twoCarts 5).stocks ∧
      Guarded StoreCommand.step StoreCommand.AdjustsWithin (twoCarts 5)
        [checkoutOf 10 "N1", transitionOf 1 .paid,
          transitionOf 1 .cancelled] ∧
      (exec StoreCommand.step (twoCarts 5)
        [checkoutOf 10 "N1", transitionOf 1 .paid,
          transitionOf 1 .cancelled]).onHandOf 7 ≠
        (twoCarts 5).onHandOf 7 +
          tally StoreCommand.step (StoreCommand.adjustedUnits 7) (twoCarts 5)
            [checkoutOf 10 "N1", transitionOf 1 .paid,
              transitionOf 1 .cancelled] -
          (exec StoreCommand.step (twoCarts 5)
            [checkoutOf 10 "N1", transitionOf 1 .paid,
              transitionOf 1 .cancelled]).unitsIn OrderStatus.hasSold 7 ∧
      getAvailable (exec StoreCommand.step (twoCarts 5)
        [checkoutOf 10 "N1", transitionOf 1 .paid,
          transitionOf 1 .cancelled]) 7 =
        getAvailable (exec StoreCommand.step (twoCarts 5)
          [checkoutOf 10 "N1", transitionOf 1 .paid]) 7 ∧
      (exec StoreCommand.step (twoCarts 5)
        [checkoutOf 10 "N1", transitionOf 1 .paid]).unitsOfOrder 1 7 = 1 := by
  refine ⟨⟨rfl, rfl⟩, soundRows_of_unreserved (by decide), ?_⟩
  decide

end NovaCommerce
