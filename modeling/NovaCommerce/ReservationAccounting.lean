import NovaCommerce.GoodsRuns
import NovaCommerce.InventoryRuns

/-!
# Reserved units belong to pending orders

The units of a variant that the stock rows hold reserved are the units that
pending orders wait for.  A checkout adds to both sides, the way to `paid`
sells what it takes off, and the cancellation of a pending order gives it
back.  The cancellation of an order that was already paid gives back units
that are no longer its own: the invariant survives it only where nothing is
reserved that could be given back.
-/

namespace NovaCommerce

open AtomicCall GuardedRun TextDecoding

/-- Every reserved unit belongs to a pending order or was reserved before the
run, by nobody that the run knows of. -/
structure Accounted (unclaimed : Uuid → Int) (db : Database) : Prop where
  haveOrders : db.ItemsHaveOrders
  sound : SoundRows db.stocks
  unclaimed_nonneg : ∀ variant, 0 ≤ unclaimed variant
  reserved_eq : ∀ variant, db.reservedOf variant =
    unclaimed variant + db.unitsIn OrderStatus.isPending variant

/-- An order that was already paid is cancelled only where nothing is reserved
of its variants. -/
def StoreCommand.SparesReserved (db : Database) : StoreCommand → Prop
  | .transitionStatus _ orderId .cancelled _ _ =>
      ∀ order ∈ objects db.orders, order.id = orderId →
        order.status = .paid ∨ order.status = .packed →
          ∀ item ∈ db.orderItemsOf orderId, ∀ variant ∈ item.variant,
            db.reservedOf variant = 0
  | _ => True

instance (db : Database) :
    ∀ command : StoreCommand, Decidable (command.SparesReserved db)
  | .transitionStatus _ orderId .cancelled _ _ =>
      inferInstanceAs (Decidable
        (∀ order ∈ objects db.orders, order.id = orderId →
          order.status = .paid ∨ order.status = .packed →
            ∀ item ∈ db.orderItemsOf orderId, ∀ variant ∈ item.variant,
              db.reservedOf variant = 0))
  | .transitionStatus _ _ .pending _ _ | .transitionStatus _ _ .paid _ _
  | .transitionStatus _ _ .packed _ _ | .transitionStatus _ _ .shipped _ _
  | .transitionStatus _ _ .delivered _ _
  | .transitionStatus _ _ .refunded _ _
  | .createOrderFromCart .. | .createPayment .. | .handleWebhook ..
  | .adjustStock .. | .expirePendingPayments .. =>
      inferInstanceAs (Decidable True)

section Steps

variable {unclaimed : Uuid → Int} {db after : Database}

theorem Accounted.of_same (accounted : Accounted unclaimed db)
    (same : SameGoods db after) : Accounted unclaimed after where
  haveOrders := same.itemsHaveOrders accounted.haveOrders
  sound := same.stocks_eq ▸ accounted.sound
  unclaimed_nonneg := accounted.unclaimed_nonneg
  reserved_eq variant := by
    rw [same.reservedOf_eq, same.unitsIn_eq]
    exact accounted.reserved_eq variant

/-- A checkout reserves what its pending order waits for. -/
theorem accounted_checkedOut {session : Session} {cart : Cart}
    {user : Option Uuid} {payload : CheckoutInput} {middle : Database}
    {order : Order} {coupon : Option Coupon} {discount : Cents}
    {sold : List OrderItem} {amount : Uuid → Int} {row : Cart}
    (accounted : Accounted unclaimed db)
    (checkedOut : CheckedOut session cart user payload db after order coupon
      discount middle sold amount row) :
    Accounted unclaimed after := by
  have conversion := exactConversion_of_checkedOut checkedOut
  have draws := checkedOut.itemsSold.draws
  have stocksEq : after.stocks = middle.stocks := by rw [checkedOut.after_eq]
  rw [← stocksEq] at draws
  refine ⟨?_, ?_, accounted.unclaimed_nonneg, ?_⟩
  · intro item itemMem
    rw [Table.keys, conversion.orders_eq, List.map_append]
    rw [conversion.orderItems_eq] at itemMem
    rcases List.mem_append.mp itemMem with old | new
    · exact List.mem_append_left _ (accounted.haveOrders item old)
    · rw [(sold_order conversion.soldAs item new).1]
      exact List.mem_append_right _ (List.mem_singleton_self _)
  · apply draws.soundRows_reserve _ accounted.sound
    intro stock selected
    exact (Bool.and_eq_true _ _ ▸ selected).1
  · intro variant
    rw [unitsIn_append accounted.haveOrders checkedOut.isNew
      conversion.orders_eq conversion.orderItems_eq conversion.soldAs,
      checkedOut.isPending, ← add_assoc, ← accounted.reserved_eq variant]
    exact draws.reservedOf_reserve variant

/-- An order's units are reserved as long as it is pending. -/
theorem Accounted.covers (accounted : Accounted unclaimed db) {order : Order}
    (member : order ∈ db.orders.rows) (isPending : order.status = .pending)
    (variant : Uuid) :
    db.unitsOfOrder order.id variant ≤ db.reservedOf variant := by
  have unclaimedNonneg := accounted.unclaimed_nonneg variant
  rw [accounted.reserved_eq variant]
  have allNonneg : ∀ units ∈ db.orders.rows.map (fun order =>
      if order.status.isPending then db.unitsOfOrder order.id variant else 0),
      0 ≤ units := by
    intro units unitsMem
    obtain ⟨row, _, rfl⟩ := List.mem_map.mp unitsMem
    split
    · exact unitsOfOrder_nonneg _
    · exact le_refl 0
  have atMost := List.single_le_sum allNonneg _ (List.mem_map_of_mem member)
  rw [if_pos (by simp [isPending, OrderStatus.isPending])] at atMost
  exact atMost.trans (le_add_of_nonneg_left unclaimedNonneg)

/-- A transition moves the units of its order, and what it does to the stock
rows follows the move. -/
theorem accounted_transitioned {session : Session} {order : Order}
    {newStatus : OrderStatus} (accounted : Accounted unclaimed db)
    (transitioned : Transitioned session order newStatus db after)
    (spares : newStatus = .cancelled → order.status ≠ .pending →
      ∀ item ∈ db.orderItemsOf order.id, ∀ variant ∈ item.variant,
        db.reservedOf variant = 0) :
    Accounted unclaimed after := by
  have allowed := transitioned.allowed
  have haveOrders : after.ItemsHaveOrders := by
    intro item itemMem
    rw [transitioned.frame] at itemMem ⊢
    rw [Table.keys_save]
    exact accounted.haveOrders item itemMem
  have unitsEq := transitioned.unitsIn_eq OrderStatus.isPending
  have unmoved : after.stocks = db.stocks →
      OrderStatus.isPending order.status = OrderStatus.isPending newStatus →
      Accounted unclaimed after := by
    intro sameStocks sameStatus
    refine ⟨haveOrders, sameStocks ▸ accounted.sound,
      accounted.unclaimed_nonneg, ?_⟩
    intro variant
    rw [unitsEq variant, sameStatus, Database.reservedOf, sameStocks,
      sub_add_cancel]
    exact accounted.reserved_eq variant
  cases newStatus with
  | paid =>
      have wasPending : order.status = .pending := by
        cases status : order.status <;>
          simp [Order.canTransitionTo, OrderStatus.allowedTransitions, status]
            at allowed ⊢
      obtain ⟨amount, draws⟩ := transitioned.draws_paid accounted.sound
      refine ⟨haveOrders, draws.soundRows_sell accounted.sound,
        accounted.unclaimed_nonneg, ?_⟩
      intro variant
      rw [unitsEq variant, draws.reservedOf_sell variant,
        accounted.reserved_eq variant]
      simp [wasPending, OrderStatus.isPending, add_sub_assoc]
  | cancelled =>
      by_cases wasPending : order.status = .pending
      · obtain ⟨amount, draws⟩ := transitioned.draws_cancelled accounted.sound
          (accounted.covers transitioned.member wasPending)
        refine ⟨haveOrders, draws.soundRows_release accounted.sound,
          accounted.unclaimed_nonneg, ?_⟩
        intro variant
        rw [unitsEq variant, draws.reservedOf_release variant,
          accounted.reserved_eq variant]
        simp [wasPending, OrderStatus.isPending, add_sub_assoc]
      · apply unmoved
        · exact transitioned.stocks_eq_of_none accounted.sound
            (spares rfl wasPending)
        · simp [OrderStatus.isPending, wasPending]
  | pending | packed | shipped | delivered | refunded =>
      apply unmoved (transitioned.stocks_eq (by simp) (by simp))
      cases status : order.status <;>
        simp [Order.canTransitionTo, OrderStatus.allowedTransitions, status,
          OrderStatus.isPending] at allowed ⊢

/-- An adjustment changes no reservation. -/
theorem reservedOf_adjusted {session : Session} {variantId warehouse : Uuid}
    {delta : Int} {stocks : Table Stock} {stock : Stock}
    (row : AdjustedRow session db variantId warehouse stocks stock)
    (stocksEq : after.stocks = stocks.save
      { stock with onHand := max (stock.onHand + delta) 0 })
    (variant : Uuid) :
    after.reservedOf variant = db.reservedOf variant := by
  have sameKey :
      Keyed.key { stock with onHand := max (stock.onHand + delta) 0 } =
        Keyed.key stock := rfl
  rw [Database.reservedOf, stocksEq, Table.total_save row.mem sameKey,
    sub_add_cancel]
  cases row with
  | existing => rfl
  | created =>
      rw [Table.total_create, Database.reservedOf, add_eq_left]
      exact ite_self 0

theorem soundRows_adjusted {session : Session} {variantId warehouse : Uuid}
    {delta : Int} {stocks : Table Stock} {stock : Stock}
    (sound : SoundRows db.stocks)
    (row : AdjustedRow session db variantId warehouse stocks stock)
    (stocksEq : after.stocks = stocks.save
      { stock with onHand := max (stock.onHand + delta) 0 }) :
    SoundRows after.stocks := by
  have soundStocks : SoundRows stocks := by
    cases row with
    | existing => exact sound
    | created =>
        intro other otherMem
        rcases List.mem_append.mp otherMem with old | new
        · exact sound other old
        · rw [List.mem_singleton.mp new]
          exact ⟨le_refl _, fun _ => le_refl _, fun _ => rfl⟩
  intro other otherMem
  rw [stocksEq] at otherMem
  rcases Table.mem_save.mp otherMem with ⟨member, _⟩ | ⟨rfl, _⟩
  · exact soundStocks other member
  · obtain ⟨nonneg, _, hidden⟩ := soundStocks stock row.mem
    exact ⟨nonneg, fun _ => le_max_right _ _, hidden⟩

theorem accounted_step {command : StoreCommand}
    (accounted : Accounted unclaimed db)
    (spares : command.SparesReserved db) :
    Accounted unclaimed (command.step db) := by
  have effect := goodsStepped db command
  generalize command.step db = after at effect
  cases effect with
  | same same => exact accounted.of_same same
  | checkedOut checkedOut => exact accounted_checkedOut accounted checkedOut
  | webhook before transitioned wasPending later =>
      have moved := accounted_transitioned (accounted.of_same before)
        transitioned
        (fun isCancelled notPending =>
          absurd (wasPending isCancelled) notPending)
      exact moved.of_same later
  | @transitioned session order newStatus actor message after transitioned =>
      apply accounted_transitioned accounted transitioned
      rintro rfl notPending
      have visible : order ∈ objects db.orders :=
        List.mem_filter.mpr ⟨transitioned.member, transitioned.isAlive⟩
      apply spares order visible rfl
      have allowed := transitioned.allowed
      cases status : order.status <;>
        simp [Order.canTransitionTo, OrderStatus.allowedTransitions, status]
          at allowed notPending ⊢
  | adjusted _ _ row after_eq =>
      have stocksEq := congrArg Database.stocks after_eq
      have ordersEq : after.orders = db.orders := by rw [after_eq]
      have itemsEq : after.orderItems = db.orderItems := by rw [after_eq]
      refine ⟨?_, soundRows_adjusted accounted.sound row stocksEq,
        accounted.unclaimed_nonneg, ?_⟩
      · intro item itemMem
        rw [ordersEq]
        exact accounted.haveOrders item (itemsEq ▸ itemMem)
      · intro variant
        rw [reservedOf_adjusted row stocksEq, accounted.reserved_eq variant,
          unitsIn_congr ordersEq itemsEq]

end Steps

theorem SoundRows.reservedOf_nonneg {db : Database}
    (sound : SoundRows db.stocks) (variant : Uuid) :
    0 ≤ db.reservedOf variant := by
  apply List.sum_nonneg
  intro reserved reservedMem
  obtain ⟨stock, stockMem, rfl⟩ := List.mem_map.mp reservedMem
  have := (sound stock stockMem).reserved_nonneg
  split <;> omega

/-- In a store without orders nobody claims what is reserved. -/
theorem accounted_of_noOrders {db : Database} (noOrders : db.NoOrders)
    (sound : SoundRows db.stocks) : Accounted db.reservedOf db where
  haveOrders item itemMem := by
    rw [noOrders.orderItems_eq] at itemMem
    cases itemMem
  sound := sound
  unclaimed_nonneg := sound.reservedOf_nonneg
  reserved_eq variant := by
    simp [Database.unitsIn, Table.total, noOrders.orders_eq]

section Unreserved

variable {db : Database}
  (unreserved : ∀ stock ∈ db.stocks.rows, stock.reserved = 0)

include unreserved

theorem soundRows_of_unreserved : SoundRows db.stocks := by
  intro stock stockMem
  have none := unreserved stock stockMem
  exact ⟨none.ge, fun holds => absurd none holds.ne', fun _ => none⟩

theorem reservedOf_of_unreserved (variant : Uuid) :
    db.reservedOf variant = 0 := by
  apply List.sum_eq_zero
  intro reserved reservedMem
  obtain ⟨stock, stockMem, rfl⟩ := List.mem_map.mp reservedMem
  rw [unreserved stock stockMem, ite_self]

end Unreserved

/-- Two carts, each with one unit of the one variant on the shelf. -/
def twoCarts (onHand : Int) : Database :=
  { oneShelf onHand 0 with
    carts := ⟨[{ id := 10, createdAt := 0 }, { id := 11, createdAt := 0 }],
      by decide⟩
    cartItems := ⟨[
        { id := 20, createdAt := 0, cart := 10, variant := 7,
          unitPrice := 1999 },
        { id := 21, createdAt := 0, cart := 11, variant := 7,
          unitPrice := 1999 }],
      by decide⟩ }

/-- Check one of the carts out. -/
def checkoutOf (cart : Uuid) (number : String) : StoreCommand :=
  .createOrderFromCart { now := 1, orderNumber := number }
    { id := cart, createdAt := 0 } none
    { email := "buyer@example.com", phone := "", shippingAddress := .obj [] }

/-- Move one of the orders. -/
def transitionOf (order : Uuid) (newStatus : OrderStatus) : StoreCommand :=
  .transitionStatus { now := 2 } order newStatus none ""

/-- Reservation accounting: in every run that spares the reservations of other
orders, the reserved units of every variant are those of its pending
orders. -/
theorem reservations_accounted {db : Database} {commands : List StoreCommand}
    (noOrders : db.NoOrders)
    (unreserved : ∀ stock ∈ db.stocks.rows, stock.reserved = 0)
    (spares : Guarded StoreCommand.step StoreCommand.SparesReserved db
      commands) (variant : Uuid) :
    (exec StoreCommand.step db commands).reservedOf variant =
      (exec StoreCommand.step db commands).unitsIn OrderStatus.isPending
        variant := by
  have accounted := exec_invariant
    (fun _ _ holds meets => accounted_step holds meets)
    (accounted_of_noOrders noOrders (soundRows_of_unreserved unreserved))
    spares
  rw [accounted.reserved_eq variant, reservedOf_of_unreserved unreserved,
    zero_add]

/-- Two orders of one variant, of which one is paid and the other one
cancelled. -/
theorem reservations_accounted_twoCarts :
    (exec StoreCommand.step (twoCarts 5)
      [checkoutOf 10 "N1", checkoutOf 11 "N2", transitionOf 1 .paid,
        transitionOf 2 .cancelled]).reservedOf 7 = 0 := by
  have noOrders : (twoCarts 5).NoOrders := ⟨rfl, rfl⟩
  have spares : Guarded StoreCommand.step StoreCommand.SparesReserved
      (twoCarts 5) [checkoutOf 10 "N1", checkoutOf 11 "N2",
        transitionOf 1 .paid, transitionOf 2 .cancelled] := by
    decide
  rw [reservations_accounted noOrders (by decide) spares 7]
  decide

/-- Cancelling a paid order gives back the unit that another, pending order
has reserved. -/
theorem reservation_lost_after_cancel :
    (twoCarts 5).NoOrders ∧
      (∀ stock ∈ (twoCarts 5).stocks.rows, stock.reserved = 0) ∧
      (exec StoreCommand.step (twoCarts 5)
        [checkoutOf 10 "N1", checkoutOf 11 "N2", transitionOf 1 .paid,
          transitionOf 1 .cancelled]).reservedOf 7 = 0 ∧
      (exec StoreCommand.step (twoCarts 5)
        [checkoutOf 10 "N1", checkoutOf 11 "N2", transitionOf 1 .paid,
          transitionOf 1 .cancelled]).unitsIn OrderStatus.isPending 7 = 1 := by
  refine ⟨⟨rfl, rfl⟩, ?_⟩
  decide

end NovaCommerce
