import NovaCommerce.TransitionEffects
import NovaCommerce.CheckoutConversion

/-!
# Units of orders

The units of a variant that the orders in some statuses stand for.  A checkout
adds the units of its order to `pending`, and a transition moves the units of
its order from one status to another; what it does to the stock rows is a sale
or a release of exactly these units.
-/

namespace NovaCommerce

open AtomicCall

namespace OrderStatus

def isPending (status : OrderStatus) : Bool :=
  status = pending

/-- The units of an order in this status have left the stock. -/
def hasSold : OrderStatus → Bool
  | paid | packed | shipped | delivered | refunded => true
  | pending | cancelled => false

end OrderStatus

namespace Database

/-- Units of a variant in the items of an order. -/
def unitsOfOrder (db : Database) (order variant : Uuid) : Int :=
  soldUnits (db.orderItemsOf order) variant

/-- Units of a variant in the orders whose status is among some statuses. -/
def unitsIn (db : Database) (among : OrderStatus → Bool) (variant : Uuid) :
    Int :=
  db.orders.total fun order =>
    if among order.status then db.unitsOfOrder order.id variant else 0

/-- No order, and so no order item either, exists. -/
structure NoOrders (db : Database) : Prop where
  orders_eq : db.orders.rows = []
  orderItems_eq : db.orderItems.rows = []

end Database

section Units

variable {db after : Database} {among : OrderStatus → Bool} {variant : Uuid}

theorem unitsOfOrder_nonneg (order : Uuid) :
    0 ≤ db.unitsOfOrder order variant :=
  soldUnits_nonneg _ _

theorem unitsOfOrder_congr (sameItems : after.orderItems = db.orderItems)
    (order : Uuid) :
    after.unitsOfOrder order variant = db.unitsOfOrder order variant := by
  simp only [Database.unitsOfOrder, Database.orderItemsOf, sameItems]

theorem unitsIn_congr (sameOrders : after.orders = db.orders)
    (sameItems : after.orderItems = db.orderItems) :
    after.unitsIn among variant = db.unitsIn among variant := by
  simp only [Database.unitsIn, sameOrders, unitsOfOrder_congr sameItems]

/-- Saving an order moves its units to its new status. -/
theorem unitsIn_save (among : OrderStatus → Bool) (variant : Uuid)
    {order changed : Order}
    (member : order ∈ db.orders.rows) (sameId : changed.id = order.id)
    (ordersEq : after.orders = db.orders.save changed)
    (sameItems : after.orderItems = db.orderItems) :
    after.unitsIn among variant =
      db.unitsIn among variant -
        (if among order.status then db.unitsOfOrder order.id variant else 0) +
        (if among changed.status then db.unitsOfOrder order.id variant
          else 0) := by
  rw [Database.unitsIn, ordersEq]
  simp only [unitsOfOrder_congr sameItems]
  rw [Table.total_save member sameId, sameId]
  rfl

theorem soldUnits_of_soldAs {order : Uuid} {items : List CartItem}
    {sold : List OrderItem}
    (soldAs : List.Forall₂ (SoldAs order) items sold) (variant : Uuid) :
    soldUnits sold variant = unitsOf items variant := by
  induction soldAs with
  | nil => rfl
  | cons first _ ih =>
      rw [soldUnits_cons, ih, first.variant_eq, first.quantity_eq]
      simp [unitsOf]

/-- The items of an order that existed before are the same after items of
another order were appended. -/
theorem unitsOfOrder_append {order other : Uuid} {items : List CartItem}
    {sold : List OrderItem}
    (rows : after.orderItems.rows = db.orderItems.rows ++ sold)
    (soldAs : List.Forall₂ (SoldAs order) items sold)
    (otherNe : other ≠ order) :
    after.unitsOfOrder other variant = db.unitsOfOrder other variant := by
  rw [Database.unitsOfOrder, Database.unitsOfOrder,
    orderItemsOf_append_of_ne rows (sold_order soldAs) otherNe]

/-- A new order adds its units to its status. -/
theorem unitsIn_append {order : Order} {items : List CartItem}
    {sold : List OrderItem} (haveOrders : db.ItemsHaveOrders)
    (isNew : order.id ∉ db.orders.keys)
    (ordersEq : after.orders.rows = db.orders.rows ++ [order])
    (itemsEq : after.orderItems.rows = db.orderItems.rows ++ sold)
    (soldAs : List.Forall₂ (SoldAs order.id) items sold) :
    after.unitsIn among variant =
      db.unitsIn among variant +
        if among order.status then unitsOf items variant else 0 := by
  have own : after.orderItemsOf order.id = sold :=
    orderItemsOf_append itemsEq (sold_order soldAs) (by
      intro item itemMem equal
      exact isNew (equal ▸ haveOrders item itemMem))
  rw [Database.unitsIn, Table.total, ordersEq, List.map_append,
    List.sum_append, Database.unitsIn, Table.total]
  congr 1
  · apply congrArg List.sum
    apply List.map_congr_left
    intro other otherMem
    have otherNe : other.id ≠ order.id := by
      intro equal
      exact isNew (equal ▸ List.mem_map_of_mem otherMem)
    rw [unitsOfOrder_append itemsEq soldAs otherNe]
  · simp [Database.unitsOfOrder, own, soldUnits_of_soldAs soldAs]

end Units

section TransitionStock

variable {session : Session} {order : Order} {newStatus : OrderStatus}
  {db after : Database}

theorem soldUnits_perm {first second : List OrderItem}
    (perm : first.Perm second) : soldUnits first = soldUnits second := by
  funext variant
  exact (perm.map _).sum_eq

theorem soldUnits_scan (session : Session) (order : Uuid) :
    soldUnits (session.scan OrderItem (db.orderItemsOf order)) =
      db.unitsOfOrder order := by
  rw [soldUnits_perm (session.scan_perm OrderItem _)]
  rfl

/-- Paying sells the units of the order. -/
theorem Transitioned.draws_paid (sound : SoundRows db.stocks)
    (transitioned : Transitioned session order .paid db after) :
    ∃ amount, Draws .sell alive db.stocks after.stocks amount
      (db.unitsOfOrder order.id) := by
  obtain ⟨middle, settled, stocksEq⟩ := transitioned.settled
  unfold settleStock at settled
  rw [get_bind] at settled
  obtain ⟨amount, draws⟩ := commitItems_eq_ok sound settled
  rw [soldUnits_scan] at draws
  rw [stocksEq]
  exact ⟨amount, draws⟩

/-- Cancelling gives back what it finds reserved. -/
theorem Transitioned.draws_released
    (transitioned : Transitioned session order .cancelled db after) :
    ∃ amount wanted,
      Draws .release alive db.stocks after.stocks amount wanted := by
  obtain ⟨middle, settled, stocksEq⟩ := transitioned.settled
  unfold settleStock at settled
  rw [get_bind] at settled
  rw [stocksEq]
  exact releaseItems_eq_ok settled

/-- Cancelling gives the units of the order back, if as much is reserved. -/
theorem Transitioned.draws_cancelled (sound : SoundRows db.stocks)
    (covered : ∀ variant,
      db.unitsOfOrder order.id variant ≤ db.reservedOf variant)
    (transitioned : Transitioned session order .cancelled db after) :
    ∃ amount, Draws .release alive db.stocks after.stocks amount
      (db.unitsOfOrder order.id) := by
  obtain ⟨middle, settled, stocksEq⟩ := transitioned.settled
  unfold settleStock at settled
  rw [get_bind] at settled
  rw [← soldUnits_scan session] at covered ⊢
  obtain ⟨amount, draws⟩ := releaseItems_covered sound covered settled
  rw [stocksEq]
  exact ⟨amount, draws⟩

/-- Where nothing is reserved of its variants, cancelling leaves the stock
alone. -/
theorem Transitioned.stocks_eq_of_none (sound : SoundRows db.stocks)
    (none : ∀ item ∈ db.orderItemsOf order.id, ∀ variant ∈ item.variant,
      db.reservedOf variant = 0)
    (transitioned : Transitioned session order .cancelled db after) :
    after.stocks = db.stocks := by
  obtain ⟨middle, settled, stocksEq⟩ := transitioned.settled
  unfold settleStock at settled
  rw [get_bind] at settled
  have noneScanned : ∀ item ∈ session.scan OrderItem
      (db.orderItemsOf order.id), ∀ variant ∈ item.variant,
      db.reservedOf variant = 0 := by
    intro item itemMem
    exact none item ((session.scan_perm OrderItem _).mem_iff.mp itemMem)
  have untouched := releaseItems_of_none session (toString order.id) sound
    noneScanned
  have same := untouched.symm.trans settled
  cases same
  exact stocksEq

/-- Other transitions leave the stock alone. -/
theorem Transitioned.stocks_eq (notPaid : newStatus ≠ .paid)
    (notCancelled : newStatus ≠ .cancelled)
    (transitioned : Transitioned session order newStatus db after) :
    after.stocks = db.stocks := by
  obtain ⟨middle, settled, stocksEq⟩ := transitioned.settled
  unfold settleStock at settled
  rw [get_bind] at settled
  cases newStatus with
  | paid => exact absurd rfl notPaid
  | cancelled => exact absurd rfl notCancelled
  | pending | packed | shipped | delivered | refunded =>
      obtain ⟨_, rfl⟩ := pure_eq_ok.mp settled
      exact stocksEq

theorem Transitioned.unitsIn_eq
    (transitioned : Transitioned session order newStatus db after)
    (among : OrderStatus → Bool) (variant : Uuid) :
    after.unitsIn among variant =
      db.unitsIn among variant -
        (if among order.status then db.unitsOfOrder order.id variant else 0) +
        (if among newStatus then db.unitsOfOrder order.id variant else 0) := by
  have sameId := congrArg TimeStampedUUIDModel.id
    (base_enterStatus order newStatus session.now)
  have ordersEq : after.orders =
      db.orders.save (order.enterStatus newStatus session.now) := by
    rw [transitioned.frame]
  have itemsEq : after.orderItems = db.orderItems := by
    rw [transitioned.frame]
  have saved := unitsIn_save among variant transitioned.member sameId ordersEq
    itemsEq
  rw [status_enterStatus] at saved
  exact saved

end TransitionStock

end NovaCommerce
