import NovaCommerce.CartServices
import NovaCommerce.ReservationAccounting

/-!
# What is available and what can be reserved

`get_available` adds up the units of a variant over all its rows, while
`reserve_stock` takes units from active warehouses only.  The two agree on
every quantity exactly when nothing is available in an inactive warehouse.
-/

namespace NovaCommerce

open AtomicCall GreedyAllocation

namespace Database

/-- Units of a variant that are available in active, or in inactive,
warehouses. -/
def availableIn (db : Database) (isActive : Bool) (variantId : Uuid) : Int :=
  (((objects db.stocks).filter fun stock =>
    stock.variant = variantId && db.inActiveWarehouse stock == isActive).map
    Stock.available).sum

theorem availableIn_nonneg (db : Database) (isActive : Bool)
    (variantId : Uuid) : 0 ≤ db.availableIn isActive variantId := by
  apply List.sum_nonneg
  intro units unitsMem
  obtain ⟨stock, _, rfl⟩ := List.mem_map.mp unitsMem
  exact available_nonneg stock

end Database

section Availability

variable (db : Database) (variantId : Uuid)

/-- `get_available` counts the units of inactive warehouses as well. -/
theorem getAvailable_eq :
    getAvailable db variantId =
      db.availableIn true variantId + db.availableIn false variantId := by
  have split := List.filter_append_perm db.inActiveWarehouse
    ((objects db.stocks).filter fun stock => stock.variant = variantId)
  have sums := (split.map Stock.available).sum_eq
  rw [List.map_append, List.sum_append, List.filter_filter,
    List.filter_filter] at sums
  rw [getAvailable, ← sums]
  unfold Database.availableIn
  congr 4 <;> funext stock <;>
    cases db.inActiveWarehouse stock <;> simp

theorem sum_reservableRows (session : Session) :
    ((reservableRows session db variantId).map Stock.available).sum =
      db.availableIn true variantId := by
  have perm := (reservableRows_perm session variantId db).map Stock.available
  rw [perm.sum_eq, Database.availableIn, objects, List.filter_filter]
  congr 3
  funext stock
  cases alive stock <;> simp

/-- `reserve_stock` returns for the quantities that the active warehouses
have available. -/
theorem reserveStock_returns_iff (session : Session) (reference : String)
    {quantity : Int} (positive : 0 < quantity) :
    Returns (reserveStock session variantId quantity reference) db ↔
      quantity ≤ db.availableIn true variantId := by
  rw [← sum_reservableRows db variantId session,
    ← unmet_nonpos_iff (fun stock _ => available_nonneg stock) positive.le,
    Returns, reserveStock_eq]
  by_cases short : 0 < unmet Stock.available
      (reservableRows session db variantId) quantity
  · simp [not_le.mpr positive, short]
  · simp [not_le.mpr positive, short, not_lt.mp short]

/-- Nothing is available in inactive warehouses when none of their rows has
units left over its reservations and its buffer. -/
theorem availableIn_false_eq_zero_iff :
    db.availableIn false variantId = 0 ↔
      ∀ stock ∈ objects db.stocks, stock.variant = variantId →
        db.inActiveWarehouse stock = false →
          stock.onHand ≤ stock.reserved + stock.safetyBuffer := by
  constructor
  · intro none stock visible ofVariant inactive
    have units : stock.available = 0 := by
      refine List.all_zero_of_le_zero_le_of_sum_eq_zero ?_ none
        (List.mem_map_of_mem (List.mem_filter.mpr ⟨visible, ?_⟩))
      · intro units unitsMem
        obtain ⟨other, _, rfl⟩ := List.mem_map.mp unitsMem
        exact available_nonneg other
      · simp [ofVariant, inactive]
    unfold Stock.available at units
    omega
  · intro none
    apply List.sum_eq_zero
    intro units unitsMem
    obtain ⟨stock, selected, rfl⟩ := List.mem_map.mp unitsMem
    obtain ⟨visible, chosen⟩ := List.mem_filter.mp selected
    simp only [Bool.and_eq_true, decide_eq_true_eq, beq_iff_eq] at chosen
    have spent := none stock visible chosen.1 chosen.2
    unfold Stock.available
    omega

/-- A cart is told the truth about one quantity, unless active warehouses
alone are too short of it; and about every quantity exactly when no units are
left in inactive warehouses. -/
theorem available_is_reservable_iff (session : Session)
    (reference : String) :
    ((∀ quantity > 0, quantity ≤ getAvailable db variantId ↔
        Returns (reserveStock session variantId quantity reference) db) ↔
      ∀ stock ∈ objects db.stocks, stock.variant = variantId →
        db.inActiveWarehouse stock = false →
          stock.onHand ≤ stock.reserved + stock.safetyBuffer) ∧
      ∀ quantity > 0, (quantity ≤ getAvailable db variantId ↔
          Returns (reserveStock session variantId quantity reference) db) ↔
        ¬(db.availableIn true variantId < quantity ∧
          quantity ≤ db.availableIn true variantId +
            db.availableIn false variantId) := by
  have activeNonneg := db.availableIn_nonneg true variantId
  have inactiveNonneg := db.availableIn_nonneg false variantId
  have forQuantity : ∀ quantity > 0,
      (quantity ≤ getAvailable db variantId ↔
          Returns (reserveStock session variantId quantity reference) db) ↔
        ¬(db.availableIn true variantId < quantity ∧
          quantity ≤ db.availableIn true variantId +
            db.availableIn false variantId) := by
    intro quantity positive
    rw [reserveStock_returns_iff db variantId session reference positive,
      getAvailable_eq]
    omega
  refine ⟨?_, forQuantity⟩
  rw [← availableIn_false_eq_zero_iff]
  constructor
  · intro agree
    by_contra some
    have atAll := (forQuantity (db.availableIn true variantId + 1)
      (by omega)).mp (agree _ (by omega))
    omega
  · intro none quantity positive
    rw [forQuantity quantity positive]
    omega

end Availability

/-- The one shelf, in a warehouse that is no longer active, and a cart. -/
def closedShelf (onHand : Int) : Database :=
  { oneShelf onHand 0 with
    warehouses := ⟨[{
        id := 1, createdAt := 0, code := "main", isActive := false }],
      List.nodup_singleton _⟩
    carts := ⟨[{ id := 10, createdAt := 0 }], List.nodup_singleton _⟩ }

/-- Five units in a closed warehouse are told to be available, and a cart may
hold three of them, but they can not be reserved and the cart can not be
checked out. -/
theorem available_but_not_reservable :
    3 ≤ getAvailable (closedShelf 5) 7 ∧
      ¬Returns (reserveStock { now := 1 } 7 3 "order") (closedShelf 5) ∧
      Returns (addItem { now := 1 } 10 7 3) (closedShelf 5) ∧
      ¬Returns (createOrderFromCart { now := 2, orderNumber := "N-1" }
          { id := 10, createdAt := 0 } none
          { email := "buyer@example.com", phone := "",
            shippingAddress := .obj [] })
        (settle (addItem { now := 1 } 10 7 3) (closedShelf 5)) := by
  decide +kernel

end NovaCommerce
