import NovaCommerce.ReservationLaws

/-!
# The snapshot that a reservation returns

While `reserve_stock` visits the rows it adds up the units on hand and the
reserved units, and it returns their difference as the available units.  What
a row has available is less by its safety buffer, and never less than nothing.
The snapshot therefore agrees with the rows exactly when what they withhold
adds up to nothing.
-/

namespace NovaCommerce

open AtomicCall GreedyAllocation

namespace Stock

/-- The units of a row that are not reserved and can not be promised either:
its buffer, or what is left for it.  A row with more units reserved than on
hand withholds a negative number. -/
def withheld (stock : Stock) : Int :=
  min stock.safetyBuffer (stock.onHand - stock.reserved)

theorem available_add_withheld (stock : Stock) :
    stock.available + stock.withheld = stock.onHand - stock.reserved := by
  unfold available withheld
  omega

theorem withheld_nonneg {stock : Stock}
    (covered : stock.reserved ≤ stock.onHand) : 0 ≤ stock.withheld :=
  le_min (Int.natCast_nonneg _) (sub_nonneg.mpr covered)

/-- Reserving available units leaves what the row withholds. -/
theorem withheld_reserve {stock : Stock} {taken : Int} (nonneg : 0 ≤ taken)
    (atMost : taken ≤ stock.available) :
    (stock.reserve taken).withheld = stock.withheld := by
  simp only [available] at atMost
  simp only [withheld, reserve]
  omega

end Stock

namespace Database

/-- What the rows of a variant in active warehouses say. -/
def snapshotOf (db : Database) (variantId : Uuid) : StockSnapshot where
  variantId
  available := db.activeSum variantId Stock.available
  onHand := db.activeSum variantId Stock.onHand
  reserved := db.activeSum variantId Stock.reserved

/-- The difference of the first two columns is what the rows have available
and what they withhold. -/
theorem activeSum_available_add (db : Database) (variantId : Uuid) :
    db.activeSum variantId Stock.available +
        db.activeSum variantId Stock.withheld =
      db.activeSum variantId Stock.onHand -
        db.activeSum variantId Stock.reserved := by
  unfold activeSum
  induction db.activeRows variantId with
  | nil => rfl
  | cons stock rows ih =>
      have row := stock.available_add_withheld
      simp only [List.map_cons, List.sum_cons]
      omega

theorem activeRows_perm (session : Session) (db : Database)
    (variantId : Uuid) :
    (reservableRows session db variantId).Perm (db.activeRows variantId) := by
  have perm := reservableRows_perm session variantId db
  rw [activeRows, objects, List.filter_filter]
  simpa only [Bool.and_comm] using perm

end Database

section Returned

variable {session : Session} {variantId : Uuid} {quantity : Int}
  {reference : String} {db after : Database} {snapshot : StockSnapshot}

/-- The loop adds up the units on hand, and the reserved units together with
what it reserves itself. -/
theorem snapshot_of_reserved
    (returned : reserveStock session variantId quantity reference db =
      .ok snapshot after) :
    snapshot =
      { variantId
        available := db.activeSum variantId Stock.onHand -
          (db.activeSum variantId Stock.reserved + quantity)
        onHand := db.activeSum variantId Stock.onHand
        reserved := db.activeSum variantId Stock.reserved + quantity } := by
  obtain ⟨positive, met, _⟩ := reserveStock_eq_ok returned
  have computed := reserveStock_eq session variantId quantity reference db
  simp only [not_le.mpr positive, met, if_false, returned] at computed
  obtain ⟨rfl, _⟩ := EStateM.Result.ok.inj computed
  have rows := Database.activeRows_perm session db variantId
  have onHand : ((reservableRows session db variantId).map
      Stock.onHand).sum = db.activeSum variantId Stock.onHand :=
    (rows.map _).sum_eq
  have held : ((reservableRows session db variantId).map
      Stock.reserved).sum = db.activeSum variantId Stock.reserved :=
    (rows.map _).sum_eq
  have given : ((reservableRows session db variantId).map fun stock =>
        takenFrom Stock.available (reservableRows session db variantId)
          quantity stock.id).sum = quantity := by
    rw [sum_taken (visitable_reservableRows session variantId db).ids_nodup,
      unmet_eq_zero positive.le met, sub_zero]
  have reserved : ((reservableRows session db variantId).map fun stock =>
        stock.reserved + takenFrom Stock.available
          (reservableRows session db variantId) quantity stock.id).sum =
      db.activeSum variantId Stock.reserved + quantity := by
    rw [List.sum_map_add, held, given]
  simp only [reservedSnapshot, onHand, reserved]

/-- The units on hand and the reserved units of a snapshot are always those of
the rows; its available units are too many by what the rows withhold. -/
theorem snapshot_excess
    (returned : reserveStock session variantId quantity reference db =
      .ok snapshot after) :
    snapshot =
      { after.snapshotOf variantId with
        available := (after.snapshotOf variantId).available +
          db.activeSum variantId Stock.withheld } := by
  have onHand := activeSum_of_reserved returned Stock.onHand 0
    fun stock taken _ _ => by simp [Stock.reserve]
  have reserved := activeSum_of_reserved returned Stock.reserved 1
    fun stock taken _ _ => by simp [Stock.reserve]
  have withheld := activeSum_of_reserved returned Stock.withheld 0
    fun stock taken nonneg atMost => by
      rw [Stock.withheld_reserve nonneg atMost, zero_mul, add_zero]
  rw [zero_mul, add_zero] at onHand withheld
  rw [one_mul] at reserved
  have split := after.activeSum_available_add variantId
  rw [onHand, reserved, withheld] at split
  rw [snapshot_of_reserved returned]
  simp only [Database.snapshotOf, onHand, reserved, split]

/-- The snapshot of a reservation agrees with the rows that it leaves exactly
when the rows in active warehouses withhold nothing all together. -/
theorem snapshot_agrees_iff
    (returned : reserveStock session variantId quantity reference db =
      .ok snapshot after) :
    snapshot = after.snapshotOf variantId ↔
      db.activeSum variantId Stock.withheld = 0 := by
  have excess := snapshot_excess returned
  constructor
  · intro agrees
    have available := congrArg StockSnapshot.available excess
    rw [agrees] at available
    simpa using available.symm
  · intro none
    rw [excess, none, add_zero]

/-- In covered rows nothing is withheld all together only if each row has no
buffer or no units left for it. -/
theorem activeSum_withheld_eq_zero_iff
    (covered : ∀ stock ∈ db.activeRows variantId,
      stock.reserved ≤ stock.onHand) :
    db.activeSum variantId Stock.withheld = 0 ↔
      ∀ stock ∈ db.activeRows variantId,
        stock.safetyBuffer = 0 ∨ stock.reserved = stock.onHand := by
  constructor
  · intro none stock active
    have withholdsNone : stock.withheld = 0 := by
      refine List.all_zero_of_le_zero_le_of_sum_eq_zero ?_ none
        (List.mem_map_of_mem active)
      intro units unitsMem
      obtain ⟨other, otherActive, rfl⟩ := List.mem_map.mp unitsMem
      exact Stock.withheld_nonneg (covered other otherActive)
    unfold Stock.withheld at withholdsNone
    omega
  · intro each
    apply List.sum_eq_zero
    intro units unitsMem
    obtain ⟨stock, active, rfl⟩ := List.mem_map.mp unitsMem
    have rowEach := each stock active
    have rowCovered := covered stock active
    unfold Stock.withheld
    omega

end Returned

/-- The near shelf keeps one unit back, which the snapshot counts as
available. -/
theorem snapshot_counts_buffer :
    ∃ snapshot after,
      (∀ stock ∈ threeShelves.stocks.rows, 0 ≤ stock.reserved) ∧
      reserveStock { now := 1 } 7 5 "order" threeShelves =
          .ok snapshot after ∧
        snapshot.available = 8 ∧ (after.snapshotOf 7).available = 7 := by
  have returned : Returns (reserveStock { now := 1 } 7 5 "order")
      threeShelves := by
    decide +kernel
  obtain ⟨snapshot, after, called⟩ := returned
  have computed := snapshot_of_reserved called
  refine ⟨snapshot, after, by decide, called, ?_, ?_⟩
  · rw [computed]
    decide +kernel
  · have excess := congrArg StockSnapshot.available (snapshot_excess called)
    rw [computed] at excess
    have withheld : threeShelves.activeSum 7 Stock.withheld = 1 := by
      decide +kernel
    have difference : threeShelves.activeSum 7 Stock.onHand -
        (threeShelves.activeSum 7 Stock.reserved + 5) = 8 := by
      decide +kernel
    simp only [withheld, difference] at excess
    omega

/-- A shelf without a buffer, and one whose buffer is reserved as well. -/
def spentBuffer : Database :=
  { threeShelves with
    stocks := ⟨[
      { id := 5, createdAt := 0, variant := 7, warehouse := 3, onHand := 9 },
      { id := 6, createdAt := 0, variant := 7, warehouse := 2, onHand := 5,
        reserved := 5, safetyBuffer := 1 }], by decide⟩ }

theorem snapshot_agrees_spentBuffer :
    ∃ snapshot after,
      reserveStock { now := 1 } 7 5 "order" spentBuffer =
          .ok snapshot after ∧
        snapshot = after.snapshotOf 7 := by
  have returned : Returns (reserveStock { now := 1 } 7 5 "order")
      spentBuffer := by
    decide +kernel
  obtain ⟨snapshot, after, called⟩ := returned
  exact ⟨snapshot, after, called,
    (snapshot_agrees_iff called).mpr (by decide +kernel)⟩

end NovaCommerce
