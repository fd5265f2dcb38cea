import NovaCommerce.ExactReservations
import NovaCommerce.StockAvailability

/-!
# Laws of reservations

A reservation of several units can be made in parts: the parts return exactly
if the whole does and leave every row as it does, wherever a row is split
between them.  What was reserved can be given back or sold; the rows are then
visited in another order, so that single rows need not be restored, but the
totals are.
-/

namespace NovaCommerce

open AtomicCall GreedyAllocation GuardedRun

namespace Database

/-- The sum of a column over the rows of a variant that the manager
returns. -/
def sumOf (db : Database) (variantId : Uuid)
    (column : Stock → Int) : Int :=
  (((objects db.stocks).filter fun stock => stock.variant = variantId).map
    column).sum

/-- The rows of a variant in active warehouses. -/
def activeRows (db : Database) (variantId : Uuid) : List Stock :=
  (objects db.stocks).filter fun stock =>
    stock.variant = variantId && db.inActiveWarehouse stock

/-- The sum of a column over the rows of a variant in active warehouses. -/
def activeSum (db : Database) (variantId : Uuid) (column : Stock → Int) :
    Int :=
  ((db.activeRows variantId).map column).sum

end Database

section Totals

variable {db before after : Database} {variantId : Uuid}

theorem sumOf_eq_total (column : Stock → Int) :
    db.sumOf variantId column = db.stocks.total fun stock =>
      if stock.variant = variantId then
        if alive stock = true then column stock else 0
      else 0 := by
  have sums := Table.total_ite db.stocks
    (fun stock => stock.variant = variantId ∧ alive stock = true) column
  simp only [ite_and] at sums
  rw [sums, Database.sumOf, objects, List.filter_filter]
  congr 3
  funext stock
  simp

theorem activeSum_eq_sumOf (column : Stock → Int) :
    db.activeSum variantId column = db.sumOf variantId fun stock =>
      if db.inActiveWarehouse stock = true then column stock else 0 := by
  unfold Database.activeSum Database.activeRows Database.sumOf
  induction objects db.stocks with
  | nil => rfl
  | cons stock rows ih =>
      by_cases ofVariant : stock.variant = variantId <;>
        cases active : db.inActiveWarehouse stock <;>
        simpa [ofVariant, active] using ih

theorem availableIn_eq_activeSum :
    db.availableIn true variantId =
      db.activeSum variantId Stock.available := by
  simp [Database.availableIn, Database.activeSum, Database.activeRows]

/-- The sum of a column after drawings, if drawing adds `rate` times the amount
to the column. -/
theorem Draws.sumOf {drawing : Drawing} {selected : Stock → Bool}
    {amount wanted : Uuid → Int}
    (draws : Draws drawing selected before.stocks after.stocks amount wanted)
    (visible : ∀ stock, selected stock = true → alive stock = true)
    (variantId : Uuid) (column : Stock → Int) (rate : Int)
    (draw_column : ∀ stock ∈ objects before.stocks,
      stock.variant = variantId → selected stock = true →
        ∀ taken, 0 ≤ taken → taken ≤ drawing.capacity stock →
          column (drawing.draw stock taken) = column stock + rate * taken) :
    after.sumOf variantId column =
      before.sumOf variantId column + rate * wanted variantId := by
  rw [sumOf_eq_total, sumOf_eq_total]
  apply draws.total_column
  intro stock member ofVariant taken bounds
  rw [drawing.alive_draw]
  rcases bounds with rfl | ⟨isSelected, nonneg, atMost⟩
  · rw [drawing.draw_zero, mul_zero, add_zero]
  · have isAlive := visible stock isSelected
    simp only [isAlive, if_true]
    exact draw_column stock (List.mem_filter.mpr ⟨member, isAlive⟩) ofVariant
      isSelected taken nonneg atMost

end Totals

section Parts

variable {db middle after joint : Database} {variantId : Uuid}
  {session former latter : Session} {reference : String}
  {snapshot : StockSnapshot} {first second : Int}

/-- The rows that `reserve_stock` visits, in the order of its visits. -/
def visitedIds (session : Session) (db : Database) (variantId : Uuid) :
    List Uuid :=
  (reservableRows session db variantId).map fun stock => stock.id

/-- Two passes that visit the same rows in the same order take together what
one pass takes for both demands. -/
theorem takenFrom_add {stocks : Table Stock} {rows later : List Stock}
    (visitable : Visitable stocks rows) (firstNonneg : 0 ≤ first)
    (secondNonneg : 0 ≤ second)
    (visitableLater : Visitable
      (Drawing.reserve.apply stocks (takenFrom Stock.available rows first))
      later)
    (sameOrder : later.map (fun stock => stock.id) =
      rows.map fun stock => stock.id) (id : Uuid) :
    takenFrom Stock.available rows (first + second) id =
      takenFrom Stock.available rows first id +
        takenFrom Stock.available later second id := by
  let reserved (stock : Stock) : Stock :=
    stock.reserve (takenFrom Stock.available rows first stock.id)
  have laterEq : later = rows.map reserved := by
    apply Table.eq_of_keys_eq _ visitableLater.subset
    · intro row rowMem
      obtain ⟨stock, visited, rfl⟩ := List.mem_map.mp rowMem
      exact List.mem_map_of_mem (visitable.subset stock visited)
    · rw [List.map_map]
      exact sameOrder
  have available : ∀ stock ∈ rows, (reserved stock).available =
      stock.available - takenFrom Stock.available rows first stock.id := by
    intro stock visited
    apply Drawing.reserve.capacity_draw
    · exact taken_nonneg (fun row _ => available_nonneg row) first stock.id
    · exact taken_le_capacity visitable.ids_nodup
        (fun row _ => available_nonneg row) first visited
  have keepsId : ∀ stock, (reserved stock).id = stock.id := fun _ => rfl
  rw [laterEq]
  exact taken_add visitable.ids_nodup keepsId firstNonneg secondNonneg
    available id

/-- In the same order of visits the parts of a reservation leave every row as
the whole does. -/
theorem stocks_afterReserve_add (whole : Session) (firstNonneg : 0 ≤ first)
    (secondNonneg : 0 ≤ second) (formerReference latterReference : String)
    (formerOrder : visitedIds former db variantId =
      visitedIds whole db variantId)
    (latterOrder : visitedIds latter
        (db.afterReserve former variantId first formerReference) variantId =
      visitedIds whole db variantId) :
    ((db.afterReserve former variantId first formerReference).afterReserve
        latter variantId second latterReference).stocks =
      (db.afterReserve whole variantId (first + second) reference).stocks := by
  have visitable := visitable_reservableRows former variantId db
  have sameRows : reservableRows whole db variantId =
      reservableRows former db variantId :=
    db.stocks.eq_of_keys_eq (visitable_reservableRows whole variantId db).subset
      visitable.subset formerOrder.symm
  have amounts := takenFrom_add visitable firstNonneg secondNonneg
    (visitable_reservableRows latter variantId
      (db.afterReserve former variantId first formerReference))
    (latterOrder.trans formerOrder.symm)
  unfold Database.afterReserve Database.afterPass
  dsimp only
  rw [Drawing.apply_apply, sameRows]
  congr 1
  funext id
  exact (amounts id).symm

/-- A reservation adds its first at some rate to a column of the rows in
active warehouses. -/
theorem activeSum_of_reserved
    (returned : reserveStock session variantId first reference db =
      .ok snapshot after) (column : Stock → Int) (rate : Int)
    (reserve_column : ∀ stock taken, 0 ≤ taken → taken ≤ stock.available →
      column (stock.reserve taken) = column stock + rate * taken) :
    after.activeSum variantId column =
      db.activeSum variantId column + rate * first := by
  obtain ⟨positive, met, rfl⟩ := reserveStock_eq_ok returned
  obtain ⟨amount, draws⟩ := draws_of_reserved reference positive met
  have sum := draws.sumOf
    (fun stock selected => (Bool.and_eq_true_iff.mp selected).1) variantId
    (fun stock => if db.inActiveWarehouse stock = true then column stock
      else 0) rate (by
      intro stock _ _ selected taken nonneg atMost
      have active := (Bool.and_eq_true_iff.mp selected).2
      have sameWarehouse : db.inActiveWarehouse
          (Drawing.reserve.draw stock taken) = db.inActiveWarehouse stock := rfl
      rw [sameWarehouse, if_pos active, if_pos active]
      exact reserve_column stock taken nonneg atMost)
  rw [if_pos rfl] at sum
  rw [activeSum_eq_sumOf, activeSum_eq_sumOf, ← sum]
  rfl

/-- A reservation takes its units from what the active warehouses have
available. -/
theorem availableIn_of_reserved
    (returned : reserveStock session variantId first reference db =
      .ok snapshot after) :
    after.availableIn true variantId =
      db.availableIn true variantId - first := by
  have sum := activeSum_of_reserved returned Stock.available (-1)
    fun stock taken nonneg atMost => by
      have left := Drawing.reserve.capacity_draw stock taken nonneg atMost
      rw [neg_one_mul, ← sub_eq_add_neg]
      exact left
  rw [availableIn_eq_activeSum, availableIn_eq_activeSum, sum, neg_one_mul,
    ← sub_eq_add_neg]

/-- One reservation of one unit. -/
def oneUnit (variantId : Uuid) (call : Session × String) : InventoryCall :=
  .reserveStock call.1 variantId 1 call.2

/-- Every reservation of one unit takes one, until none is left. -/
theorem availableIn_oneUnit (call : Session × String) :
    (InventoryCall.step db (oneUnit variantId call)).availableIn true
        variantId =
      max (db.availableIn true variantId - 1) 0 := by
  have enough := reserveStock_returns_iff db variantId call.1 call.2
    (show (0 : Int) < 1 by decide)
  have nonneg := db.availableIn_nonneg true variantId
  rw [oneUnit, InventoryCall.step]
  cases called : reserveStock call.1 variantId 1 call.2 db with
  | ok snapshot after =>
      have atLeast := enough.mp ⟨snapshot, after, called⟩
      rw [settle_of_eq_ok called, availableIn_of_reserved called, max_eq_left]
      omega
  | error raised after =>
      have none : ¬1 ≤ db.availableIn true variantId := by
        rw [← enough]
        rintro ⟨_, _, returned⟩
        rw [called] at returned
        cases returned
      have same : after = db := atomic_eq_error called
      rw [settle_of_eq_error called, same]
      omega

theorem availableIn_oneUnits (calls : List (Session × String)) :
    (exec InventoryCall.step db (calls.map (oneUnit variantId))).availableIn
        true variantId =
      max (db.availableIn true variantId - calls.length) 0 := by
  induction calls generalizing db with
  | nil => simp [db.availableIn_nonneg true variantId]
  | cons call calls ih =>
      rw [List.map_cons, exec_cons, ih, availableIn_oneUnit]
      push_cast [List.length_cons]
      omega

/-- Reservations add up: two parts return exactly if the whole does, and in one
order of visits they leave the rows as the whole does; so of reservations of
one unit as many return as the active warehouses have units available. -/
theorem reservations_add_up (db : Database) (variantId : Uuid)
    (firstPos : 0 < first) (secondPos : 0 < second)
    (whole former latter : Session)
    (reference formerReference latterReference : String) :
    (Returns (reserveStock whole variantId (first + second) reference) db ↔
      ∃ snapshot middle,
        reserveStock former variantId first formerReference db =
            .ok snapshot middle ∧
          Returns (reserveStock latter variantId second latterReference)
            middle) ∧
      (∀ snapshot joint formerSnapshot middle latterSnapshot after,
        reserveStock whole variantId (first + second) reference db =
            .ok snapshot joint →
          reserveStock former variantId first formerReference db =
              .ok formerSnapshot middle →
            reserveStock latter variantId second latterReference middle =
                .ok latterSnapshot after →
              visitedIds former db variantId = visitedIds whole db variantId →
                visitedIds latter middle variantId =
                    visitedIds whole db variantId →
                  after.stocks = joint.stocks) ∧
      ∀ (calls : List (Session × String)) (session : Session)
        (reference : String),
        Returns (reserveStock session variantId 1 reference)
            (exec InventoryCall.step db (calls.map (oneUnit variantId))) ↔
          (calls.length + 1 : Int) ≤ db.availableIn true variantId := by
  have bothPos : 0 < first + second := add_pos firstPos secondPos
  refine ⟨?_, ?_, ?_⟩
  · rw [reserveStock_returns_iff db variantId whole reference bothPos]
    constructor
    · intro enough
      obtain ⟨snapshot, middle, called⟩ :=
        (reserveStock_returns_iff db variantId former formerReference
          firstPos).mpr (by omega)
      refine ⟨snapshot, middle, called, ?_⟩
      rw [reserveStock_returns_iff _ _ _ _ secondPos,
        availableIn_of_reserved called]
      omega
    · rintro ⟨snapshot, middle, called, returns⟩
      rw [reserveStock_returns_iff _ _ _ _ secondPos,
        availableIn_of_reserved called] at returns
      omega
  · intro snapshot joint formerSnapshot middle latterSnapshot after
      wholeCalled formerCalled latterCalled formerOrder latterOrder
    obtain ⟨_, _, rfl⟩ := reserveStock_eq_ok wholeCalled
    obtain ⟨_, _, rfl⟩ := reserveStock_eq_ok formerCalled
    obtain ⟨_, _, rfl⟩ := reserveStock_eq_ok latterCalled
    exact stocks_afterReserve_add whole firstPos.le secondPos.le _ _
      formerOrder latterOrder
  · intro calls session reference
    have atLeastOne : (0 : Int) < 1 := by decide
    rw [reserveStock_returns_iff _ _ _ _ atLeastOne, availableIn_oneUnits]
    omega

end Parts

/-- The second part of a reservation takes the last unit of the near shelf and
goes on with the far one, as the whole does. -/
theorem reservations_add_up_threeShelves :
    (0 : Int) < 2 ∧ (0 : Int) < 3 ∧
      (∃ snapshot middle,
        reserveStock { now := 1 } 7 2 "first" threeShelves =
            .ok snapshot middle ∧
          Returns (reserveStock { now := 2 } 7 3 "second") middle) ∧
      Returns (reserveStock { now := 1 } 7 1 "last")
        (exec InventoryCall.step threeShelves
          ((List.replicate 11 ({ now := 1 }, "unit")).map (oneUnit 7))) := by
  have firstPos : (0 : Int) < 2 := by decide
  have secondPos : (0 : Int) < 3 := by decide
  have law := reservations_add_up threeShelves 7 firstPos secondPos
    { now := 1 } { now := 1 } { now := 2 } "whole" "first" "second"
  refine ⟨firstPos, secondPos, law.1.mp (by decide +kernel), ?_⟩
  exact (law.2.2 _ { now := 1 } "last").mpr (by decide +kernel)

namespace Database

/-- Every row of a variant covers what is reserved on it and its buffer. -/
def Buffered (db : Database) (variantId : Uuid) : Prop :=
  ∀ stock ∈ objects db.stocks, stock.variant = variantId →
    0 ≤ stock.reserved ∧ stock.reserved + stock.safetyBuffer ≤ stock.onHand

instance (db : Database) (variantId : Uuid) :
    Decidable (db.Buffered variantId) :=
  inferInstanceAs (Decidable
    (∀ stock ∈ objects db.stocks, stock.variant = variantId →
      0 ≤ stock.reserved ∧ stock.reserved + stock.safetyBuffer ≤ stock.onHand))

theorem visibleReservedOf_eq (db : Database) (variantId : Uuid) :
    db.visibleReservedOf variantId = db.sumOf variantId Stock.reserved := by
  rw [visibleReservedOf, sumOf_eq_total]
  apply Table.total_congr
  intro stock _
  by_cases isAlive : alive stock = true <;> simp [isAlive]

end Database

section Undone

variable {db middle after : Database} {variantId : Uuid} {session : Session}
  {reference : String} {snapshot : StockSnapshot} {quantity : Int}

/-- Drawings keep the bounds of the rows if a drawing within the capacity of a
row does. -/
theorem Draws.buffered {drawing : Drawing} {selected : Stock → Bool}
    {amount wanted : Uuid → Int}
    (draws : Draws drawing selected db.stocks after.stocks amount wanted)
    (covers : ∀ stock taken, 0 ≤ taken → taken ≤ drawing.capacity stock →
      0 ≤ stock.reserved → stock.reserved + stock.safetyBuffer ≤ stock.onHand →
        0 ≤ (drawing.draw stock taken).reserved ∧
          (drawing.draw stock taken).reserved +
              (drawing.draw stock taken).safetyBuffer ≤
            (drawing.draw stock taken).onHand)
    (buffered : db.Buffered variantId) : after.Buffered variantId := by
  intro row visible ofVariant
  obtain ⟨rowMem, isAlive⟩ := List.mem_filter.mp visible
  obtain ⟨stock, member, taken, rfl, bounds⟩ := draws.exists_row rowMem
  rw [drawing.alive_draw] at isAlive
  rw [drawing.draw_variant] at ofVariant
  obtain ⟨nonneg, covered⟩ :=
    buffered stock (List.mem_filter.mpr ⟨member, isAlive⟩) ofVariant
  rcases bounds with rfl | ⟨_, takenNonneg, atMost⟩
  · rw [drawing.draw_zero]
    exact ⟨nonneg, covered⟩
  · exact covers stock taken takenNonneg atMost nonneg covered

/-- What a reservation does to the totals of its variant. -/
theorem sums_of_reserved (buffered : db.Buffered variantId)
    (returned : reserveStock session variantId quantity reference db =
      .ok snapshot after) :
    after.Buffered variantId ∧
      getAvailable after variantId = getAvailable db variantId - quantity ∧
      after.sumOf variantId Stock.reserved =
        db.sumOf variantId Stock.reserved + quantity ∧
      after.sumOf variantId Stock.onHand = db.sumOf variantId Stock.onHand ∧
      after.stocks.rows.map Stock.onHand = db.stocks.rows.map Stock.onHand := by
  obtain ⟨positive, met, rfl⟩ := reserveStock_eq_ok returned
  obtain ⟨amount, draws⟩ := draws_of_reserved reference positive met
  have visible : ∀ stock, db.isReservable stock = true → alive stock = true :=
    fun stock selected => (Bool.and_eq_true_iff.mp selected).1
  refine ⟨draws.buffered ?_ buffered, ?_, ?_, ?_, ?_⟩
  · intro stock taken _ atMost nonneg covered
    simp only [Drawing.reserve, Stock.reserve, Stock.available] at atMost ⊢
    omega
  · have sum := draws.sumOf visible variantId Stock.available
      (-1) fun stock _ _ _ taken nonneg atMost => by
        have left := Drawing.reserve.capacity_draw stock taken nonneg atMost
        rw [neg_one_mul, ← sub_eq_add_neg]
        exact left
    rw [if_pos rfl, neg_one_mul, ← sub_eq_add_neg] at sum
    exact sum
  · have sum := draws.sumOf visible variantId Stock.reserved 1
      fun stock _ _ _ taken _ _ => by simp [Drawing.reserve, Stock.reserve]
    rw [if_pos rfl, one_mul] at sum
    exact sum
  · have sum := draws.sumOf visible variantId Stock.onHand 0
      fun stock _ _ _ taken _ _ => by simp [Drawing.reserve, Stock.reserve]
    rw [zero_mul, add_zero] at sum
    exact sum
  · rw [draws.after_eq, Drawing.apply, Table.rows_alter, List.map_map]
    rfl

/-- Units that are reserved can be released: they are available again. -/
theorem sums_of_released (session : Session) (reference : String)
    (buffered : db.Buffered variantId)
    (nonneg : 0 ≤ quantity)
    (reserved : quantity ≤ db.sumOf variantId Stock.reserved) :
    ∃ after, releaseReservation session variantId quantity reference db =
        .ok () after ∧
      after.Buffered variantId ∧
      getAvailable after variantId = getAvailable db variantId + quantity ∧
      after.sumOf variantId Stock.reserved =
        db.sumOf variantId Stock.reserved - quantity ∧
      after.stocks.rows.map Stock.onHand = db.stocks.rows.map Stock.onHand := by
  refine ⟨_, releaseReservation_eq _ _ _ _ _, ?_⟩
  have met := release_met session
    (fun stock member ofVariant => (buffered stock member ofVariant).1) nonneg
    (db.visibleReservedOf_eq variantId ▸ reserved)
  obtain ⟨amount, draws⟩ :=
    draws_afterRelease session variantId quantity reference db
  rw [unmet_eq_zero nonneg met, sub_zero] at draws
  refine ⟨draws.buffered ?_ buffered, ?_, ?_, ?_⟩
  · intro stock taken takenNonneg atMost _ covered
    simp only [Drawing.release, Stock.release] at atMost ⊢
    omega
  · have sum := draws.sumOf (fun _ => id) variantId
      Stock.available 1 fun stock member ofVariant _ taken takenNonneg _ => by
        have covered := (buffered stock member ofVariant).2
        simp only [Drawing.release, Stock.release, Stock.available]
        omega
    rw [if_pos rfl, one_mul] at sum
    exact sum
  · have sum := draws.sumOf (fun _ => id) variantId
      Stock.reserved (-1) fun stock _ _ _ taken _ _ => by
        simp [Drawing.release, Stock.release, sub_eq_add_neg]
    rw [if_pos rfl, neg_one_mul, ← sub_eq_add_neg] at sum
    exact sum
  · rw [draws.after_eq, Drawing.apply, Table.rows_alter, List.map_map]
    rfl

/-- Units that are reserved can be sold: what is available stays. -/
theorem sums_of_sold (session : Session) (reference : String)
    (buffered : db.Buffered variantId)
    (nonneg : 0 ≤ quantity)
    (reserved : quantity ≤ db.sumOf variantId Stock.reserved) :
    ∃ after, commitSale session variantId quantity reference db =
        .ok () after ∧
      after.Buffered variantId ∧
      getAvailable after variantId = getAvailable db variantId ∧
      after.sumOf variantId Stock.reserved =
        db.sumOf variantId Stock.reserved - quantity ∧
      after.sumOf variantId Stock.onHand =
        db.sumOf variantId Stock.onHand - quantity := by
  have covered : ∀ stock ∈ objects db.stocks, stock.variant = variantId →
      0 ≤ stock.reserved ∧ stock.reserved ≤ stock.onHand := by
    intro stock member ofVariant
    have := buffered stock member ofVariant
    omega
  have met := commit_met session covered
    (db.visibleReservedOf_eq variantId ▸ reserved)
  refine ⟨db.afterCommit session variantId quantity reference, ?_, ?_⟩
  · rw [commitSale_eq]
    simp only [met, if_false]
  obtain ⟨amount, draws⟩ := draws_afterCommit session variantId quantity
    reference fun stock member ofVariant _ =>
      (covered stock member ofVariant).1.trans
        (covered stock member ofVariant).2
  rw [unmet_eq_zero nonneg met, sub_zero] at draws
  refine ⟨draws.buffered ?_ buffered, ?_, ?_, ?_⟩
  · intro stock taken takenNonneg atMost _ covered
    simp only [Drawing.sell, Stock.sell, Stock.sellable] at atMost ⊢
    omega
  · have sum := draws.sumOf (fun _ => id) variantId
      Stock.available 0 fun stock _ _ _ taken _ _ => by
        simp only [Drawing.sell, Stock.sell, Stock.available]
        omega
    rw [zero_mul, add_zero] at sum
    exact sum
  · have sum := draws.sumOf (fun _ => id) variantId
      Stock.reserved (-1) fun stock _ _ _ taken _ _ => by
        simp [Drawing.sell, Stock.sell, sub_eq_add_neg]
    rw [if_pos rfl, neg_one_mul, ← sub_eq_add_neg] at sum
    exact sum
  · have sum := draws.sumOf (fun _ => id) variantId
      Stock.onHand (-1) fun stock _ _ _ taken _ _ => by
        simp [Drawing.sell, Stock.sell, sub_eq_add_neg]
    rw [if_pos rfl, neg_one_mul, ← sub_eq_add_neg] at sum
    exact sum

/-- What was reserved can be released and sold: a release restores the
availability and the reserved total and leaves the units on hand, a sale takes
the units from both totals and leaves the availability as the reservation did;
the rows stay within their bounds. -/
theorem reserved_undone (buffered : db.Buffered variantId)
    (reserved : reserveStock session variantId quantity reference db =
      .ok snapshot middle) (later : Session) (undo : String) :
    (∃ after, releaseReservation later variantId quantity undo middle =
        .ok () after ∧
      getAvailable after variantId = getAvailable db variantId ∧
      after.sumOf variantId Stock.reserved =
        db.sumOf variantId Stock.reserved ∧
      after.stocks.rows.map Stock.onHand = db.stocks.rows.map Stock.onHand ∧
      after.Buffered variantId) ∧
    ∃ after, commitSale later variantId quantity undo middle =
        .ok () after ∧
      getAvailable after variantId = getAvailable middle variantId ∧
      after.sumOf variantId Stock.onHand =
        db.sumOf variantId Stock.onHand - quantity ∧
      after.sumOf variantId Stock.reserved =
        db.sumOf variantId Stock.reserved ∧
      after.Buffered variantId := by
  obtain ⟨positive, _, _⟩ := reserveStock_eq_ok reserved
  obtain ⟨kept, available, held, onHand, sameOnHand⟩ :=
    sums_of_reserved buffered reserved
  have enough : quantity ≤ middle.sumOf variantId Stock.reserved := by
    have nonneg : 0 ≤ db.sumOf variantId Stock.reserved := by
      apply List.sum_nonneg
      intro units unitsMem
      obtain ⟨stock, selected, rfl⟩ := List.mem_map.mp unitsMem
      obtain ⟨visible, ofVariant⟩ := List.mem_filter.mp selected
      exact (buffered stock visible (of_decide_eq_true ofVariant)).1
    omega
  constructor
  · obtain ⟨after, released, bounds, freed, given, same⟩ :=
      sums_of_released later undo kept positive.le enough
    refine ⟨after, released, ?_, ?_, same.trans sameOnHand, bounds⟩
    · rw [freed, available, sub_add_cancel]
    · rw [given, held, add_sub_cancel_right]
  · obtain ⟨after, sold, bounds, unchanged, given, taken⟩ :=
      sums_of_sold later undo kept positive.le enough
    refine ⟨after, sold, unchanged, ?_, ?_, bounds⟩
    · rw [taken, onHand]
    · rw [given, held, add_sub_cancel_right]

end Undone

/-- The units of `threeShelves` come back to another shelf than the one that
they were taken from. -/
theorem reserved_undone_threeShelves :
    ∃ snapshot middle,
      reserveStock { now := 1 } 7 5 "order" threeShelves =
          .ok snapshot middle ∧
        ∃ after, releaseReservation { now := 2 } 7 5 "order" middle =
            .ok () after ∧
          getAvailable after 7 = getAvailable threeShelves 7 ∧
          after.sumOf 7 Stock.reserved =
            threeShelves.sumOf 7 Stock.reserved := by
  have buffered : threeShelves.Buffered 7 := by decide
  obtain ⟨snapshot, middle, reserved⟩ :
      Returns (reserveStock { now := 1 } 7 5 "order") threeShelves := by
    decide +kernel
  obtain ⟨after, released, available, held, _⟩ :=
    (reserved_undone buffered reserved { now := 2 } "order").1
  exact ⟨snapshot, middle, reserved, after, released, available, held⟩

end NovaCommerce
