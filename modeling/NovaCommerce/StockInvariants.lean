import NovaCommerce.InventoryEffects
import NovaCommerce.GuardedRun

/-!
# Invariants of the stock rows

A pass over the rows that a query selected changes only selected rows, each
by at most its capacity, and by the met part of the demand in total.  Passes
that follow each other add up.  From this follow the effect of every call on
the units of a variant and the bounds that every stock row keeps.
-/

namespace NovaCommerce

open AtomicCall GreedyAllocation GuardedRun

section SelectedRows

variable {stocks : Table Stock} {keep : Stock → Bool} {rows : List Stock}
  {capacity : Stock → Int}

theorem takenFrom_eq_zero (perm : rows.Perm (stocks.rows.filter keep))
    (demand : Int) {stock : Stock} (member : stock ∈ stocks.rows)
    (skipped : keep stock = false) :
    takenFrom capacity rows demand stock.id = 0 := by
  apply taken_of_notMem
  intro visited
  obtain ⟨row, rowMem, idEq⟩ := List.mem_map.mp visited
  have selected := List.mem_filter.mp (perm.mem_iff.mp rowMem)
  have rowEq : row = stock := stocks.eq_of_key_eq selected.1 member idEq
  rw [rowEq, skipped] at selected
  exact absurd selected.2 (by simp)

theorem ids_nodup_of_perm (perm : rows.Perm (stocks.rows.filter keep)) :
    (rows.map fun stock => stock.id).Nodup :=
  (perm.map _).nodup_iff.mpr
    (stocks.keys_nodup.sublist (List.filter_sublist.map _))

/-- A pass takes nothing from a row, or between nothing and its capacity from
a selected row. -/
theorem takenFrom_bounds (perm : rows.Perm (stocks.rows.filter keep))
    (nonneg : ∀ stock ∈ rows, 0 ≤ capacity stock) (demand : Int)
    {stock : Stock} (member : stock ∈ stocks.rows) :
    takenFrom capacity rows demand stock.id = 0 ∨
      keep stock = true ∧ 0 ≤ takenFrom capacity rows demand stock.id ∧
        takenFrom capacity rows demand stock.id ≤ capacity stock := by
  cases kept : keep stock with
  | false => exact Or.inl (takenFrom_eq_zero perm demand member kept)
  | true =>
      have visited : stock ∈ rows :=
        perm.mem_iff.mpr (List.mem_filter.mpr ⟨member, kept⟩)
      exact Or.inr ⟨rfl, taken_nonneg nonneg demand _,
        taken_le_capacity (ids_nodup_of_perm perm) nonneg demand visited⟩

/-- The amounts under the identifiers of one variant's rows add up to the met
demand, if the pass visits rows of that variant only. -/
theorem total_takenFrom (perm : rows.Perm (stocks.rows.filter keep))
    (demand : Int) {variantId : Uuid}
    (ofVariant : ∀ stock ∈ rows, stock.variant = variantId)
    (variant : Uuid) :
    (stocks.total fun stock =>
        if stock.variant = variant then
          takenFrom capacity rows demand stock.id
        else 0) =
      if variant = variantId then demand - unmet capacity rows demand
      else 0 := by
  rw [Table.total_eq_sum_of_perm perm]
  · by_cases sameVariant : variant = variantId
    · rw [if_pos sameVariant, ← sum_taken (ids_nodup_of_perm perm)]
      apply congrArg List.sum
      apply List.map_congr_left
      intro stock visited
      rw [if_pos ((ofVariant stock visited).trans sameVariant.symm)]
    · rw [if_neg sameVariant]
      apply List.sum_eq_zero
      intro amount amountMem
      obtain ⟨stock, visited, rfl⟩ := List.mem_map.mp amountMem
      have otherVariant : stock.variant ≠ variant := by
        rw [ofVariant stock visited]
        exact Ne.symm sameVariant
      rw [if_neg otherVariant]
  · intro stock member skipped
    rw [takenFrom_eq_zero perm demand member skipped, ite_self]

end SelectedRows

/-- The stock rows after drawings that together took `amount` under each
identifier, from selected rows only, and `wanted` of each variant. -/
structure Draws (drawing : Drawing) (selected : Stock → Bool)
    (before after : Table Stock) (amount wanted : Uuid → Int) : Prop where
  after_eq : after = drawing.apply before amount
  bounds : ∀ stock ∈ before.rows, amount stock.id = 0 ∨
    selected stock = true ∧ 0 ≤ amount stock.id ∧
      amount stock.id ≤ drawing.capacity stock
  total_eq : ∀ variant,
    (before.total fun stock =>
      if stock.variant = variant then amount stock.id else 0) = wanted variant

namespace Draws

variable {drawing : Drawing} {selected : Stock → Bool}

theorem refl (stocks : Table Stock) :
    Draws drawing selected stocks stocks (fun _ => 0) (fun _ => 0) where
  after_eq := (drawing.apply_zero _ (fun _ => rfl)).symm
  bounds _ _ := Or.inl rfl
  total_eq variant := by simp [Table.total]

/-- One pass over the rows of a variant that a query selected. -/
theorem pass {stocks : Table Stock} {keep : Stock → Bool}
    {rows : List Stock} {variantId : Uuid}
    (perm : rows.Perm (stocks.rows.filter keep))
    (nonneg : ∀ stock ∈ rows, 0 ≤ drawing.capacity stock)
    (ofVariant : ∀ stock ∈ rows, stock.variant = variantId)
    (keepSelects : ∀ stock, keep stock = true → selected stock = true)
    (demand : Int) :
    Draws drawing selected stocks
      (drawing.apply stocks (takenFrom drawing.capacity rows demand))
      (takenFrom drawing.capacity rows demand)
      (fun variant => if variant = variantId then
        demand - unmet drawing.capacity rows demand else 0) where
  after_eq := rfl
  bounds stock stockMem := by
    rcases takenFrom_bounds perm nonneg demand stockMem with
      none | ⟨kept, bounds⟩
    · exact Or.inl none
    · exact Or.inr ⟨keepSelects stock kept, bounds⟩
  total_eq := total_takenFrom perm demand ofVariant

variable {before middle after : Table Stock}
  {amount wanted laterAmount laterWanted : Uuid → Int}

/-- Drawings that follow each other add up. -/
theorem trans (first : Draws drawing selected before middle amount wanted)
    (second :
      Draws drawing selected middle after laterAmount laterWanted) :
    Draws drawing selected before after
      (fun id => amount id + laterAmount id)
      (fun variant => wanted variant + laterWanted variant) := by
  have moved : ∀ stock ∈ before.rows,
      drawing.draw stock (amount stock.id) ∈ middle.rows := by
    intro stock stockMem
    rw [first.after_eq]
    exact List.mem_map_of_mem stockMem
  refine ⟨?_, ?_, ?_⟩
  · rw [second.after_eq, first.after_eq, drawing.apply_apply]
  · intro stock stockMem
    have later := second.bounds _ (moved stock stockMem)
    rw [drawing.draw_id] at later
    rcases first.bounds stock stockMem with
      untouched | ⟨isSelected, nonneg, atMost⟩
    · simpa [untouched, drawing.draw_zero] using later
    · rw [drawing.capacity_draw stock _ nonneg atMost] at later
      refine Or.inr ⟨isSelected, ?_⟩
      omega
  · intro variant
    have later := second.total_eq variant
    rw [first.after_eq, Drawing.apply, Table.total_alter] at later
    rw [← first.total_eq variant, ← later, ← Table.total_add]
    apply Table.total_congr
    intro stock _
    by_cases ofVariant : stock.variant = variant <;>
      simp [drawing.draw_variant, drawing.draw_id, ofVariant]

variable (draws : Draws drawing selected before after amount wanted)

include draws

/-- Every row afterwards is a row from before, drawn by nothing, or by at most
its capacity if it is a selected one. -/
theorem exists_row {row : Stock} (rowMem : row ∈ after.rows) :
    ∃ stock ∈ before.rows, ∃ taken, row = drawing.draw stock taken ∧
      (taken = 0 ∨ selected stock = true ∧ 0 ≤ taken ∧
        taken ≤ drawing.capacity stock) := by
  rw [draws.after_eq] at rowMem
  obtain ⟨stock, stockMem, rfl⟩ := List.mem_map.mp rowMem
  exact ⟨stock, stockMem, _, rfl, draws.bounds stock stockMem⟩

/-- The sum of a column over the rows of a variant, if drawing adds `rate`
times the amount to the column. -/
theorem total_column (column : Stock → Int) (rate : Int) (variant : Uuid)
    (draw_column : ∀ stock ∈ before.rows, stock.variant = variant →
      ∀ taken, (taken = 0 ∨ selected stock = true ∧ 0 ≤ taken ∧
        taken ≤ drawing.capacity stock) →
      column (drawing.draw stock taken) = column stock + rate * taken) :
    (after.total fun stock =>
        if stock.variant = variant then column stock else 0) =
      (before.total fun stock =>
        if stock.variant = variant then column stock else 0) +
      rate * wanted variant := by
  rw [draws.after_eq, Drawing.apply, Table.total_alter,
    ← draws.total_eq variant, Table.mul_total, ← Table.total_add]
  apply Table.total_congr
  intro stock stockMem
  rw [Function.comp_apply, drawing.draw_variant]
  by_cases ofVariant : stock.variant = variant
  · simp only [ofVariant, if_true]
    exact draw_column stock stockMem ofVariant _ (draws.bounds stock stockMem)
  · simp [ofVariant]

/-- A row of a variant of which nothing was wanted stays as it is. -/
theorem mem_of_wanted_eq_zero {stock : Stock}
    (stockMem : stock ∈ before.rows) (unwanted : wanted stock.variant = 0) :
    stock ∈ after.rows := by
  have sum := draws.total_eq stock.variant
  rw [unwanted, Table.total] at sum
  have allNonneg : ∀ taken ∈ before.rows.map (fun row =>
      if row.variant = stock.variant then amount row.id else 0),
      0 ≤ taken := by
    intro taken takenMem
    obtain ⟨row, rowMem, rfl⟩ := List.mem_map.mp takenMem
    split
    · rcases draws.bounds row rowMem with none | ⟨_, nonneg, _⟩
      · exact none.ge
      · exact nonneg
    · exact le_refl 0
  have untouched := List.all_zero_of_le_zero_le_of_sum_eq_zero allNonneg sum
    (List.mem_map_of_mem stockMem)
  rw [if_pos rfl] at untouched
  rw [draws.after_eq]
  refine List.mem_map.mpr ⟨stock, stockMem, ?_⟩
  rw [untouched]
  exact drawing.draw_zero stock

end Draws

section Selections

variable (session : Session) (variantId : Uuid)

theorem reservableRows_perm (db : Database) :
    (reservableRows session db variantId).Perm
      (db.stocks.rows.filter fun stock => alive stock &&
        (stock.variant = variantId && db.inActiveWarehouse stock)) :=
  session.orderBy_perm _ _ _

theorem reservedRows_perm (db : Database) :
    (reservedRows session db variantId).Perm
      (db.stocks.rows.filter fun stock => alive stock &&
        (stock.variant = variantId && 0 < stock.reserved)) :=
  session.orderBy_perm _ _ _

theorem mem_reservableRows {db : Database} {stock : Stock} :
    stock ∈ reservableRows session db variantId ↔
      stock ∈ db.stocks.rows ∧ alive stock = true ∧
        stock.variant = variantId ∧ db.inActiveWarehouse stock = true := by
  rw [(reservableRows_perm session variantId db).mem_iff, List.mem_filter]
  simp

theorem mem_reservedRows {db : Database} {stock : Stock} :
    stock ∈ reservedRows session db variantId ↔
      stock ∈ db.stocks.rows ∧ alive stock = true ∧
        stock.variant = variantId ∧ 0 < stock.reserved := by
  rw [(reservedRows_perm session variantId db).mem_iff, List.mem_filter]
  simp

end Selections

namespace Database

/-- The rows that reservations are taken from. -/
def isReservable (db : Database) (stock : Stock) : Bool :=
  alive stock && db.inActiveWarehouse stock

/-- Rows that hold reserved units have no negative stock, so that a sale
never takes a negative amount. -/
def ReservedInStock (db : Database) : Prop :=
  ∀ stock ∈ db.stocks.rows, 0 < stock.reserved → 0 ≤ stock.onHand

end Database

section Passes

variable (session : Session) (variantId : Uuid) (quantity : Int)
  (reference : String) (db : Database)

theorem draws_afterReserve :
    ∃ amount, Draws .reserve db.isReservable db.stocks
      (db.afterReserve session variantId quantity reference).stocks amount
      (fun variant => if variant = variantId then
        quantity - unmet Stock.available
          (reservableRows session db variantId) quantity else 0) := by
  refine ⟨_, Draws.pass (reservableRows_perm session variantId db)
    (fun stock _ => available_nonneg stock) ?_ ?_ quantity⟩
  · intro stock visited
    exact ((mem_reservableRows session variantId).mp visited).2.2.1
  · intro stock kept
    simp only [Bool.and_eq_true] at kept
    simp [Database.isReservable, kept.1, kept.2.2]

theorem draws_afterRelease :
    ∃ amount, Draws .release alive db.stocks
      (db.afterRelease session variantId quantity reference).stocks amount
      (fun variant => if variant = variantId then
        quantity - unmet Stock.reserved
          (reservedRows session db variantId) quantity else 0) := by
  refine ⟨_, Draws.pass (reservedRows_perm session variantId db)
    ?_ ?_ ?_ quantity⟩
  · intro stock visited
    exact ((mem_reservedRows session variantId).mp visited).2.2.2.le
  · intro stock visited
    exact ((mem_reservedRows session variantId).mp visited).2.2.1
  · intro stock kept
    exact (Bool.and_eq_true _ _ ▸ kept).1

theorem draws_afterCommit {db : Database}
    (inStock : ∀ stock ∈ objects db.stocks, stock.variant = variantId →
      0 < stock.reserved → 0 ≤ stock.onHand) :
    ∃ amount, Draws .sell alive db.stocks
      (db.afterCommit session variantId quantity reference).stocks amount
      (fun variant => if variant = variantId then
        quantity - unmet Stock.sellable
          (reservedRows session db variantId) quantity else 0) := by
  refine ⟨_, Draws.pass (reservedRows_perm session variantId db)
    ?_ ?_ ?_ quantity⟩
  · intro stock visited
    obtain ⟨member, isAlive, ofVariant, holds⟩ :=
      (mem_reservedRows session variantId).mp visited
    exact le_min holds.le
      (inStock stock (List.mem_filter.mpr ⟨member, isAlive⟩) ofVariant holds)
  · intro stock visited
    exact ((mem_reservedRows session variantId).mp visited).2.2.1
  · intro stock kept
    exact (Bool.and_eq_true _ _ ▸ kept).1

end Passes

namespace Database

/-- Reserved units of a variant over all its rows. -/
def reservedOf (db : Database) (variantId : Uuid) : Int :=
  db.stocks.total fun stock =>
    if stock.variant = variantId then stock.reserved else 0

/-- Units of a variant on hand over all its rows. -/
def onHandOf (db : Database) (variantId : Uuid) : Int :=
  db.stocks.total fun stock =>
    if stock.variant = variantId then stock.onHand else 0

end Database

namespace Draws

variable {selected : Stock → Bool} {before after : Database}
  {amount wanted : Uuid → Int}

theorem reservedOf_reserve
    (draws : Draws .reserve selected before.stocks after.stocks amount wanted)
    (variant : Uuid) :
    after.reservedOf variant =
      before.reservedOf variant + wanted variant := by
  have sum := draws.total_column Stock.reserved 1 variant
    (fun stock _ _ taken _ => by simp [Drawing.reserve, Stock.reserve])
  rw [one_mul] at sum
  exact sum

theorem onHandOf_reserve
    (draws : Draws .reserve selected before.stocks after.stocks amount wanted)
    (variant : Uuid) :
    after.onHandOf variant = before.onHandOf variant := by
  have sum := draws.total_column Stock.onHand 0 variant
    (fun stock _ _ taken _ => by simp [Drawing.reserve, Stock.reserve])
  rw [zero_mul, add_zero] at sum
  exact sum

theorem reservedOf_release
    (draws : Draws .release selected before.stocks after.stocks amount wanted)
    (variant : Uuid) :
    after.reservedOf variant =
      before.reservedOf variant - wanted variant := by
  have sum := draws.total_column Stock.reserved (-1) variant
    (fun stock _ _ taken _ => by
      simp [Drawing.release, Stock.release, sub_eq_add_neg])
  rw [neg_one_mul, ← sub_eq_add_neg] at sum
  exact sum

theorem onHandOf_release
    (draws : Draws .release selected before.stocks after.stocks amount wanted)
    (variant : Uuid) :
    after.onHandOf variant = before.onHandOf variant := by
  have sum := draws.total_column Stock.onHand 0 variant
    (fun stock _ _ taken _ => by simp [Drawing.release, Stock.release])
  rw [zero_mul, add_zero] at sum
  exact sum

theorem reservedOf_sell
    (draws : Draws .sell selected before.stocks after.stocks amount wanted)
    (variant : Uuid) :
    after.reservedOf variant =
      before.reservedOf variant - wanted variant := by
  have sum := draws.total_column Stock.reserved (-1) variant
    (fun stock _ _ taken _ => by
      simp [Drawing.sell, Stock.sell, sub_eq_add_neg])
  rw [neg_one_mul, ← sub_eq_add_neg] at sum
  exact sum

theorem onHandOf_sell
    (draws : Draws .sell selected before.stocks after.stocks amount wanted)
    (variant : Uuid) :
    after.onHandOf variant = before.onHandOf variant - wanted variant := by
  have sum := draws.total_column Stock.onHand (-1) variant
    (fun stock _ _ taken _ => by
      simp [Drawing.sell, Stock.sell, sub_eq_add_neg])
  rw [neg_one_mul, ← sub_eq_add_neg] at sum
  exact sum

end Draws

theorem unmet_eq_zero {capacity : Stock → Int} {rows : List Stock}
    {demand : Int} (demandNonneg : 0 ≤ demand)
    (met : ¬0 < unmet capacity rows demand) :
    unmet capacity rows demand = 0 :=
  le_antisymm (not_lt.mp met) (unmet_nonneg demandNonneg)

/-- Reserved units of a variant on the rows that the manager returns. -/
def Database.visibleReservedOf (db : Database) (variantId : Uuid) : Int :=
  db.stocks.total fun stock =>
    if alive stock = true ∧ stock.variant = variantId then stock.reserved
    else 0

section Visible

variable {db : Database} {variantId : Uuid}

/-- The rows that a release or a sale visits hold all visible reserved
units. -/
theorem sum_reservedRows (session : Session) (variantId : Uuid)
    (nonneg : ∀ stock ∈ objects db.stocks, stock.variant = variantId →
      0 ≤ stock.reserved) :
    ((reservedRows session db variantId).map Stock.reserved).sum =
      db.visibleReservedOf variantId := by
  have selected := Table.total_eq_sum_of_perm
    (reservedRows_perm session variantId db)
    (fun stock => if alive stock = true ∧ stock.variant = variantId then
      stock.reserved else 0)
    (by
      intro stock member skipped
      by_cases visible : alive stock = true ∧ stock.variant = variantId
      · have := nonneg stock (List.mem_filter.mpr ⟨member, visible.1⟩) visible.2
        simp only [visible, decide_true, Bool.true_and,
          decide_eq_false_iff_not] at skipped
        rw [if_pos visible]
        omega
      · rw [if_neg visible])
  rw [Database.visibleReservedOf, selected]
  apply congrArg List.sum
  apply List.map_congr_left
  intro stock visited
  obtain ⟨_, isAlive, ofVariant, _⟩ :=
    (mem_reservedRows session variantId).mp visited
  rw [if_pos ⟨isAlive, ofVariant⟩]

/-- Units that are visibly reserved can be given back in full. -/
theorem release_met (session : Session)
    (nonneg : ∀ stock ∈ objects db.stocks, stock.variant = variantId →
      0 ≤ stock.reserved)
    {quantity : Int} (quantityNonneg : 0 ≤ quantity)
    (reserved : quantity ≤ db.visibleReservedOf variantId) :
    ¬0 < unmet Stock.reserved (reservedRows session db variantId)
      quantity := by
  rw [not_lt, unmet_nonpos_iff _ quantityNonneg,
    sum_reservedRows session _ nonneg]
  · exact reserved
  · intro stock visited
    exact ((mem_reservedRows session variantId).mp visited).2.2.2.le

/-- Units that are visibly reserved can be sold in full when no row has
reserved more than it has on hand. -/
theorem commit_met (session : Session)
    (covered : ∀ stock ∈ objects db.stocks, stock.variant = variantId →
      0 ≤ stock.reserved ∧ stock.reserved ≤ stock.onHand)
    {quantity : Int}
    (reserved : quantity ≤ db.visibleReservedOf variantId) :
    ¬0 < unmet Stock.sellable (reservedRows session db variantId)
      quantity := by
  by_cases nonpos : quantity ≤ 0
  · rw [unmet_of_nonpos nonpos]
    exact not_lt.mpr nonpos
  have sellableEq : ∀ stock ∈ reservedRows session db variantId,
      stock.sellable = stock.reserved := by
    intro stock visited
    obtain ⟨member, isAlive, ofVariant, _⟩ :=
      (mem_reservedRows session variantId).mp visited
    exact min_eq_left (covered stock
      (List.mem_filter.mpr ⟨member, isAlive⟩) ofVariant).2
  rw [not_lt, unmet_nonpos_iff _ (not_le.mp nonpos).le,
    List.map_congr_left sellableEq, sum_reservedRows session _
      fun stock member ofVariant => (covered stock member ofVariant).1]
  · exact reserved
  · intro stock visited
    rw [sellableEq stock visited]
    exact ((mem_reservedRows session variantId).mp visited).2.2.2.le

end Visible

end NovaCommerce
