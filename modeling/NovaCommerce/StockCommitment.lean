import NovaCommerce.GoodsRuns

/-!
# When an order can be paid

The sale of an order is refused when the rows that hold reserved units cannot
give what the order needs.  In sound rows the loop over the items succeeds
exactly when, for every variant, the units of the order are within what the
rows can sell.
-/

namespace NovaCommerce

open AtomicCall GreedyAllocation

namespace Database

/-- Units of a variant that a sale can find. -/
def sellableOf (db : Database) (variantId : Uuid) : Int :=
  db.stocks.total fun stock =>
    if stock.variant = variantId then
      if alive stock = true ∧ 0 < stock.reserved then stock.sellable else 0
    else 0

/-- A sale can find the units of the order. -/
def isCommittable (db : Database) (order : Uuid) : Prop :=
  ∀ item ∈ db.orderItemsOf order, ∀ variant ∈ item.variant,
    db.unitsOfOrder order variant ≤ db.sellableOf variant

instance (db : Database) (order : Uuid) : Decidable (db.isCommittable order) :=
  inferInstanceAs (Decidable
    (∀ item ∈ db.orderItemsOf order, ∀ variant ∈ item.variant,
      db.unitsOfOrder order variant ≤ db.sellableOf variant))

end Database

section Sale

variable {session : Session} {reference : String} {db after : Database}

theorem sum_sellable (session : Session) (variantId : Uuid) :
    ((reservedRows session db variantId).map Stock.sellable).sum =
      db.sellableOf variantId := by
  have selected := Table.total_eq_sum_of_perm
    (reservedRows_perm session variantId db)
    (fun stock => if stock.variant = variantId then
      if alive stock = true ∧ 0 < stock.reserved then stock.sellable else 0
      else 0)
    (by
      intro stock _ skipped
      by_cases ofVariant : stock.variant = variantId
      · rw [if_pos ofVariant]
        apply if_neg
        rintro ⟨isAlive, holds⟩
        simp [ofVariant, isAlive, holds] at skipped
      · exact if_neg ofVariant)
  rw [Database.sellableOf, selected]
  apply congrArg List.sum
  apply List.map_congr_left
  intro stock visited
  obtain ⟨_, isAlive, ofVariant, holds⟩ :=
    (mem_reservedRows session variantId).mp visited
  rw [if_pos ofVariant, if_pos ⟨isAlive, holds⟩]

theorem sellable_nonneg (sound : SoundRows db.stocks) (session : Session)
    (variantId : Uuid) :
    ∀ stock ∈ reservedRows session db variantId, 0 ≤ stock.sellable := by
  intro stock visited
  obtain ⟨member, _, _, holds⟩ :=
    (mem_reservedRows session variantId).mp visited
  exact le_min holds.le ((sound stock member).inStock holds)

theorem sellableOf_nonneg (sound : SoundRows db.stocks) (variantId : Uuid) :
    0 ≤ db.sellableOf variantId := by
  apply List.sum_nonneg
  intro units unitsMem
  obtain ⟨stock, stockMem, rfl⟩ := List.mem_map.mp unitsMem
  have := (sound stock stockMem).inStock
  simp only [Stock.sellable]
  split
  · split <;> omega
  · exact le_refl 0

/-- A sale returns exactly if the rows can sell as much. -/
theorem commitSale_returns_iff (session : Session) (reference : String)
    (variantId : Uuid) (sound : SoundRows db.stocks) {quantity : Int}
    (quantityNonneg : 0 ≤ quantity) :
    Returns (commitSale session variantId quantity reference) db ↔
      quantity ≤ db.sellableOf variantId := by
  have met := unmet_nonpos_iff (sellable_nonneg sound session variantId)
    quantityNonneg
  rw [sum_sellable] at met
  rw [← met]
  unfold Returns
  rw [commitSale_eq]
  by_cases short : 0 < unmet Stock.sellable
      (reservedRows session db variantId) quantity
  · simp only [short, if_true]
    constructor
    · rintro ⟨_, _, impossible⟩
      cases impossible
    · intro nonpos
      exact absurd short (not_lt.mpr nonpos)
  · simp only [short, if_false]
    exact ⟨fun _ => not_lt.mp short, fun _ => ⟨_, _, rfl⟩⟩

/-- What was sold can not be sold again. -/
theorem Draws.sellableOf_sell {amount wanted : Uuid → Int}
    (draws : Draws .sell alive db.stocks after.stocks amount wanted)
    (variant : Uuid) :
    after.sellableOf variant = db.sellableOf variant - wanted variant := by
  have sum := draws.total_column
    (fun stock => if alive stock = true ∧ 0 < stock.reserved then
      stock.sellable else 0) (-1) variant
    (by
      intro stock _ _ taken bounds
      rw [Drawing.alive_draw]
      rcases bounds with rfl | ⟨isAlive, nonneg, atMost⟩
      · rw [Drawing.draw_zero]
        simp
      · simp only [Drawing.sell, Stock.sellable] at atMost
        simp only [isAlive, true_and, Drawing.sell, Stock.sell,
          Stock.sellable]
        omega)
  rw [neg_one_mul, ← sub_eq_add_neg] at sum
  exact sum

/-- A loop of sales returns exactly if the rows can sell all items. -/
theorem commitItems_returns_iff (session : Session) (reference : String)
    {items : List OrderItem} (sound : SoundRows db.stocks) :
    Returns (forItems (fun variant quantity =>
      commitSale session variant quantity reference) items) db ↔
        ∀ variant, soldUnits items variant ≤ db.sellableOf variant := by
  induction items generalizing db with
  | nil =>
      constructor
      · intro _ variant
        exact sellableOf_nonneg sound variant
      · intro _
        exact ⟨(), db, rfl⟩
  | cons item items ih =>
      cases variantEq : item.variant with
      | none =>
          rw [soldUnits_cons_of_eq_none variantEq, ← ih sound]
          unfold Returns
          rw [forItems, bind_of_eq_ok (forItem_of_eq_none _ variantEq db)]
      | some variantId =>
          have sells := commitSale_returns_iff session reference variantId
            sound (Int.natCast_nonneg item.quantity)
          rw [soldUnits_cons_of_eq_some variantEq]
          constructor
          · rintro ⟨_, after, returned⟩ variant
            obtain ⟨_, middle, called, rest⟩ := bind_eq_ok.mp returned
            rw [forItem_of_eq_some _ variantEq] at called
            obtain ⟨amount, draws⟩ := commitSale_eq_ok
              (Int.natCast_nonneg _) sound.reservedInStock called
            have others := (ih (draws.soundRows_sell sound)).mp
              ⟨_, _, rest⟩ variant
            rw [draws.sellableOf_sell variant] at others
            dsimp only at others ⊢
            omega
          · intro enough
            have own := enough variantId
            have othersNonneg := soldUnits_nonneg items variantId
            simp only [if_true] at own
            obtain ⟨_, middle, called⟩ := sells.mpr (by omega)
            obtain ⟨amount, draws⟩ := commitSale_eq_ok
              (Int.natCast_nonneg _) sound.reservedInStock called
            have later := (ih (draws.soundRows_sell sound)).mpr (by
              intro variant
              have total := enough variant
              rw [draws.sellableOf_sell variant]
              dsimp only at total ⊢
              omega)
            unfold Returns
            rw [forItems, forItem_of_eq_some _ variantEq,
              bind_of_eq_ok called]
            exact later

theorem isCommittable_iff (sound : SoundRows db.stocks) (order : Uuid) :
    db.isCommittable order ↔
      ∀ variant, db.unitsOfOrder order variant ≤ db.sellableOf variant := by
  constructor
  · intro committable variant
    by_cases ordered : ∃ item ∈ db.orderItemsOf order,
        item.variant = some variant
    · obtain ⟨item, itemMem, hasVariant⟩ := ordered
      exact committable item itemMem variant hasVariant
    · have noUnits : db.unitsOfOrder order variant = 0 := by
        apply List.sum_eq_zero
        intro units unitsMem
        obtain ⟨item, itemMem, rfl⟩ := List.mem_map.mp unitsMem
        exact if_neg fun hasVariant => ordered ⟨item, itemMem, hasVariant⟩
      rw [noUnits]
      exact sellableOf_nonneg sound variant
  · intro enough item _ variant _
    exact enough variant

/-- The stock of an order can be settled on the way to `paid` exactly if a
sale can find its units. -/
theorem settleStock_paid_iff (sound : SoundRows db.stocks) (order : Order) :
    Returns (settleStock session order .paid) db ↔
      db.isCommittable order.id := by
  rw [isCommittable_iff sound, ← soldUnits_scan session,
    ← commitItems_returns_iff session (toString order.id) sound]
  unfold Returns settleStock
  rw [get_bind]

end Sale

end NovaCommerce
