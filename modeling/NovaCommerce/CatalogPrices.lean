import NovaCommerce.CatalogPaging
import Mathlib.Tactic.Linarith

/-!
# The price filter of the catalog

A range of prices is two conditions of the query, each of which looks for an
active variant of its own.  They select a product that has a variant in the
range, and one whose variants lie on both sides of it as well.
-/

namespace NovaCommerce

namespace PriceBound

/-- The order of the bounds as numbers. -/
def AtMost : PriceBound → PriceBound → Prop
  | finite amount, finite other => amount ≤ other
  | _, infinite => True
  | infinite, finite _ => False

/-- A price below a bound is kept by every bound that is not lower. -/
theorem isKeptBy_of_not_isReachedBy {lo hi : PriceBound} {price : Cents}
    (ordered : lo.AtMost hi) (below : lo.isReachedBy price = false) :
    hi.isKeptBy price = true := by
  cases hi with
  | infinite => rfl
  | finite hi =>
      cases lo with
      | infinite => exact ordered.elim
      | finite lo =>
          have le : (lo : ℚ) ≤ hi := ordered
          have less : (price : ℚ) < lo * 100 :=
            not_le.mp (of_decide_eq_false below)
          exact decide_eq_true (by linarith)

/-- A price above a bound reaches every bound that is not higher. -/
theorem isReachedBy_of_not_isKeptBy {lo hi : PriceBound} {price : Cents}
    (ordered : lo.AtMost hi) (above : hi.isKeptBy price = false) :
    lo.isReachedBy price = true := by
  cases reached : lo.isReachedBy price with
  | true => rfl
  | false =>
      rw [isKeptBy_of_not_isReachedBy ordered reached] at above
      cases above

end PriceBound

/-- The query has a range of prices and no other filter. -/
structure ProductQuery.IsRange (query : ProductQuery) (lo hi : PriceBound) :
    Prop where
  noCategory : query.category = none
  noBrand : query.brand = none
  minPrice : query.minPrice = some lo
  maxPrice : query.maxPrice = some hi

namespace Catalog

/-- An active variant of a product has a price in the range. -/
def HasPriceIn (catalog : Catalog) (lo hi : PriceBound) (product : Product) :
    Prop :=
  ∃ row ∈ catalog.activeVariants product.id,
    lo.isReachedBy row.price = true ∧ hi.isKeptBy row.price = true

/-- The products that are selected are the active ones, not deleted, with a
price in the range. -/
def FiltersByRange (catalog : Catalog) (lo hi : PriceBound) : Prop :=
  ∀ query : ProductQuery, query.IsRange lo hi → ∀ product,
    product ∈ catalog.matching query ↔
      product ∈ catalog.products.rows ∧ product.status = .active ∧
        alive product = true ∧ catalog.HasPriceIn lo hi product

/-- No product that is shown has a variant below and one above the range, but
none within. -/
def NoneStraddles (catalog : Catalog) (lo hi : PriceBound) : Prop :=
  ∀ product ∈ catalog.products.rows, product.status = .active →
    alive product = true →
      ∀ cheaper ∈ catalog.activeVariants product.id,
        ∀ dearer ∈ catalog.activeVariants product.id,
          lo.isReachedBy cheaper.price = false →
            hi.isKeptBy dearer.price = false →
              catalog.HasPriceIn lo hi product

variable {catalog : Catalog} {query : ProductQuery} {lo hi : PriceBound}
  {product : Product}

/-- What the two conditions of a range select. -/
theorem mem_matching_range (range : query.IsRange lo hi) :
    product ∈ catalog.matching query ↔
      product ∈ catalog.products.rows ∧ product.status = .active ∧
        alive product = true ∧
        (∃ row ∈ catalog.activeVariants product.id,
          lo.isReachedBy row.price = true) ∧
        ∃ row ∈ catalog.activeVariants product.id,
          hi.isKeptBy row.price = true := by
  rw [matching, List.mem_filter, isListed, range.noCategory, range.noBrand,
    range.minPrice, range.maxPrice]
  simp only [whenGiven, Bool.and_true, Option.all_some, Bool.and_eq_true,
    decide_eq_true_eq, List.any_eq_true, and_assoc]
  exact Iff.rfl

/-- A price in the range meets both conditions. -/
theorem mem_matching_of_hasPriceIn (range : query.IsRange lo hi)
    (member : product ∈ catalog.products.rows)
    (isActive : product.status = .active) (isAlive : alive product = true)
    (hasPrice : catalog.HasPriceIn lo hi product) :
    product ∈ catalog.matching query := by
  obtain ⟨row, listed, reached, kept⟩ := hasPrice
  exact (mem_matching_range range).mpr
    ⟨member, isActive, isAlive, ⟨row, listed, reached⟩, ⟨row, listed, kept⟩⟩

/-- Prices that meet the two conditions lie in the range, or on its two
sides. -/
theorem hasPriceIn_of_noneStraddles (none : catalog.NoneStraddles lo hi)
    (range : query.IsRange lo hi)
    (selected : product ∈ catalog.matching query) :
    catalog.HasPriceIn lo hi product := by
  obtain ⟨member, isActive, isAlive, ⟨dearer, dearerListed, reached⟩,
    ⟨cheaper, cheaperListed, kept⟩⟩ := (mem_matching_range range).mp selected
  cases dearerKept : hi.isKeptBy dearer.price with
  | true => exact ⟨dearer, dearerListed, reached, dearerKept⟩
  | false =>
      cases cheaperReached : lo.isReachedBy cheaper.price with
      | true => exact ⟨cheaper, cheaperListed, cheaperReached, kept⟩
      | false =>
          exact none product member isActive isAlive cheaper cheaperListed
            dearer dearerListed cheaperReached dearerKept

/-- A range selects the products with a price in it exactly when no product
straddles it. -/
theorem filters_by_range_iff (catalog : Catalog) (ordered : lo.AtMost hi) :
    catalog.FiltersByRange lo hi ↔ catalog.NoneStraddles lo hi := by
  constructor
  · intro filters product member isActive isAlive cheaper cheaperListed dearer
      dearerListed below above
    let query : ProductQuery := { minPrice := some lo, maxPrice := some hi }
    have range : query.IsRange lo hi := ⟨rfl, rfl, rfl, rfl⟩
    have selected : product ∈ catalog.matching query :=
      (mem_matching_range range).mpr ⟨member, isActive, isAlive,
        ⟨dearer, dearerListed,
          PriceBound.isReachedBy_of_not_isKeptBy ordered above⟩,
        ⟨cheaper, cheaperListed,
          PriceBound.isKeptBy_of_not_isReachedBy ordered below⟩⟩
    exact ((filters query range product).mp selected).2.2.2
  · intro none query range product
    constructor
    · intro selected
      obtain ⟨member, isActive, isAlive, _⟩ :=
        (mem_matching_range range).mp selected
      exact ⟨member, isActive, isAlive,
        hasPriceIn_of_noneStraddles none range selected⟩
    · rintro ⟨member, isActive, isAlive, hasPrice⟩
      exact mem_matching_of_hasPriceIn range member isActive isAlive hasPrice

/-- A mug of which there is a small one and a large one. -/
def smallAndLarge : Catalog :=
  { empty with
    products := ⟨[
        { id := 1, createdAt := 5, name := "Nova Mug", slug := "nova-mug",
          status := .active }],
      by decide⟩
    variants := ⟨[
        { id := 2, createdAt := 5, product := 1, sku := "MUG-S",
          price := 1000 },
        { id := 3, createdAt := 5, product := 1, sku := "MUG-L",
          price := 5000 }],
      by decide⟩
    slugs_nodup := by decide
    skus_nodup := by decide }

/-- All prices of the mug are below fifty. -/
theorem filters_by_range_smallAndLarge :
    (PriceBound.finite 10).AtMost .infinite ∧
      smallAndLarge.FiltersByRange (.finite 10) .infinite := by
  have ordered : (PriceBound.finite 10).AtMost .infinite := trivial
  refine ⟨ordered, (filters_by_range_iff smallAndLarge ordered).mpr ?_⟩
  intro _ _ _ _ _ _ _ _ _ above
  cases above

/-- Between twenty and thirty the mug is listed, though it has no price
there. -/
theorem straddling_product_listed :
    (listProducts { now := 9 } smallAndLarge
        { minPrice := some (.finite 20), maxPrice := some (.finite 30) }
        none).items.map ProductOut.id = [1] ∧
      ¬smallAndLarge.FiltersByRange (.finite 20) (.finite 30) := by
  refine ⟨by decide +kernel, ?_⟩
  intro filters
  have listed : ∃ product ∈ smallAndLarge.matching
      { minPrice := some (.finite 20), maxPrice := some (.finite 30) },
      product.id = 1 := by
    decide +kernel
  obtain ⟨product, selected, isMug⟩ := listed
  have between := ((filters _ ⟨rfl, rfl, rfl, rfl⟩ product).mp selected).2.2.2
  have notBetween : ∀ row ∈ smallAndLarge.activeVariants 1,
      ¬((PriceBound.finite 20).isReachedBy row.price = true ∧
        (PriceBound.finite 30).isKeptBy row.price = true) := by
    decide +kernel
  rw [HasPriceIn, isMug] at between
  obtain ⟨row, rowListed, inRange⟩ := between
  exact notBetween row rowListed inRange

end Catalog

end NovaCommerce
