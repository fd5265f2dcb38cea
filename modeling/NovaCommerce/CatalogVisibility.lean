import NovaCommerce.Catalog

/-!
# What a deletion hides from the catalog

A deletion through the models sets `deletedAt`, and the default manager of a
model hides the row.  The queries of the endpoints name the column for products
only: a deleted category, brand, variant or image that is still active is shown
as before.
-/

namespace NovaCommerce

namespace Catalog

/-- The default manager returns a row with this identifier. -/
def Visible {Row : Type} [IsModel Row] (table : Table Row) (id : Uuid) : Prop :=
  id ∈ (objects table).map Keyed.key

theorem visible_iff {Row : Type} [IsModel Row] {table : Table Row} {row : Row}
    (member : row ∈ table.rows) :
    Visible table (Keyed.key row) ↔ alive row = true := by
  constructor
  · intro visible
    obtain ⟨other, otherMem, sameKey⟩ := List.mem_map.mp visible
    obtain ⟨otherMem, isAlive⟩ := List.mem_filter.mp otherMem
    exact table.eq_of_key_eq otherMem member sameKey ▸ isAlive
  · intro isAlive
    exact List.mem_map_of_mem (List.mem_filter.mpr ⟨member, isAlive⟩)

/-- Every category, brand, variant and image of a response, and every variant
that counts for the price of a listed product, is one that the default manager
returns. -/
structure AgreesOnDeleted (catalog : Catalog) : Prop where
  listCategories : ∀ session parentSlug,
    ∀ out ∈ listCategories session catalog parentSlug,
      Visible catalog.categories out.id
  listBrands : ∀ session, ∀ out ∈ listBrands session catalog,
    Visible catalog.brands out.id
  productDetail : ∀ session slug out,
    productDetail session catalog slug = .ok out →
      (∀ brand ∈ out.brandId, Visible catalog.brands brand) ∧
        (∀ variant ∈ out.variants, Visible catalog.variants variant.id) ∧
        ∀ image ∈ out.images, Visible catalog.images image.id
  variantBySku : ∀ session sku out,
    variantBySku session catalog sku = .ok out →
      Visible catalog.variants out.id
  minPrice : ∀ session query cursor,
    ∀ item ∈ (listProducts session catalog query cursor).items,
      ∀ row ∈ catalog.activeVariants item.id, Visible catalog.variants row.id
  priceFilters : ∀ session query cursor,
    ∀ item ∈ (listProducts session catalog query cursor).items,
      (∀ bound ∈ query.minPrice, ∀ row ∈ catalog.activeVariants item.id,
        bound.isReachedBy row.price = true →
          Visible catalog.variants row.id) ∧
      ∀ bound ∈ query.maxPrice, ∀ row ∈ catalog.activeVariants item.id,
        bound.isKeptBy row.price = true → Visible catalog.variants row.id

/-- No deleted row is one that the endpoints show: an active category that is a
root or has a parent with a slug, an active brand, an active variant of a
product, or an image or the brand of an active product that is not deleted. -/
structure DeletedAreInactive (catalog : Catalog) : Prop where
  categories : ∀ row ∈ catalog.categories.rows, row.isActive = true →
    (row.parent = none ∨ ∃ parent ∈ catalog.categories.rows,
      row.parent = some parent.id ∧ parent.slug ≠ "") → alive row = true
  brands : ∀ row ∈ catalog.brands.rows, row.isActive = true → alive row = true
  variants : ∀ row ∈ catalog.variants.rows, row.isActive = true →
    row.product ∈ catalog.products.keys → alive row = true
  ofProducts : ∀ product ∈ catalog.products.rows,
    product.status = .active → alive product = true →
      (∀ brand ∈ product.brand, Visible catalog.brands brand) ∧
      ∀ row ∈ catalog.images.rows, row.product = product.id →
        alive row = true

variable {catalog : Catalog} {session : Session}

theorem isChildOf_iff {slug : String} {row : Category} :
    catalog.isChildOf slug row = true ↔
      row.isActive = true ∧ ∃ parent ∈ catalog.categories.rows,
        row.parent = some parent.id ∧ parent.slug = slug := by
  rw [isChildOf, Bool.and_eq_true, Option.any_eq_true]
  refine and_congr_right fun _ => ?_
  constructor
  · rintro ⟨parent, found, hasSlug⟩
    obtain ⟨id, isParent, found⟩ := Option.bind_eq_some_iff.mp found
    obtain ⟨member, hasKey⟩ := Table.find?_eq_some.mp found
    exact ⟨parent, member, isParent.trans (congrArg some hasKey.symm),
      of_decide_eq_true hasSlug⟩
  · rintro ⟨parent, member, isParent, hasSlug⟩
    refine ⟨parent, ?_, decide_eq_true hasSlug⟩
    rw [isParent, Option.bind_some]
    exact Table.find?_eq_some.mpr ⟨member, rfl⟩

theorem mem_listCategories {parentSlug : Option String} {out : CategoryOut} :
    out ∈ listCategories session catalog parentSlug ↔
      ∃ row ∈ catalog.categories.rows, row.out = out ∧ row.isActive = true ∧
        if parentSlug.getD "" = "" then row.parent = none
        else ∃ parent ∈ catalog.categories.rows,
          row.parent = some parent.id ∧
            parent.slug = parentSlug.getD "" := by
  by_cases isRoot : parentSlug.getD "" = ""
  · simp only [listCategories, isRoot, ne_eq, not_true_eq_false, if_false,
      if_true, List.mem_map, Session.mem_selectBy, Bool.and_eq_true,
      Option.isNone_iff_eq_none]
    grind
  · simp only [listCategories, isRoot, ne_eq, not_false_eq_true, if_true,
      if_false, List.mem_map, Session.mem_selectBy, isChildOf_iff]
    grind

theorem mem_listBrands {out : BrandOut} :
    out ∈ listBrands session catalog ↔
      ∃ row ∈ catalog.brands.rows, row.out = out ∧ row.isActive = true := by
  simp only [listBrands, List.mem_map, Session.mem_selectBy]
  constructor
  · rintro ⟨row, ⟨member, isActive⟩, rfl⟩
    exact ⟨row, member, rfl, isActive⟩
  · rintro ⟨row, member, rfl, isActive⟩
    exact ⟨row, ⟨member, isActive⟩, rfl⟩

/-- The first of the rows that a query for a unique value selects. -/
theorem head?_select_eq_some {Row : Type} [IsModel Row] {table : Table Row}
    {condition : Row → Bool} {row : Row}
    (unique : ∀ other ∈ table.rows, condition other = true → other = row)
    (member : row ∈ table.rows) (meets : condition row = true) :
    (session.select table condition).head? = some row := by
  have selected : row ∈ session.select table condition :=
    Session.mem_select.mpr ⟨member, meets⟩
  cases found : session.select table condition with
  | nil =>
      rw [found] at selected
      cases selected
  | cons first rest =>
      have firstMem : first ∈ session.select table condition := by
        simp [found]
      obtain ⟨firstMem, firstMeets⟩ := Session.mem_select.mp firstMem
      rw [List.head?_cons, unique first firstMem firstMeets]

theorem productDetail_eq_ok {slug : String} {out : ProductDetailOut} :
    productDetail session catalog slug = .ok out ↔
      ∃ product ∈ catalog.products.rows, product.slug = slug ∧
        product.status = .active ∧ alive product = true ∧
        catalog.detailOut session product = out := by
  unfold productDetail
  dsimp only
  constructor
  · intro shown
    split at shown
    · cases shown
    · next product found =>
        obtain ⟨member, meets⟩ :=
          Session.mem_select.mp (List.mem_of_mem_head? found)
        simp only [Bool.and_eq_true, decide_eq_true_eq] at meets
        exact ⟨product, member, meets.1.1, meets.1.2, meets.2,
          Except.ok.inj shown⟩
  · rintro ⟨product, member, hasSlug, isActive, isAlive, rfl⟩
    have found : (session.select catalog.products fun product =>
        product.slug = slug && product.status = .active &&
          product.deletedAt.isNone).head? = some product := by
      apply head?_select_eq_some _ member
      · simp only [Bool.and_eq_true, decide_eq_true_eq]
        exact ⟨⟨hasSlug, isActive⟩, isAlive⟩
      · intro other otherMem meets
        simp only [Bool.and_eq_true, decide_eq_true_eq] at meets
        exact List.inj_on_of_nodup_map catalog.slugs_nodup otherMem member
          (meets.1.1.trans hasSlug.symm)
    rw [found]

theorem variantBySku_eq_ok {sku : String} {id : Uuid} :
    (∃ out, variantBySku session catalog sku = .ok out ∧ out.id = id) ↔
      ∃ row ∈ catalog.variants.rows, row.sku = sku ∧ row.isActive = true ∧
        row.product ∈ catalog.products.keys ∧ row.id = id := by
  unfold variantBySku
  dsimp only
  constructor
  · rintro ⟨out, shown, rfl⟩
    split at shown
    · cases shown
    · next row product found =>
        obtain ⟨other, selected, joined⟩ :=
          List.mem_filterMap.mp (List.mem_of_mem_head? found)
        obtain ⟨_, hasProduct, pair_eq⟩ := Option.map_eq_some_iff.mp joined
        obtain ⟨rfl, rfl⟩ := Prod.mk.inj pair_eq
        obtain ⟨member, meets⟩ := Session.mem_select.mp selected
        simp only [Bool.and_eq_true, decide_eq_true_eq] at meets
        obtain ⟨productMem, hasKey⟩ := Table.find?_eq_some.mp hasProduct
        refine ⟨other, member, meets.1, meets.2, ?_, ?_⟩
        · exact hasKey ▸ List.mem_map_of_mem productMem
        · rw [← Except.ok.inj shown]
          rfl
  · rintro ⟨row, member, hasSku, isActive, hasProduct, rfl⟩
    have first : (session.select catalog.variants fun row =>
        row.sku = sku && row.isActive).head? = some row := by
      apply head?_select_eq_some _ member
      · simp [hasSku, isActive]
      · intro other otherMem meets
        rw [Bool.and_eq_true, decide_eq_true_eq] at meets
        exact List.inj_on_of_nodup_map catalog.skus_nodup otherMem member
          (meets.1.trans hasSku.symm)
    obtain ⟨rest, selected⟩ := List.head?_eq_some_iff.mp first
    cases found : catalog.products.find? row.product with
    | none => exact (Table.find?_eq_none.mp found hasProduct).elim
    | some product =>
        rw [selected]
        simp only [List.filterMap_cons, found, Option.map_some,
          List.head?_cons]
        exact ⟨_, rfl, rfl⟩

theorem mem_listProducts {query : ProductQuery} {cursor : Option Time}
    {item : ProductOut}
    (itemMem : item ∈ (listProducts session catalog query cursor).items) :
    ∃ product ∈ catalog.products.rows,
      catalog.isListed query product = true ∧
        catalog.productOut session product = item := by
  have shown : item ∈ (session.select catalog.products fun product =>
      catalog.isListed query product &&
        cursor.all fun cursor => product.createdAt < cursor).map
          (catalog.productOut session) := by
    rw [listProducts] at itemMem
    dsimp only at itemMem
    split at itemMem
    · exact (List.perm_insertionSort _ _).subset
        (List.mem_of_mem_take (List.mem_of_mem_take itemMem))
    · exact (List.perm_insertionSort _ _).subset (List.mem_of_mem_take itemMem)
  obtain ⟨product, selected, rfl⟩ := List.mem_map.mp shown
  obtain ⟨member, meets⟩ := Session.mem_select.mp selected
  exact ⟨product, member, (Bool.and_eq_true_iff.mp meets).1, rfl⟩

theorem AgreesOnDeleted.deletedAreInactive (agrees : catalog.AgreesOnDeleted) :
    catalog.DeletedAreInactive := by
  let session : Session := { now := 0 }
  refine ⟨?_, ?_, ?_, ?_⟩
  · intro row member isActive place
    apply (visible_iff member).mp
    rcases place with isRoot | ⟨parent, parentMem, isParent, hasSlug⟩
    · exact agrees.listCategories session none row.out
        (mem_listCategories.mpr ⟨row, member, rfl, isActive, isRoot⟩)
    · refine agrees.listCategories session (some parent.slug) row.out
        (mem_listCategories.mpr ⟨row, member, rfl, isActive, ?_⟩)
      rw [Option.getD_some, if_neg hasSlug]
      exact ⟨parent, parentMem, isParent, rfl⟩
  · intro row member isActive
    exact (visible_iff member).mp (agrees.listBrands session row.out
      (mem_listBrands.mpr ⟨row, member, rfl, isActive⟩))
  · intro row member isActive hasProduct
    obtain ⟨out, shown, sameId⟩ := variantBySku_eq_ok.mpr
      ⟨row, member, rfl, isActive, hasProduct, rfl⟩
    apply (visible_iff member).mp
    have visible := agrees.variantBySku session row.sku out shown
    rw [sameId] at visible
    exact visible
  · intro product member isActive isAlive
    obtain ⟨brandVisible, _, imagesVisible⟩ := agrees.productDetail session
      product.slug _ (productDetail_eq_ok.mpr
        ⟨product, member, rfl, isActive, isAlive, rfl⟩)
    refine ⟨brandVisible, ?_⟩
    intro row rowMem ofProduct
    apply (visible_iff rowMem).mp
    refine imagesVisible row.out (List.mem_map_of_mem ?_)
    exact Session.mem_selectBy.mpr ⟨rowMem, decide_eq_true ofProduct⟩

theorem DeletedAreInactive.visible_of_listed
    (inactive : catalog.DeletedAreInactive) {product : Product}
    (productMem : product ∈ catalog.products.rows) {row : ProductVariant}
    (listed : row ∈ catalog.activeVariants product.id) :
    Visible catalog.variants row.id := by
  obtain ⟨member, meets⟩ := List.mem_filter.mp listed
  rw [Bool.and_eq_true, decide_eq_true_eq] at meets
  refine (visible_iff member).mpr (inactive.variants row member meets.2 ?_)
  exact meets.1 ▸ List.mem_map_of_mem productMem

theorem DeletedAreInactive.agreesOnDeleted
    (inactive : catalog.DeletedAreInactive) : catalog.AgreesOnDeleted := by
  have ofItem : ∀ session query cursor,
      ∀ item ∈ (NovaCommerce.listProducts session catalog query
        cursor).items, ∀ row ∈ catalog.activeVariants item.id,
          Visible catalog.variants row.id := by
    intro session query cursor item itemMem
    obtain ⟨product, member, _, rfl⟩ := mem_listProducts itemMem
    exact fun row listed => inactive.visible_of_listed member listed
  refine ⟨?_, ?_, ?_, ?_, ofItem, ?_⟩
  · intro session parentSlug out outMem
    obtain ⟨row, member, rfl, isActive, place⟩ :=
      mem_listCategories.mp outMem
    refine (visible_iff member).mpr
      (inactive.categories row member isActive ?_)
    split at place
    · exact Or.inl place
    · next hasSlug =>
        obtain ⟨parent, parentMem, isParent, sameSlug⟩ := place
        exact Or.inr ⟨parent, parentMem, isParent, sameSlug ▸ hasSlug⟩
  · intro session out outMem
    obtain ⟨row, member, rfl, isActive⟩ := mem_listBrands.mp outMem
    exact (visible_iff member).mpr (inactive.brands row member isActive)
  · intro session slug out shown
    obtain ⟨product, member, _, isActive, isAlive, rfl⟩ :=
      productDetail_eq_ok.mp shown
    obtain ⟨brandVisible, imagesAlive⟩ :=
      inactive.ofProducts product member isActive isAlive
    refine ⟨brandVisible, ?_, ?_⟩
    · intro out outMem
      obtain ⟨row, listed, rfl⟩ := List.mem_map.mp outMem
      obtain ⟨rowMem, meets⟩ := Session.mem_selectBy.mp listed
      exact inactive.visible_of_listed member
        (List.mem_filter.mpr ⟨rowMem, meets⟩)
    · intro out outMem
      obtain ⟨row, listed, rfl⟩ := List.mem_map.mp outMem
      obtain ⟨rowMem, ofProduct⟩ := Session.mem_selectBy.mp listed
      exact (visible_iff rowMem).mpr
        (imagesAlive row rowMem (of_decide_eq_true ofProduct))
  · intro session sku out shown
    obtain ⟨row, member, _, isActive, hasProduct, sameId⟩ :=
      variantBySku_eq_ok.mp ⟨out, shown, rfl⟩
    rw [← sameId]
    exact (visible_iff member).mpr
      (inactive.variants row member isActive hasProduct)
  · intro session query cursor item itemMem
    have visible := ofItem session query cursor item itemMem
    exact ⟨fun _ _ row listed _ => visible row listed,
      fun _ _ row listed _ => visible row listed⟩

/-- The responses hold no deleted row exactly when no deleted row is one that
they show. -/
theorem agrees_on_deleted_iff (catalog : Catalog) :
    catalog.AgreesOnDeleted ↔ catalog.DeletedAreInactive :=
  ⟨AgreesOnDeleted.deletedAreInactive, DeletedAreInactive.agreesOnDeleted⟩

/-- `category.delete()`. -/
def deleteCategory (session : Session) (id : Uuid) (catalog : Catalog) :
    Catalog :=
  { catalog with
    categories := catalog.categories.alter
      (fun row => if row.id = id then
        { row with deletedAt := some session.now } else row)
      (by
        intro row
        split <;> rfl) }

/-- A catalog with one category. -/
def oneCategory : Catalog :=
  { empty with
    categories := ⟨[
        { id := 1, createdAt := 0, name := "Tees", slug := "tees" }],
      by decide⟩ }

/-- A deleted category is still listed. -/
theorem deleted_category_listed :
    ¬(oneCategory.deleteCategory { now := 5 } 1).AgreesOnDeleted := by
  intro agrees
  have visible := agrees.listCategories { now := 9 } none
    ⟨1, "Tees", "tees", none, true, 0⟩ (by decide +kernel)
  revert visible
  unfold Visible
  decide

end Catalog

end NovaCommerce
