import NovaCommerce.Database
import Mathlib.Algebra.Order.Field.Rat
import Mathlib.Data.Int.ConditionallyCompleteOrder
import Mathlib.Data.NNRat.Defs
import Mathlib.Data.Prod.Lex
import Mathlib.Data.String.Basic
import Mathlib.Order.WithBot

/-!
# The catalog endpoints

The catalog is written through the models of one service and read by another
one, which has its own queries on the same tables.  The endpoints are modelled
as they compute a response that is not cached.  Their queries see every row of
a table: what a manager hides has to be excluded by a condition of the query.
Names are compared by their characters.
-/

namespace NovaCommerce

namespace Catalog

structure Brand extends TimeStampedUUIDModel where
  name : String
  slug : String
  isActive : Bool := true
  deriving DecidableEq, Repr

structure Category extends TimeStampedUUIDModel where
  parent : Option Uuid := none
  name : String
  slug : String
  sortOrder : Nat := 0
  isActive : Bool := true
  deriving DecidableEq, Repr

inductive ProductStatus where
  | draft
  | active
  | archived
  deriving DecidableEq, Repr

/-- The average rating is in hundredths. -/
structure Product extends NovaCommerce.Product where
  slug : String
  shortDescription : String := ""
  description : String := ""
  brand : Option Uuid := none
  status : ProductStatus := .draft
  isFeatured : Bool := false
  ratingAvg : Int := 0
  ratingCount : Nat := 0
  soldCount : Nat := 0
  metadata : Json := .obj []

structure ProductVariant extends NovaCommerce.ProductVariant where
  name : String := ""
  compareAtPrice : Option Cents := none
  isDefault : Bool := false

structure ProductImage extends TimeStampedUUIDModel where
  product : Uuid
  variant : Option Uuid := none
  image : String
  altText : String := ""
  sortOrder : Nat := 0
  isPrimary : Bool := false
  deriving DecidableEq, Repr

instance : IsModel Brand := ⟨Brand.toTimeStampedUUIDModel⟩
instance : IsModel Category := ⟨Category.toTimeStampedUUIDModel⟩
instance : IsModel Product := ⟨fun row => row.toTimeStampedUUIDModel⟩
instance : IsModel ProductVariant := ⟨fun row => row.toTimeStampedUUIDModel⟩
instance : IsModel ProductImage := ⟨ProductImage.toTimeStampedUUIDModel⟩

end Catalog

/-- The tables of the catalog; `productCategories` has a pair for every product
in a category.  A slug names one brand or one product, and a SKU one variant. -/
structure Catalog where
  categories : Table Catalog.Category := ∅
  brands : Table Catalog.Brand := ∅
  products : Table Catalog.Product := ∅
  variants : Table Catalog.ProductVariant := ∅
  images : Table Catalog.ProductImage := ∅
  productCategories : List (Uuid × Uuid) := []
  brandSlugs_nodup : (brands.rows.map Catalog.Brand.slug).Nodup := by decide
  slugs_nodup : (products.rows.map Catalog.Product.slug).Nodup := by decide
  skus_nodup : (variants.rows.map fun row => row.sku).Nodup := by decide

/-- A catalog without rows. -/
def Catalog.empty : Catalog where

/-- A price that a query names: a float that is not negative, as the number
that it is. -/
inductive PriceBound where
  | finite (amount : ℚ≥0)
  | infinite

namespace PriceBound

/-- `price >= bound`. -/
def isReachedBy : PriceBound → Cents → Bool
  | finite amount, price => (amount : ℚ) * 100 ≤ price
  | infinite, _ => false

/-- `price <= bound`. -/
def isKeptBy : PriceBound → Cents → Bool
  | finite amount, price => (price : ℚ) ≤ amount * 100
  | infinite, _ => true

end PriceBound

inductive ProductSort where
  | newest
  | popular
  | priceAsc
  | priceDesc
  deriving DecidableEq, Repr

/-- The query parameters of `list_products` but for its cursor. -/
structure ProductQuery where
  pageSize : Nat := 24
  pageSize_pos : 1 ≤ pageSize := by decide
  pageSize_le : pageSize ≤ 100 := by decide
  category : Option String := none
  brand : Option String := none
  minPrice : Option PriceBound := none
  maxPrice : Option PriceBound := none
  sort : ProductSort := .newest

structure HTTPException where
  statusCode : Nat
  detail : String
  deriving DecidableEq, Repr

structure CategoryOut where
  id : Uuid
  name : String
  slug : String
  parentId : Option Uuid
  isActive : Bool
  sortOrder : Nat
  deriving DecidableEq, Repr

structure BrandOut where
  id : Uuid
  name : String
  slug : String
  isActive : Bool
  deriving DecidableEq, Repr

structure VariantOut where
  id : Uuid
  sku : String
  name : String
  price : Cents
  compareAtPrice : Option Cents
  currency : String
  isDefault : Bool
  isActive : Bool
  attributesSnapshot : Json
  productId : Option Uuid := none
  productSlug : Option String := none
  productName : Option String := none

structure ProductImageOut where
  id : Uuid
  image : String
  altText : String
  sortOrder : Nat
  isPrimary : Bool
  variantId : Option Uuid
  deriving DecidableEq, Repr

structure ProductOut where
  id : Uuid
  name : String
  slug : String
  shortDescription : String
  brandId : Option Uuid
  status : Catalog.ProductStatus
  isFeatured : Bool
  ratingAvg : Int
  ratingCount : Nat
  soldCount : Nat
  createdAt : Time
  minPrice : Option Cents := none
  primaryImage : Option String := none
  deriving DecidableEq, Repr

structure ProductDetailOut extends ProductOut where
  description : String
  metadata : Json
  brandName : Option String
  brandSlug : Option String
  variants : List VariantOut
  images : List ProductImageOut

/-- The cursor is the moment that its text was printed from. -/
structure PaginatedProducts where
  items : List ProductOut
  nextCursor : Option Time
  pageSize : Nat
  deriving DecidableEq, Repr

namespace Session

variable {Row Key : Type} [IsModel Row]

/-- The rows that a condition selects, deleted ones among them. -/
def select (session : Session) (table : Table Row) (condition : Row → Bool) :
    List Row :=
  session.scan Row (table.rows.filter condition)

/-- The selected rows in the order of a key. -/
def selectBy [LinearOrder Key] (session : Session) (table : Table Row)
    (condition : Row → Bool) (key : Row → Key) : List Row :=
  (session.select table condition).insertionSort fun first second =>
    key first ≤ key second

theorem mem_select {session : Session} {table : Table Row}
    {condition : Row → Bool} {row : Row} :
    row ∈ session.select table condition ↔
      row ∈ table.rows ∧ condition row = true := by
  rw [select, (session.scan_perm Row _).mem_iff, List.mem_filter]

theorem mem_selectBy [LinearOrder Key] {session : Session} {table : Table Row}
    {condition : Row → Bool} {key : Row → Key} {row : Row} :
    row ∈ session.selectBy table condition key ↔
      row ∈ table.rows ∧ condition row = true := by
  rw [selectBy, List.mem_insertionSort, mem_select]

end Session

def Catalog.Category.out (row : Catalog.Category) : CategoryOut where
  id := row.id
  name := row.name
  slug := row.slug
  parentId := row.parent
  isActive := row.isActive
  sortOrder := row.sortOrder

/-- `WHERE c.is_active = true AND p.slug = :slug`, where `p` is the parent. -/
def Catalog.isChildOf (catalog : Catalog) (parentSlug : String)
    (row : Catalog.Category) : Bool :=
  row.isActive && (row.parent.bind catalog.categories.find?).any
    fun parent => parent.slug = parentSlug

def listCategories (session : Session) (catalog : Catalog)
    (parentSlug : Option String) : List CategoryOut :=
  let slug := parentSlug.getD ""
  let rows :=
    if slug ≠ "" then
      session.selectBy catalog.categories (catalog.isChildOf slug)
        fun row => toLex (row.sortOrder, row.name)
    else
      session.selectBy catalog.categories
        (fun row => row.isActive && row.parent.isNone)
        fun row => toLex (row.sortOrder, row.name)
  rows.map Catalog.Category.out

def Catalog.Brand.out (row : Catalog.Brand) : BrandOut where
  id := row.id
  name := row.name
  slug := row.slug
  isActive := row.isActive

def listBrands (session : Session) (catalog : Catalog) : List BrandOut :=
  (session.selectBy catalog.brands Catalog.Brand.isActive
    Catalog.Brand.name).map Catalog.Brand.out

namespace Catalog

/-- `FROM catalog_product_variant v WHERE v.product_id = p.id AND v.is_active =
true`. -/
def activeVariants (catalog : Catalog) (product : Uuid) :
    List ProductVariant :=
  catalog.variants.rows.filter fun row => row.product = product && row.isActive

/-- The product is in a category with a slug. -/
def isInCategory (catalog : Catalog) (product : Uuid) (slug : String) : Bool :=
  catalog.productCategories.any fun pair =>
    pair.1 = product &&
      (catalog.categories.find? pair.2).any fun row => row.slug = slug

/-- `p.brand_id = (SELECT id FROM catalog_brand WHERE slug = :brand
LIMIT 1)`. -/
def isOfBrand (catalog : Catalog) (product : Product) (slug : String) : Bool :=
  match catalog.brands.rows.find? fun row => row.slug = slug with
  | some brand => product.brand = some brand.id
  | none => false

/-- A filter for text is left out if the text is empty. -/
def whenGiven (text : Option String) (condition : String → Bool) : Bool :=
  match text with
  | some text => text = "" || condition text
  | none => true

/-- The conditions of `list_products` but for the cursor. -/
def isListed (catalog : Catalog) (query : ProductQuery) (product : Product) :
    Bool :=
  product.status = .active && product.deletedAt.isNone &&
    whenGiven query.category (catalog.isInCategory product.id) &&
    whenGiven query.brand (catalog.isOfBrand product) &&
    query.minPrice.all (fun bound =>
      (catalog.activeVariants product.id).any fun row =>
        bound.isReachedBy row.price) &&
    query.maxPrice.all fun bound =>
      (catalog.activeVariants product.id).any fun row =>
        bound.isKeptBy row.price

/-- `SELECT MIN(v.price)`. -/
def minPrice (catalog : Catalog) (product : Uuid) : Option Cents :=
  ((catalog.activeVariants product).map fun row => row.price).min?

/-- `ORDER BY i.is_primary DESC, i.sort_order`. -/
def imagesOf (catalog : Catalog) (session : Session) (product : Uuid) :
    List ProductImage :=
  session.selectBy catalog.images (fun row => row.product = product)
    fun row => toLex (!row.isPrimary, row.sortOrder)

/-- The columns of the list. -/
def productOut (catalog : Catalog) (session : Session) (product : Product) :
    ProductOut where
  id := product.id
  name := product.name
  slug := product.slug
  shortDescription := product.shortDescription
  brandId := product.brand
  status := product.status
  isFeatured := product.isFeatured
  ratingAvg := product.ratingAvg
  ratingCount := product.ratingCount
  soldCount := product.soldCount
  createdAt := product.createdAt
  minPrice := catalog.minPrice product.id
  primaryImage :=
    (catalog.imagesOf session product.id).head?.map ProductImage.image

end Catalog

/-- The first column of the order, ascending and with nulls last. -/
def ProductSort.rank (soldCount : Nat) (minPrice : Option Cents) :
    ProductSort → WithTop Int
  | newest => 0
  | popular => ((-soldCount : Int) : WithTop Int)
  | priceAsc => minPrice.elim ⊤ fun price => (price : WithTop Int)
  | priceDesc => minPrice.elim ⊤ fun price => ((-price : Int) : WithTop Int)

abbrev SortKey := WithTop Int ×ₗ Timeᵒᵈ

/-- `ORDER BY rank ASC NULLS LAST, p.created_at DESC`. -/
def ProductOut.key (sort : ProductSort) (item : ProductOut) : SortKey :=
  toLex (sort.rank item.soldCount item.minPrice,
    OrderDual.toDual item.createdAt)

def listProducts (session : Session) (catalog : Catalog) (query : ProductQuery)
    (cursor : Option Time) : PaginatedProducts :=
  let selected := session.select catalog.products fun product =>
    catalog.isListed query product &&
      cursor.all fun cursor => product.createdAt < cursor
  let sorted := (selected.map (catalog.productOut session)).insertionSort
    fun first second => first.key query.sort ≤ second.key query.sort
  let items := sorted.take (query.pageSize + 1)
  let hasMore := query.pageSize < items.length
  let items := if hasMore then items.take query.pageSize else items
  { items
    nextCursor :=
      if hasMore then items.getLast?.map ProductOut.createdAt else none
    pageSize := query.pageSize }

namespace Catalog

def ProductVariant.out (row : ProductVariant) : VariantOut where
  id := row.id
  sku := row.sku
  name := row.name
  price := row.price
  compareAtPrice := row.compareAtPrice
  currency := row.currency
  isDefault := row.isDefault
  isActive := row.isActive
  attributesSnapshot := row.attributesSnapshot

def ProductImage.out (row : ProductImage) : ProductImageOut where
  id := row.id
  image := row.image
  altText := row.altText
  sortOrder := row.sortOrder
  isPrimary := row.isPrimary
  variantId := row.variant

/-- The columns, variants and images of one product. -/
def detailOut (catalog : Catalog) (session : Session) (product : Product) :
    ProductDetailOut :=
  let brand := product.brand.bind catalog.brands.find?
  let variants := session.selectBy catalog.variants
    (fun row => row.product = product.id && row.isActive)
    fun row => toLex (!row.isDefault, row.name)
  { id := product.id
    name := product.name
    slug := product.slug
    shortDescription := product.shortDescription
    description := product.description
    brandId := product.brand
    status := product.status
    isFeatured := product.isFeatured
    ratingAvg := product.ratingAvg
    ratingCount := product.ratingCount
    soldCount := product.soldCount
    metadata := product.metadata
    createdAt := product.createdAt
    brandName := brand.map Brand.name
    brandSlug := brand.map Brand.slug
    variants := variants.map ProductVariant.out
    images := (catalog.imagesOf session product.id).map ProductImage.out }

end Catalog

def productDetail (session : Session) (catalog : Catalog) (slug : String) :
    Except HTTPException ProductDetailOut :=
  let found := session.select catalog.products fun product =>
    product.slug = slug && product.status = .active &&
      product.deletedAt.isNone
  match found.head? with
  | none => .error ⟨404, "product not found"⟩
  | some product => .ok (catalog.detailOut session product)

def variantBySku (session : Session) (catalog : Catalog) (sku : String) :
    Except HTTPException VariantOut :=
  let found := (session.select catalog.variants fun row =>
    row.sku = sku && row.isActive).filterMap fun row =>
      (catalog.products.find? row.product).map fun product => (row, product)
  match found.head? with
  | none => .error ⟨404, "variant not found"⟩
  | some (row, product) => .ok {
      row.out with
      productId := some row.product
      productSlug := some product.slug
      productName := some product.name }

end NovaCommerce
