import NovaCommerce.CatalogVisibility
import NovaCommerce.ReadThrough

/-!
# The cache of the catalog

Three endpoints keep their answers in one cache, under keys that a client
chooses in part.  The key of the root categories is the one of the children of
a category with the slug `root`, so that the two listings are answered with each
other's rows until the entry expires.  No other requests share a key.

What `orjson` writes is a parameter: the answers that it can not write, such as
those with decimals, are not stored.
-/

namespace NovaCommerce

open ReadThrough Catalog

/-- The requests of the cached endpoints. -/
inductive CatalogRequest where
  | listCategories (parentSlug : Option String)
  | listBrands
  | productDetail (slug : String)
  deriving DecidableEq, Repr

/-- What a cached endpoint returns. -/
inductive CatalogAnswer where
  | categories (rows : List CategoryOut)
  | brands (rows : List BrandOut)
  | product (out : ProductDetailOut)

/-- Python's truth value: of a list whether it has items. -/
def CatalogAnswer.truthy : CatalogAnswer → Bool
  | categories rows => !rows.isEmpty
  | brands rows => !rows.isEmpty
  | product _ => true

/-- How `orjson` writes and reads an answer: `dumps` is empty where it
raises. -/
structure Orjson (Document : Type) where
  dumps : CatalogAnswer → Option Document
  loads : Document → Option CatalogAnswer

namespace Orjson

variable {Document : Type} (orjson : Orjson Document)

/-- What is written is read as the same answer. -/
def RoundTrip : Prop :=
  ∀ answer document, orjson.dumps answer = some document →
    orjson.loads document = some answer

/-- The rows of categories have columns that `orjson` writes: identifiers,
text, flags and integers. -/
def WritesCategories : Prop :=
  ∀ rows, (orjson.dumps (.categories rows)).isSome = true

end Orjson

namespace CatalogRequest

/-- `parent_slug` is absent or empty. -/
def isRoot : CatalogRequest → Bool
  | listCategories parentSlug => parentSlug.getD "" = ""
  | _ => false

/-- `parent_slug or 'root'`. -/
def slugOrRoot (parentSlug : Option String) : String :=
  if parentSlug.getD "" = "" then "root" else parentSlug.getD ""

def cacheKey : CatalogRequest → String
  | listCategories parentSlug => "catalog:categories:" ++ slugOrRoot parentSlug
  | listBrands => "catalog:brands"
  | productDetail slug => "catalog:product:" ++ slug

/-- The answer that the endpoint computes if it finds nothing in the cache. -/
def compute (session : Session) (catalog : Catalog) :
    CatalogRequest → Except HTTPException CatalogAnswer
  | listCategories parentSlug =>
      .ok (.categories (NovaCommerce.listCategories session catalog parentSlug))
  | listBrands => .ok (.brands (NovaCommerce.listBrands session catalog))
  | productDetail slug =>
      (NovaCommerce.productDetail session catalog slug).map .product

end CatalogRequest

/-- The cached endpoints on one state of the catalog. -/
def cachedCatalog {Document : Type} (orjson : Orjson Document)
    (session : Session) (catalog : Catalog) :
    ReadThrough.Service CatalogRequest String CatalogAnswer HTTPException
      Document where
  key := CatalogRequest.cacheKey
  compute := CatalogRequest.compute session catalog
  truthy := CatalogAnswer.truthy
  dumps := orjson.dumps
  loads := orjson.loads

abbrev CacheEvent := Event CatalogRequest String

namespace CatalogRequest

theorem categoriesKey_ne_brandsKey (slug : String) :
    "catalog:categories:" ++ slug ≠ "catalog:brands" := by
  intro same
  have sameChars := congrArg String.toList same
  rw [String.toList_append] at sameChars
  simp at sameChars

theorem productKey_ne_brandsKey (slug : String) :
    "catalog:product:" ++ slug ≠ "catalog:brands" := by
  intro same
  have sameChars := congrArg String.toList same
  rw [String.toList_append] at sameChars
  simp at sameChars

theorem categoriesKey_ne_productKey (slug other : String) :
    "catalog:categories:" ++ slug ≠ "catalog:product:" ++ other := by
  intro same
  have sameChars := congrArg String.toList same
  rw [String.toList_append, String.toList_append] at sameChars
  simp at sameChars

/-- A request for the root categories, or for the children of `root`. -/
def AsksRoot (request : CatalogRequest) : Prop :=
  request.isRoot = true ∨ request = listCategories (some "root")

theorem asksRoot_of_slugOrRoot {parentSlug : Option String}
    (isRoot : slugOrRoot parentSlug = "root") :
    (listCategories parentSlug).AsksRoot := by
  unfold slugOrRoot at isRoot
  cases parentSlug with
  | none => exact Or.inl rfl
  | some slug =>
      by_cases empty : slug = ""
      · exact Or.inl (decide_eq_true empty)
      · right
        simp only [Option.getD_some, empty, if_false] at isRoot
        rw [isRoot]

/-- Requests share a key only if they are the same, or if each asks for the root
categories or for the children of `root`. -/
theorem eq_or_asksRoot_of_cacheKey_eq {first second : CatalogRequest}
    (sameKey : first.cacheKey = second.cacheKey) :
    first = second ∨ first.AsksRoot ∧ second.AsksRoot := by
  cases first with
  | listCategories parent =>
      cases second with
      | listCategories other =>
          have sameSlug : slugOrRoot parent = slugOrRoot other :=
            (String.append_right_inj _).mp sameKey
          by_cases isRoot : slugOrRoot parent = "root"
          · exact Or.inr ⟨asksRoot_of_slugOrRoot isRoot,
              asksRoot_of_slugOrRoot (sameSlug ▸ isRoot)⟩
          · left
            unfold slugOrRoot at sameSlug isRoot
            cases parent <;> cases other <;> grind
      | listBrands => exact (categoriesKey_ne_brandsKey _ sameKey).elim
      | productDetail slug =>
          exact (categoriesKey_ne_productKey _ _ sameKey).elim
  | listBrands =>
      cases second with
      | listCategories other =>
          exact (categoriesKey_ne_brandsKey _ sameKey.symm).elim
      | listBrands => exact Or.inl rfl
      | productDetail slug =>
          exact (productKey_ne_brandsKey _ sameKey.symm).elim
  | productDetail slug =>
      cases second with
      | listCategories other =>
          exact (categoriesKey_ne_productKey _ _ sameKey.symm).elim
      | listBrands => exact (productKey_ne_brandsKey _ sameKey).elim
      | productDetail other =>
          exact Or.inl (congrArg productDetail
            ((String.append_right_inj _).mp sameKey))

variable {session : Session} {catalog : Catalog}

theorem compute_of_isRoot {request : CatalogRequest}
    (isRoot : request.isRoot = true) :
    request.compute session catalog =
      .ok (.categories (NovaCommerce.listCategories session catalog none)) := by
  cases request with
  | listCategories parentSlug =>
      have empty : parentSlug.getD "" = "" := of_decide_eq_true isRoot
      simp [compute, NovaCommerce.listCategories, empty]
  | listBrands => cases isRoot
  | productDetail slug => cases isRoot

end CatalogRequest

/-- The run does not ask both for the root categories and for the children of
`root`. -/
def NotMixed (events : List CacheEvent) : Prop :=
  (∀ request, .request request ∈ events →
      request ≠ .listCategories (some "root")) ∨
    ∀ request : CatalogRequest, .request request ∈ events →
      request.isRoot = false

/-- Neither the root nor the children of a category `root` have an active
category. -/
def Catalog.NoRootListings (catalog : Catalog) : Prop :=
  ∀ row ∈ catalog.categories.rows, row.isActive = true →
    row.parent ≠ none ∧ ∀ parent ∈ catalog.categories.rows,
      row.parent = some parent.id → parent.slug ≠ "root"

section Transparency

variable {Document : Type} {orjson : Orjson Document} {session : Session}
  {catalog : Catalog}

/-- The keys agree among requests that do not ask for both root listings. -/
theorem keysAgree_of_notMixed (allowed : CatalogRequest → Prop)
    (sameRoot : ∀ first second, allowed first → allowed second →
      first.AsksRoot → second.AsksRoot →
        first.compute session catalog = second.compute session catalog) :
    (cachedCatalog orjson session catalog).KeysAgree allowed := by
  intro first second firstAllowed secondAllowed sameKey answer computed _ _
  rcases CatalogRequest.eq_or_asksRoot_of_cacheKey_eq sameKey with
    rfl | ⟨firstRoot, secondRoot⟩
  · exact computed
  · have same := sameRoot first second firstAllowed secondAllowed firstRoot
      secondRoot
    exact same.symm.trans computed

theorem transparent_of_notMixed (roundTrip : orjson.RoundTrip)
    (events : List CacheEvent) (notMixed : NotMixed events) :
    (cachedCatalog orjson session catalog).Transparent events := by
  have readBack : (cachedCatalog orjson session catalog).RoundTrip := roundTrip
  rcases notMixed with noChildren | noRoot
  · refine Service.transparent_of_keysAgree readBack
      (keysAgree_of_notMixed _ ?_) events noChildren
    intro first second firstAllowed secondAllowed firstRoot secondRoot
    rw [CatalogRequest.compute_of_isRoot (firstRoot.resolve_right firstAllowed),
      CatalogRequest.compute_of_isRoot (secondRoot.resolve_right secondAllowed)]
  · refine Service.transparent_of_keysAgree readBack
      (keysAgree_of_notMixed _ ?_) events noRoot
    intro first second firstAllowed secondAllowed firstRoot secondRoot
    have firstEq := firstRoot.resolve_left (by simp [firstAllowed])
    have secondEq := secondRoot.resolve_left (by simp [secondAllowed])
    rw [firstEq, secondEq]

/-- The two root listings have no row in common: the rows of one have a
parent. -/
theorem not_mem_both {out : CategoryOut}
    (isRoot : out ∈ listCategories session catalog none)
    (isChild : out ∈ listCategories session catalog (some "root")) : False := by
  obtain ⟨row, _, rfl, _, noParent⟩ := mem_listCategories.mp isRoot
  obtain ⟨other, _, sameOut, _, parent⟩ := mem_listCategories.mp isChild
  rw [Option.getD_none, if_pos rfl] at noParent
  rw [Option.getD_some, if_neg (by decide)] at parent
  obtain ⟨parent, _, isParent, _⟩ := parent
  have sameParent : other.parent = row.parent :=
    congrArg CategoryOut.parentId sameOut
  rw [isParent, noParent] at sameParent
  cases sameParent

/-- A row of one root listing has to be a row of the other one, if the keys
agree. -/
theorem mem_of_keysAgree (writes : orjson.WritesCategories)
    (agree : (cachedCatalog orjson session catalog).KeysAgree fun _ => True)
    {first second : Option String}
    (sameSlug : CatalogRequest.slugOrRoot first =
      CatalogRequest.slugOrRoot second) {out : CategoryOut}
    (listed : out ∈ listCategories session catalog first) :
    out ∈ listCategories session catalog second := by
  have usable : CatalogAnswer.truthy
      (.categories (listCategories session catalog first)) = true := by
    simp [CatalogAnswer.truthy, List.ne_nil_of_mem listed]
  have computed := agree (.listCategories first) (.listCategories second)
    trivial trivial (congrArg ("catalog:categories:" ++ ·) sameSlug) _ rfl
    usable (writes _)
  have sameAnswer := Except.ok.inj computed
  rw [CatalogAnswer.categories.inj sameAnswer]
  exact listed

theorem noRootListings_of_keysAgree (writes : orjson.WritesCategories)
    (agree : (cachedCatalog orjson session catalog).KeysAgree fun _ => True) :
    catalog.NoRootListings := by
  intro row member isActive
  constructor
  · intro isRoot
    have listed : row.out ∈ listCategories session catalog none :=
      mem_listCategories.mpr ⟨row, member, rfl, isActive, by simp [isRoot]⟩
    exact not_mem_both listed
      (mem_of_keysAgree writes agree (by decide) listed)
  · intro parent parentMem isParent hasSlug
    have listed : row.out ∈ listCategories session catalog (some "root") := by
      refine mem_listCategories.mpr ⟨row, member, rfl, isActive, ?_⟩
      rw [Option.getD_some, if_neg (by decide)]
      exact ⟨parent, parentMem, isParent, hasSlug⟩
    exact not_mem_both (mem_of_keysAgree writes agree (by decide) listed)
      listed

/-- Without these rows both root listings are empty. -/
theorem listCategories_eq_nil (noRows : catalog.NoRootListings)
    {request : CatalogRequest} (asksRoot : request.AsksRoot) :
    request.compute session catalog = .ok (.categories []) := by
  rcases asksRoot with isRoot | rfl
  · rw [CatalogRequest.compute_of_isRoot isRoot]
    have empty : listCategories session catalog none = [] := by
      rw [List.eq_nil_iff_forall_not_mem]
      intro out listed
      obtain ⟨row, member, _, isActive, noParent⟩ :=
        mem_listCategories.mp listed
      exact (noRows row member isActive).1 (by simpa using noParent)
    rw [empty]
  · have empty : listCategories session catalog (some "root") = [] := by
      rw [List.eq_nil_iff_forall_not_mem]
      intro out listed
      obtain ⟨row, member, _, isActive, parent⟩ := mem_listCategories.mp listed
      rw [Option.getD_some, if_neg (by decide)] at parent
      obtain ⟨parent, parentMem, isParent, hasSlug⟩ := parent
      exact (noRows row member isActive).2 parent parentMem isParent hasSlug
    rw [CatalogRequest.compute, empty]

/-- The cache is not noticed in any run that does not mix the two root
listings, and in no run at all exactly if both are empty. -/
theorem catalog_cache_transparent_iff (roundTrip : orjson.RoundTrip)
    (writes : orjson.WritesCategories) (session : Session)
    (catalog : Catalog) :
    (∀ events, NotMixed events →
      (cachedCatalog orjson session catalog).Transparent events) ∧
      ((∀ events, (cachedCatalog orjson session catalog).Transparent events) ↔
        catalog.NoRootListings) := by
  have readBack : (cachedCatalog orjson session catalog).RoundTrip := roundTrip
  have iff := Service.transparent_iff_keysAgree readBack fun _ => True
  refine ⟨fun events => transparent_of_notMixed roundTrip events, ?_⟩
  constructor
  · intro transparent
    exact noRootListings_of_keysAgree writes
      (iff.mp fun events _ => transparent events)
  · intro noRows events
    refine iff.mpr (keysAgree_of_notMixed _ ?_) events fun _ _ => trivial
    intro first second _ _ firstRoot secondRoot
    rw [listCategories_eq_nil noRows firstRoot,
      listCategories_eq_nil noRows secondRoot]

end Transparency

/-- A category with the slug `root` and one below it. -/
def rootedCatalog : Catalog :=
  { Catalog.empty with
    categories := ⟨[
        { id := 1, createdAt := 0, name := "All", slug := "root" },
        { id := 2, createdAt := 0, name := "Tees", slug := "tees",
          parent := some 1 }],
      by decide⟩ }

/-- A document stands for the rows that it lists; the decimals of a product are
not written. -/
def listOrjson : Orjson CatalogAnswer where
  dumps answer :=
    match answer with
    | .product _ => none
    | answer => some answer
  loads := some

theorem listOrjson_roundTrip : listOrjson.RoundTrip := by
  intro answer document written
  cases answer with
  | product out => cases written
  | categories rows => exact written.symm
  | brands rows => exact written.symm

/-- A client asks for the children of `root`, and another one later for the
root categories of the shop. -/
def rootListings : List CacheEvent :=
  [.request (.listCategories (some "root")), .request (.listCategories none)]

/-- The identifiers of the categories in an answer. -/
def listedIds : Except HTTPException CatalogAnswer → List Uuid
  | .ok (.categories rows) => rows.map CategoryOut.id
  | _ => []

/-- The second client is answered with the children of `root`. -/
theorem root_listing_poisoned :
    ¬(cachedCatalog listOrjson { now := 9 } rootedCatalog).Transparent
      rootListings := by
  rintro ⟨_, noticed, _⟩
  have identifiers := congrArg listedIds noticed
  revert identifiers
  decide +kernel

/-- Without a request for the root categories nothing is noticed, and in an
empty catalog nothing ever is. -/
theorem catalog_cache_transparent_iff_rooted :
    (cachedCatalog listOrjson { now := 9 } rootedCatalog).Transparent
        [.request (.listCategories (some "root")), .request .listBrands,
          .expire "catalog:brands",
          .request (.listCategories (some "tees"))] ∧
      ∀ events, (cachedCatalog listOrjson { now := 9 }
        Catalog.empty).Transparent events := by
  have writes : listOrjson.WritesCategories := fun _ => rfl
  constructor
  · refine (catalog_cache_transparent_iff listOrjson_roundTrip writes
      { now := 9 } rootedCatalog).1 _ (Or.inr ?_)
    intro request member
    simp only [List.mem_cons, Event.request.injEq, reduceCtorEq,
      List.not_mem_nil, or_false, false_or] at member
    rcases member with rfl | rfl | rfl
    · decide
    · rfl
    · decide
  · apply (catalog_cache_transparent_iff listOrjson_roundTrip writes
      { now := 9 } Catalog.empty).2.mpr
    intro row member
    cases member

end NovaCommerce
