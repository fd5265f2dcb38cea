import NovaCommerce.CatalogCache
import NovaCommerce.RootedWalk

/-!
# Browsing the categories

A client asks the endpoint for the root categories, and then for the children of
every category that it was shown, by its slug.  An empty slug asks for the roots
again, and the slug `root` is answered with them from the cache.  Without one of
these, the client is shown every category below active ones only, once, and
comes to an end, even where parents run in a circle.
-/

namespace NovaCommerce

open ReadThrough RootedWalk

namespace Catalog

/-- The row that the join over `parent_id` finds. -/
def parentOf (catalog : Catalog) (row : Category) : Option Category :=
  row.parent.bind catalog.categories.find?

/-- The categories by their parents; the active ones are shown. -/
def forest (catalog : Catalog) : Forest Category where
  nodes := catalog.categories.rows
  parent := catalog.parentOf
  IsRoot row := row.parent = none
  Shown row := row.isActive = true
  nodup := catalog.categories.nodup_rows
  parent_of_root row isRoot := by rw [parentOf, isRoot, Option.bind_none]

/-- The category and all above it are active, up to a root. -/
def Browsable (catalog : Catalog) (row : Category) : Prop :=
  ∃ depth, catalog.forest.AtDepth depth row

end Catalog

/-- The categories of an answer. -/
def shownBy : Except HTTPException CatalogAnswer → List CategoryOut
  | .ok (.categories rows) => rows
  | _ => []

/-- The key of the root categories. -/
def rootKey : String :=
  (CatalogRequest.listCategories none).cacheKey

/-- What a request comes upon: the order in which the database reads rows, and
the entries of the cache that have expired since the last request. -/
structure Moment where
  session : Session
  expired : String → Bool

section Client

variable {Document : Type}

def Moment.remaining (moment : Moment) (cache : String → Option Document) :
    String → Option Document :=
  fun key => if moment.expired key then none else cache key

variable (orjson : Orjson Document) (catalog : Catalog)

/-- What the client is shown for a slug, and the cache afterwards. -/
def ask (moment : Moment) (cache : String → Option Document)
    (parentSlug : Option String) :
    List CategoryOut × (String → Option Document) :=
  let served := (cachedCatalog orjson moment.session catalog).serve
    (moment.remaining cache) (.listCategories parentSlug)
  (shownBy served.1, served.2)

/-- What the client is shown that asks for the children of some categories, one
after the other. -/
def askBelow : (Nat → Moment) → (String → Option Document) →
    List CategoryOut → List CategoryOut × (String → Option Document)
  | _, cache, [] => ([], cache)
  | moments, cache, above :: others =>
      let first := ask orjson catalog (moments 0) cache (some above.slug)
      let later := askBelow (fun position => moments (position + 1)) first.2
        others
      (first.1 ++ later.1, later.2)

/-- What a client is shown that asks for the roots, and then for the children of
all that it was shown before. -/
def browse (moments : Nat → Nat → Moment) (start : String → Option Document) :
    Nat → List CategoryOut × (String → Option Document)
  | 0 => ask orjson catalog (moments 0 0) start none
  | depth + 1 =>
      let above := browse moments start depth
      askBelow orjson catalog (moments (depth + 1)) above.2 above.1

end Client

section Browsing

variable {catalog : Catalog}

/-- The rows of `listCategories` without a parent. -/
def rootRows (session : Session) (catalog : Catalog) :
    List Catalog.Category :=
  session.selectBy catalog.categories
    (fun row => row.isActive && row.parent.isNone)
    fun row => toLex (row.sortOrder, row.name)

/-- The rows of `listCategories` under a parent. -/
def childRows (session : Session) (catalog : Catalog)
    (above : Catalog.Category) : List Catalog.Category :=
  session.selectBy catalog.categories (catalog.isChildOf above.slug)
    fun row => toLex (row.sortOrder, row.name)

theorem nodup_selectBy {Row Key : Type} [IsModel Row] [LinearOrder Key]
    (session : Session) (table : Table Row) (condition : Row → Bool)
    (key : Row → Key) : (session.selectBy table condition key).Nodup := by
  have sorted := List.perm_insertionSort (fun first second : Row =>
    key first ≤ key second) (session.select table condition)
  have scanned := session.scan_perm Row (table.rows.filter condition)
  exact (sorted.trans scanned).nodup_iff.mpr (table.nodup_rows.filter _)

theorem listCategories_root (session : Session) (catalog : Catalog) :
    listCategories session catalog none =
      (rootRows session catalog).map Catalog.Category.out :=
  rfl

theorem listCategories_child (session : Session) {above : Catalog.Category}
    (named : above.slug ≠ "") :
    listCategories session catalog (some above.slug) =
      (childRows session catalog above).map Catalog.Category.out := by
  rw [listCategories, Option.getD_some, if_pos named]
  rfl

/-- A slug names one category, so a parent is found by its slug. -/
theorem isChildOf_iff
    (slugs : (catalog.categories.rows.map Catalog.Category.slug).Nodup)
    {above row : Catalog.Category}
    (aboveMem : above ∈ catalog.categories.rows) :
    catalog.isChildOf above.slug row = true ↔
      row.isActive = true ∧ catalog.parentOf row = some above := by
  rw [Catalog.isChildOf, Bool.and_eq_true]
  refine and_congr_right fun _ => ?_
  change Option.any _ (catalog.parentOf row) = true ↔ _
  constructor
  · intro named
    cases parent_eq : catalog.parentOf row with
    | none =>
        rw [parent_eq] at named
        cases named
    | some parent =>
        rw [parent_eq] at named
        have sameSlug : parent.slug = above.slug := of_decide_eq_true named
        obtain ⟨id, _, found⟩ := Option.bind_eq_some_iff.mp parent_eq
        have parentMem := (Table.find?_eq_some.mp found).1
        rw [List.inj_on_of_nodup_map slugs parentMem aboveMem sameSlug]
  · intro parent_eq
    rw [parent_eq]
    exact decide_eq_true rfl

theorem isLevel_rootRows (session : Session) :
    catalog.forest.IsLevel 0 (rootRows session catalog) := by
  have nodup : (rootRows session catalog).Nodup := nodup_selectBy _ _ _ _
  refine isLevel_zero nodup fun row => ?_
  rw [rootRows, Session.mem_selectBy, Bool.and_eq_true,
    Option.isNone_iff_eq_none]
  exact Iff.rfl

theorem isAnswer_childRows (session : Session)
    (slugs : (catalog.categories.rows.map Catalog.Category.slug).Nodup)
    {above : Catalog.Category} (aboveMem : above ∈ catalog.categories.rows) :
    catalog.forest.IsAnswer above (childRows session catalog above) := by
  refine ⟨nodup_selectBy _ _ _ _, fun row => ?_⟩
  rw [childRows, Session.mem_selectBy, isChildOf_iff slugs aboveMem]
  exact Iff.rfl

theorem root_shown (session : Session) {row : Catalog.Category}
    (atRoot : catalog.forest.AtDepth 0 row) :
    row.out ∈ listCategories session catalog none := by
  rw [listCategories_root]
  cases atRoot with
  | root member shown isRoot =>
      apply List.mem_map_of_mem
      rw [rootRows, Session.mem_selectBy, Bool.and_eq_true,
        Option.isNone_iff_eq_none]
      exact ⟨member, shown, isRoot⟩

theorem child_shown (session : Session)
    (slugs : (catalog.categories.rows.map Catalog.Category.slug).Nodup)
    {depth : Nat} {above row : Catalog.Category}
    (atDepth : catalog.forest.AtDepth (depth + 1) row)
    (parent_eq : catalog.parentOf row = some above) (named : above.slug ≠ "") :
    row.out ∈ listCategories session catalog (some above.slug) := by
  rw [listCategories_child session named]
  apply List.mem_map_of_mem
  cases atDepth with
  | child member shown otherParent aboveAt =>
      obtain rfl := Option.some.inj (otherParent.symm.trans parent_eq)
      rw [childRows, Session.mem_selectBy, isChildOf_iff slugs aboveAt.member]
      exact ⟨member, shown, parent_eq⟩

theorem out_injective_on {first second : Catalog.Category}
    (firstMem : first ∈ catalog.categories.rows)
    (secondMem : second ∈ catalog.categories.rows)
    (same : first.out = second.out) : first = second :=
  catalog.categories.eq_of_key_eq firstMem secondMem
    (congrArg CategoryOut.id same)

/-- Every category that can be seen has a slug that does not ask for the
roots. -/
def Catalog.Named (catalog : Catalog) : Prop :=
  ∀ row, catalog.Browsable row → row.slug ≠ "" ∧ row.slug ≠ "root"

end Browsing

section Cached

variable {Document : Type} {orjson : Orjson Document} {catalog : Catalog}
  {cache : String → Option Document} {moment : Moment}
  {parentSlug : Option String}

/-- The answer that a request finds under a key. -/
def cachedAnswer (orjson : Orjson Document) (cache : String → Option Document)
    (key : String) : Option CatalogAnswer :=
  ((cache key).bind orjson.loads).filter CatalogAnswer.truthy

/-- What is found in the cache for any request but that for the children of
`root` is a listing that the endpoint computes for it. -/
def KeepsListings (orjson : Orjson Document) (catalog : Catalog)
    (cache : String → Option Document) : Prop :=
  ∀ parentSlug answer, parentSlug ≠ some "root" →
    cachedAnswer orjson cache
        (CatalogRequest.listCategories parentSlug).cacheKey = some answer →
      ∃ session, answer =
        .categories (listCategories session catalog parentSlug)

/-- The cache has the root categories. -/
def HasRoots (orjson : Orjson Document) (catalog : Catalog)
    (cache : String → Option Document) : Prop :=
  ∃ session, cachedAnswer orjson cache rootKey =
    some (.categories (listCategories session catalog none))

theorem keepsListings_empty :
    KeepsListings orjson catalog fun _ => none := by
  intro parentSlug answer _ isFound
  cases isFound

theorem cachedAnswer_remaining {key : String}
    (kept : moment.expired key = false) :
    cachedAnswer orjson (moment.remaining cache) key =
      cachedAnswer orjson cache key := by
  simp [cachedAnswer, Moment.remaining, kept]

theorem KeepsListings.remaining (keeps : KeepsListings orjson catalog cache)
    (moment : Moment) :
    KeepsListings orjson catalog (moment.remaining cache) := by
  intro parentSlug answer notChildren isFound
  cases lost : moment.expired
      (CatalogRequest.listCategories parentSlug).cacheKey with
  | true => simp [cachedAnswer, Moment.remaining, lost] at isFound
  | false =>
      rw [cachedAnswer_remaining lost] at isFound
      exact keeps parentSlug answer notChildren isFound

theorem ask_of_found {answer : CatalogAnswer}
    (isFound : cachedAnswer orjson (moment.remaining cache)
      (CatalogRequest.listCategories parentSlug).cacheKey = some answer) :
    ask orjson catalog moment cache parentSlug =
      (shownBy (.ok answer), moment.remaining cache) := by
  have hit : (cachedCatalog orjson moment.session catalog).serve
      (moment.remaining cache) (.listCategories parentSlug) = _ :=
    Service.serve_of_cached isFound
  rw [ask, hit]

theorem ask_of_missing
    (missing : cachedAnswer orjson (moment.remaining cache)
      (CatalogRequest.listCategories parentSlug).cacheKey = none) :
    ask orjson catalog moment cache parentSlug =
      let listing := listCategories moment.session catalog parentSlug
      (listing, (cachedCatalog orjson moment.session catalog).store
        (moment.remaining cache)
        (CatalogRequest.listCategories parentSlug).cacheKey
        (.categories listing)) := by
  have computed : (cachedCatalog orjson moment.session catalog).serve
      (moment.remaining cache) (.listCategories parentSlug) = _ :=
    Service.serve_of_missing missing rfl
  rw [ask, computed]
  rfl

/-- Requests with the same key have the same listing, but for the children of
`root`. -/
theorem listCategories_of_sameKey (session : Session)
    {first second : Option String} (firstOther : first ≠ some "root")
    (secondOther : second ≠ some "root")
    (sameKey : (CatalogRequest.listCategories first).cacheKey =
      (CatalogRequest.listCategories second).cacheKey) :
    listCategories session catalog first =
      listCategories session catalog second := by
  have computed :
      (CatalogRequest.listCategories first).compute session catalog =
        (CatalogRequest.listCategories second).compute session catalog := by
    rcases CatalogRequest.eq_or_asksRoot_of_cacheKey_eq sameKey with
      same | ⟨firstRoot, secondRoot⟩
    · rw [same]
    · rw [CatalogRequest.compute_of_isRoot
          (firstRoot.resolve_right (by simpa using firstOther)),
        CatalogRequest.compute_of_isRoot
          (secondRoot.resolve_right (by simpa using secondOther))]
  exact CatalogAnswer.categories.inj (Except.ok.inj computed)

theorem none_ne_root : (none : Option String) ≠ some "root" := by
  simp

/-- The client is shown a listing of the endpoint, found or computed, and the
cache keeps its listings. -/
theorem ask_listed (roundTrip : orjson.RoundTrip)
    (keeps : KeepsListings orjson catalog cache) (moment : Moment)
    {parentSlug : Option String} (notChildren : parentSlug ≠ some "root") :
    (∃ session, (ask orjson catalog moment cache parentSlug).1 =
        listCategories session catalog parentSlug) ∧
      KeepsListings orjson catalog
        (ask orjson catalog moment cache parentSlug).2 := by
  have remaining := keeps.remaining moment
  cases isFound : cachedAnswer orjson (moment.remaining cache)
      (CatalogRequest.listCategories parentSlug).cacheKey with
  | some answer =>
      obtain ⟨session, rfl⟩ := remaining parentSlug answer notChildren isFound
      rw [ask_of_found isFound]
      exact ⟨⟨session, rfl⟩, remaining⟩
  | none =>
      rw [ask_of_missing isFound]
      refine ⟨⟨moment.session, rfl⟩, ?_⟩
      intro other answer otherAllowed otherFound
      have readBack : (cachedCatalog orjson moment.session catalog).RoundTrip :=
        roundTrip
      rcases Service.cached_store readBack otherFound with
        ⟨sameKey, rfl, _, _⟩ | before
      · refine ⟨moment.session, ?_⟩
        rw [listCategories_of_sameKey _ otherAllowed notChildren sameKey]
      · exact remaining other answer otherAllowed before

/-- While the entry of the root categories does not expire, it is the answer to
every request with its key. -/
theorem ask_of_rootKey (hasRoots : HasRoots orjson catalog cache)
    (kept : moment.expired rootKey = false)
    (isRootKey : (CatalogRequest.listCategories parentSlug).cacheKey =
      rootKey) :
    ∃ session, ask orjson catalog moment cache parentSlug =
      (listCategories session catalog none, moment.remaining cache) := by
  obtain ⟨session, isFound⟩ := hasRoots
  rw [← cachedAnswer_remaining kept, ← isRootKey] at isFound
  exact ⟨session, ask_of_found isFound⟩

theorem cacheKey_of_nameless {slug : String}
    (nameless : slug = "" ∨ slug = "root") :
    (CatalogRequest.listCategories (some slug)).cacheKey = rootKey := by
  rcases nameless with rfl | rfl
  · decide
  · decide

theorem HasRoots.remaining (hasRoots : HasRoots orjson catalog cache)
    (kept : moment.expired rootKey = false) :
    HasRoots orjson catalog (moment.remaining cache) := by
  obtain ⟨session, isFound⟩ := hasRoots
  exact ⟨session, (cachedAnswer_remaining kept).trans isFound⟩

/-- What the client relies on that comes back to the roots. -/
structure Returning (orjson : Orjson Document) (catalog : Catalog)
    (cache : String → Option Document) : Prop where
  keeps : KeepsListings orjson catalog cache
  hasRoots : HasRoots orjson catalog cache

theorem Returning.ask (returning : Returning orjson catalog cache)
    (roundTrip : orjson.RoundTrip) (kept : moment.expired rootKey = false)
    (parentSlug : Option String) :
    Returning orjson catalog
      (ask orjson catalog moment cache parentSlug).2 := by
  have hasRoots := returning.hasRoots.remaining kept
  by_cases isRootKey :
      (CatalogRequest.listCategories parentSlug).cacheKey = rootKey
  · obtain ⟨session, asked⟩ :=
      ask_of_rootKey returning.hasRoots kept isRootKey
    rw [asked]
    exact ⟨returning.keeps.remaining moment, hasRoots⟩
  · have notChildren : parentSlug ≠ some "root" := by
      rintro rfl
      exact isRootKey rfl
    refine ⟨(ask_listed roundTrip returning.keeps moment notChildren).2, ?_⟩
    cases isFound : cachedAnswer orjson (moment.remaining cache)
        (CatalogRequest.listCategories parentSlug).cacheKey with
    | some answer =>
        rw [ask_of_found isFound]
        exact hasRoots
    | none =>
        rw [ask_of_missing isFound]
        obtain ⟨session, rootsFound⟩ := hasRoots
        refine ⟨session, ?_⟩
        rw [← rootsFound]
        exact Service.cached_store_of_ne (Ne.symm isRootKey) _

/-- The first request puts the root categories into the cache, if there are
any. -/
theorem returning_of_roots (roundTrip : orjson.RoundTrip)
    (writes : orjson.WritesCategories)
    (keeps : KeepsListings orjson catalog cache) (moment : Moment)
    {root : Catalog.Category} (atRoot : catalog.forest.AtDepth 0 root) :
    Returning orjson catalog (ask orjson catalog moment cache none).2 := by
  refine ⟨(ask_listed roundTrip keeps moment none_ne_root).2, ?_⟩
  cases isFound : cachedAnswer orjson (moment.remaining cache)
      (CatalogRequest.listCategories none).cacheKey with
  | some answer =>
      obtain ⟨session, rfl⟩ :=
        keeps.remaining moment none answer none_ne_root isFound
      rw [ask_of_found isFound]
      exact ⟨session, isFound⟩
  | none =>
      rw [ask_of_missing isFound]
      refine ⟨moment.session, ?_⟩
      have rootListed := root_shown moment.session atRoot
      have usable : CatalogAnswer.truthy (.categories
          (listCategories moment.session catalog none)) = true := by
        simp [CatalogAnswer.truthy, List.ne_nil_of_mem rootListed]
      have readBack : (cachedCatalog orjson moment.session catalog).RoundTrip :=
        roundTrip
      exact Service.cached_store_self readBack _ usable (writes _)

/-- The client is shown what the endpoint answers for each of the categories. -/
theorem askBelow_shows (roundTrip : orjson.RoundTrip)
    (returning : Returning orjson catalog cache) {moments : Nat → Moment}
    (kept : ∀ position, (moments position).expired rootKey = false)
    (rows : List CategoryOut) :
    Returning orjson catalog (askBelow orjson catalog moments cache rows).2 ∧
      ∀ above ∈ rows, ∃ position earlier, Returning orjson catalog earlier ∧
        (ask orjson catalog (moments position) earlier (some above.slug)).1 ⊆
          (askBelow orjson catalog moments cache rows).1 := by
  induction rows generalizing moments cache with
  | nil => exact ⟨returning, by simp⟩
  | cons first others ih =>
      have after := returning.ask roundTrip (kept 0) (some first.slug)
      obtain ⟨atEnd, shown⟩ := ih after fun position => kept (position + 1)
      refine ⟨atEnd, ?_⟩
      intro above member
      rcases List.mem_cons.mp member with rfl | later
      · exact ⟨0, cache, returning, List.subset_append_left _ _⟩
      · obtain ⟨position, earlier, returning, among⟩ := shown above later
        exact ⟨position + 1, earlier, returning,
          List.Subset.trans among (List.subset_append_right _ _)⟩

/-- The client is shown the children of categories that are called by their
slugs. -/
theorem askBelow_answers (roundTrip : orjson.RoundTrip)
    (slugs : (catalog.categories.rows.map Catalog.Category.slug).Nodup)
    (keeps : KeepsListings orjson catalog cache) (moments : Nat → Moment)
    (rows : List Catalog.Category)
    (named : ∀ above ∈ rows, above ∈ catalog.categories.rows ∧
      above.slug ≠ "" ∧ above.slug ≠ "root") :
    ∃ answers, List.Forall₂ catalog.forest.IsAnswer rows answers ∧
      (askBelow orjson catalog moments cache
          (rows.map Catalog.Category.out)).1 =
        answers.flatten.map Catalog.Category.out ∧
      KeepsListings orjson catalog (askBelow orjson catalog moments cache
        (rows.map Catalog.Category.out)).2 := by
  induction rows generalizing moments cache with
  | nil => exact ⟨[], .nil, rfl, keeps⟩
  | cons first others ih =>
      obtain ⟨member, notEmpty, notRoot⟩ := named first List.mem_cons_self
      have notChildren : some first.slug ≠ some "root" := by simpa using notRoot
      obtain ⟨⟨session, shown⟩, after⟩ :=
        ask_listed roundTrip keeps (moments 0) notChildren
      rw [listCategories_child session notEmpty] at shown
      obtain ⟨answers, answered, later, atEnd⟩ := ih after
        (fun position => moments (position + 1))
        fun above isLater => named above (List.mem_cons_of_mem _ isLater)
      refine ⟨childRows session catalog first :: answers,
        .cons (isAnswer_childRows session slugs member) answered, ?_, atEnd⟩
      rw [List.flatten_cons, List.map_append, ← shown, ← later]
      rfl

end Cached

section Walk

variable {Document : Type} {orjson : Orjson Document} {catalog : Catalog}
  {start : String → Option Document}

/-- At each depth the client is shown the categories of that depth. -/
theorem browse_isLevel (roundTrip : orjson.RoundTrip)
    (slugs : (catalog.categories.rows.map Catalog.Category.slug).Nodup)
    (named : catalog.Named) (keeps : KeepsListings orjson catalog start)
    (moments : Nat → Nat → Moment) (depth : Nat) :
    ∃ rows, catalog.forest.IsLevel depth rows ∧
      (browse orjson catalog moments start depth).1 =
        rows.map Catalog.Category.out ∧
      KeepsListings orjson catalog
        (browse orjson catalog moments start depth).2 := by
  induction depth with
  | zero =>
      obtain ⟨⟨session, shown⟩, after⟩ :=
        ask_listed roundTrip keeps (moments 0 0) none_ne_root
      exact ⟨rootRows session catalog, isLevel_rootRows session,
        shown.trans (listCategories_root session catalog), after⟩
  | succ depth ih =>
      obtain ⟨rows, isLevel, shown, after⟩ := ih
      have callable : ∀ above ∈ rows, above ∈ catalog.categories.rows ∧
          above.slug ≠ "" ∧ above.slug ≠ "root" := by
        intro above listed
        have aboveAt := (isLevel.mem_iff above).mp listed
        exact ⟨aboveAt.member, named above ⟨depth, aboveAt⟩⟩
      obtain ⟨answers, answered, shownBelow, atEnd⟩ :=
        askBelow_answers roundTrip slugs after (moments (depth + 1)) rows
          callable
      rw [browse, shown]
      exact ⟨answers.flatten, isLevel.below answered, shownBelow, atEnd⟩

/-- Below a category that is not called by its slug the client starts over. -/
theorem browse_ne_nil_of_nameless (roundTrip : orjson.RoundTrip)
    (writes : orjson.WritesCategories)
    (slugs : (catalog.categories.rows.map Catalog.Category.slug).Nodup)
    (keeps : KeepsListings orjson catalog start)
    {moments : Nat → Nat → Moment}
    (kept : ∀ depth position,
      (moments depth position).expired rootKey = false)
    {row : Catalog.Category} (visible : catalog.Browsable row)
    (nameless : row.slug = "" ∨ row.slug = "root") (depth : Nat) :
    (browse orjson catalog moments start depth).1 ≠ [] := by
  obtain ⟨last, atDepth⟩ := visible
  obtain ⟨chain, isChain, chain_last⟩ := atDepth.chain
  have atRoot := isChain.atDepth 0 (Nat.zero_le _)
  -- The client is always somewhere on the way down to the category.
  have onTheWay : Returning orjson catalog
        (browse orjson catalog moments start depth).2 ∧
      ∃ index ≤ last, (chain index).out ∈
        (browse orjson catalog moments start depth).1 := by
    induction depth with
    | zero =>
        obtain ⟨⟨session, shown⟩, _⟩ :=
          ask_listed roundTrip keeps (moments 0 0) none_ne_root
        refine ⟨returning_of_roots roundTrip writes keeps _ atRoot,
          0, Nat.zero_le _, ?_⟩
        rw [browse, shown]
        exact root_shown session atRoot
    | succ depth ih =>
        obtain ⟨returning, index, within, shown⟩ := ih
        obtain ⟨after, answered⟩ := askBelow_shows roundTrip returning
          (kept (depth + 1)) (browse orjson catalog moments start depth).1
        obtain ⟨position, earlier, returning, among⟩ := answered _ shown
        refine ⟨after, ?_⟩
        by_cases startsOver : (chain index).slug = "" ∨
            (chain index).slug = "root"
        · refine ⟨0, Nat.zero_le _, among ?_⟩
          obtain ⟨session, asked⟩ := ask_of_rootKey returning.hasRoots
            (kept (depth + 1) position) (cacheKey_of_nameless startsOver)
          rw [Catalog.Category.out, asked]
          exact root_shown session atRoot
        · have before : index < last := by
            refine lt_of_le_of_ne within ?_
            rintro rfl
            rw [chain_last] at startsOver
            exact startsOver nameless
          refine ⟨index + 1, before, among ?_⟩
          rw [not_or] at startsOver
          have notChildren : some (chain index).slug ≠ some "root" := by
            simpa using startsOver.2
          obtain ⟨⟨session, asked⟩, _⟩ := ask_listed roundTrip returning.keeps
            (moments (depth + 1) position) notChildren
          rw [Catalog.Category.out, asked]
          exact child_shown session slugs (isChain.atDepth _ before)
            (isChain.parent_eq index before) startsOver.1
  obtain ⟨_, index, _, shown⟩ := onTheWay
  exact List.ne_nil_of_mem shown

/-- A client that browses from the roots down comes to an end exactly if every
category that it can see is called by its slug, while the roots are cached and
stay in the cache; and then, whatever is stored and expires, it is shown each of
them once and no other, however the parents are linked. -/
theorem browsing_ends_iff_named (roundTrip : orjson.RoundTrip)
    (slugs : (catalog.categories.rows.map Catalog.Category.slug).Nodup)
    (keeps : KeepsListings orjson catalog start)
    (moments : Nat → Nat → Moment) :
    let browsed := fun depth => (browse orjson catalog moments start depth).1
    let number := catalog.categories.rows.length
    let shown := (List.range number).flatMap browsed
    (orjson.WritesCategories →
        (∀ depth position, (moments depth position).expired rootKey = false) →
        ((∃ depth, browsed depth = []) ↔ catalog.Named)) ∧
      (catalog.Named → shown.Nodup ∧
        (∀ out, out ∈ shown ↔ ∃ row, catalog.Browsable row ∧ row.out = out) ∧
        ∀ depth ≥ number, browsed depth = []) := by
  intro browsed number shown
  have everything : catalog.Named → shown.Nodup ∧
      (∀ out, out ∈ shown ↔ ∃ row, catalog.Browsable row ∧ row.out = out) ∧
      ∀ depth ≥ number, browsed depth = [] := by
    intro named
    choose levels areLevels shown_eq _ using
      browse_isLevel roundTrip slugs named keeps moments
    have walk_eq : shown =
        (walk catalog.forest levels).map Catalog.Category.out := by
      rw [walk, List.map_flatMap]
      exact List.flatMap_congr fun depth _ => shown_eq depth
    refine ⟨?_, ?_, ?_⟩
    · rw [walk_eq]
      apply (nodup_walk areLevels).map_on
      intro first firstFound second secondFound same
      obtain ⟨_, firstAt⟩ := (mem_walk areLevels first).mp firstFound
      obtain ⟨_, secondAt⟩ := (mem_walk areLevels second).mp secondFound
      exact out_injective_on firstAt.member secondAt.member same
    · intro out
      rw [walk_eq, List.mem_map]
      exact exists_congr fun row => and_congr_left fun _ =>
        mem_walk areLevels row
    · intro depth beyond
      exact (shown_eq depth).trans
        (congrArg _ ((areLevels depth).eq_nil beyond))
  refine ⟨fun writes kept => ⟨?_, fun named => ⟨number, ?_⟩⟩, everything⟩
  · rintro ⟨depth, ended⟩ row visible
    rw [← not_or]
    intro nameless
    exact browse_ne_nil_of_nameless roundTrip writes slugs keeps kept visible
      nameless depth ended
  · exact (everything named).2.2 number le_rfl

end Walk

/-- Two categories below each other, beside a root with a child. -/
def circularCatalog : Catalog :=
  { Catalog.empty with
    categories := ⟨[
        { id := 1, createdAt := 0, name := "Clothes", slug := "clothes" },
        { id := 2, createdAt := 0, parent := some 1, name := "Tees",
          slug := "tees" },
        { id := 3, createdAt := 0, parent := some 4, name := "New",
          slug := "new" },
        { id := 4, createdAt := 0, parent := some 3, name := "Sale",
          slug := "sale" }],
      by decide⟩ }

/-- Nothing expires. -/
def still : Nat → Nat → Moment :=
  fun _ _ => { session := { now := 0 }, expired := fun _ => false }

/-- The client sees a root and its child, and comes to an end. -/
theorem browsing_ends_circular :
    let browsed := fun depth =>
      (browse listOrjson circularCatalog still (fun _ => none) depth).1
    ((∃ depth, browsed depth = []) ↔ circularCatalog.Named) ∧
      (browsed 0).map CategoryOut.slug = ["clothes"] ∧
      (browsed 1).map CategoryOut.slug = ["tees"] ∧ browsed 2 = [] :=
  ⟨(browsing_ends_iff_named listOrjson_roundTrip (by decide)
      keepsListings_empty still).1 (fun _ => rfl) fun _ _ => rfl,
    by decide +kernel, by decide +kernel, by decide +kernel⟩

/-- A root with the slug `root` is shown again instead of its child. -/
example : (browse listOrjson rootedCatalog still (fun _ => none) 3).1.map
    CategoryOut.slug = ["root"] := by
  decide +kernel

end NovaCommerce
