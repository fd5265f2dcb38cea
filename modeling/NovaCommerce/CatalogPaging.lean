import NovaCommerce.Catalog
import NovaCommerce.CursorPaging

/-!
# Pages of products

A cursor of `list_products` is the moment at which the last product of a page
was created, whatever the order of the list is, and the next page begins below
it.
-/

namespace NovaCommerce

open CursorPaging

namespace Catalog

/-- The products that match the filters. -/
def matching (catalog : Catalog) (query : ProductQuery) : List Product :=
  catalog.products.rows.filter (catalog.isListed query)

/-- The place of a product in an order. -/
def keyOf (catalog : Catalog) (sort : ProductSort) (product : Product) :
    SortKey :=
  toLex (sort.rank product.soldCount (catalog.minPrice product.id),
    OrderDual.toDual product.createdAt)

/-- The matching products in the requested order. -/
def inOrder (catalog : Catalog) (query : ProductQuery) : List Product :=
  (catalog.matching query).insertionSort fun first second =>
    catalog.keyOf query.sort first ≤ catalog.keyOf query.sort second

/-- The matching products, each by its identifier and its place. -/
def listing (catalog : Catalog) (query : ProductQuery) :
    Listing (Uuid × SortKey) SortKey Time where
  rows := (catalog.matching query).map fun product =>
    (product.id, catalog.keyOf query.sort product)
  key := Prod.snd
  stampOf key := OrderDual.ofDual (ofLex key).2
  size := query.pageSize
  size_pos := query.pageSize_pos

/-- The answers of `list_products` to one request after the other, each product
by its identifier and its place. -/
def answers (catalog : Catalog) (query : ProductQuery)
    (sessions : Nat → Session) (index : Nat) (cursor : Option Time) :
    List (Uuid × SortKey) × Option Time :=
  let page := listProducts (sessions index) catalog query cursor
  (page.items.map fun item => (item.id, item.key query.sort), page.nextCursor)

/-- Following the cursors ends, and the pages together hold every matching
product exactly once, in the requested order. -/
def PagesVisitOnce (catalog : Catalog) (query : ProductQuery)
    (sessions : Nat → Session) : Prop :=
  (catalog.listing query).VisitsOnce (catalog.answers query sessions)

variable {catalog : Catalog} {query : ProductQuery}

theorem selected_listing (cursor : Option Time) :
    (catalog.listing query).selected cursor =
      (catalog.products.rows.filter fun product =>
        catalog.isListed query product &&
          cursor.all fun cursor => product.createdAt < cursor).map
        fun product => (product.id, catalog.keyOf query.sort product) := by
  cases cursor with
  | none => simp [Listing.selected, listing, matching]
  | some cursor =>
      rw [Listing.selected, listing, List.filter_map, matching,
        List.filter_filter]
      congr 1
      apply List.filter_congr
      intro product _
      rw [Bool.and_comm]
      rfl

/-- The list is cut after a page whether or not it was cut one row later. -/
theorem page_of_take {Item : Type} (size : Nat) (sorted : List Item)
    (stamp : Item → Time) :
    let items := sorted.take (size + 1)
    let hasMore := size < items.length
    let items := if hasMore then items.take size else items
    (items, if hasMore then items.getLast?.map stamp else none) =
      if size < sorted.length then
        (sorted.take size, (sorted.take size).getLast?.map stamp)
      else (sorted, none) := by
  dsimp only
  by_cases long : size < sorted.length
  · have more : size < (sorted.take (size + 1)).length := by
      rw [List.length_take]
      omega
    rw [if_pos more, if_pos more, if_pos long, List.take_take,
      min_eq_left (Nat.le_succ size)]
  · have whole : sorted.take (size + 1) = sorted :=
      List.take_of_length_le (by omega)
    rw [whole, if_neg long, if_neg long, if_neg long]

/-- Every page is one of the listing. -/
theorem answers_listing (sessions : Nat → Session) :
    (catalog.listing query).Answers (catalog.answers query sessions) := by
  intro index cursor
  let session := sessions index
  let note := fun item : ProductOut => (item.id, item.key query.sort)
  let found := session.select catalog.products fun product =>
    catalog.isListed query product &&
      cursor.all fun cursor => product.createdAt < cursor
  let sorted := (found.map (catalog.productOut session)).insertionSort
    fun first second => first.key query.sort ≤ second.key query.sort
  refine ⟨sorted.map note, ?_, ?_, ?_⟩
  · have noted : (sorted.map note).Perm
        ((found.map (catalog.productOut session)).map note) :=
      (List.perm_insertionSort _ _).map note
    rw [selected_listing]
    refine noted.trans ?_
    rw [List.map_map]
    exact (session.scan_perm _ _).map _
  · exact List.pairwise_map.mpr (List.pairwise_insertionSort _ _)
  · obtain ⟨items_eq, cursor_eq⟩ := Prod.ext_iff.mp
      (page_of_take query.pageSize sorted ProductOut.createdAt)
    refine (congrArg₂ (fun items next => (items.map note, next)) items_eq
      cursor_eq).trans ?_
    rw [Listing.page, List.length_map, ← List.map_take]
    by_cases long : query.pageSize < sorted.length
    · rw [if_pos long, if_pos (show (catalog.listing query).size <
        sorted.length from long), List.getLast?_map, Option.map_map]
      rfl
    · rw [if_neg long, if_neg (show ¬(catalog.listing query).size <
        sorted.length from long)]

/-- The products in the requested order are an arrangement of the listing. -/
theorem arrangement :
    ((catalog.inOrder query).map fun product =>
        (product.id, catalog.keyOf query.sort product)).Perm
          (catalog.listing query).rows ∧
      (catalog.listing query).Sorted ((catalog.inOrder query).map
        fun product => (product.id, catalog.keyOf query.sort product)) :=
  ⟨(List.perm_insertionSort _ _).map _,
    List.pairwise_map.mpr (List.pairwise_insertionSort _ _)⟩

/-- Following the cursors visits everything once exactly when, in the requested
order, every page ends with a product that was created before no product in
front of it was, and after all that follow it were. -/
theorem pages_visit_once_iff (catalog : Catalog) (query : ProductQuery)
    (sessions : Nat → Session) :
    catalog.PagesVisitOnce query sessions ↔
      Separated query.pageSize
        ((catalog.inOrder query).map fun product => product.createdAt) := by
  have iff := visitsOnce_iff (answers_listing sessions)
    (@arrangement catalog query).1 arrangement.2
  rw [List.map_map] at iff
  exact iff

/-- Three products that were created at the same moment. -/
def sameMoment : Catalog :=
  { empty with
    products := ⟨[
        { id := 1, createdAt := 5, name := "Nova Tee", slug := "nova-tee",
          status := .active },
        { id := 2, createdAt := 5, name := "Nova Cap", slug := "nova-cap",
          status := .active },
        { id := 3, createdAt := 5, name := "Nova Mug", slug := "nova-mug",
          status := .active }],
      by decide⟩
    slugs_nodup := by decide }

/-- The third of three products of one moment is on no page of two. -/
theorem page_skips_product :
    ¬sameMoment.PagesVisitOnce { pageSize := 2 } fun _ => { now := 9 } := by
  intro visits
  have separated := (visitsOnce_iff (answers_listing _) arrangement.1
    arrangement.2).mp visits
  have third := (separated [5] 5 [5] (by decide +kernel) (by decide)
    (by decide)).2 5 (by decide)
  exact lt_irrefl 5 third

/-- The newest products first are all visited if no two were created at the
same moment. -/
theorem pagesVisitOnce_newest (sessions : Nat → Session)
    (newest : query.sort = .newest)
    (distinct : ((catalog.matching query).map
      fun product => product.createdAt).Nodup) :
    catalog.PagesVisitOnce query sessions := by
  refine (visitsOnce_iff (answers_listing sessions) arrangement.1
    arrangement.2).mpr (separated_of_falling ?_)
  rw [List.map_map, List.pairwise_map]
  have sortedNodup : ((catalog.inOrder query).map
      fun product => product.createdAt).Nodup :=
    ((List.perm_insertionSort _ _).map _).nodup_iff.mpr distinct
  refine ((List.pairwise_insertionSort _ _).and
    (List.pairwise_map.mp sortedNodup)).imp ?_
  rintro first second ⟨ordered, createdNe⟩
  rw [keyOf, keyOf, newest, Prod.Lex.toLex_le_toLex] at ordered
  rcases ordered with less | ⟨_, older⟩
  · exact (lt_irrefl _ less).elim
  · exact lt_of_le_of_ne (OrderDual.toDual_le_toDual.mp older) createdNe.symm

end Catalog

end NovaCommerce
