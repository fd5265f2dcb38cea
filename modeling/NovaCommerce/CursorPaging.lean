import Mathlib.Data.List.Sort
import Mathlib.Order.Basic

/-!
# Listings by cursor

Rows are listed by a key, page by page.  A page that is not the last one comes
with a cursor, the stamp of its last row, and the next page is taken from the
rows with smaller stamps.  Rows with the same key come in any order, and in
another one at every request.

Following the cursors always ends.  It visits every row exactly once, in the
order of the keys, if and only if every page boundary separates the stamps: the
last row of a page has a smaller stamp than no row before it and a greater one
than every row after it.
-/

namespace CursorPaging

variable {Row Key Stamp : Type} [LinearOrder Key] [LinearOrder Stamp]

/-- At every page boundary but the end of the list, the stamps before it are no
smaller than the last one of the page, and the stamps after it are smaller. -/
def Separated (size : Nat) (stamps : List Stamp) : Prop :=
  ∀ before last after, stamps = before ++ last :: after →
    size ∣ before.length + 1 → after ≠ [] →
      (∀ stamp ∈ before, last ≤ stamp) ∧ ∀ stamp ∈ after, stamp < last

section Separated

variable {size : Nat}

/-- One page has no boundary. -/
theorem separated_of_length_le {stamps : List Stamp}
    (short : stamps.length ≤ size) : Separated size stamps := by
  rintro before last after rfl boundary notEnd
  have long := Nat.le_of_dvd (Nat.succ_pos _) boundary
  have more := List.length_pos_of_ne_nil notEnd
  simp only [List.length_append, List.length_cons] at short
  omega

/-- Falling stamps are separated everywhere. -/
theorem separated_of_falling {stamps : List Stamp}
    (falling : stamps.Pairwise fun first second => second < first) :
    Separated size stamps := by
  rintro before last after rfl _ _
  obtain ⟨_, falling, across⟩ := List.pairwise_append.mp falling
  exact ⟨fun stamp stampMem => (across stamp stampMem last
      List.mem_cons_self).le,
    fun stamp stampMem => List.rel_of_pairwise_cons falling stampMem⟩

/-- The first boundary separates the first page from the others, which are
separated among themselves. -/
theorem separated_page_iff {page rest : List Stamp} {last : Stamp}
    (full : page.length + 1 = size) (notEnd : rest ≠ []) :
    Separated size (page ++ last :: rest) ↔
      ((∀ stamp ∈ page, last ≤ stamp) ∧ ∀ stamp ∈ rest, stamp < last) ∧
        Separated size rest := by
  constructor
  · intro separated
    have first := separated page last rest rfl (full ▸ Nat.dvd_refl _) notEnd
    refine ⟨first, ?_⟩
    rintro before lower after rfl boundary more
    have later := separated (page ++ last :: before) lower after (by simp)
      (by
        have shifted : (page ++ last :: before).length + 1 =
            size + (before.length + 1) := by
          simp only [List.length_append, List.length_cons]
          omega
        rw [shifted]
        exact (Nat.dvd_add_right (Nat.dvd_refl size)).mpr boundary) more
    exact ⟨fun stamp stampMem => later.1 stamp (by simp [stampMem]), later.2⟩
  · rintro ⟨⟨above, below⟩, separated⟩ before lower after split boundary more
    rcases List.append_eq_append_iff.mp split with
      ⟨skipped, rfl, tailEq⟩ | ⟨missing, pageEq, tailEq⟩
    · match skipped with
      | [] =>
          obtain ⟨rfl, rfl⟩ := List.cons.inj tailEq
          rw [List.append_nil]
          exact ⟨above, below⟩
      | other :: skipped =>
          obtain ⟨rfl, rfl⟩ := List.cons.inj tailEq
          have shifted : (page ++ last :: skipped).length + 1 =
              size + (skipped.length + 1) := by
            simp only [List.length_append, List.length_cons]
            omega
          rw [shifted] at boundary
          obtain ⟨upper, smaller⟩ := separated skipped lower after rfl
            ((Nat.dvd_add_right (Nat.dvd_refl size)).mp boundary) more
          refine ⟨?_, smaller⟩
          intro stamp stampMem
          have atMost : lower ≤ last := (below lower (by simp)).le
          rcases List.mem_append.mp stampMem with onPage | skippedMem
          · exact atMost.trans (above stamp onPage)
          · rcases List.mem_cons.mp skippedMem with rfl | skippedMem
            · exact atMost
            · exact upper stamp skippedMem
    · match missing with
      | [] =>
          obtain ⟨rfl, rfl⟩ := List.cons.inj tailEq
          rw [List.append_nil] at pageEq
          rw [← pageEq]
          exact ⟨above, below⟩
      | other :: missing =>
          -- A boundary within the first page.
          have long := Nat.le_of_dvd (Nat.succ_pos _) boundary
          rw [pageEq, List.length_append, List.length_cons] at full
          omega

end Separated

/-- Rows that are listed by a key, and the size of a page. -/
structure Listing (Row Key Stamp : Type) where
  rows : List Row
  key : Row → Key
  stampOf : Key → Stamp
  size : Nat
  size_pos : 0 < size

namespace Listing

variable (listing : Listing Row Key Stamp)

def stamp (row : Row) : Stamp :=
  listing.stampOf (listing.key row)

/-- The rows from which a page is taken. -/
def selected : Option Stamp → List Row
  | none => listing.rows
  | some cursor => listing.rows.filter fun row => listing.stamp row < cursor

/-- The rows in the order of their keys. -/
def Sorted (rows : List Row) : Prop :=
  rows.Pairwise fun first second => listing.key first ≤ listing.key second

/-- The first page of some rows, and the cursor of the next one. -/
def page (arranged : List Row) : List Row × Option Stamp :=
  if listing.size < arranged.length then
    (arranged.take listing.size,
      (arranged.take listing.size).getLast?.map listing.stamp)
  else (arranged, none)

/-- Each answer is the first page of the rows that its cursor selects, in some
order by their keys. -/
def Answers (respond : Nat → Option Stamp → List Row × Option Stamp) : Prop :=
  ∀ index cursor, ∃ arranged, arranged.Perm (listing.selected cursor) ∧
    listing.Sorted arranged ∧ respond index cursor = listing.page arranged

end Listing

/-- Follow the cursors, for a number of requests at most: the pages, unless
there are more. -/
def follow (respond : Nat → Option Stamp → List Row × Option Stamp) :
    Nat → Nat → Option Stamp → Option (List (List Row))
  | 0, _, _ => none
  | requests + 1, index, cursor =>
      match (respond index cursor).2 with
      | none => some [(respond index cursor).1]
      | some next => (follow respond requests (index + 1) (some next)).map
          fun pages => (respond index cursor).1 :: pages

/-- Following the cursors ends, and the pages together are the rows, each of
them once and in the order of their keys. -/
def Listing.VisitsOnce (listing : Listing Row Key Stamp)
    (respond : Nat → Option Stamp → List Row × Option Stamp) : Prop :=
  ∃ requests pages, follow respond requests 0 none = some pages ∧
    pages.flatten.Perm listing.rows ∧ listing.Sorted pages.flatten

section Follow

variable {listing : Listing Row Key Stamp}
  {respond : Nat → Option Stamp → List Row × Option Stamp}

omit [LinearOrder Stamp] in
/-- Rows in the order of their keys have the same stamps in any such order. -/
theorem map_stamp_eq {first second : List Row} (perm : first.Perm second)
    (firstSorted : listing.Sorted first)
    (secondSorted : listing.Sorted second) :
    first.map listing.stamp = second.map listing.stamp := by
  have keys_eq : first.map listing.key = second.map listing.key :=
    (perm.map listing.key).eq_of_pairwise' (List.pairwise_map.mpr firstSorted)
      (List.pairwise_map.mpr secondSorted)
  have stamps_eq := congrArg (List.map listing.stampOf) keys_eq
  rw [List.map_map, List.map_map] at stamps_eq
  exact stamps_eq

omit [LinearOrder Key] in
/-- After a row with a smaller stamp fewer rows are selected. -/
theorem selected_next {cursor : Option Stamp} {last : Row}
    (lastMem : last ∈ listing.selected cursor) :
    listing.selected (some (listing.stamp last)) =
      (listing.selected cursor).filter fun row =>
        listing.stamp row < listing.stamp last := by
  cases cursor with
  | none => rfl
  | some cursor =>
      have smaller := of_decide_eq_true (List.mem_filter.mp lastMem).2
      rw [Listing.selected, Listing.selected, List.filter_filter]
      apply List.filter_congr
      intro row _
      rw [Bool.eq_iff_iff, Bool.and_eq_true]
      simp only [decide_eq_true_eq]
      exact ⟨fun below => ⟨below, below.trans smaller⟩, And.left⟩

omit [LinearOrder Key] [LinearOrder Stamp] in
/-- A page that is not the last one is full. -/
theorem page_of_long {arranged : List Row}
    (long : listing.size < arranged.length) :
    ∃ page last rest, arranged = page ++ last :: rest ∧
      page.length + 1 = listing.size ∧ rest ≠ [] ∧
      listing.page arranged = (page ++ [last], some (listing.stamp last)) := by
  have positive := listing.size_pos
  have shorter : listing.size - 1 < arranged.length := by omega
  refine ⟨arranged.take (listing.size - 1), arranged[listing.size - 1],
    arranged.drop listing.size, ?_, ?_, ?_, ?_⟩
  · have next : listing.size - 1 + 1 = listing.size := by omega
    conv_lhs => rw [← List.take_append_drop (listing.size - 1) arranged,
      List.drop_eq_getElem_cons shorter, next]
  · rw [List.length_take]
    omega
  · exact List.ne_nil_of_length_pos (by rw [List.length_drop]; omega)
  · have split : arranged.take listing.size =
        arranged.take (listing.size - 1) ++ [arranged[listing.size - 1]] := by
      rw [← List.take_succ_eq_append_getElem shorter]
      congr 1
      omega
    rw [Listing.page, if_pos long, split, List.getLast?_append]
    rfl

omit [LinearOrder Key] in
/-- The rows that are left are those after the first page, if its boundary
separates the stamps. -/
theorem selected_perm_rest {page rest : List Row} {last : Row}
    {selected : List Row} (perm : (page ++ last :: rest).Perm selected)
    (above : ∀ row ∈ page, listing.stamp last ≤ listing.stamp row)
    (below : ∀ row ∈ rest, listing.stamp row < listing.stamp last) :
    (selected.filter fun row =>
      listing.stamp row < listing.stamp last).Perm rest := by
  refine (perm.filter _).symm.trans ?_
  have dropped : (page ++ [last]).filter (fun row =>
      listing.stamp row < listing.stamp last) = [] := by
    rw [List.filter_eq_nil_iff]
    intro row rowMem
    rw [decide_eq_true_eq, not_lt]
    rcases List.mem_append.mp rowMem with onPage | isLast
    · exact above row onPage
    · rw [List.mem_singleton.mp isLast]
  have kept : rest.filter (fun row =>
      listing.stamp row < listing.stamp last) = rest := by
    rw [List.filter_eq_self]
    exact fun row rowMem => decide_eq_true (below row rowMem)
  rw [List.append_cons, List.filter_append, dropped, kept]
  exact List.Perm.refl rest

variable (answers : listing.Answers respond)

include answers

/-- Every request selects fewer rows than the one before. -/
theorem exists_follow (index : Nat) (cursor : Option Stamp) :
    ∃ requests pages, follow respond requests index cursor = some pages := by
  induction remaining : (listing.selected cursor).length using
    Nat.strong_induction_on generalizing index cursor with
  | _ count ih =>
      obtain ⟨arranged, perm, _, answer⟩ := answers index cursor
      by_cases long : listing.size < arranged.length
      · obtain ⟨page, last, rest, split, _, _, page_eq⟩ := page_of_long long
        have lastMem : last ∈ listing.selected cursor :=
          perm.subset (by simp [split])
        have fewer : (listing.selected (some (listing.stamp last))).length <
            count := by
          rw [selected_next lastMem, ← remaining]
          exact List.length_filter_lt_length_iff_exists.mpr
            ⟨last, lastMem, by simp⟩
        obtain ⟨requests, pages, followed⟩ := ih _ fewer (index + 1) _ rfl
        refine ⟨requests + 1, (page ++ [last]) :: pages, ?_⟩
        rw [follow, answer, page_eq]
        simp [followed]
      · refine ⟨1, [arranged], ?_⟩
        rw [follow, answer, Listing.page, if_neg long]

/-- The pages hold rows that the first cursor selects. -/
theorem mem_of_follow {requests index : Nat} {cursor : Option Stamp}
    {pages : List (List Row)}
    (followed : follow respond requests index cursor = some pages) :
    ∀ row ∈ pages.flatten, row ∈ listing.selected cursor := by
  induction requests generalizing index cursor pages with
  | zero => cases followed
  | succ requests ih =>
      obtain ⟨arranged, perm, _, answer⟩ := answers index cursor
      by_cases long : listing.size < arranged.length
      · obtain ⟨page, last, rest, split, _, _, page_eq⟩ := page_of_long long
        have lastMem : last ∈ listing.selected cursor :=
          perm.subset (by simp [split])
        rw [follow, answer, page_eq] at followed
        obtain ⟨later, goesOn, rfl⟩ := Option.map_eq_some_iff.mp followed
        intro row rowMem
        rw [List.flatten_cons] at rowMem
        rcases List.mem_append.mp rowMem with onPage | onLater
        · apply perm.subset
          rw [split, List.append_cons]
          exact List.mem_append_left rest onPage
        · have selected := ih goesOn row onLater
          rw [selected_next lastMem] at selected
          exact List.mem_of_mem_filter selected
      · rw [follow, answer, Listing.page, if_neg long] at followed
        obtain rfl := Option.some.inj followed
        intro row rowMem
        exact perm.subset (by simpa using rowMem)

/-- The first row that a cursor selects is on its page. -/
theorem head_mem_of_follow {requests index : Nat} {cursor : Option Stamp}
    {pages : List (List Row)} {row : Row}
    (followed : follow respond requests index cursor = some pages)
    (rowMem : row ∈ listing.selected cursor) :
    ∃ head ∈ pages.flatten, listing.key head ≤ listing.key row := by
  cases requests with
  | zero => cases followed
  | succ requests =>
      obtain ⟨arranged, perm, sorted, answer⟩ := answers index cursor
      match arranged with
      | [] => cases perm.nil_eq ▸ rowMem
      | head :: arranged =>
          refine ⟨head, ?_, ?_⟩
          · by_cases long : listing.size < (head :: arranged).length
            · obtain ⟨page, last, rest, split, _, _, page_eq⟩ :=
                page_of_long long
              rw [follow, answer, page_eq] at followed
              obtain ⟨later, _, rfl⟩ := Option.map_eq_some_iff.mp followed
              have isFirst : head ∈ page ++ [last] := by
                cases page with
                | nil => simp [(List.cons.inj split).1]
                | cons first page => simp [(List.cons.inj split).1]
              exact List.mem_append_left later.flatten isFirst
            · rw [follow, answer, Listing.page, if_neg long] at followed
              obtain rfl := Option.some.inj followed
              simp
          · rcases List.mem_cons.mp (perm.symm.subset rowMem) with rfl | later
            · exact le_refl _
            · exact List.rel_of_pairwise_cons sorted later

/-- If a row of a page is selected again, it comes before every row that is
left, and so it is shown again. -/
theorem above_of_visits {page rest : List Row} {last : Row}
    {cursor : Option Stamp} {requests index : Nat}
    {later : List (List Row)}
    (perm : (page ++ last :: rest).Perm (listing.selected cursor))
    (sorted : listing.Sorted (page ++ last :: rest))
    (goesOn : follow respond requests index (some (listing.stamp last)) =
      some later)
    (visits : later.flatten.Perm rest) :
    ∀ row ∈ page, listing.stamp last ≤ listing.stamp row := by
  intro row rowMem
  by_contra again
  rw [not_le] at again
  have lastMem : last ∈ listing.selected cursor := perm.subset (by simp)
  have rowSelected : row ∈ listing.selected (some (listing.stamp last)) := by
    rw [selected_next lastMem]
    exact List.mem_filter.mpr
      ⟨perm.subset (by simp [rowMem]), decide_eq_true again⟩
  obtain ⟨head, shown, headFirst⟩ := head_mem_of_follow answers goesOn
    rowSelected
  obtain ⟨_, sorted, fromPage⟩ := List.pairwise_append.mp sorted
  have lastFirst : listing.key last ≤ listing.key head :=
    List.rel_of_pairwise_cons sorted (visits.subset shown)
  have same : listing.key row = listing.key last :=
    le_antisymm (fromPage row rowMem last List.mem_cons_self)
      (lastFirst.trans headFirst)
  rw [Listing.stamp, Listing.stamp, same] at again
  exact lt_irrefl _ again

/-- The pages from a cursor on are the rows that it selects, in order, if and
only if their boundaries separate the stamps. -/
theorem follow_iff {requests index : Nat}
    {cursor : Option Stamp} {pages : List (List Row)}
    (followed : follow respond requests index cursor = some pages)
    {arranged : List Row} (perm : arranged.Perm (listing.selected cursor))
    (sorted : listing.Sorted arranged) :
    (pages.flatten.Perm (listing.selected cursor) ∧
        listing.Sorted pages.flatten) ↔
      Separated listing.size (arranged.map listing.stamp) := by
  induction requests generalizing index cursor pages arranged with
  | zero => cases followed
  | succ requests ih =>
      obtain ⟨shown, shownPerm, shownSorted, answer⟩ := answers index cursor
      rw [map_stamp_eq (perm.trans shownPerm.symm) sorted shownSorted]
      by_cases long : listing.size < shown.length
      · obtain ⟨page, last, rest, rfl, full, notEnd, page_eq⟩ :=
          page_of_long long
        rw [follow, answer, page_eq] at followed
        obtain ⟨later, goesOn, rfl⟩ := Option.map_eq_some_iff.mp followed
        have lastMem : last ∈ listing.selected cursor :=
          shownPerm.subset (by simp)
        rw [List.map_append, List.map_cons,
          separated_page_iff (by rw [List.length_map]; exact full)
            (by simp [notEnd]), List.forall_mem_map, List.forall_mem_map,
          List.flatten_cons]
        rw [List.append_cons] at shownPerm shownSorted
        obtain ⟨pageSorted, restSorted, across⟩ :=
          List.pairwise_append.mp shownSorted
        -- Either way the rows that are left are the rest of the list.
        have left : (∀ row ∈ page, listing.stamp last ≤ listing.stamp row) →
            (∀ row ∈ rest, listing.stamp row < listing.stamp last) →
            rest.Perm (listing.selected (some (listing.stamp last))) := by
          intro above below
          rw [selected_next lastMem]
          rw [← List.append_cons] at shownPerm
          exact (selected_perm_rest shownPerm above below).symm
        constructor
        · rintro ⟨visits, inOrder⟩
          have visitsRest : later.flatten.Perm rest :=
            (List.perm_append_left_iff _).mp (visits.trans shownPerm.symm)
          have below : ∀ row ∈ rest,
              listing.stamp row < listing.stamp last := by
            intro row rowMem
            have selected := mem_of_follow answers goesOn row
              (visitsRest.symm.subset rowMem)
            exact of_decide_eq_true (List.mem_filter.mp selected).2
          have above : ∀ row ∈ page,
              listing.stamp last ≤ listing.stamp row := by
            rw [← List.append_cons] at shownPerm shownSorted
            exact above_of_visits answers shownPerm shownSorted goesOn
              visitsRest
          refine ⟨⟨above, below⟩, ?_⟩
          exact (ih goesOn (left above below) restSorted).mp
            ⟨visitsRest.trans (left above below),
              (List.pairwise_append.mp inOrder).2.1⟩
        · rintro ⟨⟨above, below⟩, separated⟩
          obtain ⟨visits, inOrder⟩ :=
            (ih goesOn (left above below) restSorted).mpr separated
          have visitsRest := visits.trans (left above below).symm
          refine ⟨((List.perm_append_left_iff _).mpr visitsRest).trans
            shownPerm, ?_⟩
          refine List.pairwise_append.mpr ⟨pageSorted, inOrder, ?_⟩
          intro first firstMem second secondMem
          exact across first firstMem second (visitsRest.subset secondMem)
      · rw [follow, answer, Listing.page, if_neg long] at followed
        obtain rfl := Option.some.inj followed
        rw [List.flatten_singleton]
        refine iff_of_true ⟨shownPerm, shownSorted⟩ ?_
        apply separated_of_length_le
        rw [List.length_map]
        exact not_lt.mp long

/-- Following the cursors visits everything once if and only if every page
boundary separates the stamps. -/
theorem visitsOnce_iff {arranged : List Row}
    (perm : arranged.Perm listing.rows) (sorted : listing.Sorted arranged) :
    listing.VisitsOnce respond ↔
      Separated listing.size (arranged.map listing.stamp) := by
  constructor
  · rintro ⟨requests, pages, followed, visits, inOrder⟩
    exact (follow_iff answers followed perm sorted).mp ⟨visits, inOrder⟩
  · intro separated
    obtain ⟨requests, pages, followed⟩ := exists_follow answers 0 none
    exact ⟨requests, pages, followed,
      (follow_iff answers followed perm sorted).mpr separated⟩

end Follow

end CursorPaging
