import Mathlib.Data.List.Sort
import Mathlib.Order.Basic

/-!
# The first row of a sorted list

Rows are sorted by a rank, largest rank first.  Rows of equal rank stay in the
order in which they came, so that the first row of the result depends on that
order unless one row has the largest rank alone.
-/

namespace SortedHeads

variable {Row Rank : Type*} [LinearOrder Rank] {rank : Row → Rank}
  {rows : List Row} {row : Row}

/-- The first row is the first one that has the largest rank. -/
theorem exists_split_of_head
    (atHead : (rows.insertionSort fun first second =>
      rank second ≤ rank first).head? = some row) :
    ∃ earlier later, rows = earlier ++ row :: later ∧
      (∀ other ∈ earlier, rank other < rank row) ∧
      ∀ other ∈ later, rank other ≤ rank row := by
  induction rows generalizing row with
  | nil => simp at atHead
  | cons head rows ih =>
      rw [List.insertionSort_cons] at atHead
      cases sorted : rows.insertionSort fun first second =>
          rank second ≤ rank first with
      | nil =>
          have noRows : rows = [] := by
            have lengths := List.length_insertionSort
              (fun first second => rank second ≤ rank first) rows
            rw [sorted] at lengths
            exact List.length_eq_zero_iff.mp lengths.symm
          rw [sorted] at atHead
          obtain rfl := Option.some.inj atHead
          exact ⟨[], rows, rfl, by simp, by simp [noRows]⟩
      | cons best others =>
          rw [sorted] at atHead
          obtain ⟨earlier, later, split, below, atMost⟩ :=
            ih (congrArg List.head? sorted)
          by_cases wins : rank best ≤ rank head
          · rw [List.orderedInsert_cons, if_pos wins] at atHead
            obtain rfl := Option.some.inj atHead
            refine ⟨[], rows, rfl, by simp, ?_⟩
            intro other otherMem
            rw [split] at otherMem
            rcases List.mem_append.mp otherMem with inEarlier | inRest
            · exact (below other inEarlier).le.trans wins
            · rcases List.mem_cons.mp inRest with rfl | inLater
              · exact wins
              · exact (atMost other inLater).trans wins
          · rw [List.orderedInsert_cons, if_neg wins] at atHead
            obtain rfl := Option.some.inj atHead
            refine ⟨head :: earlier, later, by rw [split]; rfl, ?_, atMost⟩
            intro other otherMem
            rcases List.mem_cons.mp otherMem with rfl | inEarlier
            · exact lt_of_not_ge wins
            · exact below other inEarlier

/-- A row that comes first in both directions has the largest rank alone. -/
theorem largest_of_heads (nodup : rows.Nodup)
    (forward : (rows.insertionSort fun first second =>
      rank second ≤ rank first).head? = some row)
    (backward : (rows.reverse.insertionSort fun first second =>
      rank second ≤ rank first).head? = some row) :
    ∀ other ∈ rows, other ≠ row → rank other < rank row := by
  obtain ⟨earlier, later, split, below, _⟩ := exists_split_of_head forward
  obtain ⟨before, after, reversed, belowAgain, _⟩ :=
    exists_split_of_head backward
  intro other otherMem differs
  rw [split] at otherMem
  rcases List.mem_append.mp otherMem with inEarlier | inRest
  · exact below other inEarlier
  · have inLater : other ∈ later :=
      (List.mem_cons.mp inRest).resolve_left differs
    -- What comes after the row comes before it in the reversed list.
    have mirrored : later.reverse ++ row :: earlier.reverse =
        before ++ row :: after := by
      rw [← reversed, split]
      simp
    rw [split] at nodup
    have notLater : row ∉ later.reverse := by
      have tail := (List.nodup_append.mp nodup).2.1
      simpa using (List.nodup_cons.mp tail).1
    have notEarlier : row ∉ earlier.reverse := by
      intro inEarlier
      exact (List.nodup_append.mp nodup).2.2 row
        (List.mem_reverse.mp inEarlier) row List.mem_cons_self rfl
    have same : later.reverse = before :=
      ((List.append_cons_inj_of_notMem notLater notEarlier).mp mirrored).1
    apply belowAgain
    rw [← same]
    exact List.mem_reverse.mpr inLater

/-- A row that has the largest rank alone comes first, in whatever order the
rows came. -/
theorem head_of_largest {others : List Row} (perm : others.Perm rows)
    (member : row ∈ rows)
    (largest : ∀ other ∈ rows, other ≠ row → rank other < rank row) :
    (others.insertionSort fun first second =>
      rank second ≤ rank first).head? = some row := by
  have sortedPerm := (List.perm_insertionSort
    (fun first second => rank second ≤ rank first) others).trans perm
  cases sorted : others.insertionSort fun first second =>
      rank second ≤ rank first with
  | nil =>
      rw [sorted] at sortedPerm
      rw [List.nil_perm.mp sortedPerm] at member
      cases member
  | cons best rest =>
      obtain ⟨earlier, later, split, below, atMost⟩ :=
        exists_split_of_head (congrArg List.head? sorted)
      by_contra differs
      have notRow : best ≠ row := by
        intro same
        exact differs (congrArg some same)
      have bestMem : best ∈ rows := by
        apply perm.mem_iff.mp
        rw [split]
        simp
      have better := largest best bestMem notRow
      have rowMem := perm.mem_iff.mpr member
      rw [split] at rowMem
      rcases List.mem_append.mp rowMem with inEarlier | inRest
      · exact absurd (below row inEarlier) better.not_gt
      · have inLater := (List.mem_cons.mp inRest).resolve_left notRow.symm
        exact absurd (atMost row inLater) better.not_ge

end SortedHeads
