import NovaCommerce.KeyedTable
import Mathlib.Data.Finset.Card

/-!
# Tables with at most one marked row in a group

Some of the rows of a table bear a mark, which names a group.  A table is
uniquely marked if no two of its rows bear the same mark.  Taking marks off
keeps this, and a row may be added or replaced exactly if no other row bears the
mark of the new one.
-/

namespace Table

variable {Row Key Group : Type*} [Keyed Row Key]

/-- No two rows bear the same mark. -/
def UniquelyMarked (mark : Row → Option Group) (table : Table Row) : Prop :=
  ∀ first ∈ table.rows, ∀ second ∈ table.rows, ∀ group,
    mark first = some group → mark second = some group → first = second

variable {mark : Row → Option Group} {table : Table Row}

theorem uniquelyMarked_empty : (∅ : Table Row).UniquelyMarked mark := by
  intro first firstMem
  cases firstMem

theorem uniquelyMarked_iff_length [DecidableEq Group] :
    table.UniquelyMarked mark ↔ ∀ group,
      (table.rows.filter fun row => mark row = some group).length ≤ 1 := by
  classical
  have nodup : ∀ group,
      (table.rows.filter fun row => mark row = some group).Nodup :=
    fun _ => table.nodup_rows.filter _
  have members : ∀ group,
      (table.rows.filter fun row => mark row = some group).length ≤ 1 ↔
        ∀ first ∈ table.rows, mark first = some group →
          ∀ second ∈ table.rows, mark second = some group →
            first = second := by
    intro group
    rw [← List.toFinset_card_of_nodup (nodup group), Finset.card_le_one]
    simp [and_imp]
  simp only [members]
  constructor
  · intro unique group first firstMem firstMark second secondMem secondMark
    exact unique first firstMem second secondMem group firstMark secondMark
  · intro unique first firstMem second secondMem group firstMark secondMark
    exact unique group first firstMem firstMark second secondMem secondMark

/-- A change may take marks off. -/
theorem UniquelyMarked.alter (unique : table.UniquelyMarked mark)
    {change : Row → Row}
    (keepsKey : ∀ row, Keyed.key (change row) = Keyed.key row)
    (lessMarked : ∀ row, mark (change row) = mark row ∨
      mark (change row) = none) :
    (table.alter change keepsKey).UniquelyMarked mark := by
  have markedBefore : ∀ row group, mark (change row) = some group →
      mark row = some group := by
    intro row group marked
    rcases lessMarked row with same | unmarked
    · exact same ▸ marked
    · simp [unmarked] at marked
  intro first firstMem second secondMem group firstMark secondMark
  rw [rows_alter] at firstMem secondMem
  obtain ⟨firstRow, firstOld, rfl⟩ := List.mem_map.mp firstMem
  obtain ⟨secondRow, secondOld, rfl⟩ := List.mem_map.mp secondMem
  rw [unique firstRow firstOld secondRow secondOld group
    (markedBefore _ _ firstMark) (markedBefore _ _ secondMark)]

/-- A row may be created if no row bears its mark. -/
theorem UniquelyMarked.create [FreshKey Key]
    (unique : table.UniquelyMarked mark) {build : Key → Row}
    {hasKey : ∀ key, Keyed.key (build key) = key}
    (unused : ∀ group, mark (build (FreshKey.fresh table.keys)) = some group →
      ∀ row ∈ table.rows, mark row ≠ some group) :
    (table.create build hasKey).UniquelyMarked mark := by
  intro first firstMem second secondMem group firstMark secondMark
  rw [rows_create, List.mem_append, List.mem_singleton] at firstMem secondMem
  rcases firstMem with firstOld | rfl
  · rcases secondMem with secondOld | rfl
    · exact unique first firstOld second secondOld group firstMark secondMark
    · exact absurd firstMark (unused group secondMark first firstOld)
  · rcases secondMem with secondOld | rfl
    · exact absurd secondMark (unused group firstMark second secondOld)
    · rfl

/-- A row may be replaced exactly if no other row bears the mark of the new
one. -/
theorem UniquelyMarked.save_iff [DecidableEq Key]
    (unique : table.UniquelyMarked mark) {old saved : Row}
    (member : old ∈ table.rows) (sameKey : Keyed.key saved = Keyed.key old) :
    (table.save saved).UniquelyMarked mark ↔
      ∀ group, mark saved = some group → ∀ row ∈ table.rows,
        Keyed.key row ≠ Keyed.key old → mark row ≠ some group := by
  have savedMem : saved ∈ (table.save saved).rows := by
    rw [mem_save, sameKey]
    exact Or.inr ⟨rfl, List.mem_map_of_mem member⟩
  constructor
  · intro after group savedMark row rowMem otherKey rowMark
    have otherRow : row ∈ (table.save saved).rows :=
      mem_save_of_ne rowMem (sameKey ▸ otherKey)
    have same := after row otherRow saved savedMem group rowMark savedMark
    exact otherKey (same ▸ sameKey)
  · intro unused first firstMem second secondMem group firstMark secondMark
    rw [mem_save, sameKey] at firstMem secondMem
    rcases firstMem with ⟨firstOld, firstKey⟩ | ⟨rfl, _⟩
    · rcases secondMem with ⟨secondOld, _⟩ | ⟨rfl, _⟩
      · exact unique first firstOld second secondOld group firstMark secondMark
      · exact absurd firstMark
          (unused group secondMark first firstOld firstKey)
    · rcases secondMem with ⟨secondOld, secondKey⟩ | ⟨rfl, _⟩
      · exact absurd secondMark
          (unused group firstMark second secondOld secondKey)
      · rfl

end Table
