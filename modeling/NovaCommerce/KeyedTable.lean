import Mathlib.Algebra.BigOperators.Group.List.Basic
import Mathlib.Algebra.BigOperators.Ring.List
import Mathlib.Data.List.Find
import Mathlib.Data.List.Nodup
import Mathlib.Tactic.Abel

/-!
# Tables of rows with distinct keys

A table is a list of rows, in insertion order, in which no key occurs twice.
Rows are replaced in place under their key and new rows are appended under a
fresh one, so that no operation can produce a duplicate key.  Sums over the
rows of a table follow every operation by a single rule.
-/

/-- Rows that are identified by a key. -/
class Keyed (Row : Type*) (Key : outParam (Type*)) where
  key : Row → Key

/-- Keys of which a new one can always be drawn. -/
class FreshKey (Key : Type*) where
  fresh : List Key → Key
  fresh_notMem : ∀ keys, fresh keys ∉ keys

theorem le_foldr_max {number : Nat} {used : List Nat}
    (member : number ∈ used) : number ≤ used.foldr max 0 := by
  induction used with
  | nil => cases member
  | cons head tail ih =>
      rcases List.mem_cons.mp member with rfl | later
      · exact le_max_left _ _
      · exact (ih later).trans (le_max_right _ _)

instance : FreshKey Nat where
  fresh keys := keys.foldr max 0 + 1
  fresh_notMem keys member := by
    have := le_foldr_max member
    omega

/-- A fresh number is larger than those in use. -/
theorem lt_fresh {number : Nat} {keys : List Nat} (member : number ∈ keys) :
    number < FreshKey.fresh keys :=
  Nat.lt_succ_of_le (le_foldr_max member)

/-- A list of rows whose keys are pairwise distinct. -/
structure Table (Row : Type*) {Key : Type*} [Keyed Row Key] where
  rows : List Row
  keys_nodup : (rows.map Keyed.key).Nodup

namespace Table

variable {Row Key : Type*} [Keyed Row Key]

instance : EmptyCollection (Table Row) := ⟨⟨[], by simp⟩⟩

@[simp]
theorem rows_empty : (∅ : Table Row).rows = [] :=
  rfl

@[ext]
theorem ext {first second : Table Row} (rowsEq : first.rows = second.rows) :
    first = second := by
  cases first
  cases second
  cases rowsEq
  rfl

/-- The keys in use. -/
def keys (table : Table Row) : List Key :=
  table.rows.map Keyed.key

/-- Change every row by a function that keeps the row's key. -/
def alter (table : Table Row) (change : Row → Row)
    (keepsKey : ∀ row, Keyed.key (change row) = Keyed.key row) :
    Table Row where
  rows := table.rows.map change
  keys_nodup := by
    have sameKeys : (table.rows.map change).map Keyed.key =
        table.rows.map Keyed.key := by
      simp [Function.comp_def, keepsKey]
    exact sameKeys ▸ table.keys_nodup

/-- Replace the row that has the key of `row`, if there is one. -/
def save [DecidableEq Key] (table : Table Row) (row : Row) : Table Row :=
  table.alter
    (fun old => if Keyed.key old = Keyed.key row then row else old)
    (by
      intro old
      split
      · next same => exact same.symm
      · rfl)

/-- Append a row under a key that is not in use. -/
def insert (table : Table Row) (row : Row)
    (unused : Keyed.key row ∉ table.keys) : Table Row where
  rows := table.rows ++ [row]
  keys_nodup := by
    rw [List.map_append, List.map_singleton]
    refine List.nodup_append.mpr ⟨table.keys_nodup, by simp, ?_⟩
    intro first firstMem second secondMem equal
    rw [List.mem_singleton] at secondMem
    exact unused (secondMem ▸ equal ▸ firstMem)

/-- Append a row, unless its key is in use. -/
def insertNew [DecidableEq Key] (table : Table Row) (row : Row) : Table Row :=
  if unused : Keyed.key row ∉ table.keys then table.insert row unused
  else table

/-- Append the row that `build` makes from a fresh key. -/
def create [FreshKey Key] (table : Table Row) (build : Key → Row)
    (hasKey : ∀ key, Keyed.key (build key) = key) : Table Row :=
  table.insert (build (FreshKey.fresh table.keys)) (by
    rw [hasKey]
    exact FreshKey.fresh_notMem _)

/-- The row stored under a key. -/
def find? [DecidableEq Key] (table : Table Row) (key : Key) : Option Row :=
  table.rows.find? fun row => Keyed.key row = key

/-- The sum of a quantity over all rows. -/
def total {Sum : Type*} [AddCommMonoid Sum] (table : Table Row)
    (measure : Row → Sum) : Sum :=
  (table.rows.map measure).sum

@[simp]
theorem rows_alter (table : Table Row) (change : Row → Row)
    (keepsKey : ∀ row, Keyed.key (change row) = Keyed.key row) :
    (table.alter change keepsKey).rows = table.rows.map change :=
  rfl

@[simp]
theorem rows_insert (table : Table Row) (row : Row)
    (unused : Keyed.key row ∉ table.keys) :
    (table.insert row unused).rows = table.rows ++ [row] :=
  rfl

@[simp]
theorem rows_create [FreshKey Key] (table : Table Row) (build : Key → Row)
    (hasKey : ∀ key, Keyed.key (build key) = key) :
    (table.create build hasKey).rows =
      table.rows ++ [build (FreshKey.fresh table.keys)] :=
  rfl

theorem rows_insertNew [DecidableEq Key] {table : Table Row} {row : Row}
    (unused : Keyed.key row ∉ table.keys) :
    (table.insertNew row).rows = table.rows ++ [row] := by
  rw [insertNew, dif_pos unused, rows_insert]

theorem alter_congr (table : Table Row) {first second : Row → Row}
    (firstKeeps : ∀ row, Keyed.key (first row) = Keyed.key row)
    (secondKeeps : ∀ row, Keyed.key (second row) = Keyed.key row)
    (agree : ∀ row ∈ table.rows, first row = second row) :
    table.alter first firstKeeps = table.alter second secondKeeps :=
  ext (List.map_congr_left agree)

theorem alter_self (table : Table Row) {change : Row → Row}
    (keepsKey : ∀ row, Keyed.key (change row) = Keyed.key row)
    (same : ∀ row ∈ table.rows, change row = row) :
    table.alter change keepsKey = table :=
  ext ((List.map_congr_left same).trans (List.map_id' _))

theorem alter_alter (table : Table Row) {first second : Row → Row}
    (firstKeeps : ∀ row, Keyed.key (first row) = Keyed.key row)
    (secondKeeps : ∀ row, Keyed.key (second row) = Keyed.key row) :
    (table.alter first firstKeeps).alter second secondKeeps =
      table.alter (second ∘ first) (by
        intro row
        exact (secondKeeps _).trans (firstKeeps row)) := by
  apply ext
  simp

@[simp]
theorem keys_alter (table : Table Row) (change : Row → Row)
    (keepsKey : ∀ row, Keyed.key (change row) = Keyed.key row) :
    (table.alter change keepsKey).keys = table.keys := by
  simp [keys, Function.comp_def, keepsKey]

/-- A change commutes with the creation of a row that it keeps. -/
theorem alter_create [FreshKey Key] (table : Table Row) {change : Row → Row}
    (keepsKey : ∀ row, Keyed.key (change row) = Keyed.key row)
    (build : Key → Row) (hasKey : ∀ key, Keyed.key (build key) = key)
    (same : change (build (FreshKey.fresh table.keys)) =
      build (FreshKey.fresh table.keys)) :
    (table.create build hasKey).alter change keepsKey =
      (table.alter change keepsKey).create build hasKey := by
  apply ext
  simp [same]

/-- Two rows of a table with the same key are the same row. -/
theorem eq_of_key_eq (table : Table Row) {first second : Row}
    (firstMem : first ∈ table.rows) (secondMem : second ∈ table.rows)
    (keyEq : Keyed.key first = Keyed.key second) :
    first = second :=
  List.inj_on_of_nodup_map table.keys_nodup firstMem secondMem keyEq

/-- Lists of rows of a table are equal if their keys are. -/
theorem eq_of_keys_eq (table : Table Row) {first second : List Row}
    (firstMem : ∀ row ∈ first, row ∈ table.rows)
    (secondMem : ∀ row ∈ second, row ∈ table.rows)
    (keysEq : first.map Keyed.key = second.map Keyed.key) :
    first = second := by
  induction first generalizing second with
  | nil => exact (List.map_eq_nil_iff.mp keysEq.symm).symm
  | cons row rows ih =>
      cases second with
      | nil => simp at keysEq
      | cons other others =>
          rw [List.map_cons, List.map_cons, List.cons.injEq] at keysEq
          have sameRow : row = other :=
            table.eq_of_key_eq (firstMem row List.mem_cons_self)
              (secondMem other List.mem_cons_self) keysEq.1
          have sameRows := ih
            (fun later laterMem => firstMem later (.tail _ laterMem))
            (fun later laterMem => secondMem later (.tail _ laterMem)) keysEq.2
          rw [sameRow, sameRows]

theorem nodup_rows (table : Table Row) : table.rows.Nodup :=
  List.Nodup.of_map _ table.keys_nodup

section Lookup

variable [DecidableEq Key]

theorem find?_eq_some {table : Table Row} {key : Key} {row : Row} :
    table.find? key = some row ↔ row ∈ table.rows ∧ Keyed.key row = key := by
  constructor
  · intro found
    exact ⟨List.mem_of_find?_eq_some found,
      by simpa using List.find?_some found⟩
  · rintro ⟨member, hasKey⟩
    cases found : table.find? key with
    | none =>
        have absent := List.find?_eq_none.mp found row member
        simp [hasKey] at absent
    | some other =>
        have otherMem := List.mem_of_find?_eq_some found
        have otherKey : Keyed.key other = key := by
          simpa using List.find?_some found
        rw [table.eq_of_key_eq otherMem member (otherKey.trans hasKey.symm)]

theorem mem_save {table : Table Row} {saved row : Row} :
    row ∈ (table.save saved).rows ↔
      (row ∈ table.rows ∧ Keyed.key row ≠ Keyed.key saved) ∨
        (row = saved ∧ Keyed.key saved ∈ table.keys) := by
  simp only [save, rows_alter, List.mem_map, keys]
  constructor
  · rintro ⟨old, oldMem, rfl⟩
    split
    · next same => exact Or.inr ⟨rfl, old, oldMem, same⟩
    · next other => exact Or.inl ⟨oldMem, other⟩
  · rintro (⟨member, other⟩ | ⟨rfl, old, oldMem, same⟩)
    · exact ⟨row, member, if_neg other⟩
    · exact ⟨old, oldMem, if_pos same⟩

/-- A change commutes with saving a row that it keeps. -/
theorem alter_save (table : Table Row) {change : Row → Row}
    (keepsKey : ∀ row, Keyed.key (change row) = Keyed.key row) {row : Row}
    (same : change row = row) :
    (table.save row).alter change keepsKey =
      (table.alter change keepsKey).save row := by
  apply ext
  rw [save, save, rows_alter, rows_alter, rows_alter, rows_alter,
    List.map_map, List.map_map]
  apply List.map_congr_left
  intro old _
  simp only [Function.comp_apply, keepsKey]
  split
  · exact same
  · rfl

/-- Saving a row of the table changes nothing. -/
theorem save_self (table : Table Row) {row : Row} (member : row ∈ table.rows) :
    table.save row = table := by
  apply alter_self
  intro old oldMem
  split
  · next same => exact (table.eq_of_key_eq oldMem member same).symm
  · rfl

/-- Only the last one of two rows that are saved under a key counts. -/
theorem save_save (table : Table Row) {first second : Row}
    (sameKey : Keyed.key first = Keyed.key second) :
    (table.save first).save second = table.save second := by
  apply ext
  rw [save, save, save, rows_alter, rows_alter, rows_alter, List.map_map]
  apply List.map_congr_left
  intro old _
  rw [Function.comp_apply, sameKey]
  split
  · rfl
  · rfl

/-- Saving changes no key. -/
theorem keys_save (table : Table Row) (saved : Row) :
    (table.save saved).keys = table.keys := by
  rw [keys, save, rows_alter, List.map_map, keys]
  apply List.map_congr_left
  intro row _
  rw [Function.comp_apply]
  split
  · next same => exact same.symm
  · rfl

theorem find?_eq_none {table : Table Row} {key : Key} :
    table.find? key = none ↔ key ∉ table.keys := by
  simp [find?, keys]

theorem find?_alter (table : Table Row) {change : Row → Row}
    (keepsKey : ∀ row, Keyed.key (change row) = Keyed.key row) (key : Key) :
    (table.alter change keepsKey).find? key = (table.find? key).map change := by
  simp [find?, List.find?_map, keepsKey]

/-- Other rows are found as before. -/
theorem find?_alter_of_same (table : Table Row) {change : Row → Row}
    (keepsKey : ∀ row, Keyed.key (change row) = Keyed.key row) {key : Key}
    (same : ∀ row, Keyed.key row = key → change row = row) :
    (table.alter change keepsKey).find? key = table.find? key := by
  rw [find?_alter]
  cases found : table.find? key with
  | none => rfl
  | some row =>
      rw [Option.map_some, same row (find?_eq_some.mp found).2]

theorem find?_save_of_ne {table : Table Row} {saved : Row} {key : Key}
    (keyNe : Keyed.key saved ≠ key) :
    (table.save saved).find? key = table.find? key := by
  refine find?_alter_of_same table
    (by
      intro row
      split
      · next same => exact same.symm
      · rfl) ?_
  intro row hasKey
  apply if_neg
  intro same
  exact keyNe (same.symm.trans hasKey)

theorem find?_insertNew_of_ne {table : Table Row} {row : Row} {key : Key}
    (keyNe : Keyed.key row ≠ key) :
    (table.insertNew row).find? key = table.find? key := by
  unfold insertNew
  split
  · simp [find?, keyNe]
  · rfl

/-- Changing one row is saving the changed row. -/
theorem alter_eq_save {table : Table Row} {change : Row → Row} {row : Row}
    (keepsKey : ∀ row, Keyed.key (change row) = Keyed.key row)
    (member : row ∈ table.rows)
    (same : ∀ other, Keyed.key other ≠ Keyed.key row → change other = other) :
    table.alter change keepsKey = table.save (change row) := by
  apply alter_congr
  intro other otherMem
  rw [keepsKey]
  by_cases sameKey : Keyed.key other = Keyed.key row
  · rw [if_pos sameKey, table.eq_of_key_eq otherMem member sameKey]
  · rw [if_neg sameKey, same other sameKey]

/-- Saving a row that was just created replaces it. -/
theorem rows_save_create [FreshKey Key] (table : Table Row)
    (build : Key → Row) (hasKey : ∀ key, Keyed.key (build key) = key)
    {saved : Row}
    (sameKey : Keyed.key saved = FreshKey.fresh table.keys) :
    ((table.create build hasKey).save saved).rows =
      table.rows ++ [saved] := by
  have others : table.rows.map (fun row =>
      if Keyed.key row = Keyed.key saved then saved else row) =
      table.rows := by
    conv_rhs => rw [← List.map_id table.rows]
    apply List.map_congr_left
    intro row rowMem
    apply if_neg
    intro equal
    apply FreshKey.fresh_notMem table.keys
    rw [← sameKey, ← equal]
    exact List.mem_map_of_mem rowMem
  rw [save, rows_alter, rows_create, List.map_append, others]
  simp [hasKey, sameKey]

/-- Saving a row changes no list of columns that the row keeps. -/
theorem map_save {Column : Type*} {table : Table Row} {old saved : Row}
    (member : old ∈ table.rows) (sameKey : Keyed.key saved = Keyed.key old)
    (column : Row → Column) (same : column saved = column old) :
    (table.save saved).rows.map column = table.rows.map column := by
  rw [save, rows_alter, List.map_map]
  apply List.map_congr_left
  intro row rowMem
  rw [Function.comp_apply]
  split
  · next isSaved =>
    rw [same, table.eq_of_key_eq rowMem member (isSaved.trans sameKey)]
  · rfl

/-- A filter that does not select the saved row selects the other ones. -/
theorem filter_save_of_not {table : Table Row} {saved : Row}
    {keep : Row → Bool} (notSaved : keep saved = false) :
    (table.save saved).rows.filter keep =
      (table.rows.filter keep).filter fun row =>
        Keyed.key row ≠ Keyed.key saved := by
  rw [save, rows_alter, List.filter_map, List.filter_filter]
  conv_rhs => rw [← List.map_id (List.filter _ _)]
  have sameRows : table.rows.filter (keep ∘ fun row =>
      if Keyed.key row = Keyed.key saved then saved else row) =
      table.rows.filter fun row =>
        decide (Keyed.key row ≠ Keyed.key saved) && keep row := by
    apply List.filter_congr
    intro row _
    by_cases same : Keyed.key row = Keyed.key saved <;> simp [same, notSaved]
  rw [sameRows]
  apply List.map_congr_left
  intro row selected
  have other := (Bool.and_eq_true_iff.mp (List.mem_filter.mp selected).2).1
  rw [if_neg (of_decide_eq_true other), id]
/-- Saving a row does not change what a filter selects among the others. -/
theorem filter_save {table : Table Row} {old saved : Row}
    (member : old ∈ table.rows) (sameKey : Keyed.key saved = Keyed.key old)
    {keep : Row → Bool} (notOld : keep old = false)
    (notSaved : keep saved = false) :
    (table.save saved).rows.filter keep = table.rows.filter keep := by
  rw [filter_save_of_not notSaved, List.filter_eq_self]
  intro row selected
  obtain ⟨rowMem, kept⟩ := List.mem_filter.mp selected
  apply decide_eq_true
  intro isSaved
  rw [table.eq_of_key_eq rowMem member (isSaved.trans sameKey), notOld] at kept
  cases kept

omit [DecidableEq Key] in
/-- A change that reaches no selected row, and makes none, does not change what
a filter selects. -/
theorem filter_alter (table : Table Row) {change : Row → Row}
    (keepsKey : ∀ row, Keyed.key (change row) = Keyed.key row)
    {keep : Row → Bool}
    (kept : ∀ row ∈ table.rows, keep row = true → change row = row)
    (others : ∀ row ∈ table.rows, keep row = false →
      keep (change row) = false) :
    (table.alter change keepsKey).rows.filter keep =
      table.rows.filter keep := by
  have sameRows : table.rows.filter (keep ∘ change) =
      table.rows.filter keep := by
    apply List.filter_congr
    intro row member
    rw [Function.comp_apply]
    cases selected : keep row with
    | true => rw [kept row member selected, selected]
    | false => exact others row member selected
  rw [rows_alter, List.filter_map, sameRows]
  conv_rhs => rw [← List.map_id (List.filter _ _)]
  apply List.map_congr_left
  intro row selected
  obtain ⟨member, isKept⟩ := List.mem_filter.mp selected
  exact kept row member isKept

/-- The first row that a condition selects is still the first one when it is
saved. -/
theorem find?_rows_save {table : Table Row} {old saved : Row}
    (sameKey : Keyed.key saved = Keyed.key old) {keep : Row → Bool}
    (kept : keep saved = keep old)
    (found : table.rows.find? keep = some old) :
    (table.save saved).rows.find? keep = some saved := by
  have member := List.mem_of_find?_eq_some found
  have sameSelection : ∀ row ∈ table.rows, (keep ∘ fun row =>
      if Keyed.key row = Keyed.key saved then saved else row) row =
        keep row := by
    intro row rowMem
    rw [Function.comp_apply]
    split
    · next isSaved =>
        rw [table.eq_of_key_eq rowMem member (isSaved.trans sameKey), kept]
    · rfl
  rw [save, rows_alter, List.find?_map, List.find?_congr sameSelection, found,
    Option.map_some, if_pos sameKey.symm]

/-- A row that was not saved stays in the table. -/
theorem mem_save_of_ne {table : Table Row} {saved row : Row}
    (member : row ∈ table.rows) (keyNe : Keyed.key row ≠ Keyed.key saved) :
    row ∈ (table.save saved).rows :=
  mem_save.mpr (Or.inl ⟨member, keyNe⟩)

end Lookup

section Totals

variable {Sum : Type*}

theorem total_congr [AddCommMonoid Sum] {table : Table Row}
    {first second : Row → Sum}
    (agree : ∀ row ∈ table.rows, first row = second row) :
    table.total first = table.total second := by
  unfold total
  rw [List.map_congr_left agree]

theorem total_alter [AddCommMonoid Sum] (table : Table Row)
    {change : Row → Row}
    (keepsKey : ∀ row, Keyed.key (change row) = Keyed.key row)
    (measure : Row → Sum) :
    (table.alter change keepsKey).total measure =
      table.total (measure ∘ change) := by
  simp [total]

theorem total_insert [AddCommMonoid Sum] (table : Table Row) (row : Row)
    (unused : Keyed.key row ∉ table.keys) (measure : Row → Sum) :
    (table.insert row unused).total measure =
      table.total measure + measure row := by
  simp [total]

theorem total_create [AddCommMonoid Sum] [FreshKey Key] (table : Table Row)
    (build : Key → Row) (hasKey : ∀ key, Keyed.key (build key) = key)
    (measure : Row → Sum) :
    (table.create build hasKey).total measure =
      table.total measure +
        measure (build (FreshKey.fresh table.keys)) :=
  total_insert _ _ _ _

theorem total_add [AddCommMonoid Sum] (table : Table Row)
    (first second : Row → Sum) :
    table.total (fun row => first row + second row) =
      table.total first + table.total second :=
  List.sum_map_add

theorem mul_total [NonUnitalNonAssocSemiring Sum] (table : Table Row)
    (factor : Sum) (measure : Row → Sum) :
    factor * table.total measure =
      table.total fun row => factor * measure row :=
  (List.sum_map_mul_left _ _ _).symm

/-- Only the rows that satisfy a filter contribute to a sum that is zero
elsewhere. -/
theorem total_ite [AddCommMonoid Sum] (table : Table Row)
    (keep : Row → Prop) [DecidablePred keep] (measure : Row → Sum) :
    table.total (fun row => if keep row then measure row else 0) =
      ((table.rows.filter fun row => keep row).map measure).sum := by
  unfold total
  induction table.rows with
  | nil => rfl
  | cons row rows ih =>
      by_cases kept : keep row <;> simp [kept, ih]

/-- Only the row under a key contributes to a sum that is zero elsewhere. -/
theorem total_single [AddCommMonoid Sum] [DecidableEq Key] {table : Table Row}
    {row : Row} (member : row ∈ table.rows) (value : Sum) :
    (table.total fun other =>
      if Keyed.key other = Keyed.key row then value else 0) = value := by
  have alone : ∀ rows : List Row, (rows.map Keyed.key).Nodup → row ∈ rows →
      (rows.map fun other =>
        if Keyed.key other = Keyed.key row then value else 0).sum = value := by
    intro rows
    induction rows with
    | nil => simp
    | cons head rows ih =>
        intro keysNodup rowMem
        rw [List.map_cons, List.nodup_cons] at keysNodup
        rw [List.map_cons, List.sum_cons]
        rcases List.mem_cons.mp rowMem with atHead | later
        · subst head
          rw [if_pos rfl, List.sum_eq_zero, add_zero]
          intro each eachMem
          obtain ⟨other, otherMem, rfl⟩ := List.mem_map.mp eachMem
          apply if_neg
          intro same
          exact keysNodup.1 (same ▸ List.mem_map_of_mem otherMem)
        · have keyNe : Keyed.key head ≠ Keyed.key row := by
            intro same
            exact keysNodup.1 (same ▸ List.mem_map_of_mem later)
          rw [if_neg keyNe, zero_add, ih keysNodup.2 later]
  exact alone table.rows table.keys_nodup member

/-- Sum a quantity over the rows that a query selects, when it vanishes on
all other rows. -/
theorem total_eq_sum_of_perm [AddCommMonoid Sum] {table : Table Row}
    {keep : Row → Bool} {selected : List Row}
    (perm : selected.Perm (table.rows.filter keep)) (measure : Row → Sum)
    (vanishes : ∀ row ∈ table.rows, keep row = false → measure row = 0) :
    table.total measure = (selected.map measure).sum := by
  have restricted : table.total measure =
      table.total fun row => if keep row then measure row else 0 := by
    apply total_congr
    intro row rowMem
    cases kept : keep row with
    | false => simpa using vanishes row rowMem kept
    | true => simp
  rw [restricted, total_ite, (perm.map measure).sum_eq]
  simp

/-- Saving a row replaces its old contribution by the new one. -/
theorem total_save [AddCommGroup Sum] [DecidableEq Key] {table : Table Row}
    {old saved : Row} (member : old ∈ table.rows)
    (keyEq : Keyed.key saved = Keyed.key old) (measure : Row → Sum) :
    (table.save saved).total measure =
      table.total measure - measure old + measure saved := by
  have split : ∀ rows : List Row, (rows.map Keyed.key).Nodup → old ∈ rows →
      (rows.map fun row => measure
        (if Keyed.key row = Keyed.key saved then saved else row)).sum =
      (rows.map measure).sum - measure old + measure saved := by
    intro rows
    induction rows with
    | nil => simp
    | cons row rows ih =>
        intro keysNodup oldMem
        rw [List.map_cons, List.nodup_cons] at keysNodup
        rcases List.mem_cons.mp oldMem with atHead | later
        · subst row
          have tail : rows.map (fun row => measure
              (if Keyed.key row = Keyed.key saved then saved else row)) =
              rows.map measure := by
            apply List.map_congr_left
            intro row rowMem
            have keyNe : Keyed.key row ≠ Keyed.key saved := by
              intro equal
              exact keysNodup.1
                ((equal.trans keyEq) ▸ List.mem_map_of_mem rowMem)
            rw [if_neg keyNe]
          rw [List.map_cons, List.sum_cons, tail, if_pos keyEq.symm,
            List.map_cons, List.sum_cons]
          abel
        · have keyNe : Keyed.key row ≠ Keyed.key saved := by
            intro equal
            exact keysNodup.1
              ((equal.trans keyEq).symm ▸ List.mem_map_of_mem later)
          rw [List.map_cons, List.sum_cons, ih keysNodup.2 later,
            if_neg keyNe, List.map_cons, List.sum_cons]
          abel
  have := split table.rows table.keys_nodup member
  simpa [total, save, Function.comp_def] using this

end Totals

end Table

section Selections

variable {Row Key Value : Type*} {key : Row → Key} {rows : List Row}

theorem mem_map_filter_iff (nodup : (rows.map key).Nodup)
    (keep : Row → Bool) (value : Row → Value) {row : Row}
    (member : row ∈ rows) {shown : Value} :
    (key row, shown) ∈ ((rows.filter keep).map fun row =>
        (key row, value row)) ↔ keep row = true ∧ value row = shown := by
  rw [List.mem_map]
  constructor
  · rintro ⟨other, selected, same⟩
    obtain ⟨otherMem, kept⟩ := List.mem_filter.mp selected
    obtain ⟨sameKey, sameValue⟩ := Prod.mk.inj same
    obtain rfl : other = row :=
      List.inj_on_of_nodup_map nodup otherMem member sameKey
    exact ⟨kept, sameValue⟩
  · rintro ⟨kept, rfl⟩
    exact ⟨row, List.mem_filter.mpr ⟨member, kept⟩, rfl⟩

/-- Two selections of rows with distinct keys show the same, in any order,
exactly if they select the same rows and show the same of each. -/
theorem perm_map_filter_iff (nodup : (rows.map key).Nodup)
    {first second : Row → Bool} {firstValue secondValue : Row → Value} :
    ((rows.filter first).map fun row => (key row, firstValue row)).Perm
        ((rows.filter second).map fun row => (key row, secondValue row)) ↔
      ∀ row ∈ rows, (first row = true ↔ second row = true) ∧
        (first row = true → firstValue row = secondValue row) := by
  constructor
  · intro perm row member
    have shown : ∀ value, first row = true ∧ firstValue row = value ↔
        second row = true ∧ secondValue row = value := by
      intro value
      rw [← mem_map_filter_iff nodup first firstValue member, perm.mem_iff,
        mem_map_filter_iff nodup second secondValue member]
    refine ⟨⟨?_, ?_⟩, ?_⟩
    · intro selected
      exact ((shown _).mp ⟨selected, rfl⟩).1
    · intro selected
      exact ((shown _).mpr ⟨selected, rfl⟩).1
    · intro selected
      exact ((shown _).mp ⟨selected, rfl⟩).2.symm
  · intro same
    have sameRows : rows.filter first = rows.filter second :=
      List.filter_congr fun row member =>
        Bool.eq_iff_iff.mpr (same row member).1
    have sameValues : (rows.filter first).map
        (fun row => (key row, firstValue row)) =
          (rows.filter first).map fun row => (key row, secondValue row) := by
      apply List.map_congr_left
      intro row selected
      obtain ⟨member, kept⟩ := List.mem_filter.mp selected
      rw [(same row member).2 kept]
    rw [sameValues, sameRows]

end Selections
