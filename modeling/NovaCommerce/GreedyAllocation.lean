import Mathlib.Algebra.Order.Ring.Defs
import Mathlib.Algebra.Order.BigOperators.Group.List
import Mathlib.Tactic.Linarith
import Mathlib.Tactic.Ring

/-!
# Greedy allocation over a list of rows

A demand is spread over rows in a fixed visiting order.  Every visited row
gives the smaller of its capacity and the demand that is still unmet, and the
pass stops giving as soon as nothing is left to ask for.  This file describes
the outcome of such a pass by the amount taken under each key, and proves how
the amounts add up.
-/

namespace GreedyAllocation

variable {Row Key Amount : Type*} [DecidableEq Key]
  [CommRing Amount] [LinearOrder Amount]

/-- The part of the demand that remains after every row was visited. -/
def unmet (capacity : Row → Amount) : List Row → Amount → Amount
  | [], demand => demand
  | row :: rows, demand =>
      if demand ≤ 0 then demand
      else unmet capacity rows (demand - min (capacity row) demand)

/-- The amount that the pass takes from the row with key `target`. -/
def taken (key : Row → Key) (capacity : Row → Amount) :
    List Row → Amount → Key → Amount
  | [], _, _ => 0
  | row :: rows, demand, target =>
      if demand ≤ 0 then 0
      else if target = key row then min (capacity row) demand
      else taken key capacity rows
        (demand - min (capacity row) demand) target

/-- The rows that give something, in visiting order, with the amounts they
give. -/
def grants (capacity : Row → Amount) :
    List Row → Amount → List (Row × Amount)
  | [], _ => []
  | row :: rows, demand =>
      if demand ≤ 0 then []
      else if min (capacity row) demand = 0 then
        grants capacity rows demand
      else
        (row, min (capacity row) demand) ::
          grants capacity rows (demand - min (capacity row) demand)

variable {key : Row → Key} {capacity : Row → Amount}

theorem unmet_of_nonpos {demand : Amount} (nonpos : demand ≤ 0)
    (rows : List Row) :
    unmet capacity rows demand = demand := by
  cases rows with
  | nil => rfl
  | cons row rows => simp [unmet, nonpos]

theorem taken_of_nonpos {demand : Amount} (nonpos : demand ≤ 0)
    (rows : List Row) (target : Key) :
    taken key capacity rows demand target = 0 := by
  cases rows with
  | nil => rfl
  | cons row rows => simp [taken, nonpos]

theorem grants_of_nonpos {demand : Amount} (nonpos : demand ≤ 0)
    (rows : List Row) :
    grants capacity rows demand = [] := by
  cases rows with
  | nil => rfl
  | cons row rows => simp [grants, nonpos]

theorem taken_of_notMem {rows : List Row} {target : Key}
    (notMem : target ∉ rows.map key) (demand : Amount) :
    taken key capacity rows demand target = 0 := by
  induction rows generalizing demand with
  | nil => rfl
  | cons row rows ih =>
      rw [List.map_cons, List.mem_cons, not_or] at notMem
      by_cases nonpos : demand ≤ 0
      · exact taken_of_nonpos nonpos _ _
      · simp only [taken, nonpos, notMem.1, if_false]
        exact ih notMem.2 _

theorem taken_cons_self {row : Row} {rows : List Row} {demand : Amount}
    (positive : ¬demand ≤ 0) :
    taken key capacity (row :: rows) demand (key row) =
      min (capacity row) demand := by
  simp [taken, positive]

/-- Under the keys of the later rows the pass goes on with what the first row
has left of the demand. -/
theorem taken_cons_of_mem {row other : Row} {rows : List Row}
    (notMem : key row ∉ rows.map key) {demand : Amount}
    (positive : ¬demand ≤ 0) (otherMem : other ∈ rows) :
    taken key capacity (row :: rows) demand (key other) =
      taken key capacity rows (demand - min (capacity row) demand)
        (key other) := by
  have keyNe : key other ≠ key row := by
    intro equal
    exact notMem (equal ▸ List.mem_map_of_mem otherMem)
  simp [taken, positive, keyNe]

/-- The amounts depend on the keys and the capacities of the rows only. -/
theorem taken_map {rows : List Row} {change : Row → Row}
    (keepsKey : ∀ row, key (change row) = key row)
    (keepsCapacity : ∀ row ∈ rows, capacity (change row) = capacity row)
    (demand : Amount) (target : Key) :
    taken key capacity (rows.map change) demand target =
      taken key capacity rows demand target := by
  induction rows generalizing demand with
  | nil => rfl
  | cons row rows ih =>
      have later := ih fun other otherMem =>
        keepsCapacity other (List.mem_cons_of_mem _ otherMem)
      simp only [List.map_cons, taken, keepsKey,
        keepsCapacity row List.mem_cons_self, later]

/-- What the rows give together is exactly the part of the demand that was
met. -/
theorem sum_taken {rows : List Row} (keysNodup : (rows.map key).Nodup)
    (demand : Amount) :
    (rows.map fun row => taken key capacity rows demand (key row)).sum =
      demand - unmet capacity rows demand := by
  induction rows generalizing demand with
  | nil => simp [unmet]
  | cons row rows ih =>
      rw [List.map_cons, List.nodup_cons] at keysNodup
      by_cases nonpos : demand ≤ 0
      · simp [taken_of_nonpos nonpos, unmet_of_nonpos nonpos]
      · have tail : rows.map (fun other =>
              taken key capacity (row :: rows) demand (key other)) =
            rows.map (fun other => taken key capacity rows
              (demand - min (capacity row) demand) (key other)) := by
          apply List.map_congr_left
          intro other otherMem
          exact taken_cons_of_mem keysNodup.1 nonpos otherMem
        rw [List.map_cons, List.sum_cons, tail, ih keysNodup.2,
          taken_cons_self nonpos]
        simp only [unmet, nonpos, if_false]
        ring

/-- The amount under a key never exceeds what the row with that key can
give. -/
theorem taken_le_capacity {rows : List Row}
    (keysNodup : (rows.map key).Nodup)
    (nonneg : ∀ row ∈ rows, 0 ≤ capacity row) (demand : Amount)
    {row : Row} (member : row ∈ rows) :
    taken key capacity rows demand (key row) ≤ capacity row := by
  induction rows generalizing demand with
  | nil => simp at member
  | cons head rows ih =>
      rw [List.map_cons, List.nodup_cons] at keysNodup
      by_cases nonpos : demand ≤ 0
      · rw [taken_of_nonpos nonpos]
        exact nonneg row member
      · rcases List.mem_cons.mp member with atHead | later
        · subst head
          rw [taken_cons_self nonpos]
          exact min_le_left _ _
        · rw [taken_cons_of_mem keysNodup.1 nonpos later]
          exact ih keysNodup.2
            (fun other otherMem =>
              nonneg other (List.mem_cons_of_mem _ otherMem)) _ later

theorem taken_nonneg {rows : List Row}
    (nonneg : ∀ row ∈ rows, 0 ≤ capacity row)
    (demand : Amount) (target : Key) :
    0 ≤ taken key capacity rows demand target := by
  induction rows generalizing demand with
  | nil => exact le_refl _
  | cons row rows ih =>
      by_cases nonpos : demand ≤ 0
      · rw [taken_of_nonpos nonpos]
      · simp only [taken, nonpos, if_false]
        split
        · exact le_min (nonneg row List.mem_cons_self)
            (le_of_not_ge nonpos)
        · exact ih (fun other otherMem =>
            nonneg other (List.mem_cons_of_mem _ otherMem)) _

/-- Every grant is a part of what its row can give, and not empty. -/
theorem grant_bounds {rows : List Row} {demand : Amount} {row : Row}
    {amount : Amount} (granted : (row, amount) ∈ grants capacity rows demand) :
    row ∈ rows ∧ amount ≠ 0 ∧ amount ≤ capacity row ∧
      (0 ≤ capacity row → 0 < amount) := by
  induction rows generalizing demand with
  | nil => simp [grants] at granted
  | cons head rows ih =>
      by_cases nonpos : demand ≤ 0
      · simp [grants_of_nonpos nonpos] at granted
      by_cases givesNone : min (capacity head) demand = 0
      · simp only [grants, nonpos, givesNone, if_true, if_false] at granted
        obtain ⟨member, bounds⟩ := ih granted
        exact ⟨List.mem_cons_of_mem _ member, bounds⟩
      simp only [grants, nonpos, givesNone, if_false] at granted
      rcases List.mem_cons.mp granted with first | later
      · obtain ⟨rfl, rfl⟩ := Prod.mk.injEq _ _ _ _ ▸ first
        refine ⟨List.mem_cons_self, givesNone, min_le_left _ _, ?_⟩
        intro nonneg
        exact lt_of_le_of_ne (le_min nonneg (le_of_not_ge nonpos))
          (Ne.symm givesNone)
      · obtain ⟨member, bounds⟩ := ih later
        exact ⟨List.mem_cons_of_mem _ member, bounds⟩

/-- No row is granted anything twice: the grants under a key are none, or one
for all that is taken under it. -/
theorem grants_of_key {rows : List Row} (keysNodup : (rows.map key).Nodup)
    (demand : Amount) (target : Key) :
    taken key capacity rows demand target = 0 ∧
        ((grants capacity rows demand).filter
          fun grant => target = key grant.1) = [] ∨
      ∃ row, key row = target ∧
        ((grants capacity rows demand).filter
          fun grant => target = key grant.1) =
          [(row, taken key capacity rows demand target)] := by
  induction rows generalizing demand with
  | nil => exact Or.inl ⟨rfl, rfl⟩
  | cons row rows ih =>
      rw [List.map_cons, List.nodup_cons] at keysNodup
      by_cases nonpos : demand ≤ 0
      · rw [grants_of_nonpos nonpos, taken_of_nonpos nonpos]
        exact Or.inl ⟨rfl, rfl⟩
      simp only [grants, taken, nonpos, if_false]
      have later := ih keysNodup.2 (demand - min (capacity row) demand)
      by_cases same : target = key row
      · have noLater : taken key capacity rows
            (demand - min (capacity row) demand) target = 0 :=
          taken_of_notMem (same ▸ keysNodup.1) _
        have noGrant : ((grants capacity rows
            (demand - min (capacity row) demand)).filter
              fun grant => target = key grant.1) = [] := by
          apply List.filter_eq_nil_iff.mpr
          rintro ⟨other, amount⟩ granted ofKey
          obtain ⟨member, _⟩ := grant_bounds granted
          apply keysNodup.1
          rw [← same, decide_eq_true_eq.mp ofKey]
          exact List.mem_map_of_mem member
        simp only [same, if_true]
        rw [same] at noGrant
        by_cases givesNone : min (capacity row) demand = 0
        · simp only [givesNone, if_true]
          rw [givesNone, sub_zero] at noGrant
          exact Or.inl ⟨trivial, noGrant⟩
        · simp only [givesNone, if_false]
          refine Or.inr ⟨row, rfl, ?_⟩
          rw [List.filter_cons_of_pos (by simp), noGrant]
      · simp only [same, if_false]
        by_cases givesNone : min (capacity row) demand = 0
        · simpa only [givesNone, if_true, sub_zero] using later
        · simp only [givesNone, if_false]
          rw [List.filter_cons_of_neg (by simpa using same)]
          exact later

/-- The grants under a key add up to the amount that is taken under it. -/
theorem sum_grants {rows : List Row} (keysNodup : (rows.map key).Nodup)
    (demand : Amount) (target : Key) :
    (((grants capacity rows demand).filter
      fun grant => target = key grant.1).map Prod.snd).sum =
      taken key capacity rows demand target := by
  rcases @grants_of_key _ _ _ _ _ _ key capacity rows keysNodup demand
      target with
    ⟨takesNone, none⟩ | ⟨row, _, one⟩
  · rw [none, takesNone]
    rfl
  · rw [one]
    simp

/-- With nonnegative capacities the grants are those rows under whose keys
something is taken. -/
theorem grants_eq_map {rows : List Row} (keysNodup : (rows.map key).Nodup)
    (nonneg : ∀ row ∈ rows, 0 ≤ capacity row) (demand : Amount) :
    grants capacity rows demand =
      (rows.filter fun row =>
        0 < taken key capacity rows demand (key row)).map
        fun row => (row, taken key capacity rows demand (key row)) := by
  induction rows generalizing demand with
  | nil => rfl
  | cons row rows ih =>
      rw [List.map_cons, List.nodup_cons] at keysNodup
      by_cases nonpos : demand ≤ 0
      · simp [grants_of_nonpos nonpos, taken_of_nonpos nonpos]
      have atHead := @taken_cons_self _ _ _ _ _ _ key capacity row rows demand
        nonpos
      have given : 0 ≤ min (capacity row) demand :=
        le_min (nonneg row List.mem_cons_self) (le_of_not_ge nonpos)
      have others : ((rows.filter fun other =>
            0 < taken key capacity (row :: rows) demand (key other)).map
              fun other =>
                (other, taken key capacity (row :: rows) demand (key other))) =
          grants capacity rows (demand - min (capacity row) demand) := by
        rw [ih keysNodup.2 fun other otherMem =>
          nonneg other (List.mem_cons_of_mem _ otherMem)]
        rw [List.filter_congr fun other otherMem => by
          rw [taken_cons_of_mem keysNodup.1 nonpos otherMem]]
        apply List.map_congr_left
        intro other selected
        rw [taken_cons_of_mem keysNodup.1 nonpos
          (List.mem_filter.mp selected).1]
      by_cases givesNone : min (capacity row) demand = 0
      · rw [List.filter_cons_of_neg (by simp [atHead, givesNone]), others,
          givesNone, sub_zero]
        simp [grants, nonpos, givesNone]
      · have gives : 0 < min (capacity row) demand :=
          lt_of_le_of_ne given (Ne.symm givesNone)
        rw [List.filter_cons_of_pos (by simpa [atHead] using gives),
          List.map_cons, others, atHead]
        simp [grants, nonpos, givesNone]

/-- A row gives something only after every earlier row has given all that it
can. -/
theorem pairwise_used_up [IsOrderedAddMonoid Amount] {rows : List Row}
    (keysNodup : (rows.map key).Nodup) (demand : Amount) :
    rows.Pairwise fun earlier later =>
      0 < taken key capacity rows demand (key later) →
        taken key capacity rows demand (key earlier) = capacity earlier := by
  induction rows generalizing demand with
  | nil => exact .nil
  | cons row rows ih =>
      rw [List.map_cons, List.nodup_cons] at keysNodup
      by_cases nonpos : demand ≤ 0
      · apply List.pairwise_of_forall
        intro earlier later takes
        rw [taken_of_nonpos nonpos] at takes
        exact absurd takes (lt_irrefl 0)
      apply List.Pairwise.cons
      · intro later laterMem takes
        rw [taken_cons_of_mem keysNodup.1 nonpos laterMem] at takes
        have remains : min (capacity row) demand < demand := by
          by_contra metInFull
          rw [taken_of_nonpos (sub_nonpos.mpr (not_lt.mp metInFull))] at takes
          exact lt_irrefl 0 takes
        rw [taken_cons_self nonpos]
        rcases min_choice (capacity row) demand with all | rest
        · exact all
        · exact absurd rest remains.ne
      · apply List.Pairwise.imp_of_mem _
          (ih keysNodup.2 (demand - min (capacity row) demand))
        intro earlier later earlierMem laterMem usedUp takes
        rw [taken_cons_of_mem keysNodup.1 nonpos laterMem] at takes
        rw [taken_cons_of_mem keysNodup.1 nonpos earlierMem]
        exact usedUp takes

variable [IsStrictOrderedRing Amount]

/-- No row is asked for more than the demand. -/
theorem taken_le_demand {rows : List Row}
    (nonneg : ∀ row ∈ rows, 0 ≤ capacity row) {demand : Amount}
    (demandNonneg : 0 ≤ demand) (target : Key) :
    taken key capacity rows demand target ≤ demand := by
  induction rows generalizing demand with
  | nil => exact demandNonneg
  | cons row rows ih =>
      by_cases nonpos : demand ≤ 0
      · rw [taken_of_nonpos nonpos]
        exact demandNonneg
      simp only [taken, nonpos, if_false]
      split
      · exact min_le_right _ _
      · have given : 0 ≤ min (capacity row) demand :=
          le_min (nonneg row List.mem_cons_self) demandNonneg
        have later := ih
          (fun other otherMem => nonneg other (List.mem_cons_of_mem _ otherMem))
          (sub_nonneg.mpr (min_le_right (capacity row) demand))
        exact later.trans (sub_le_self _ given)

/-- With nonnegative capacities the unmet demand is the shortfall of the
total capacity. -/
theorem unmet_eq_max {rows : List Row}
    (nonneg : ∀ row ∈ rows, 0 ≤ capacity row)
    {demand : Amount} (demandNonneg : 0 ≤ demand) :
    unmet capacity rows demand =
      max (demand - (rows.map capacity).sum) 0 := by
  induction rows generalizing demand with
  | nil => simp [unmet, demandNonneg]
  | cons row rows ih =>
      have headNonneg := nonneg row List.mem_cons_self
      have tailNonneg : ∀ other ∈ rows, 0 ≤ capacity other :=
        fun other otherMem => nonneg other (List.mem_cons_of_mem _ otherMem)
      have tailSum : 0 ≤ (rows.map capacity).sum := by
        apply List.sum_nonneg
        simpa using tailNonneg
      rw [List.map_cons, List.sum_cons]
      by_cases nonpos : demand ≤ 0
      · have isZero : demand = 0 := le_antisymm nonpos demandNonneg
        rw [unmet_of_nonpos nonpos, isZero, max_eq_right]
        linarith
      · simp only [unmet, nonpos, if_false]
        rw [ih tailNonneg (sub_nonneg.mpr (min_le_right _ _))]
        rcases le_total (capacity row) demand with small | large
        · rw [min_eq_left small]
          congr 1
          ring
        · rw [min_eq_right large, max_eq_right (by linarith),
            max_eq_right (by linarith)]

/-- A positive demand is met in full exactly when the rows can give it
together. -/
theorem unmet_nonpos_iff {rows : List Row}
    (nonneg : ∀ row ∈ rows, 0 ≤ capacity row)
    {demand : Amount} (demandNonneg : 0 ≤ demand) :
    unmet capacity rows demand ≤ 0 ↔
      demand ≤ (rows.map capacity).sum := by
  rw [unmet_eq_max nonneg demandNonneg]
  simp

theorem unmet_nonneg {rows : List Row}
    {demand : Amount} (demandNonneg : 0 ≤ demand) :
    0 ≤ unmet capacity rows demand := by
  induction rows generalizing demand with
  | nil => exact demandNonneg
  | cons row rows ih =>
      unfold unmet
      split
      · exact demandNonneg
      · exact ih (sub_nonneg.mpr (min_le_right _ _))

/-- A demand can be met in two passes: the second pass finds on every row what
the first one has left of its capacity. -/
theorem taken_add {rows : List Row} (keysNodup : (rows.map key).Nodup)
    {change : Row → Row} (keepsKey : ∀ row, key (change row) = key row)
    {first second : Amount} (firstNonneg : 0 ≤ first)
    (secondNonneg : 0 ≤ second)
    (leaves : ∀ row ∈ rows, capacity (change row) =
      capacity row - taken key capacity rows first (key row))
    (target : Key) :
    taken key capacity rows (first + second) target =
      taken key capacity rows first target +
        taken key capacity (rows.map change) second target := by
  induction rows generalizing first second with
  | nil => simp [taken]
  | cons row rows ih =>
      by_cases noFirst : first ≤ 0
      · have isZero : first = 0 := le_antisymm noFirst firstNonneg
        have untouched : ∀ other ∈ row :: rows,
            capacity (change other) = capacity other := by
          intro other otherMem
          rw [leaves other otherMem, taken_of_nonpos noFirst, sub_zero]
        rw [taken_of_nonpos noFirst, taken_map keepsKey untouched, isZero,
          zero_add, zero_add]
      by_cases noSecond : second ≤ 0
      · have isZero : second = 0 := le_antisymm noSecond secondNonneg
        rw [taken_of_nonpos noSecond, isZero, add_zero, add_zero]
      have noWhole : ¬first + second ≤ 0 :=
        not_le.mpr (add_pos (not_le.mp noFirst) (not_le.mp noSecond))
      rw [List.map_cons, List.nodup_cons] at keysNodup
      have headLeft : capacity (change row) =
          capacity row - min (capacity row) first := by
        rw [leaves row List.mem_cons_self, taken_cons_self noFirst]
      have tailLeft : ∀ other ∈ rows, capacity (change other) =
          capacity other - taken key capacity rows
            (first - min (capacity row) first) (key other) := by
        intro other otherMem
        rw [leaves other (List.mem_cons_of_mem _ otherMem),
          taken_cons_of_mem keysNodup.1 noFirst otherMem]
      -- the head gives the same in one visit as in two
      have given : min (capacity row) (first + second) =
          min (capacity row) first + min (capacity (change row)) second := by
        rw [headLeft]
        rcases le_total (capacity row) first with all | rest
        · rw [min_eq_left all, sub_self, min_eq_left secondNonneg, add_zero]
          exact min_eq_left (all.trans (le_add_of_nonneg_right secondNonneg))
        · rw [min_eq_right rest, ← min_add_add_left, add_sub_cancel]
      have rest : first + second - min (capacity row) (first + second) =
          (first - min (capacity row) first) +
            (second - min (capacity (change row)) second) := by
        rw [given]
        ring
      simp only [List.map_cons, taken, noFirst, noSecond, noWhole, if_false,
        keepsKey]
      split
      · exact given
      · rw [rest]
        exact ih keysNodup.2 (sub_nonneg.mpr (min_le_right _ _))
          (sub_nonneg.mpr (min_le_right _ _)) tailLeft

end GreedyAllocation
