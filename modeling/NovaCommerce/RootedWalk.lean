import Mathlib.Data.List.Nodup
import Mathlib.Data.List.Range
import Mathlib.Data.List.Perm.Subperm
import Mathlib.Tactic.Common

/-!
# Walking down from the roots

Nodes point to their parents, and some of them are shown.  Nothing keeps the
pointers from running in circles; a walk from the roots that asks for the shown
children of what it has found still finds every node at one depth only, and
comes to an end.
-/

namespace RootedWalk

variable {Node : Type*}

structure Forest (Node : Type*) where
  nodes : List Node
  parent : Node → Option Node
  IsRoot : Node → Prop
  Shown : Node → Prop
  nodup : nodes.Nodup
  parent_of_root : ∀ node, IsRoot node → parent node = none

namespace Forest

variable (forest : Forest Node)

/-- The pointers of a node lead to a root in so many steps, by shown nodes
only. -/
inductive AtDepth : Nat → Node → Prop where
  | root {node} (member : node ∈ forest.nodes) (shown : forest.Shown node)
      (isRoot : forest.IsRoot node) : AtDepth 0 node
  | child {depth node above} (member : node ∈ forest.nodes)
      (shown : forest.Shown node) (parent_eq : forest.parent node = some above)
      (aboveAt : AtDepth depth above) : AtDepth (depth + 1) node

variable {forest} {depth other : Nat} {node : Node}

theorem AtDepth.member (atDepth : forest.AtDepth depth node) :
    node ∈ forest.nodes := by
  cases atDepth with
  | root member shown isRoot => exact member
  | child member shown parent_eq aboveAt => exact member

theorem AtDepth.unique (first : forest.AtDepth depth node)
    (second : forest.AtDepth other node) : depth = other := by
  induction first generalizing other with
  | @root node member shown isRoot =>
      cases second with
      | root => rfl
      | child _ _ parent_eq _ =>
          cases (forest.parent_of_root node isRoot).symm.trans parent_eq
  | @child depth node above member shown parent_eq aboveAt ih =>
      cases second with
      | root _ _ isRoot =>
          cases (forest.parent_of_root node isRoot).symm.trans parent_eq
      | child _ _ otherParent otherAt =>
          obtain rfl := Option.some.inj (parent_eq.symm.trans otherParent)
          rw [ih otherAt]

/-- The pointers from a root down to a node. -/
structure Chain (forest : Forest Node) (depth : Nat) (chain : Nat → Node) :
    Prop where
  atDepth : ∀ index ≤ depth, forest.AtDepth index (chain index)
  parent_eq : ∀ index < depth,
    forest.parent (chain (index + 1)) = some (chain index)

theorem AtDepth.chain (atDepth : forest.AtDepth depth node) :
    ∃ chain, forest.Chain depth chain ∧ chain depth = node := by
  induction atDepth with
  | @root node member shown isRoot =>
      refine ⟨fun _ => node, ⟨?_, by simp⟩, rfl⟩
      intro index isLast
      obtain rfl := Nat.le_zero.mp isLast
      exact .root member shown isRoot
  | @child depth node above member shown parent_eq aboveAt ih =>
      obtain ⟨chain, isChain, chain_depth⟩ := ih
      refine ⟨fun index => if index = depth + 1 then node else chain index,
        ⟨?_, ?_⟩, by simp⟩
      · intro index within
        by_cases isLast : index = depth + 1
        · subst isLast
          rw [if_pos rfl]
          exact .child member shown parent_eq aboveAt
        · rw [if_neg isLast]
          exact isChain.atDepth index (by omega)
      · intro index within
        have notLast : index ≠ depth + 1 := by omega
        rw [if_neg notLast]
        by_cases isLast : index = depth
        · subst isLast
          rw [if_pos rfl, chain_depth]
          exact parent_eq
        · rw [if_neg (by omega)]
          exact isChain.parent_eq index (by omega)

/-- The nodes of a chain are distinct. -/
theorem Chain.index_eq {chain : Nat → Node} (isChain : forest.Chain depth chain)
    {first second : Nat} (firstLe : first ≤ depth) (secondLe : second ≤ depth)
    (same : chain first = chain second) : first = second := by
  have atFirst := isChain.atDepth first firstLe
  rw [same] at atFirst
  exact atFirst.unique (isChain.atDepth second secondLe)

/-- No depth reaches the number of the nodes. -/
theorem AtDepth.lt_length (atDepth : forest.AtDepth depth node) :
    depth < forest.nodes.length := by
  obtain ⟨chain, isChain, -⟩ := atDepth.chain
  have distinct : ((List.range (depth + 1)).map chain).Nodup := by
    apply List.nodup_range.map_on
    intro first firstMem second secondMem same
    rw [List.mem_range] at firstMem secondMem
    exact isChain.index_eq (by omega) (by omega) same
  have among : (List.range (depth + 1)).map chain ⊆ forest.nodes := by
    intro member listed
    obtain ⟨index, indexMem, rfl⟩ := List.mem_map.mp listed
    rw [List.mem_range] at indexMem
    exact (isChain.atDepth index (by omega)).member
  have atMost := (distinct.subperm among).length_le
  rw [List.length_map, List.length_range] at atMost
  omega

end Forest

/-- The node is shown below another one. -/
def Forest.IsChild (forest : Forest Node) (above node : Node) : Prop :=
  node ∈ forest.nodes ∧ forest.Shown node ∧ forest.parent node = some above

/-- The rows are the shown children of a node, in some order. -/
structure Forest.IsAnswer (forest : Forest Node) (above : Node)
    (answer : List Node) : Prop where
  nodup : answer.Nodup
  mem_iff : ∀ node, node ∈ answer ↔ forest.IsChild above node

/-- The rows are the nodes of a depth, in some order. -/
structure Forest.IsLevel (forest : Forest Node) (depth : Nat)
    (rows : List Node) : Prop where
  nodup : rows.Nodup
  mem_iff : ∀ node, node ∈ rows ↔ forest.AtDepth depth node

section Walk

variable {forest : Forest Node} {depth : Nat} {rows : List Node}

/-- The shown roots are where a walk begins. -/
theorem isLevel_zero (nodup : rows.Nodup)
    (mem_roots : ∀ node, node ∈ rows ↔
      node ∈ forest.nodes ∧ forest.Shown node ∧ forest.IsRoot node) :
    forest.IsLevel 0 rows := by
  refine ⟨nodup, fun node => ?_⟩
  rw [mem_roots]
  constructor
  · rintro ⟨member, shown, isRoot⟩
    exact .root member shown isRoot
  · intro atDepth
    cases atDepth with
    | root member shown isRoot => exact ⟨member, shown, isRoot⟩

/-- What is below one of the rows is in one of their answers. -/
theorem mem_answers {answers : List (List Node)}
    (answered : List.Forall₂ forest.IsAnswer rows answers) (node : Node) :
    node ∈ answers.flatten ↔ ∃ above ∈ rows, forest.IsChild above node := by
  induction answered with
  | nil => simp
  | cons isAnswer others ih =>
      rw [List.flatten_cons, List.mem_append, isAnswer.mem_iff, ih]
      simp

/-- A node has one parent, so that different nodes have no answer in common. -/
theorem nodup_answers {answers : List (List Node)}
    (answered : List.Forall₂ forest.IsAnswer rows answers)
    (nodup : rows.Nodup) : answers.flatten.Nodup := by
  induction answered with
  | nil => exact List.nodup_nil
  | @cons above answer others laterAnswers isAnswer later ih =>
      rw [List.nodup_cons] at nodup
      rw [List.flatten_cons, List.nodup_append']
      refine ⟨isAnswer.nodup, ih nodup.2, ?_⟩
      intro node ofFirst ofLater
      obtain ⟨other, otherMem, ofOther⟩ := (mem_answers later node).mp ofLater
      have ofAbove := (isAnswer.mem_iff node).mp ofFirst
      obtain rfl := Option.some.inj (ofAbove.2.2.symm.trans ofOther.2.2)
      exact nodup.1 otherMem

/-- The answers for all nodes of a depth are the nodes of the next one. -/
theorem Forest.IsLevel.below (isLevel : forest.IsLevel depth rows)
    {answers : List (List Node)}
    (answered : List.Forall₂ forest.IsAnswer rows answers) :
    forest.IsLevel (depth + 1) answers.flatten := by
  refine ⟨nodup_answers answered isLevel.nodup, fun node => ?_⟩
  rw [mem_answers answered]
  constructor
  · rintro ⟨above, found, member, shown, parent_eq⟩
    exact .child member shown parent_eq ((isLevel.mem_iff above).mp found)
  · intro atDepth
    cases atDepth with
    | @child _ _ above member shown parent_eq aboveAt =>
        exact ⟨above, (isLevel.mem_iff above).mpr aboveAt, member, shown,
          parent_eq⟩

/-- No depth beyond the number of the nodes has any. -/
theorem Forest.IsLevel.eq_nil (isLevel : forest.IsLevel depth rows)
    (beyond : forest.nodes.length ≤ depth) : rows = [] := by
  rw [List.eq_nil_iff_forall_not_mem]
  intro node found
  have within := ((isLevel.mem_iff node).mp found).lt_length
  omega

/-- All that is found down to the number of the nodes. -/
def walk (forest : Forest Node) (levels : Nat → List Node) : List Node :=
  (List.range forest.nodes.length).flatMap levels

variable {levels : Nat → List Node}

theorem nodup_walk (areLevels : ∀ depth, forest.IsLevel depth (levels depth)) :
    (walk forest levels).Nodup := by
  rw [walk, List.nodup_flatMap]
  refine ⟨fun depth _ => (areLevels depth).nodup, ?_⟩
  refine List.nodup_range.imp ?_
  intro first second isOther node inFirst inSecond
  exact isOther ((((areLevels first).mem_iff node).mp inFirst).unique
    (((areLevels second).mem_iff node).mp inSecond))

/-- The whole walk finds every node that has a depth. -/
theorem mem_walk (areLevels : ∀ depth, forest.IsLevel depth (levels depth))
    (node : Node) :
    node ∈ walk forest levels ↔ ∃ depth, forest.AtDepth depth node := by
  rw [walk, List.mem_flatMap]
  constructor
  · rintro ⟨depth, _, found⟩
    exact ⟨depth, ((areLevels depth).mem_iff node).mp found⟩
  · rintro ⟨depth, atDepth⟩
    exact ⟨depth, List.mem_range.mpr atDepth.lt_length,
      ((areLevels depth).mem_iff node).mpr atDepth⟩

end Walk

end RootedWalk
