import Mathlib.Algebra.Group.Defs
import Mathlib.Order.Defs.PartialOrder
import Mathlib.Tactic.Tauto

/-!
# Runs of labelled steps under a guard

A system takes one labelled step after another.  A guard restricts the labels
that may be taken in a state; a run is guarded when every one of its steps
meets the guard in the state it is taken in.  An invariant that guarded steps
preserve holds in every state that a guarded run reaches, and a relation that
guarded steps establish between successive states holds along the run.
-/

namespace GuardedRun

variable {State Label : Type*}

/-- The state after a run. -/
def exec (step : State → Label → State) : State → List Label → State
  | state, [] => state
  | state, label :: labels => exec step (step state label) labels

/-- Every step of the run meets the guard in the state it is taken in. -/
def Guarded (step : State → Label → State) (guard : State → Label → Prop) :
    State → List Label → Prop
  | _, [] => True
  | state, label :: labels =>
      guard state label ∧ Guarded step guard (step state label) labels

instance decidableGuarded (step : State → Label → State)
    (guard : State → Label → Prop)
    [∀ state label, Decidable (guard state label)] :
    ∀ state labels, Decidable (Guarded step guard state labels)
  | _, [] => isTrue trivial
  | state, label :: labels =>
      have := decidableGuarded step guard (step state label) labels
      inferInstanceAs (Decidable
        (guard state label ∧ Guarded step guard (step state label) labels))

/-- What the steps of a run amount to, each in the state it is taken in. -/
def tally {Sum : Type*} [AddMonoid Sum] (step : State → Label → State)
    (amount : State → Label → Sum) : State → List Label → Sum
  | _, [] => 0
  | state, label :: labels =>
      amount state label + tally step amount (step state label) labels

/-- What the steps of a run put out, each in the state it is taken in. -/
def outputs {Output : Type*} (step : State → Label → State)
    (output : State → Label → List Output) : State → List Label → List Output
  | _, [] => []
  | state, label :: labels =>
      output state label ++ outputs step output (step state label) labels

variable {step : State → Label → State} {guard : State → Label → Prop}

@[simp]
theorem exec_nil (state : State) : exec step state [] = state :=
  rfl

@[simp]
theorem exec_cons (state : State) (label : Label) (labels : List Label) :
    exec step state (label :: labels) =
      exec step (step state label) labels :=
  rfl

theorem exec_append (state : State) (first second : List Label) :
    exec step state (first ++ second) =
      exec step (exec step state first) second := by
  induction first generalizing state with
  | nil => rfl
  | cons label labels ih => exact ih (step state label)

theorem guarded_append {state : State} {first second : List Label} :
    Guarded step guard state (first ++ second) ↔
      Guarded step guard state first ∧
        Guarded step guard (exec step state first) second := by
  induction first generalizing state with
  | nil => simp [Guarded]
  | cons label labels ih => simp [Guarded, ih, and_assoc]

/-- Without a restriction every run is guarded. -/
theorem guarded_true (state : State) (labels : List Label) :
    Guarded step (fun _ _ => True) state labels := by
  induction labels generalizing state with
  | nil => trivial
  | cons label labels ih => exact ⟨trivial, ih _⟩

theorem guarded_and {other : State → Label → Prop} {state : State}
    {labels : List Label} :
    Guarded step (fun state label => guard state label ∧ other state label)
        state labels ↔
      Guarded step guard state labels ∧ Guarded step other state labels := by
  induction labels generalizing state with
  | nil => simp [Guarded]
  | cons label labels ih =>
      simp only [Guarded, ih]
      tauto

/-- Guards that agree in the states of an invariant, which guarded steps keep,
guard the same runs. -/
theorem guarded_congr {other : State → Label → Prop} {invariant : State → Prop}
    (preserved : ∀ state label, invariant state → other state label →
      invariant (step state label))
    (agree : ∀ state label, invariant state →
      (guard state label ↔ other state label))
    {state : State} {labels : List Label} (holds : invariant state) :
    Guarded step guard state labels ↔ Guarded step other state labels := by
  induction labels generalizing state with
  | nil => exact Iff.rfl
  | cons label labels ih =>
      refine (and_congr_left fun _ => agree state label holds).trans ?_
      exact and_congr_right fun meets => ih (preserved state label holds meets)

theorem Guarded.mono {weaker : State → Label → Prop} {state : State}
    {labels : List Label}
    (implies : ∀ state label, guard state label → weaker state label)
    (guarded : Guarded step guard state labels) :
    Guarded step weaker state labels := by
  induction labels generalizing state with
  | nil => trivial
  | cons label labels ih =>
      exact ⟨implies _ _ guarded.1, ih guarded.2⟩

/-- A run is guarded exactly if every one of its steps is. -/
theorem guarded_iff_steps {state : State} {labels : List Label} :
    Guarded step guard state labels ↔ ∀ moment label,
      labels[moment]? = some label →
        guard (exec step state (labels.take moment)) label := by
  induction labels generalizing state with
  | nil => simp [Guarded]
  | cons label labels ih =>
      constructor
      · rintro ⟨first, later⟩ moment next taken
        cases moment with
        | zero =>
            obtain rfl : label = next := Option.some.inj taken
            exact first
        | succ moment => exact ih.mp later moment next taken
      · intro steps
        refine ⟨steps 0 label rfl, ih.mpr ?_⟩
        intro moment next taken
        exact steps (moment + 1) next taken

/-- An invariant of guarded steps holds in the last state of a guarded
run. -/
theorem exec_invariant {invariant : State → Prop}
    (preserved : ∀ state label, invariant state → guard state label →
      invariant (step state label))
    {state : State} {labels : List Label} (holds : invariant state)
    (guarded : Guarded step guard state labels) :
    invariant (exec step state labels) := by
  induction labels generalizing state with
  | nil => exact holds
  | cons label labels ih =>
      exact ih (preserved state label holds guarded.1) guarded.2

/-- An invariant of every step holds in the last state of every run. -/
theorem exec_invariant_of_steps {invariant : State → Prop}
    (preserved : ∀ state label, invariant state →
      invariant (step state label))
    {state : State} (holds : invariant state) (labels : List Label) :
    invariant (exec step state labels) := by
  have guarded : Guarded step (fun _ _ => True) state labels :=
    guarded_true state labels
  exact exec_invariant (fun _ label holds _ => preserved _ label holds) holds
    guarded

/-- An invariant of guarded steps that holds at a moment of a guarded run holds
at all later ones. -/
theorem exec_invariant_later {invariant : State → Prop}
    (preserved : ∀ state label, invariant state → guard state label →
      invariant (step state label))
    {state : State} {labels : List Label}
    (guarded : Guarded step guard state labels) {earlier later : ℕ}
    (before : earlier ≤ later)
    (holds : invariant (exec step state (labels.take earlier))) :
    invariant (exec step state (labels.take later)) := by
  obtain ⟨more, rfl⟩ := Nat.exists_eq_add_of_le before
  rw [List.take_add, exec_append]
  rw [← List.take_append_drop earlier labels, guarded_append,
    ← List.take_append_drop more (labels.drop earlier),
    guarded_append] at guarded
  exact exec_invariant preserved holds guarded.2.1

/-- A reflexive and transitive relation that every guarded step establishes
relates the two ends of a guarded run. -/
theorem exec_relation (relation : State → State → Prop)
    (refl : ∀ state, relation state state)
    (trans : ∀ first second third, relation first second →
      relation second third → relation first third)
    (established : ∀ state label, guard state label →
      relation state (step state label))
    {state : State} {labels : List Label}
    (guarded : Guarded step guard state labels) :
    relation state (exec step state labels) := by
  induction labels generalizing state with
  | nil => exact refl state
  | cons label labels ih =>
      exact trans _ _ _ (established state label guarded.1) (ih guarded.2)

/-- A measure that every guarded step changes by its amount is changed by the
tally of a guarded run. -/
theorem exec_tally {Sum : Type*} [AddMonoid Sum] {invariant : State → Prop}
    (measure : State → Sum) (amount : State → Label → Sum)
    (preserved : ∀ state label, invariant state → guard state label →
      invariant (step state label))
    (changed : ∀ state label, invariant state → guard state label →
      measure (step state label) = measure state + amount state label)
    {state : State} {labels : List Label} (holds : invariant state)
    (guarded : Guarded step guard state labels) :
    measure (exec step state labels) =
      measure state + tally step amount state labels := by
  induction labels generalizing state with
  | nil => exact (add_zero _).symm
  | cons label labels ih =>
      have later := ih (preserved state label holds guarded.1) guarded.2
      rw [exec_cons, later, changed state label holds guarded.1, add_assoc]
      rfl

/-- A measure that no step decreases, and that exactly the guarded steps keep,
is kept by exactly the guarded runs. -/
theorem exec_eq_iff_guarded {Measure : Type*} [PartialOrder Measure]
    (measure : State → Measure)
    (grows : ∀ state label, measure state ≤ measure (step state label))
    (keeps : ∀ state label,
      measure (step state label) = measure state ↔ guard state label)
    (state : State) (labels : List Label) :
    measure (exec step state labels) = measure state ↔
      Guarded step guard state labels := by
  have atMost : ∀ (state : State) (labels : List Label),
      measure state ≤ measure (exec step state labels) := by
    intro state labels
    induction labels generalizing state with
    | nil => exact le_refl _
    | cons label labels ih => exact le_trans (grows state label) (ih _)
  induction labels generalizing state with
  | nil => simp [Guarded]
  | cons label labels ih =>
      have grown := grows state label
      have later := ih (step state label)
      constructor
      · intro same
        have first : measure (step state label) = measure state :=
          le_antisymm (same ▸ atMost _ labels) grown
        exact ⟨(keeps state label).mp first,
          later.mp (Eq.trans same first.symm)⟩
      · rintro ⟨first, others⟩
        exact (later.mpr others).trans ((keeps state label).mpr first)

/-- If, from states of an invariant, a property holds after a step exactly when
the step is a guarded one, then it holds at every moment of a run exactly when
the whole run is guarded. -/
theorem guarded_iff_throughout {invariant holds : State → Prop}
    (implies : ∀ state, invariant state → holds state)
    (preserved : ∀ state label, invariant state → guard state label →
      invariant (step state label))
    (needed : ∀ state label, invariant state → holds (step state label) →
      guard state label)
    {state : State} {labels : List Label} (initially : invariant state) :
    Guarded step guard state labels ↔
      ∀ moment, holds (exec step state (labels.take moment)) := by
  induction labels generalizing state with
  | nil =>
      refine iff_of_true trivial ?_
      intro moment
      rw [List.take_nil]
      exact implies state initially
  | cons label labels ih =>
      constructor
      · rintro ⟨first, later⟩ moment
        cases moment with
        | zero => exact implies state initially
        | succ moment =>
            exact (ih (preserved state label initially first)).mp later moment
      · intro throughout
        have first := needed state label initially (throughout 1)
        refine ⟨first, (ih (preserved state label initially first)).mpr ?_⟩
        exact fun moment => throughout (moment + 1)

/-- Guarded steps that another system follows on a part of the state make
runs that it follows. -/
theorem exec_project {Other : Type*} {follow : Other → Label → Other}
    {invariant : State → Prop} (project : State → Other)
    (preserved : ∀ state label, invariant state → guard state label →
      invariant (step state label))
    (follows : ∀ state label, invariant state → guard state label →
      project (step state label) = follow (project state) label)
    {state : State} {labels : List Label} (holds : invariant state)
    (guarded : Guarded step guard state labels) :
    project (exec step state labels) = exec follow (project state) labels := by
  induction labels generalizing state with
  | nil => rfl
  | cons label labels ih =>
      rw [exec_cons, exec_cons, ← follows state label holds guarded.1]
      exact ih (preserved state label holds guarded.1) guarded.2

/-- Moves that labels ask for, in the same order; a label may ask for none. -/
inductive Follows {Move : Type*} (asks : Label → Move → Prop) :
    List Label → List Move → Prop
  | nil : Follows asks [] []
  | silent {label : Label} {labels : List Label} {moves : List Move}
      (later : Follows asks labels moves) :
      Follows asks (label :: labels) moves
  | moved {label : Label} {labels : List Label} {move : Move}
      {moves : List Move} (asked : asks label move)
      (later : Follows asks labels moves) :
      Follows asks (label :: labels) (move :: moves)

/-- If every guarded step is seen as no change, or as an enabled move that its
label asks for, then a guarded run is seen as a run of enabled moves. -/
theorem exec_simulation {Abstract Move : Type*}
    {abstractStep : Abstract → Move → Abstract}
    {enabled : Abstract → Move → Prop} {asks : Label → Move → Prop}
    {invariant : State → Prop} (view : State → Abstract)
    (preserved : ∀ state label, invariant state → guard state label →
      invariant (step state label))
    (simulated : ∀ state label, invariant state → guard state label →
      view (step state label) = view state ∨
        ∃ move, asks label move ∧ enabled (view state) move ∧
          view (step state label) = abstractStep (view state) move)
    {state : State} {labels : List Label} (holds : invariant state)
    (guarded : Guarded step guard state labels) :
    ∃ moves, Follows asks labels moves ∧
      Guarded abstractStep enabled (view state) moves ∧
      view (exec step state labels) = exec abstractStep (view state) moves := by
  induction labels generalizing state with
  | nil => exact ⟨[], .nil, trivial, rfl⟩
  | cons label labels ih =>
      obtain ⟨moves, follows, allowed, seen⟩ :=
        ih (preserved state label holds guarded.1) guarded.2
      rcases simulated state label holds guarded.1 with
        same | ⟨move, asked, able, moved⟩
      · rw [same] at allowed seen
        exact ⟨moves, .silent follows, allowed, seen⟩
      · rw [moved] at allowed seen
        exact ⟨move :: moves, .moved asked follows, ⟨able, allowed⟩, seen⟩

end GuardedRun
