import Mathlib.Logic.Basic

/-!
# Calls that change a store or raise

A call reads and changes a store and either returns a value or raises an
error; the changes made before the error stay in the store, as they do in the
program.  `atomic` is the transaction around such a call: a raised error
undoes every change.  The lemmas take a call that returned apart into the
steps that it was made of.
-/

namespace AtomicCall

variable {Error Store Value Next : Type}

/-- Run a call inside a transaction: if it raises, the store is as it was
before the call. -/
def atomic (call : EStateM Error Store Value) :
    EStateM Error Store Value := fun before =>
  match call before with
  | .ok value after => .ok value after
  | .error error _ => .error error before

/-- The store after a call, whether it returned or raised. -/
def settle (call : EStateM Error Store Value) (before : Store) : Store :=
  match call before with
  | .ok _ after => after
  | .error _ after => after

/-- The call returned a value. -/
def Returns (call : EStateM Error Store Value) (before : Store) : Prop :=
  ∃ value after, call before = .ok value after

instance (call : EStateM Error Store Value) (before : Store) :
    Decidable (Returns call before) :=
  match called : call before with
  | .ok value after => isTrue ⟨value, after, called⟩
  | .error _ _ => isFalse (by
      rintro ⟨value, after, returned⟩
      rw [called] at returned
      cases returned)

theorem bind_eq_ok {call : EStateM Error Store Value}
    {next : Value → EStateM Error Store Next}
    {before after : Store} {value : Next} :
    (call >>= next) before = .ok value after ↔
      ∃ middleValue middle, call before = .ok middleValue middle ∧
        next middleValue middle = .ok value after := by
  change EStateM.bind call next before = _ ↔ _
  unfold EStateM.bind
  cases call before with
  | ok middleValue middle =>
      constructor
      · intro returned
        exact ⟨middleValue, middle, rfl, returned⟩
      · rintro ⟨_, _, equal, returned⟩
        cases equal
        exact returned
  | error error middle => simp

theorem bind_eq_error {call : EStateM Error Store Value}
    {next : Value → EStateM Error Store Next}
    {before after : Store} {error : Error} :
    (call >>= next) before = .error error after ↔
      call before = .error error after ∨
        ∃ middleValue middle, call before = .ok middleValue middle ∧
          next middleValue middle = .error error after := by
  change EStateM.bind call next before = _ ↔ _
  unfold EStateM.bind
  cases call before with
  | error raised middle => simp
  | ok middleValue middle =>
      constructor
      · intro raised
        exact Or.inr ⟨middleValue, middle, rfl, raised⟩
      · rintro (impossible | ⟨_, _, equal, raised⟩)
        · cases impossible
        · cases equal
          exact raised

/-- A call that returned hands its value and store to what follows. -/
theorem bind_of_eq_ok {call : EStateM Error Store Value}
    {next : Value → EStateM Error Store Next}
    {before middle : Store} {value : Value}
    (returned : call before = .ok value middle) :
    (call >>= next) before = next value middle := by
  change EStateM.bind call next before = _
  unfold EStateM.bind
  rw [returned]

theorem get_bind {next : Store → EStateM Error Store Next} {before : Store} :
    ((get : EStateM Error Store Store) >>= next) before =
      next before before :=
  bind_of_eq_ok rfl

/-- A call that raised is not followed by anything. -/
theorem bind_of_eq_error {call : EStateM Error Store Value}
    {next : Value → EStateM Error Store Next}
    {before middle : Store} {error : Error}
    (raised : call before = .error error middle) :
    (call >>= next) before = .error error middle := by
  change EStateM.bind call next before = _
  unfold EStateM.bind
  rw [raised]

@[simp]
theorem pure_eq_ok {value returned : Value} {before after : Store} :
    (pure value : EStateM Error Store Value) before = .ok returned after ↔
      value = returned ∧ before = after := by
  change EStateM.Result.ok value before = _ ↔ _
  simp

@[simp]
theorem throw_eq_ok {error : Error} {value : Value} {before after : Store} :
    (throw error : EStateM Error Store Value) before = .ok value after ↔
      False := by
  change EStateM.Result.error error before = _ ↔ _
  simp

/-- A call behind a check returns if nothing was refused. -/
theorem refusing_eq_ok {refused : Bool} {error : Error}
    {call : EStateM Error Store Value} {value : Value}
    {before after : Store} :
    (if refused = true then throw error else call) before = .ok value after ↔
      refused = false ∧ call before = .ok value after := by
  cases refused with
  | true => simp
  | false => simp

@[simp]
theorem get_eq_ok {before after read : Store} :
    (get : EStateM Error Store Store) before = .ok read after ↔
      before = read ∧ before = after := by
  change EStateM.Result.ok before before = _ ↔ _
  simp

@[simp]
theorem modify_eq_ok {change : Store → Store} {before after : Store}
    {value : PUnit} :
    (modify change : EStateM Error Store PUnit) before = .ok value after ↔
      change before = after := by
  change EStateM.Result.ok _ (change before) = _ ↔ _
  simp

@[simp]
theorem atomic_eq_ok {call : EStateM Error Store Value}
    {before after : Store} {value : Value} :
    atomic call before = .ok value after ↔
      call before = .ok value after := by
  unfold atomic
  cases call before <;> simp

theorem atomic_eq_error {call : EStateM Error Store Value}
    {before after : Store} {error : Error}
    (raised : atomic call before = .error error after) : after = before := by
  unfold atomic at raised
  split at raised
  · simp at raised
  · simp only [EStateM.Result.error.injEq] at raised
    exact raised.2.symm

theorem atomic_of_eq_error {call : EStateM Error Store Value}
    {before after : Store} {error : Error}
    (raised : call before = .error error after) :
    atomic call before = .error error before := by
  unfold atomic
  rw [raised]

/-- A transaction leaves the store of a call that returned, or nothing
changed. -/
theorem settle_atomic (call : EStateM Error Store Value) (before : Store) :
    (∃ value, call before = .ok value (settle (atomic call) before)) ∨
      settle (atomic call) before = before := by
  unfold settle atomic
  cases call before with
  | ok value after => exact Or.inl ⟨value, rfl⟩
  | error error after => exact Or.inr rfl

/-- The same of a call that is known to undo its changes when it raises. -/
theorem settle_cases (call : EStateM Error Store Value) {before : Store}
    (undoes : ∀ error after, call before = .error error after →
      after = before) :
    (∃ value, call before = .ok value (settle call before)) ∨
      settle call before = before := by
  unfold settle
  cases called : call before with
  | ok value after => exact Or.inl ⟨value, rfl⟩
  | error error after => exact Or.inr (undoes error after called)

theorem settle_of_eq_ok {call : EStateM Error Store Value}
    {before after : Store} {value : Value}
    (returned : call before = .ok value after) :
    settle call before = after := by
  unfold settle
  rw [returned]

theorem settle_of_eq_error {call : EStateM Error Store Value}
    {before after : Store} {error : Error}
    (raised : call before = .error error after) :
    settle call before = after := by
  unfold settle
  rw [raised]

/-- Two calls that undo their changes when they raise leave the same store,
when they return in the same stores. -/
theorem settle_congr {first : EStateM Error Store Value}
    {second : EStateM Error Store Next} {before : Store}
    (firstUndoes : ∀ error after, first before = .error error after →
      after = before)
    (secondUndoes : ∀ error after, second before = .error error after →
      after = before)
    (same : ∀ after, (∃ value, first before = .ok value after) ↔
      ∃ value, second before = .ok value after) :
    settle first before = settle second before := by
  unfold settle
  cases called : first before with
  | ok value after =>
      obtain ⟨other, returned⟩ := (same after).mp ⟨value, called⟩
      rw [returned]
  | error raised after =>
      cases answered : second before with
      | ok value later =>
          obtain ⟨other, returned⟩ := (same later).mpr ⟨value, answered⟩
          rw [called] at returned
          cases returned
      | error again later =>
          exact (firstUndoes raised after called).trans
            (secondUndoes again later answered).symm

/-- Every error that the call raises is an allowed one. -/
def OnlyRaises (allowed : Error → Prop) (call : EStateM Error Store Value)
    (before : Store) : Prop :=
  ∀ error after, call before = .error error after → allowed error

section Raised

variable {allowed : Error → Prop} {call : EStateM Error Store Value}
  {before after : Store}

theorem onlyRaises_of_eq_ok {value : Value}
    (returned : call before = .ok value after) :
    OnlyRaises allowed call before := by
  intro error after raised
  rw [returned] at raised
  cases raised

theorem onlyRaises_of_eq_error {error : Error}
    (raised : call before = .error error after) :
    OnlyRaises allowed call before ↔ allowed error := by
  constructor
  · intro only
    exact only error after raised
  · intro isAllowed other later again
    rw [raised] at again
    obtain ⟨rfl, _⟩ := EStateM.Result.error.inj again
    exact isAllowed

theorem onlyRaises_pure (value : Value) :
    OnlyRaises allowed (pure value : EStateM Error Store Value) before :=
  onlyRaises_of_eq_ok (pure_eq_ok.mpr ⟨rfl, rfl⟩)

theorem onlyRaises_throw (error : Error) :
    OnlyRaises allowed (throw error : EStateM Error Store Value) before ↔
      allowed error :=
  onlyRaises_of_eq_error
    (show (throw error : EStateM Error Store Value) before =
      .error error before from rfl)

/-- A sequence raises what its first call raises, and what the others raise
after it. -/
theorem onlyRaises_bind {next : Value → EStateM Error Store Next} :
    OnlyRaises allowed (call >>= next) before ↔
      OnlyRaises allowed call before ∧
        ∀ value after, call before = .ok value after →
          OnlyRaises allowed (next value) after := by
  constructor
  · intro only
    refine ⟨fun error after raised => ?_, fun value middle returned => ?_⟩
    · exact only error after (bind_of_eq_error raised)
    · intro error after raised
      exact only error after ((bind_of_eq_ok returned).trans raised)
  · rintro ⟨first, later⟩ error after raised
    rcases bind_eq_error.mp raised with failed | ⟨_, _, returned, failed⟩
    · exact first _ _ failed
    · exact later _ _ returned _ _ failed

theorem onlyRaises_bind_of_eq_ok {next : Value → EStateM Error Store Next}
    {value : Value} (returned : call before = .ok value after) :
    OnlyRaises allowed (call >>= next) before ↔
      OnlyRaises allowed (next value) after := by
  unfold OnlyRaises
  rw [bind_of_eq_ok returned]

theorem onlyRaises_get_bind {next : Store → EStateM Error Store Next} :
    OnlyRaises allowed ((get : EStateM Error Store Store) >>= next) before ↔
      OnlyRaises allowed (next before) before :=
  onlyRaises_bind_of_eq_ok rfl

theorem onlyRaises_atomic :
    OnlyRaises allowed (atomic call) before ↔
      OnlyRaises allowed call before := by
  unfold OnlyRaises atomic
  cases call before <;> simp

end Raised

end AtomicCall
