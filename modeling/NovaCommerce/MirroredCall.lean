import NovaCommerce.AtomicCall

/-!
# Calls that mirror each other

A view maps one kind of store to another, say to the part of it that somebody
may see.  A call is mirrored by a second one when that one, run on the view of
a store, answers as the first one does on the store itself and leaves the view
of the store that the first one leaves.  Sequences, transactions and reads of
mirrored calls are mirrored.
-/

namespace AtomicCall

variable {Error Store Other Value Next : Type}

/-- A result under a view of its store. -/
def mapStore (view : Store → Other) :
    EStateM.Result Error Store Value → EStateM.Result Error Other Value
  | .ok value after => .ok value (view after)
  | .error error after => .error error (view after)

/-- On the view of a store, `image` does what `call` does on the store. -/
def Mirrors (view : Store → Other) (call : EStateM Error Store Value)
    (image : EStateM Error Other Value) (before : Store) : Prop :=
  image (view before) = mapStore view (call before)

variable {view : Store → Other} {before after : Store}

theorem mirrors_pure (value : Value) :
    Mirrors view (pure value : EStateM Error Store Value) (pure value) before :=
  rfl

theorem mirrors_throw (error : Error) :
    Mirrors view (throw error : EStateM Error Store Value) (throw error)
      before :=
  rfl

theorem mirrors_modify {change : Store → Store} {changeView : Other → Other}
    (same : changeView (view before) = view (change before)) :
    Mirrors view (modify change : EStateM Error Store PUnit)
      (modify changeView) before := by
  change EStateM.Result.ok _ (changeView (view before)) = _
  rw [same]
  rfl

section Calls

variable {call : EStateM Error Store Value} {image : EStateM Error Other Value}

theorem Mirrors.eq_ok (mirrors : Mirrors view call image before)
    {value : Value} (returned : call before = .ok value after) :
    image (view before) = .ok value (view after) := by
  rw [mirrors, returned]
  rfl

theorem Mirrors.eq_error (mirrors : Mirrors view call image before)
    {error : Error} (raised : call before = .error error after) :
    image (view before) = .error error (view after) := by
  rw [mirrors, raised]
  rfl

theorem Mirrors.returns_iff (mirrors : Mirrors view call image before) :
    Returns image (view before) ↔ Returns call before := by
  unfold Returns
  rw [mirrors]
  cases call before with
  | ok value after => simp [mapStore]
  | error raised after => simp [mapStore]

/-- A mirrored call is followed by a mirrored one. -/
theorem Mirrors.bind (mirrors : Mirrors view call image before)
    {next : Value → EStateM Error Store Next}
    {nextImage : Value → EStateM Error Other Next}
    (follows : ∀ value after, call before = .ok value after →
      Mirrors view (next value) (nextImage value) after) :
    Mirrors view (call >>= next) (image >>= nextImage) before := by
  unfold Mirrors
  cases called : call before with
  | ok value after =>
      rw [bind_of_eq_ok called, bind_of_eq_ok (mirrors.eq_ok called)]
      exact follows value after called
  | error raised after =>
      rw [bind_of_eq_error called, bind_of_eq_error (mirrors.eq_error called)]
      rfl

/-- What follows a read sees the store and its view. -/
theorem mirrors_get_bind {next : Store → EStateM Error Store Next}
    {nextImage : Other → EStateM Error Other Next}
    (follows : Mirrors view (next before) (nextImage (view before)) before) :
    Mirrors view (get >>= next) (get >>= nextImage) before :=
  follows

theorem Mirrors.atomic (mirrors : Mirrors view call image before) :
    Mirrors view (atomic call) (AtomicCall.atomic image) before := by
  unfold Mirrors
  cases called : call before with
  | ok value after =>
      rw [atomic_eq_ok.mpr called, atomic_eq_ok.mpr (mirrors.eq_ok called)]
      rfl
  | error raised after =>
      rw [AtomicCall.atomic, AtomicCall.atomic, called,
        mirrors.eq_error called]
      rfl

/-- A mirrored call leaves the view of what the call leaves. -/
theorem Mirrors.settle (mirrors : Mirrors view call image before) :
    settle image (view before) = view (settle call before) := by
  unfold AtomicCall.settle
  rw [mirrors]
  cases call before <;> rfl

end Calls

end AtomicCall
