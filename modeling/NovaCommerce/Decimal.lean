import Mathlib.Algebra.Order.Ring.Int
import Mathlib.Tactic.Linarith
import Mathlib.Tactic.Ring

/-!
# Decimal numbers

A decimal number is an integer coefficient with a number of decimal places.
Sums and products are exact.  `quantize` brings a number to a fixed number of
places: it takes the nearest multiple, and the even one of the two neighbours
when the number lies in the middle.  A number that already has the wanted
number of places is left as it is.
-/

/-- The quotient rounded to the nearest integer, ties away from zero. -/
def roundHalfAway (numerator : Int) (denominator : Nat) : Int :=
  numerator.sign * ((2 * numerator.natAbs + denominator) / (2 * denominator))

example : [25, 35, -25, 24].map (roundHalfAway · 10) = [3, 4, -3, 2] := by
  decide

/-- The quotient rounded to the nearest integer, ties to even. -/
def roundHalfEven (numerator : Int) (denominator : Nat) : Int :=
  let floor := numerator / denominator
  let remainder := numerator % denominator
  if 2 * remainder < denominator then floor
  else if denominator < 2 * remainder then floor + 1
  else if floor % 2 = 0 then floor
  else floor + 1

example : [25, 35, -25, 24].map (roundHalfEven · 10) = [2, 4, -2, 2] := by
  decide

theorem roundHalfEven_mul_self (number : Int) {denominator : Nat}
    (positive : 0 < denominator) :
    roundHalfEven (number * denominator) denominator = number := by
  have nonzero : (denominator : Int) ≠ 0 := by omega
  have noRemainder : 2 * (0 : Int) < denominator := by omega
  simp [roundHalfEven, Int.mul_ediv_cancel _ nonzero, positive]

/-- The rounded quotient is a nearest integer, and an even one when the
quotient lies in the middle of two. -/
structure RoundsHalfEven (numerator : Int) (denominator : Nat)
    (rounded : Int) : Prop where
  lower : 2 * numerator ≤ 2 * (rounded * denominator) + denominator
  upper : 2 * (rounded * denominator) ≤ 2 * numerator + denominator
  even : 2 * (rounded * denominator) = 2 * numerator + denominator ∨
      2 * numerator = 2 * (rounded * denominator) + denominator →
    rounded % 2 = 0

theorem roundHalfEven_spec (numerator : Int) {denominator : Nat}
    (positive : 0 < denominator) :
    RoundsHalfEven numerator denominator
      (roundHalfEven numerator denominator) := by
  have nonneg := Int.emod_nonneg numerator
    (show (denominator : Int) ≠ 0 by omega)
  have less := Int.emod_lt_of_pos numerator
    (show 0 < (denominator : Int) by omega)
  have divided := Int.emod_add_mul_ediv numerator denominator
  rw [mul_comm] at divided
  simp only [roundHalfEven]
  generalize numerator / (denominator : Int) = floor at *
  generalize numerator % (denominator : Int) = remainder at *
  have next : (floor + 1) * (denominator : Int) =
      floor * denominator + denominator := by ring
  split
  · constructor <;> omega
  · split
    · constructor <;> rw [next] <;> omega
    · split
      · constructor <;> omega
      · constructor <;> rw [next] <;> omega

namespace RoundsHalfEven

variable {numerator rounded : Int} {denominator : Nat}

/-- Below the middle over a bound the quotient is rounded to at most the
bound, in the middle only when the bound is even. -/
theorem le_iff (rounds : RoundsHalfEven numerator denominator rounded)
    (positive : 0 < denominator) (bound : Int) :
    rounded ≤ bound ↔
      2 * numerator < 2 * (bound * denominator) + denominator ∨
        2 * numerator = 2 * (bound * denominator) + denominator ∧
          bound % 2 = 0 := by
  have lower := rounds.lower
  have upper := rounds.upper
  have even := rounds.even
  have isPositive : 0 < (denominator : Int) := by omega
  rcases lt_trichotomy rounded bound with below | rfl | above
  · have spaced : (rounded + 1) * (denominator : Int) ≤ bound * denominator :=
      mul_le_mul_of_nonneg_right below isPositive.le
    rw [add_mul, one_mul] at spaced
    constructor
    · intro _
      left
      omega
    · intro _
      exact below.le
  · omega
  · have spaced : (bound + 1) * (denominator : Int) ≤ rounded * denominator :=
      mul_le_mul_of_nonneg_right above isPositive.le
    have spacedEq : rounded = bound + 1 ∨
        (bound + 2) * (denominator : Int) ≤ rounded * denominator := by
      rcases lt_or_ge (bound + 1) rounded with further | next
      · exact Or.inr (mul_le_mul_of_nonneg_right (by omega) isPositive.le)
      · exact Or.inl (by omega)
    rw [add_mul, one_mul] at spaced
    rw [add_mul] at spacedEq
    omega

/-- The rounding of a number is determined. -/
theorem unique (rounds : RoundsHalfEven numerator denominator rounded)
    (positive : 0 < denominator) :
    rounded = roundHalfEven numerator denominator := by
  have computed := roundHalfEven_spec numerator positive
  apply le_antisymm
  · exact (rounds.le_iff positive _).mpr
      ((computed.le_iff positive _).mp le_rfl)
  · exact (computed.le_iff positive _).mpr
      ((rounds.le_iff positive _).mp le_rfl)

/-- Rounding keeps the order. -/
theorem mono {other otherRounded : Int}
    (rounds : RoundsHalfEven numerator denominator rounded)
    (roundsOther : RoundsHalfEven other denominator otherRounded)
    (positive : 0 < denominator) (le : numerator ≤ other) :
    rounded ≤ otherRounded := by
  have below := (roundsOther.le_iff positive otherRounded).mp le_rfl
  rw [rounds.le_iff positive]
  omega

/-- A quotient is rounded alike however it is expanded. -/
theorem mul (rounds : RoundsHalfEven numerator denominator rounded)
    {factor : Nat} (positive : 0 < factor) :
    RoundsHalfEven (numerator * factor) (denominator * factor) rounded := by
  have nonneg : 0 ≤ (factor : Int) := by omega
  have nonzero : (factor : Int) ≠ 0 := by omega
  have expanded : 2 * (rounded * ((denominator * factor : Nat) : Int)) =
      2 * (rounded * denominator) * factor := by
    push_cast
    ring
  have half : ((denominator * factor : Nat) : Int) = denominator * factor := by
    push_cast
    rfl
  constructor
  · have scaled := mul_le_mul_of_nonneg_right rounds.lower nonneg
    rw [expanded, half]
    linarith
  · have scaled := mul_le_mul_of_nonneg_right rounds.upper nonneg
    rw [expanded, half]
    linarith
  · intro middle
    apply rounds.even
    rw [expanded, half] at middle
    rcases middle with above | below
    · left
      apply mul_right_cancel₀ nonzero
      linarith
    · right
      apply mul_right_cancel₀ nonzero
      linarith

end RoundsHalfEven

theorem roundHalfEven_mul_mul (numerator : Int) {denominator factor : Nat}
    (positive : 0 < denominator) (factorPos : 0 < factor) :
    roundHalfEven (numerator * factor) (denominator * factor) =
      roundHalfEven numerator denominator :=
  (((roundHalfEven_spec numerator positive).mul factorPos).unique
    (Nat.mul_pos positive factorPos)).symm

/-- The number `coefficient / 10 ^ places`. -/
structure Decimal where
  coefficient : Int
  places : Nat

namespace Decimal

def ofInt (number : Int) : Decimal :=
  ⟨number, 0⟩

/-- The coefficient of the same number at a larger number of places. -/
def scaledTo (number : Decimal) (places : Nat) : Int :=
  number.coefficient * 10 ^ (places - number.places)

instance : Add Decimal where
  add first second :=
    let places := max first.places second.places
    ⟨first.scaledTo places + second.scaledTo places, places⟩

instance : Sub Decimal where
  sub first second :=
    let places := max first.places second.places
    ⟨first.scaledTo places - second.scaledTo places, places⟩

instance : Mul Decimal where
  mul first second :=
    ⟨first.coefficient * second.coefficient, first.places + second.places⟩

/-- The number divided by one hundred. -/
def hundredth (number : Decimal) : Decimal :=
  ⟨number.coefficient, number.places + 2⟩

/-- The coefficient of the number brought to a number of places. -/
def quantize (number : Decimal) (places : Nat) : Int :=
  roundHalfEven (number.coefficient * 10 ^ places) (10 ^ number.places)

/-- Bringing a number to the places that it has changes nothing. -/
@[simp]
theorem quantize_self (coefficient : Int) (places : Nat) :
    quantize ⟨coefficient, places⟩ places = coefficient := by
  have rounded := roundHalfEven_mul_self coefficient
    (show 0 < 10 ^ places from Nat.pow_pos (by omega))
  push_cast at rounded
  exact rounded

@[simp]
theorem add_same_places (first second : Int) (places : Nat) :
    (⟨first, places⟩ + ⟨second, places⟩ : Decimal) =
      ⟨first + second, places⟩ := by
  change Decimal.mk _ _ = _
  simp [scaledTo]

@[simp]
theorem sub_same_places (first second : Int) (places : Nat) :
    (⟨first, places⟩ - ⟨second, places⟩ : Decimal) =
      ⟨first - second, places⟩ := by
  change Decimal.mk _ _ = _
  simp [scaledTo]

theorem mk_mul_mk (first second : Int) (places others : Nat) :
    (⟨first, places⟩ * ⟨second, others⟩ : Decimal) =
      ⟨first * second, places + others⟩ :=
  rfl

@[simp]
theorem mul_ofInt (coefficient factor : Int) (places : Nat) :
    (⟨coefficient, places⟩ * ofInt factor : Decimal) =
      ⟨coefficient * factor, places⟩ :=
  rfl

end Decimal
