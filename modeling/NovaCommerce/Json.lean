import NovaCommerce.TextDecoding
import Mathlib.Algebra.Group.Nat.Defs

/-!
# JSON values

The values that requests carry and that columns store, as Python holds them.
The keys of an object are distinct, in the order of their first appearance.
-/

namespace NovaCommerce

/-- A JSON value.  A finite float is kept as `mantissa * 10 ^ exponent`, the
way its literal writes it. -/
inductive Json where
  | null
  | bool (value : Bool)
  | int (value : Int)
  | float (mantissa exponent : Int)
  | nonFinite (name : String)
  | str (value : String)
  | arr (items : List Json)
  | obj (fields : List (String × Json))

namespace Json

/-- The double nearest to the number is zero: half of `2 ^ -1074`, the least
positive one, rounds to zero. -/
def underflows (mantissa exponent : Int) : Bool :=
  mantissa.natAbs * 10 ^ exponent.toNat * 2 ^ 1075 ≤ 10 ^ (-exponent).toNat

/-- The number reaches the middle between the greatest double and `2 ^ 1024`,
which rounds to an infinity. -/
def overflows (mantissa exponent : Int) : Bool :=
  (2 ^ 1024 - 2 ^ 970) * 10 ^ (-exponent).toNat ≤
    mantissa.natAbs * 10 ^ exponent.toNat

/-- Python's truth value. -/
def truthy : Json → Bool
  | null => false
  | bool value => value
  | int value => value ≠ 0
  | float mantissa exponent => !underflows mantissa exponent
  | nonFinite _ => true
  | str value => value ≠ ""
  | arr items => !items.isEmpty
  | obj fields => !fields.isEmpty

/-- Python's `first or second`. -/
def orElse (first second : Json) : Json :=
  if first.truthy then first else second

/-- A text within a value that a column of the database holds. -/
def isStorable (text : String) : Bool :=
  !text.toList.contains '\x00' && TextDecoding.pairsSurrogates text.toList

mutual

/-- A column of the database holds the value: it has no null character, no half
of a pair of surrogates and no number that is not finite. -/
def storable : Json → Bool
  | nonFinite _ => false
  | str value => isStorable value
  | arr items => storableItems items
  | obj fields => storableFields fields
  | _ => true

def storableItems : List Json → Bool
  | [] => true
  | item :: items => item.storable && storableItems items

def storableFields : List (String × Json) → Bool
  | [] => true
  | (name, value) :: fields =>
      isStorable name && value.storable && storableFields fields

end

end Json

end NovaCommerce
