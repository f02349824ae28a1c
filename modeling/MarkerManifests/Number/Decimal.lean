/-!
# Decimal digits

The decimal text of integers, and the values of digits.
-/

namespace MarkerManifests
namespace Decimal

/-- The value of a decimal digit. -/
def digit? (character : Char) : Option Nat :=
  if '0' ≤ character ∧ character ≤ '9' then some (character.toNat - '0'.toNat) else none

/-- The decimal digits of a natural number. -/
def digits (value : Nat) : List Char :=
  Nat.toDigits 10 value

/-- The decimal text of an integer. -/
def integer (value : Int) : List Char :=
  if value < 0 then '-' :: digits value.natAbs else digits value.natAbs

end Decimal
end MarkerManifests
