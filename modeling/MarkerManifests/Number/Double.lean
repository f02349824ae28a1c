/-!
# Doubles

Finite numbers of the 64-bit binary floating-point format, as exact dyadic rationals. A double is
a sign and a magnitude; the magnitude is the number's position among the non-negative doubles
(its lower 63 bits), so that neighbouring doubles have neighbouring magnitudes. Arithmetic is done
on exact fractions and rounded to the nearest double, a tie going to the even neighbour.
-/

namespace MarkerManifests

/-- The quotient rounded to the nearest natural number, a tie going to the even one. -/
def roundHalfEven (numerator denominator : Nat) : Nat :=
  let quotient := numerator / denominator
  let twiceRest := 2 * (numerator % denominator)
  if twiceRest < denominator ∨ (twiceRest = denominator ∧ quotient % 2 = 0) then
    quotient
  else
    quotient + 1

/-- A finite double. -/
structure Double where
  /-- Whether the sign bit is set. -/
  negative : Bool
  /-- The bits below the sign: the position among the non-negative doubles. -/
  magnitude : Nat
  /-- The exponent field is not the one of infinities. -/
  finite : magnitude < 2047 * Nat.pow 2 52 := by decide
  deriving DecidableEq

namespace Double

/-- Zero without a sign. -/
def zero : Double where
  negative := false
  magnitude := 0

/-- The integer significand, below `2 ^ 53`. -/
def significand (double : Double) : Nat :=
  if double.magnitude < Nat.pow 2 52 then double.magnitude
  else Nat.pow 2 52 + double.magnitude % Nat.pow 2 52

/-- The power of two that scales the significand. -/
def exponent (double : Double) : Int :=
  if double.magnitude < Nat.pow 2 52 then -1074
  else (double.magnitude / Nat.pow 2 52 : Nat) - 1075

/-- The absolute value as a numerator and a denominator. -/
def fraction (double : Double) : Nat × Nat :=
  if 0 ≤ double.exponent then (double.significand * Nat.pow 2 double.exponent.toNat, 1)
  else (double.significand, Nat.pow 2 (-double.exponent).toNat)

/-- Zero, with either sign. -/
def isZero (double : Double) : Bool :=
  double.magnitude == 0

/-- The fraction divided by a power of two. -/
def scaled (numerator denominator : Nat) (exponent : Int) : Nat × Nat :=
  if 0 ≤ exponent then (numerator, denominator * Nat.pow 2 exponent.toNat)
  else (numerator * Nat.pow 2 (-exponent).toNat, denominator)

/-- The exponent that gives a fraction a significand of 53 bits, or the least exponent of all. -/
def scaleOf (numerator denominator : Nat) : Int :=
  let estimate := max (-1074) ((numerator.log2 : Int) - (denominator.log2 : Int) - 53)
  let (top, bottom) := scaled numerator denominator estimate
  if top / bottom < Nat.pow 2 53 then estimate else estimate + 1

/-- The double nearest to a fraction, a tie going to the even significand. There is none when the
nearest number with an unbounded exponent lies beyond the finite doubles. -/
def nearest? (negative : Bool) (numerator denominator : Nat) : Option Double :=
  if numerator = 0 then
    some ⟨negative, 0, by decide⟩
  else
    let scale := scaleOf numerator denominator
    let (top, bottom) := scaled numerator denominator scale
    let magnitude := (scale + 1074).toNat * Nat.pow 2 52 + roundHalfEven top bottom
    if finite : magnitude < 2047 * Nat.pow 2 52 then some ⟨negative, magnitude, finite⟩ else none

/-- The double nearest to a natural number. -/
def ofNat? (value : Nat) : Option Double :=
  nearest? false value 1

/-- The rounded product of two doubles. -/
def times? (left right : Double) : Option Double :=
  let (leftTop, leftBottom) := left.fraction
  let (rightTop, rightBottom) := right.fraction
  nearest? (left.negative != right.negative) (leftTop * rightTop) (leftBottom * rightBottom)

/-- The rounded quotient of two doubles, of which the second is not zero. -/
def over? (left right : Double) : Option Double :=
  let (leftTop, leftBottom) := left.fraction
  let (rightTop, rightBottom) := right.fraction
  nearest? (left.negative != right.negative) (leftTop * rightBottom) (leftBottom * rightTop)

/-- The double with the other sign. -/
def negate (double : Double) : Double :=
  { double with negative := !double.negative }

/-- The double nearest to a decimal `digits * 10 ^ exponent`. -/
def ofDecimal? (digits : Nat) (exponent : Int) : Option Double :=
  if 0 ≤ exponent then nearest? false (digits * Nat.pow 10 exponent.toNat) 1
  else nearest? false digits (Nat.pow 10 (-exponent).toNat)

@[simp] theorem negate_negate (double : Double) : double.negate.negate = double := by
  simp [negate]

end Double
end MarkerManifests
