import MarkerManifests.Number.Decimal
import MarkerManifests.Number.Double

/-!
# Shortest decimal text of a double

A double is written with the fewest significant digits that still round to it, and of those with
the decimal nearest to its exact value. The decimals are searched from the coarsest grid
`10 ^ k` to finer ones; on each grid only the two neighbours of the exact value can round to it.
-/

namespace MarkerManifests
namespace Double

/-- Four times the exact value and the ends of the interval that rounds to it, as multiples of a
quarter of the last place. -/
structure Interval where
  lower : Nat
  value : Nat
  upper : Nat
  /-- Whether the ends themselves round to the double. -/
  closed : Bool

/-- The interval of reals that round to a double, in quarters of its last place. The gap below a
power of two is half as wide as the gap above it. -/
def interval (double : Double) : Interval :=
  let value := 4 * double.significand
  let below := if double.significand = Nat.pow 2 52 ∧ -1074 < double.exponent then 1 else 2
  ⟨value - below, value, value + 2, double.significand % 2 = 0⟩

/-- Whether a multiple of the grid, given with the scale of the interval, rounds to the double. -/
def Interval.holds (interval : Interval) (point scale : Nat) : Bool :=
  if interval.closed then
    interval.lower * scale ≤ point && point ≤ interval.upper * scale
  else
    interval.lower * scale < point && point < interval.upper * scale

/-- The digits on the grid `10 ^ grid` that round to the double, nearest first. The interval is
compared with the grid as integers, after both are multiplied by `scale`. -/
def digitsOn (interval : Interval) (scale step : Nat) : Option Nat :=
  let below := interval.value * scale / step
  let above := below + 1
  let fromBelow := interval.value * scale - below * step
  let fromAbove := above * step - interval.value * scale
  match interval.holds (below * step) scale, interval.holds (above * step) scale with
  | true, true =>
    if fromBelow < fromAbove ∨ (fromBelow = fromAbove ∧ below % 2 = 0) then some below
    else some above
  | true, false => some below
  | false, true => some above
  | false, false => none

/-- Searches grids downwards, at most `steps` of them. -/
def search (interval : Interval) (exponent : Int) : Nat → Int → Nat × Int
  | 0, grid => (0, grid)
  | steps + 1, grid =>
    let quarter := exponent - 2
    let scale := Nat.pow 2 quarter.toNat * Nat.pow 10 (-grid).toNat
    let step := Nat.pow 10 grid.toNat * Nat.pow 2 (-quarter).toNat
    match digitsOn interval scale step with
    | some digits => (digits, grid)
    | none => search interval exponent steps (grid - 1)

/-- The shortest decimal `digits * 10 ^ exponent` that rounds to a double other than zero. The
search starts on a grid no finer than the first digit and needs at most seventeen digits. -/
def shortest (double : Double) : Nat × Int :=
  let bits := (double.significand.log2 : Int) + double.exponent + 1
  search double.interval double.exponent 24 (bits * 30103 / 100000 + 1)

/-- The spelling of doubles: where positional notation ends, and the sign of exponents. -/
structure Spelling where
  /-- The greatest number of digits before the point in positional notation. -/
  widest : Int := 16
  /-- The greatest number of zeros between the point and the first digit. -/
  deepest : Int := 4
  /-- Whether a positive exponent carries a plus sign. -/
  plusSign : Bool

/-- The text of `digits * 10 ^ exponent`, always with a point or an exponent. -/
def spell (spelling : Spelling) (digits : Nat) (exponent : Int) : List Char :=
  let text := Decimal.digits digits
  let point : Int := text.length + exponent
  if 0 ≤ exponent ∧ point ≤ spelling.widest then
    text ++ List.replicate exponent.toNat '0' ++ ['.', '0']
  else if 0 < point ∧ point ≤ spelling.widest then
    text.take point.toNat ++ '.' :: text.drop point.toNat
  else if -spelling.deepest ≤ point ∧ point ≤ 0 then
    ['0', '.'] ++ List.replicate (-point).toNat '0' ++ text
  else
    let fraction := if text.length = 1 then text else text.take 1 ++ '.' :: text.drop 1
    let plus := if spelling.plusSign ∧ 0 < point - 1 then ['+'] else []
    fraction ++ 'e' :: plus ++ Decimal.integer (point - 1)

/-- The text of a double. -/
def text (spelling : Spelling) (double : Double) : List Char :=
  let sign := if double.negative then ['-'] else []
  if double.isZero then
    sign ++ ['0', '.', '0']
  else
    let (digits, exponent) := double.shortest
    sign ++ spell spelling digits exponent

end Double
end MarkerManifests
