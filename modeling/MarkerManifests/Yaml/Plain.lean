import MarkerManifests.Number.Decimal
import MarkerManifests.Number.Double

/-!
# Plain scalars

A scalar without quotes spells a null, a truth value, an integer of at most 128 bits, a double or,
if it spells nothing else, a text. Digits after superfluous zeros spell a text.
-/

namespace MarkerManifests
namespace Yaml

/-- What a plain scalar spells. -/
inductive Plain where
  | null
  | bool (value : Bool)
  | integer (value : Int)
  | double (value : Double)
  /-- An infinity or no number at all. -/
  | notFinite
  | word
  deriving DecidableEq

namespace Plain

/-- The value of a digit in a radix up to sixteen. -/
def digitIn? (radix : Nat) (character : Char) : Option Nat :=
  let value :=
    if 'a' ≤ character ∧ character ≤ 'f' then some (character.toNat - 'a'.toNat + 10)
    else if 'A' ≤ character ∧ character ≤ 'F' then some (character.toNat - 'A'.toNat + 10)
    else Decimal.digit? character
  value.filter (· < radix)

/-- The natural number that digits spell after the digits of a number. -/
def naturalAfter? (radix value : Nat) : List Char → Option Nat
  | [] => some value
  | character :: rest => do
    naturalAfter? radix (value * radix + (← digitIn? radix character)) rest

/-- The natural number that a text of digits spells. -/
def natural? (radix : Nat) : List Char → Option Nat
  | [] => none
  | digits => naturalAfter? radix 0 digits

/-- The number that a text without a sign spells; the letter after a zero names the radix. -/
def prefixed? : List Char → Option Nat
  | '0' :: 'x' :: digits => natural? 16 digits
  | '0' :: 'o' :: digits => natural? 8 digits
  | '0' :: 'b' :: digits => natural? 2 digits
  | _ => none

/-- The text without a sign. -/
def unsigned : List Char → List Char
  | '+' :: rest => rest
  | '-' :: rest => rest
  | text => text

/-- Whether a text consists of digits after a superfluous zero, possibly with a sign. -/
def hasLeadingZero (text : List Char) : Bool :=
  match unsigned text with
  | '0' :: next :: rest => (next :: rest).all fun character => (Decimal.digit? character).isSome
  | _ => false

/-- The number that digits with or without a radix spell. -/
def magnitude? (text : List Char) : Option Nat :=
  match prefixed? text with
  | some value => some value
  | none => if hasLeadingZero text then none else natural? 10 text

/-- The integer of at most 128 bits that a text spells. -/
def integer? : List Char → Option Int
  | '-' :: rest => ((magnitude? rest).filter (· ≤ Nat.pow 2 127)).map fun value => -(value : Int)
  | '+' :: rest => ((magnitude? rest).filter (· < Nat.pow 2 128)).map fun value => (value : Int)
  | text => ((magnitude? text).filter (· < Nat.pow 2 128)).map fun value => (value : Int)

/-- The leading digits of a text and the rest. -/
def spanDigits (text : List Char) : List Char × List Char :=
  text.span fun character => (Decimal.digit? character).isSome

/-- The exponent at the end of a number; without one it is zero. -/
def exponent? : List Char → Option Int
  | [] => some 0
  | letter :: rest =>
    if letter = 'e' ∨ letter = 'E' then
      match rest with
      | '-' :: digits => (natural? 10 digits).map fun value => -(value : Int)
      | '+' :: digits => (natural? 10 digits).map fun value => (value : Int)
      | digits => (natural? 10 digits).map fun value => (value : Int)
    else
      none

/-- The double nearest to decimal digits that are scaled by a power of ten, unless it is not finite.
A number far beyond the doubles is not finite, and one far below them is zero. -/
def scaled? (digits : List Char) (exponent : Int) : Option Double :=
  match naturalAfter? 10 0 digits with
  | none => none
  | some significand =>
    let top : Int := digits.length + exponent
    if significand = 0 ∨ top < -400 then some Double.zero
    else if 400 + digits.length < top then none
    else Double.ofDecimal? significand exponent

/-- The double that a text without a sign spells in decimal notation. -/
def decimal? (text : List Char) : Option Double :=
  let (whole, rest) := spanDigits text
  let (fraction, rest) := match rest with
    | '.' :: after => spanDigits after
    | other => ([], other)
  if whole = [] ∧ fraction = [] then
    none
  else do
    scaled? (whole ++ fraction) ((← exponent? rest) - fraction.length)

/-- The double that a text spells in decimal notation. -/
def double? : List Char → Option Double
  | '+' :: rest => decimal? rest
  | '-' :: rest => (decimal? rest).map Double.negate
  | text => decimal? text

/-- The spellings of null. -/
def nulls : List (List Char) :=
  ["".toList, "null".toList, "Null".toList, "NULL".toList, "~".toList]

/-- The spellings of truth. -/
def trues : List (List Char) :=
  ["true".toList, "True".toList, "TRUE".toList]

/-- The spellings of falsehood. -/
def falses : List (List Char) :=
  ["false".toList, "False".toList, "FALSE".toList]

/-- The spellings of infinities and of the value that is no number. -/
def notFinites : List (List Char) := [
  ".inf".toList, ".Inf".toList, ".INF".toList, "+.inf".toList, "+.Inf".toList, "+.INF".toList,
  "-.inf".toList, "-.Inf".toList, "-.INF".toList, ".nan".toList, ".NaN".toList, ".NAN".toList]

/-- Whether a text spells null. -/
def isNull (text : List Char) : Bool :=
  nulls.contains text

/-- The truth value that a text spells. -/
def bool? (text : List Char) : Option Bool :=
  if trues.contains text then some true
  else if falses.contains text then some false
  else none

/-- What a text without quotes spells. -/
def read (text : List Char) : Plain :=
  if isNull text then
    null
  else
    match bool? text with
    | some value => bool value
    | none =>
      match integer? text with
      | some value => integer value
      | none =>
        if hasLeadingZero text then
          .word
        else if notFinites.contains text then
          notFinite
        else
          match double? text with
          | some value => double value
          | none => .word

/-- Whether a text means something else, or could, when it stands without quotes. -/
def isAmbiguous (text : List Char) : Bool :=
  read text != .word || hasLeadingZero text

end Plain
end Yaml
end MarkerManifests
