import MarkerManifests.Number.Decimal

/-!
# Reading integers

Signed integers of 64 bits: an optional sign and at least one digit. Zeros may stand in front, and
a character that is no digit is reported unless the digits before it are too large already.
-/

namespace MarkerManifests
namespace Integer

/-- Why a text is not an integer of 64 bits. -/
inductive Fault where
  | empty
  | invalidDigit
  | tooLarge
  | tooSmall
  deriving DecidableEq

/-- The wording of a fault. -/
def Fault.message : Fault → String
  | empty => "cannot parse integer from empty string"
  | invalidDigit => "invalid digit found in string"
  | tooLarge => "number too large to fit in target type"
  | tooSmall => "number too small to fit in target type"

/-- Appends digits to a value that may not exceed a limit. -/
def readDigits (limit : Nat) (overflow : Fault) (value : Nat) : List Char → Except Fault Nat
  | [] => .ok value
  | character :: rest =>
    match Decimal.digit? character with
    | none => .error .invalidDigit
    | some digit =>
      if value * 10 + digit ≤ limit then readDigits limit overflow (value * 10 + digit) rest
      else .error overflow

/-- The magnitude of an integer without its sign, of which there has to be a digit. -/
def readMagnitude (limit : Nat) (overflow : Fault) (text : List Char) : Except Fault Nat :=
  if text = [] then .error .invalidDigit else readDigits limit overflow 0 text

/-- The integer that a text spells. -/
def read (text : List Char) : Except Fault Int64 :=
  match text with
  | [] => .error .empty
  | '-' :: rest =>
    (readMagnitude (Nat.pow 2 63) .tooSmall rest).map fun magnitude => Int64.ofInt (-magnitude)
  | '+' :: rest =>
    (readMagnitude (Nat.pow 2 63 - 1) .tooLarge rest).map fun magnitude => Int64.ofInt magnitude
  | _ =>
    (readMagnitude (Nat.pow 2 63 - 1) .tooLarge text).map fun magnitude => Int64.ofInt magnitude

/-- The decimal text of an integer. -/
def render (value : Int64) : List Char :=
  Decimal.integer value.toInt

end Integer
end MarkerManifests
