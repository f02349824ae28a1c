import MarkerManifests.Number.Basic

/-!
# Reading numbers

The number grammar of documents: an optional minus sign, an integer part without superfluous
zeros, an optional fraction and an optional exponent. Significant digits are collected into 64
bits and later ones only scale the result, which is rounded once when the digits become a double
and once more when the power of ten is applied.
-/

namespace MarkerManifests
namespace Number

/-- Why a text is not a number. -/
inductive Problem where
  /-- The text ends where a digit is needed. -/
  | endOfText
  /-- A character does not belong there. -/
  | malformed
  /-- The number lies beyond the finite doubles. -/
  | outOfRange
  deriving DecidableEq

/-- The unread characters when reading stopped, and why it stopped. -/
structure Stop where
  problem : Problem
  rest : List Char
  /-- Whether the first byte of the first unread character was taken. -/
  split : Bool := false

/-- The greatest natural number of 64 bits. -/
def greatestNatural : Nat := Nat.pow 2 64 - 1

/-- The greatest exponent that is told apart from larger ones. -/
def greatestExponent : Nat := Nat.pow 2 31 - 1

/-- Whether a text starts with a digit. -/
def startsWithDigit : List Char → Bool
  | [] => false
  | character :: _ => (Decimal.digit? character).isSome

/-- Appends leading digits to a value as long as it does not exceed the limit. The result is the
value, the number of digits taken and the rest. -/
def collect (limit : Nat) (value taken : Nat) : List Char → Nat × Nat × List Char
  | [] => (value, taken, [])
  | character :: rest =>
    match Decimal.digit? character with
    | none => (value, taken, character :: rest)
    | some digit =>
      if value * 10 + digit ≤ limit then collect limit (value * 10 + digit) (taken + 1) rest
      else (value, taken, character :: rest)

/-- The number of leading digits and the text after them. -/
def skipDigits (text : List Char) : Nat × List Char :=
  let isDigit := fun character => (Decimal.digit? character).isSome
  ((text.takeWhile isDigit).length, text.dropWhile isDigit)

/-- The double nearest to a power of ten up to `10 ^ 308`. -/
def powerOfTen (exponent : Nat) : Double :=
  (Double.ofNat? (Nat.pow 10 exponent)).getD Double.zero

/-- A double divided by a power of ten, in steps of at most `10 ^ 308`. -/
def shrink (value : Double) (exponent : Nat) : Double :=
  if small : exponent ≤ 308 then
    (value.over? (powerOfTen exponent)).getD value
  else if value.isZero then
    value
  else
    shrink ((value.over? (powerOfTen 308)).getD value) (exponent - 308)
termination_by exponent

/-- The double for `significand * 10 ^ exponent`: the significand is rounded first, then its
product or quotient with the power of ten. There is none beyond the finite doubles. -/
def scale? (significand : Nat) (exponent : Int) : Option Double :=
  match Double.ofNat? significand with
  | none => none
  | some value =>
    if exponent < 0 then
      some (shrink value (-exponent).toNat)
    else if exponent ≤ 308 then
      value.times? (powerOfTen exponent.toNat)
    else if value.isZero then
      some value
    else
      none

/-- Scales a significand, stopping before `rest` when the result is out of range. -/
def finish (significand : Nat) (exponent : Int) (rest : List Char) :
    Except Stop (Double × List Char) :=
  match scale? significand exponent with
  | some value => .ok (value, rest)
  | none => .error ⟨.outOfRange, rest, false⟩

/-- Reads the digits of an exponent whose sign was read. -/
def readExponentDigits (significand : Nat) (exponent : Int) (positive : Bool) :
    List Char → Except Stop (Double × List Char)
  | [] => .error ⟨.endOfText, [], false⟩
  | character :: rest =>
    match Decimal.digit? character with
    | none =>
      if character.utf8Size = 1 then .error ⟨.malformed, rest, false⟩
      else .error ⟨.malformed, character :: rest, true⟩
    | some digit =>
      let (written, _, rest) := collect greatestExponent digit 0 rest
      if startsWithDigit rest then
        let rest := rest.tail
        if significand ≠ 0 ∧ positive then
          .error ⟨.outOfRange, rest, false⟩
        else
          .ok (Double.zero, (skipDigits rest).2)
      else
        finish significand (if positive then exponent + written else exponent - written) rest

/-- Reads an optional exponent and scales the significand. -/
def readExponent (significand : Nat) (exponent : Int) (text : List Char) :
    Except Stop (Double × List Char) :=
  match text with
  | 'e' :: '+' :: rest => readExponentDigits significand exponent true rest
  | 'e' :: '-' :: rest => readExponentDigits significand exponent false rest
  | 'e' :: rest => readExponentDigits significand exponent true rest
  | 'E' :: '+' :: rest => readExponentDigits significand exponent true rest
  | 'E' :: '-' :: rest => readExponentDigits significand exponent false rest
  | 'E' :: rest => readExponentDigits significand exponent true rest
  | _ => finish significand exponent text

/-- Reads the digits after a point, of which there has to be one. -/
def readFraction (significand : Nat) (exponent : Int) (text : List Char) :
    Except Stop (Double × List Char) :=
  let (significand, taken, rest) := collect greatestNatural significand 0 text
  if startsWithDigit rest then
    readExponent significand (exponent - taken) (skipDigits rest).2
  else if taken = 0 then
    .error ⟨if rest = [] then .endOfText else .malformed, rest, false⟩
  else
    readExponent significand (exponent - taken) rest

/-- Reads what follows an integer part whose last digits were dropped. -/
def readAfterLong (significand dropped : Nat) (text : List Char) :
    Except Stop (Double × List Char) :=
  match text with
  | '.' :: rest => readFraction significand dropped rest
  | _ => readExponent significand dropped text

/-- An integer with a minus sign; zero and integers beyond 64 bits become doubles. -/
def ofNegated (magnitude : Nat) : Number :=
  if 0 < magnitude ∧ magnitude ≤ Nat.pow 2 63 then
    negative (Int64.ofInt (-(magnitude : Int)))
  else
    double ((Double.ofNat? magnitude).getD Double.zero).negate

/-- A double that was written with or without a minus sign. -/
def ofDouble (positive : Bool) : Double × List Char → Number × List Char
  | (value, rest) => (double (if positive then value else value.negate), rest)

/-- Reads what follows a complete integer part. -/
def readAfterInteger (positive : Bool) (significand : Nat) (text : List Char) :
    Except Stop (Number × List Char) :=
  match text with
  | '.' :: rest => (readFraction significand 0 rest).map (ofDouble positive)
  | 'e' :: _ => (readExponent significand 0 text).map (ofDouble positive)
  | 'E' :: _ => (readExponent significand 0 text).map (ofDouble positive)
  | _ =>
    if positive then .ok (natural significand.toUInt64, text)
    else .ok (ofNegated significand, text)

/-- Reads an unsigned number from its first digit. -/
def readUnsigned (positive : Bool) : List Char → Except Stop (Number × List Char)
  | [] => .error ⟨.endOfText, [], false⟩
  | '0' :: rest =>
    if startsWithDigit rest then .error ⟨.malformed, rest, false⟩
    else readAfterInteger positive 0 rest
  | character :: rest =>
    match Decimal.digit? character with
    | none =>
      if character.utf8Size = 1 then .error ⟨.malformed, rest, false⟩
      else .error ⟨.malformed, character :: rest, true⟩
    | some digit =>
      let (significand, _, rest) := collect greatestNatural digit 0 rest
      if startsWithDigit rest then
        let (dropped, rest) := skipDigits rest
        (readAfterLong significand dropped rest).map (ofDouble positive)
      else
        readAfterInteger positive significand rest

/-- Reads the number at the start of a text. -/
def readPrefix (text : List Char) : Except Stop (Number × List Char) :=
  match text with
  | [] => .error ⟨.endOfText, [], false⟩
  | '-' :: rest => readUnsigned false rest
  | _ => if startsWithDigit text then readUnsigned true text else .error ⟨.malformed, text, false⟩

/-- A fault at a line and a column, which counts the bytes of the line up to the fault. -/
structure Fault where
  problem : Problem
  line : Nat
  column : Nat
  deriving DecidableEq

/-- The line and column reached after a number of bytes of a text. -/
def position (text : List Char) (bytes : Nat) : Nat × Nat :=
  go 1 0 bytes text
where
  go (line column : Nat) : Nat → List Char → Nat × Nat
    | 0, _ => (line, column)
    | _, [] => (line, column)
    | bytes, character :: rest =>
      if bytes < character.utf8Size then (line, column + bytes)
      else if character = '\n' then go (line + 1) 0 (bytes - character.utf8Size) rest
      else go line (column + character.utf8Size) (bytes - character.utf8Size) rest

/-- The number of bytes of a text. -/
def byteCount (text : List Char) : Nat :=
  (text.map Char.utf8Size).foldr (· + ·) 0

/-- The number that a whole text spells. An unread character after the number, or after a fault
in it, is a fault of its own. -/
def read (text : List Char) : Except Fault Number :=
  let fault (problem : Problem) (bytes : Nat) : Fault :=
    let (line, column) := position text bytes
    ⟨problem, line, column⟩
  match readPrefix text with
  | .ok (number, []) => .ok number
  | .ok (_, rest) => .error (fault .malformed (byteCount text - byteCount rest + 1))
  | .error stop =>
    let bytes := byteCount text - byteCount stop.rest + if stop.split then 1 else 0
    if stop.rest = [] then .error (fault stop.problem bytes)
    else .error (fault .malformed (bytes + 1))

/-- What is wrong, without the place. -/
def Problem.message : Problem → String
  | .endOfText => "EOF while parsing a value"
  | .malformed => "invalid number"
  | .outOfRange => "number out of range"

/-- The fault with its place. -/
def Fault.message (fault : Fault) : String :=
  s!"{fault.problem.message} at line {fault.line} column {fault.column}"

end Number
end MarkerManifests
