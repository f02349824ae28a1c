import MarkerManifests.Number.Shortest

/-!
# Numbers

A number is kept the way it was written: a natural number or a negative integer when it has
neither fraction nor exponent and fits into 64 bits, and a double otherwise.
-/

namespace MarkerManifests

/-- A number of a document or of a marker argument. -/
inductive Number where
  | natural (value : UInt64)
  /-- An integer below zero. -/
  | negative (value : Int64)
  | double (value : Double)
  deriving DecidableEq

namespace Number

/-- A 64-bit integer as a number. -/
def ofInt64 (value : Int64) : Number :=
  if value < 0 then negative value else natural value.toInt.toNat.toUInt64

/-- The text of a number, with the given spelling of doubles. -/
def text (spelling : Double.Spelling) : Number → List Char
  | natural value => Decimal.digits value.toNat
  | negative value => Decimal.integer value.toInt
  | double value => value.text spelling

/-- The number when it is a natural number. -/
def natural? : Number → Option UInt64
  | natural value => some value
  | _ => none

end Number
end MarkerManifests
