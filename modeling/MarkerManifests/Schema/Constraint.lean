import MarkerManifests.Marker.Basic
import MarkerManifests.Schema.Node
import MarkerManifests.Vocabulary.Schema

/-!
# Constraints

The bounds that markers put on values. Every bound belongs to some types and is dropped from schemas
of other types.
-/

namespace MarkerManifests

/-- A bound on values. -/
inductive Constraint where
  | maxLength
  | minLength
  | maxItems
  | minItems
  | maxProperties
  | minProperties
  | minimum
  | maximum
  | multipleOf
  | exclusiveMinimum
  | exclusiveMaximum
  | pattern
  deriving DecidableEq

namespace Constraint

/-- All bounds. -/
def all : List Constraint := [
  maxLength, minLength, maxItems, minItems, maxProperties, minProperties, minimum, maximum,
  multipleOf, exclusiveMinimum, exclusiveMaximum, pattern]

/-- The keyword of a bound, which is also its key among several bounds. -/
def key : Constraint → String
  | maxLength => "maxLength"
  | minLength => "minLength"
  | maxItems => "maxItems"
  | minItems => "minItems"
  | maxProperties => "maxProperties"
  | minProperties => "minProperties"
  | minimum => "minimum"
  | maximum => "maximum"
  | multipleOf => "multipleOf"
  | exclusiveMinimum => "exclusiveMinimum"
  | exclusiveMaximum => "exclusiveMaximum"
  | pattern => "pattern"

/-- The marker that sets the bound alone. -/
def marker : Constraint → String
  | maxLength => Vocabulary.maxLength
  | minLength => Vocabulary.minLength
  | maxItems => Vocabulary.maxItems
  | minItems => Vocabulary.minItems
  | maxProperties => Vocabulary.maxProperties
  | minProperties => Vocabulary.minProperties
  | minimum => Vocabulary.minimum
  | maximum => Vocabulary.maximum
  | multipleOf => Vocabulary.multipleOf
  | exclusiveMinimum => Vocabulary.exclusiveMinimum
  | exclusiveMaximum => Vocabulary.exclusiveMaximum
  | pattern => Vocabulary.pattern

/-- The bound with a key. -/
def ofKey? (key : String) : Option Constraint :=
  all.find? (·.key = key)

/-- The bound that a marker sets. -/
def ofMarker? (name : String) : Option Constraint :=
  all.find? (·.marker = name)

/-- Whether a bound applies to values of a type. -/
def appliesToType : Constraint → SchemaType → Bool
  | maxLength, type => type == .string
  | minLength, type => type == .string
  | pattern, type => type == .string
  | maxItems, type => type == .array
  | minItems, type => type == .array
  | maxProperties, type => type == .object
  | minProperties, type => type == .object
  | minimum, type => type.isNumeric
  | maximum, type => type.isNumeric
  | multipleOf, type => type.isNumeric
  | exclusiveMinimum, type => type.isNumeric
  | exclusiveMaximum, type => type.isNumeric

/-- Whether a bound applies to the values of a schema, which has to demand a type. -/
def appliesTo (constraint : Constraint) : Option SchemaType → Bool
  | none => false
  | some type => constraint.appliesToType type

/-- A count that is not negative. -/
def count? (argument : Argument) : Option UInt64 :=
  match argument.integer? with
  | none => none
  | some value => if value < 0 then none else some value.toInt.toNat.toUInt64

/-- The keywords with a bound set to an argument, if the argument is a value of the bound. -/
def set? (constraint : Constraint) (argument : Argument) (keywords : Keywords) :
    Option Keywords :=
  match constraint with
  | maxLength => (count? argument).map fun count => { keywords with maxLength := some count }
  | minLength => (count? argument).map fun count => { keywords with minLength := some count }
  | maxItems => (count? argument).map fun count => { keywords with maxItems := some count }
  | minItems => (count? argument).map fun count => { keywords with minItems := some count }
  | maxProperties =>
    (count? argument).map fun count => { keywords with maxProperties := some count }
  | minProperties =>
    (count? argument).map fun count => { keywords with minProperties := some count }
  | minimum => argument.number?.map fun number => { keywords with minimum := some number }
  | maximum => argument.number?.map fun number => { keywords with maximum := some number }
  | multipleOf => argument.number?.map fun number => { keywords with multipleOf := some number }
  | exclusiveMinimum =>
    argument.boolean?.map fun value => { keywords with exclusiveMinimum := value }
  | exclusiveMaximum =>
    argument.boolean?.map fun value => { keywords with exclusiveMaximum := value }
  | pattern => argument.string?.map fun text => { keywords with pattern := some text }

end Constraint
end MarkerManifests
