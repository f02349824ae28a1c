import MarkerManifests.Diagnostic
import MarkerManifests.Schema.Node
import MarkerManifests.Text.Displayed

/-!
# Failures of synthesis

What keeps a declaration from having a schema. A failed declaration has the schema of objects about
which nothing is known.
-/

namespace MarkerManifests

/-- Why a declaration has no schema. -/
inductive SynthesisError where
  | unresolved (target : TypeId)
  /-- Unions that share members demand different numbers of them. -/
  | unionConflict (members : List String) (earlier later : UnionPolicy)
  | unknownUnionMember (key : String)
  | listMapWithoutKeys (location : Location)
  | unknownListMapKey (location : Location) (key : String)
  | inlineNotRecord (field : String)
  /-- A field embeds a record that is still being synthesised. -/
  | recursiveInline (field : String)
  | duplicateProperty (key : String)
  deriving DecidableEq

namespace SynthesisError

/-- The kind of diagnostic that reports an error. -/
def kind : SynthesisError → DiagnosticKind
  | unresolved _ => .resolution
  | _ => .semantic

/-- The wording of an error. -/
def message : SynthesisError → String
  | unresolved target => s!"unresolved type reference '{target.text}'"
  | unionConflict members earlier later =>
    "union members " ++ Text.displayedList members ++
      s!" are declared both {earlier.words} and {later.words}"
  | unknownUnionMember key => s!"union member '{key}' is not a field of this type"
  | listMapWithoutKeys location =>
    s!"{location.text}: listType=map requires at least one listMapKey"
  | unknownListMapKey location key =>
    s!"{location.text}: listMapKey '{key}' is not a property of the list items"
  | inlineNotRecord field => s!"inline field '{field}' does not refer to a record type"
  | recursiveInline field =>
    s!"inline field '{field}' embeds a type that is still being synthesized"
  | duplicateProperty key => s!"property '{key}' is declared more than once"

/-- The diagnostic that reports the error of a declaration. -/
def diagnostic (error : SynthesisError) (id : TypeId) : Diagnostic where
  kind := error.kind
  location := .declaration id
  message := error.message

end SynthesisError
end MarkerManifests
