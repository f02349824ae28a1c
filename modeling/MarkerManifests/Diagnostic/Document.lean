import MarkerManifests.Diagnostic
import MarkerManifests.Graph.Document

/-!
# Documents of diagnostics

Locations and diagnostics as JSON documents. A location is an object whose only key is the tag for
its kind of comment.
-/

namespace MarkerManifests

/-- The name of a kind of comment in documents. -/
def Applicability.tag : Applicability → String
  | package => "Package"
  | declaration => "Declaration"
  | field => "Field"

/-- The kind of comment with a tag. -/
def Applicability.ofTag? (tag : String) : Option Applicability :=
  all.find? (·.tag = tag)

namespace Location

/-- Reads a location. -/
def ofJson? : Json → Option Location
  | .object [(tag, content)] => do
    match ← Applicability.ofTag? tag with
    | .package => return package (← (← content.field? "package").string?)
    | .declaration => return declaration (← TypeId.ofJson? (← content.field? "ident"))
    | .field =>
      return field (← TypeId.ofJson? (← content.field? "ident"))
        (← (← content.field? "field").string?)
  | _ => none

/-- The content of the document of a location. -/
def contentJson : Location → Json
  | package path => .object [("package", .string path)]
  | declaration id => .object [("ident", id.toJson)]
  | field id name => .object [("ident", id.toJson), ("field", .string name)]

/-- Writes a location. -/
def toJson (location : Location) : Json :=
  .object [(location.applicability.tag, location.contentJson)]

end Location

namespace DiagnosticKind

/-- All kinds of failures. -/
def all : List DiagnosticKind :=
  [syntactic, applicability, resolution, semantic]

/-- The name of a kind of failure in documents. -/
def tag : DiagnosticKind → String
  | syntactic => "Syntax"
  | applicability => "Applicability"
  | resolution => "Resolution"
  | semantic => "Semantic"

/-- The kind of failure with a tag. -/
def ofTag? (tag : String) : Option DiagnosticKind :=
  all.find? (DiagnosticKind.tag · = tag)

end DiagnosticKind

namespace Diagnostic

/-- Reads a diagnostic. -/
def ofJson? (document : Json) : Option Diagnostic := do
  let kind ← DiagnosticKind.ofTag? (← (← document.field? "kind").string?)
  let location ← Location.ofJson? (← document.field? "location")
  let message ← (← document.field? "message").string?
  return { kind, location, message }

/-- Writes a diagnostic. -/
def toJson (diagnostic : Diagnostic) : Json :=
  .object [
    ("kind", .string diagnostic.kind.tag),
    ("location", diagnostic.location.toJson),
    ("message", .string diagnostic.message)]

end Diagnostic
end MarkerManifests
