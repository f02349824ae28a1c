import MarkerManifests.Graph.Basic

/-!
# Locations

Every marker stands in one comment: of a package, of a declaration or of a field. A location names
the comment, and its applicability is the kind of comment.
-/

namespace MarkerManifests

/-- The kinds of comments. -/
inductive Applicability where
  | package
  | declaration
  | field
  deriving DecidableEq

namespace Applicability

/-- All kinds of comments, in their order. -/
def all : List Applicability :=
  [package, declaration, field]

/-- The word for a kind of comment. -/
def word : Applicability → String
  | package => "package"
  | declaration => "declaration"
  | field => "field"

/-- The place of a kind in the order of kinds. -/
def rank : Applicability → Nat
  | package => 0
  | declaration => 1
  | field => 2

end Applicability

/-- The comment that a marker stands in. -/
inductive Location where
  | package (path : String)
  | declaration (id : TypeId)
  /-- A field of a record, by its name in the source. -/
  | field (id : TypeId) (name : String)
  deriving DecidableEq

namespace Location

/-- The kind of comment. -/
def applicability : Location → Applicability
  | package _ => .package
  | declaration _ => .declaration
  | field _ _ => .field

/-- The package that the comment belongs to. -/
def packageName : Location → String
  | package path => path
  | declaration id => id.package
  | field id _ => id.package

/-- The text that names the comment. -/
def text : Location → String
  | package path => "package " ++ path
  | declaration id => id.text
  | field id name => id.text ++ "." ++ name

end Location
end MarkerManifests
