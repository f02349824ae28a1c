import MarkerManifests.Location

/-!
# Marker definitions

A definition says how a marker is named, in which kind of comment it may stand, which arguments it
takes and which part of the library consumes it. The same name may be defined for several kinds of
comments.
-/

namespace MarkerManifests

/-- The kinds of arguments. -/
inductive ArgumentKind where
  | string
  | integer
  | number
  | boolean
  /-- Strings between semicolons. -/
  | list
  | path
  | record
  | gate
  /-- A JSON document, or a string when the text is not JSON. -/
  | document
  deriving DecidableEq

/-- The words for a kind of argument. -/
def ArgumentKind.words : ArgumentKind → String
  | string => "string"
  | integer => "int"
  | number => "number"
  | boolean => "bool"
  | list => "string list"
  | path => "path"
  | record => "sub-record"
  | gate => "gate expression"
  | document => "any"

/-- An argument that a marker takes. -/
structure Parameter where
  /-- The key; the empty key is the one of the single value after an equals sign. -/
  name : String
  kind : ArgumentKind
  optional : Bool
  deriving DecidableEq

/-- The parts of the library that consume markers. -/
inductive Consumer where
  | rule
  | schema
  | webhook
  | metric
  deriving DecidableEq

/-- The word for a consumer. -/
def Consumer.word : Consumer → String
  | rule => "rule"
  | schema => "schema"
  | webhook => "webhook"
  | metric => "metric"

/-- What is told about a marker. -/
structure Help where
  category : String := ""
  summary : String := ""
  details : String := ""
  deriving DecidableEq

/-- A marker that is recognised. -/
structure Definition where
  /-- The name without the plus sign; its parts stand between colons. -/
  name : String
  applicability : Applicability
  parameters : List Parameter := []
  consumer : Consumer
  /-- Whether the marker may occur more than once in a comment. -/
  repeatable : Bool := true
  help : Help := {}
  deriving DecidableEq

namespace Definition

/-- The key of the single value after an equals sign. -/
def unnamed : String := ""

/-- The name and the kind of comment, which identify a definition. -/
def key (definition : Definition) : String × Applicability :=
  (definition.name, definition.applicability)

/-- Whether the marker takes one value without a key. -/
def takesValue (definition : Definition) : Bool :=
  match definition.parameters with
  | [only] => only.name == unnamed
  | _ => false

/-- The parameter with a key. -/
def parameter? (definition : Definition) (name : String) : Option Parameter :=
  definition.parameters.find? (·.name = name)

/-- Adds an argument that must be given. -/
def required (definition : Definition) (name : String) (kind : ArgumentKind) : Definition :=
  { definition with parameters := definition.parameters ++ [⟨name, kind, false⟩] }

/-- Adds an argument that may be left out. -/
def optional (definition : Definition) (name : String) (kind : ArgumentKind) : Definition :=
  { definition with parameters := definition.parameters ++ [⟨name, kind, true⟩] }

/-- Makes the marker take one value without a key. -/
def value (definition : Definition) (kind : ArgumentKind) : Definition :=
  { definition with parameters := [⟨unnamed, kind, false⟩] }

/-- Allows the marker once in a comment. -/
def single (definition : Definition) : Definition :=
  { definition with repeatable := false }

/-- Files the marker under a category. -/
def describe (definition : Definition) (category summary : String) : Definition :=
  { definition with help := { definition.help with category, summary } }

/-- Adds a longer explanation. -/
def explain (definition : Definition) (details : String) : Definition :=
  { definition with help := { definition.help with details } }

/-- The same marker in another kind of comment. -/
def inComment (definition : Definition) (applicability : Applicability) : Definition :=
  { definition with applicability }

end Definition
end MarkerManifests
