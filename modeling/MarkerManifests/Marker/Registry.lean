import MarkerManifests.Marker.Definition
import MarkerManifests.Ordered.NameSet

/-!
# The registry of markers

The definitions that are recognised, in the order in which they were registered. A name is defined
at most once for each kind of comment.
-/

namespace MarkerManifests

/-- Why a definition was not registered. -/
inductive RegistryError where
  | duplicateDefinition (name : String) (applicability : Applicability)
  deriving DecidableEq

/-- The wording of an error. -/
def RegistryError.message : RegistryError → String
  | duplicateDefinition name applicability =>
    s!"duplicate marker definition '{name}' for {applicability.word} comments"

/-- Definitions that belong together. -/
structure Provider where
  name : String
  definitions : List Definition

/-- Definitions with distinct names for every kind of comment. -/
structure Registry where
  definitions : List Definition := []
  distinct : (definitions.map Definition.key).Nodup := by simp

/-- What is told about one marker. -/
structure HelpEntry where
  name : String
  applicability : Applicability
  summary : String
  details : String
  /-- The arguments with their kinds. -/
  arguments : List String
  deriving DecidableEq

namespace HelpEntry

/-- The text that tells about an argument. -/
def argumentText (parameter : Parameter) : String :=
  let name := if parameter.name = "" then "value" else parameter.name
  let note := if parameter.optional then " (optional)" else ""
  s!"{name}: {parameter.kind.words}{note}"

/-- What is told about a definition. -/
def ofDefinition (definition : Definition) : HelpEntry where
  name := definition.name
  applicability := definition.applicability
  summary := definition.help.summary
  details := definition.help.details
  arguments := definition.parameters.map argumentText

/-- Entries are ordered by their names, and those with one name by their kinds of comments. -/
def precedes (left right : HelpEntry) : Bool :=
  if left.name = right.name then left.applicability.rank ≤ right.applicability.rank
  else left.name < right.name

end HelpEntry

namespace Registry

/-- The registry without definitions. -/
def empty : Registry := {}

/-- The number of definitions. -/
def size (registry : Registry) : Nat :=
  registry.definitions.length

/-- The definition of a name in a kind of comment. -/
def lookup? (registry : Registry) (name : String) (applicability : Applicability) :
    Option Definition :=
  registry.definitions.find? (·.key = (name, applicability))

/-- The kinds of comments in which a name is defined. -/
def applicabilitiesOf (registry : Registry) (name : String) : List Applicability :=
  Applicability.all.filter fun applicability => (registry.lookup? name applicability).isSome

/-- Adds a definition. -/
def register (registry : Registry) (definition : Definition) :
    Except RegistryError Registry :=
  if fresh : definition.key ∉ registry.definitions.map Definition.key then
    .ok ⟨registry.definitions ++ [definition], by
      rw [List.map_append, List.nodup_append]
      refine ⟨registry.distinct, by simp, fun old inOld new inNew => ?_⟩
      simp only [List.map_cons, List.map_nil, List.mem_singleton] at inNew
      rintro rfl
      exact fresh (inNew ▸ inOld)⟩
  else
    .error (.duplicateDefinition definition.name definition.applicability)

/-- Adds definitions up to the first one that is defined already. -/
def registerAll (registry : Registry) : List Definition → Registry × Option RegistryError
  | [] => (registry, none)
  | definition :: rest =>
    match registry.register definition with
    | .ok registry => registry.registerAll rest
    | .error error => (registry, some error)

/-- The registry of the definitions of all providers. -/
def compose (providers : List Provider) : Except RegistryError Registry :=
  match empty.registerAll (providers.flatMap (·.definitions)) with
  | (registry, none) => .ok registry
  | (_, some error) => .error error

/-- What is told about the markers of a category. -/
def helpFor (registry : Registry) (category : String) : List HelpEntry :=
  ((registry.definitions.filter (·.help.category = category)).map
    HelpEntry.ofDefinition).mergeSort HelpEntry.precedes

/-- The categories of the markers. -/
def categories (registry : Registry) : NameSet :=
  NameSet.ofList (registry.definitions.map (·.help.category))

end Registry
end MarkerManifests
