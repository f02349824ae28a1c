import MarkerManifests.Schema.Document
import MarkerManifests.Schema.Synthesis
import MarkerManifests.Text.Lowercase
import MarkerManifests.Vocabulary.GroupVersion

/-!
# Resource definitions

Declarations that are marked as resources become resource definitions. Those with the same group and
kind, declared in packages for different versions, become the versions of one definition. A
definition with a fault is left out and reported.
-/

namespace MarkerManifests

/-- Where the objects of a resource live. -/
inductive ResourceScope where
  | namespaced
  | cluster
  deriving DecidableEq

namespace ResourceScope

/-- The word for a scope. -/
def word : ResourceScope → String
  | namespaced => "Namespaced"
  | cluster => "Cluster"

/-- The scope with a word. -/
def ofWord? (word : String) : Option ResourceScope :=
  [namespaced, cluster].find? (ResourceScope.word · = word)

end ResourceScope

/-- The names of a resource. -/
structure ResourceNames where
  kind : String
  plural : String
  singular : String
  shortNames : List String
  categories : List String
  deriving DecidableEq

/-- A column that is printed for the objects of a resource. -/
structure PrinterColumn where
  name : String
  type : String
  path : String
  description : Option String
  format : Option String
  priority : Option Int64
  deriving DecidableEq

/-- A version of a resource. -/
structure ResourceVersion where
  name : String
  /-- Whether objects are stored at this version. -/
  storage : Bool
  schema : SchemaNode
  hasStatus : Bool
  columns : List PrinterColumn

/-- A resource with its versions. -/
structure ResourceDefinition where
  group : String
  names : ResourceNames
  scope : ResourceScope
  versions : List ResourceVersion

namespace ResourceDefinition

/-- The name of the definition: the plural and the group. -/
def name (definition : ResourceDefinition) : String :=
  definition.names.plural ++ "." ++ definition.group

end ResourceDefinition

/-- A declaration that is marked as a resource. -/
structure ResourceRoot where
  version : String
  id : TypeId
  markers : Markers
  schema : SchemaNode
  /-- Whether the schema could not be built. -/
  failed : Bool

/-- The roots with one group and kind. -/
structure ResourceFamily where
  group : String
  kind : String
  first : ResourceRoot
  others : List ResourceRoot := []

/-- Why a definition is left out. -/
inductive ResourceFault where
  | schemaFailed (id : TypeId)
  | repeatedVersion (version : String)
  | missingField (id : TypeId) (field : String)
  | noStorage
  | severalStorage
  | unknownScope (scope : String)
  deriving DecidableEq

/-- The wording of a fault. -/
def ResourceFault.message : ResourceFault → String
  | schemaFailed id => s!"schema for {id.text} failed"
  | repeatedVersion version => s!"version {version} is declared more than once"
  | missingField id field => s!"{id.text} has no '{field}' field"
  | noStorage => "no version is marked +storageversion"
  | severalStorage => "more than one version is marked +storageversion"
  | unknownScope scope => s!"unknown scope '{scope}'"

namespace ResourceFamily

/-- The roots of a family in the order in which they were found. -/
def roots (family : ResourceFamily) : List ResourceRoot :=
  family.first :: family.others

/-- The fields that the record of a resource must have. -/
def rootFields : List String :=
  ["apiVersion", "kind", "metadata"]

/-- The plural of a lower-case word. -/
def pluralOf (word : List Char) : List Char :=
  match word.reverse with
  | 's' :: _ => word ++ ['e', 's']
  | 'x' :: _ => word ++ ['e', 's']
  | 'z' :: _ => word ++ ['e', 's']
  | 'h' :: 'c' :: _ => word ++ ['e', 's']
  | 'h' :: 's' :: _ => word ++ ['e', 's']
  | 'y' :: stem =>
    if stem.head?.any (['a', 'e', 'i', 'o', 'u'].contains ·) then word ++ ['s']
    else stem.reverse ++ ['i', 'e', 's']
  | _ => word ++ ['s']

/-- The lower-case plural of a kind. -/
def pluralize (kind : String) : String :=
  String.ofList (pluralOf (Text.lowercase kind.toList))

/-- The fault of a root that is found after other roots. -/
def rootFault? (before : List ResourceRoot) (root : ResourceRoot) : Option ResourceFault :=
  if before.any (·.version = root.version) then
    some (.repeatedVersion root.version)
  else
    (rootFields.find? fun field => !root.schema.hasProperty field).map (.missingField root.id)

/-- The first fault among roots that are found after other roots. -/
def rootsFault? (before : List ResourceRoot) :
    List ResourceRoot → Option (ResourceRoot × ResourceFault)
  | [] => none
  | root :: rest =>
    match rootFault? before root with
    | some fault => some (root, fault)
    | none => rootsFault? (before ++ [root]) rest

/-- The version at which objects are stored: the only one that is marked, or the only one. -/
def storageVersion (family : ResourceFamily) :
    Except (ResourceRoot × ResourceFault) String :=
  match family.roots.filter (·.markers.has Vocabulary.storageVersion), family.others with
  | [only], _ => .ok only.version
  | [], [] => .ok family.first.version
  | [], _ => .error (family.first, .noStorage)
  | _, _ => .error (family.first, .severalStorage)

/-- The scope that a resource marker names. -/
def scopeOf (root : ResourceRoot) (marker : Option Marker) :
    Except (ResourceRoot × ResourceFault) ResourceScope :=
  match marker.bind (·.string? "scope") with
  | none => .ok .namespaced
  | some word =>
    match ResourceScope.ofWord? word with
    | some scope => .ok scope
    | none => .error (root, .unknownScope word)

/-- The names that a resource marker gives to a kind. -/
def namesOf (kind : String) (marker : Option Marker) : ResourceNames where
  kind := kind
  plural := (marker.bind (·.string? "path")).getD (pluralize kind)
  singular := (marker.bind (·.string? "singular")).getD
    (String.ofList (Text.lowercase kind.toList))
  shortNames := (marker.map (·.list "shortName")).getD []
  categories := (marker.map (·.list "categories")).getD []

/-- The column that a marker describes. -/
def columnOf (marker : Marker) : PrinterColumn where
  name := (marker.string? "name").getD ""
  type := (marker.string? "type").getD ""
  path := ((marker.path? "JSONPath").map fun path => String.ofList path.render).getD ""
  description := marker.string? "description"
  format := marker.string? "format"
  priority := marker.integer? "priority"

/-- The schema of a root, in which the metadata are any object. -/
def rootSchema (schema : SchemaNode) : SchemaNode :=
  { schema with
    properties := schema.properties.map fun (key, node) =>
      if key = "metadata" then (key, SchemaNode.ofType .object) else (key, node) }

/-- The version that a root describes. -/
def versionOf (storage : String) (root : ResourceRoot) : ResourceVersion where
  name := root.version
  storage := root.version = storage
  schema := rootSchema root.schema
  hasStatus := root.markers.has Vocabulary.statusSubresource
  columns := (root.markers.named Vocabulary.printerColumn).map columnOf

/-- The definition of a family, or the first fault and the root that has it. -/
def define (family : ResourceFamily) :
    Except (ResourceRoot × ResourceFault) ResourceDefinition :=
  match family.roots.find? (·.failed) with
  | some root => .error (root, .schemaFailed root.id)
  | none =>
    match rootsFault? [] family.roots with
    | some fault => .error fault
    | none =>
      match family.storageVersion with
      | .error fault => .error fault
      | .ok storage =>
        let root := (family.roots.find? (·.version = storage)).getD family.first
        let marker := root.markers.first? Vocabulary.resource
        match scopeOf root marker with
        | .error fault => .error fault
        | .ok scope => .ok {
            group := family.group
            names := namesOf family.kind marker
            scope
            versions := family.roots.map (versionOf storage) }

/-- The diagnostic of a definition that is left out. -/
def omitted (family : ResourceFamily) (root : ResourceRoot) (fault : ResourceFault) :
    Diagnostic where
  kind := .semantic
  location := .declaration root.id
  message := s!"resource {family.kind}.{family.group} omitted: {fault.message}"

/-- Adds a root to the family with its group and kind, or as a new family. -/
def addRoot (group kind : String) (root : ResourceRoot) :
    List ResourceFamily → List ResourceFamily
  | [] => [{ group, kind, first := root }]
  | family :: rest =>
    if family.group = group ∧ family.kind = kind then
      { family with others := family.others ++ [root] } :: rest
    else
      family :: addRoot group kind root rest

/-- The definitions of families and the diagnostics of those that are left out. -/
def defineAll : List ResourceFamily → List ResourceDefinition × Diagnostics
  | [] => ([], [])
  | family :: rest =>
    let (definitions, diagnostics) := defineAll rest
    match family.define with
    | .ok definition => (definition :: definitions, diagnostics)
    | .error (root, fault) => (definitions, family.omitted root fault :: diagnostics)

end ResourceFamily

namespace SchemaSource

/-- The diagnostic of a resource whose package has no group or no version. -/
def unversioned (package : Package) (declaration : Declaration) : Diagnostic where
  kind := .semantic
  location := .declaration declaration.id
  message :=
    s!"resource {declaration.name} requires +{Vocabulary.groupName} and " ++
      s!"+{Vocabulary.versionName} on package {package.name}"

/-- Whether a declaration is a resource that is switched on. -/
def isResource (source : SchemaSource) (declaration : Declaration) : Bool :=
  let markers := source.index.declaration declaration.id
  markers.has Vocabulary.resource &&
    !markers.isGatedOff Vocabulary.featureGate source.gates

/-- Sorts the resources among declarations into families. -/
def collectRoots (source : SchemaSource) (families : List ResourceFamily)
    (diagnostics : Diagnostics) :
    List (Package × Declaration) → Synthesis (List ResourceFamily × Diagnostics)
  | [] => pure (families, diagnostics)
  | (package, declaration) :: rest => do
    if source.isResource declaration then
      match source.index.groupVersion? package with
      | none =>
        source.collectRoots families (diagnostics ++ [unversioned package declaration]) rest
      | some (group, version) =>
        let schema ← source.synthesize declaration.id version
        let table ← get
        let root : ResourceRoot := {
          version
          id := declaration.id
          markers := source.index.declaration declaration.id
          schema
          failed := table.hasFailed ⟨declaration.id, version⟩ }
        source.collectRoots (ResourceFamily.addRoot group declaration.name root families)
          diagnostics rest
    else
      source.collectRoots families diagnostics rest

/-- The declarations of a graph with their packages, in source order. -/
def declarationsInPackages (graph : TypeGraph) : List (Package × Declaration) :=
  graph.packages.flatMap fun package => package.types.map fun declaration =>
    (package, declaration)

/-- The resource definitions of a graph and the diagnostics met while they were assembled. -/
def defineResources (source : SchemaSource) :
    Synthesis (List ResourceDefinition × Diagnostics) := do
  let (families, found) ← source.collectRoots [] [] (declarationsInPackages source.graph)
  let (definitions, omitted) := ResourceFamily.defineAll families
  return (definitions, found ++ omitted)

end SchemaSource

namespace PrinterColumn

/-- Writes a column. -/
def toJson (column : PrinterColumn) : Json :=
  .object ([
    ("name", .string column.name),
    ("type", .string column.type),
    ("jsonPath", .string column.path)] ++
    Json.optionEntry "description" .string column.description ++
    Json.optionEntry "format" .string column.format ++
    Json.optionEntry "priority" (fun value => .number (.ofInt64 value)) column.priority)

end PrinterColumn

namespace ResourceNames

/-- Writes the names of a resource. -/
def toJson (names : ResourceNames) : Json :=
  .object ([
    ("kind", .string names.kind),
    ("listKind", .string (names.kind ++ "List")),
    ("plural", .string names.plural),
    ("singular", .string names.singular)] ++
    Json.listEntry "shortNames" (names.shortNames.map .string) ++
    Json.listEntry "categories" (names.categories.map .string))

end ResourceNames

namespace ResourceVersion

/-- Writes a version of a resource. -/
def toJson (version : ResourceVersion) : Json :=
  .object ([
    ("name", .string version.name),
    ("served", .bool true),
    ("storage", .bool version.storage),
    ("schema", .object [("openAPIV3Schema", version.schema.toJson)])] ++
    (if version.hasStatus then [("subresources", .object [("status", .object [])])] else []) ++
    Json.listEntry "additionalPrinterColumns" (version.columns.map PrinterColumn.toJson))

end ResourceVersion

namespace ResourceDefinition

/-- Writes a resource definition. -/
def toJson (definition : ResourceDefinition) : Json :=
  .object [
    ("apiVersion", .string "apiextensions.k8s.io/v1"),
    ("kind", .string "CustomResourceDefinition"),
    ("metadata", .object [("name", .string definition.name)]),
    ("spec", .object [
      ("group", .string definition.group),
      ("names", definition.names.toJson),
      ("scope", .string definition.scope.word),
      ("versions", .array (definition.versions.map ResourceVersion.toJson))])]

end ResourceDefinition
end MarkerManifests
