import MarkerManifests.Marker.Index
import MarkerManifests.Schema.Shaping
import MarkerManifests.Schema.Union

/-!
# Synthesis of schemas

The schema of a declaration at a version is built once and kept in a table. While it is being built
it is active, and a request for an active schema is answered by a reference, which breaks cycles.
A declaration that fails is reported once and has the schema of unknown objects.

Synthesis is written against a function that answers requests for named declarations. A request that
is neither finished nor active makes one more declaration active, so requests are nested at most as
deep as there are declarations, and one level deeper they only look into the table.
-/

namespace MarkerManifests

/-- A declaration at a version. -/
structure SchemaKey where
  id : TypeId
  version : String
  deriving DecidableEq

/-- What is known about schemas during a run. -/
structure SchemaTable where
  /-- The schemas that are being built, the innermost first. -/
  active : List SchemaKey := []
  /-- The schemas that were built, the latest first. -/
  finished : List (SchemaKey × SchemaNode) := []
  /-- The schemas that were begun, in order. -/
  begun : List SchemaKey := []
  /-- The schemas that failed, in order. -/
  failed : List SchemaKey := []
  diagnostics : Diagnostics := []

namespace SchemaTable

/-- The finished schema of a declaration. -/
def finished? (table : SchemaTable) (key : SchemaKey) : Option SchemaNode :=
  (table.finished.find? (·.1 = key)).map (·.2)

/-- How often the schema of a declaration was begun. -/
def visits (table : SchemaTable) (key : SchemaKey) : Nat :=
  table.begun.count key

/-- Whether a declaration failed. -/
def hasFailed (table : SchemaTable) (key : SchemaKey) : Bool :=
  key ∈ table.failed

/-- Makes a schema active. -/
def begin (table : SchemaTable) (key : SchemaKey) : SchemaTable :=
  { table with active := key :: table.active, begun := table.begun ++ [key] }

/-- Keeps a schema that was built. -/
def keep (table : SchemaTable) (key : SchemaKey) (node : SchemaNode) : SchemaTable :=
  { table with active := table.active.erase key, finished := (key, node) :: table.finished }

/-- Records a failure. -/
def fail (table : SchemaTable) (key : SchemaKey) (error : SynthesisError) : SchemaTable :=
  { table with
    failed := table.failed ++ [key]
    diagnostics := table.diagnostics ++ [error.diagnostic key.id] }

/-- Reports failures that do not keep a schema from being built. -/
def report (table : SchemaTable) (diagnostics : Diagnostics) : SchemaTable :=
  { table with diagnostics := table.diagnostics ++ diagnostics }

end SchemaTable

/-- A step that reads and extends the table. -/
abbrev Synthesis := StateM SchemaTable

/-- A step that may also fail; what it did to the table before it failed remains. -/
abbrev SchemaAttempt := ExceptT SynthesisError Synthesis

/-- What schemas are built from. -/
structure SchemaSource where
  graph : TypeGraph
  index : MarkerIndex
  gates : Gate.State
  /-- The number of characters to which descriptions are cut. -/
  descriptionLimit : Option Nat := none

namespace SchemaSource

/-- The description of a comment, cut to the limit. -/
def describe (source : SchemaSource) (doc : List String) : Option String :=
  (Comment.description? doc).map fun text =>
    match source.descriptionLimit with
    | none => text
    | some limit => String.ofList (text.toList.take limit)

/-- Gives a node the description of a comment, if the comment has one. -/
def withDescription (source : SchemaSource) (doc : List String) (node : SchemaNode) :
    SchemaNode :=
  match source.describe doc with
  | none => node
  | some text => { node with description := some text }

/-- Applies markers and reports what they drop. -/
def marked (location : Location) (markers : Markers) (node : SchemaNode) :
    SchemaAttempt SchemaNode := do
  let (result, diagnostics) := node.applyMarkers location markers
  modify fun table => table.report diagnostics
  ExceptT.mk (pure result)

/-- The schema of a reference, given the answers for declarations. -/
def refSchema (source : SchemaSource) (named : TypeId → Synthesis SchemaNode) :
    TypeRef → SchemaAttempt SchemaNode
  | .scalar kind => pure (SchemaNode.ofScalar kind)
  | .named target =>
    match source.graph.resolve? target with
    | none => throw (.unresolved target)
    | some _ => ExceptT.lift (named target)
  | .list element => do return SchemaNode.array (← source.refSchema named element)
  | .map value => do return SchemaNode.map (← source.refSchema named value)
  | .pointer target => source.refSchema named target

/-- The schema of the record that a field embeds. -/
def embeddedSchema (source : SchemaSource) (named : TypeId → Synthesis SchemaNode)
    (field : Field) : SchemaAttempt SchemaNode :=
  match field.type.stripPointers with
  | .named target =>
    match source.graph.resolve? target with
    | none => throw (.unresolved target)
    | some declaration =>
      if declaration.shape.isRecord then do
        let embedded ← ExceptT.lift (named target)
        if embedded.isReference then throw (.recursiveInline field.name) else return embedded
      else
        throw (.inlineNotRecord field.name)
  | _ => throw (.inlineNotRecord field.name)

/-- Adds a property, whose key has to be new. -/
def addProperty (node : SchemaNode) (key : String) (schema : SchemaNode) :
    Except SynthesisError SchemaNode :=
  if node.hasProperty key then .error (.duplicateProperty key)
  else .ok { node with properties := node.properties ++ [(key, schema)] }

/-- Adds properties, whose keys have to be new. -/
def addProperties (node : SchemaNode) :
    List (String × SchemaNode) → Except SynthesisError SchemaNode
  | [] => .ok node
  | (key, schema) :: rest =>
    match addProperty node key schema with
    | .error error => .error error
    | .ok node => addProperties node rest

/-- Demands a property, unless it is demanded already. -/
def requireOnce (node : SchemaNode) (key : String) : SchemaNode :=
  if key ∈ node.required then node else { node with required := node.required ++ [key] }

/-- Embeds the properties of a record and what it demands. -/
def embed (node embedded : SchemaNode) : Except SynthesisError SchemaNode :=
  (addProperties node embedded.properties).map fun node =>
    embedded.required.foldl requireOnce node

/-- Whether the property of a field is demanded. -/
def isRequired (field : Field) (markers : Markers) (schema : SchemaNode) : Bool :=
  markers.has Vocabulary.required ||
    !(field.optional || markers.has Vocabulary.optional || schema.defaultValue.isSome)

/-- The name of a field in unions: its key, or its name if it is never serialized. -/
def unionName (field : Field) : String :=
  if field.isOmitted then field.name else field.key

/-- Whether a field is left out of the schema. -/
def isSkipped (source : SchemaSource) (id : TypeId) (field : Field) : Bool :=
  field.isOmitted ||
    (source.index.field id field.name).isGatedOff Vocabulary.featureGate source.gates

/-- Adds a field to the schema of a record. -/
def addField (source : SchemaSource) (named : TypeId → Synthesis SchemaNode) (id : TypeId)
    (node : SchemaNode) (field : Field) : SchemaAttempt SchemaNode := do
  if field.inline then
    let embedded ← source.embeddedSchema named field
    ExceptT.mk (pure (embed node embedded))
  else
    let markers := source.index.field id field.name
    let schema ← source.refSchema named field.type
    let schema := source.withDescription field.doc schema
    let schema ← marked (.field id field.name) markers schema
    let node := if isRequired field markers schema
      then { node with required := node.required ++ [field.key] } else node
    ExceptT.mk (pure (addProperty node field.key schema))

/-- Adds fields to the schema of a record, in order. -/
def addFields (source : SchemaSource) (named : TypeId → Synthesis SchemaNode) (id : TypeId)
    (node : SchemaNode) : List Field → SchemaAttempt SchemaNode
  | [] => pure node
  | field :: rest => do
    let node ← source.addField named id node field
    source.addFields named id node rest

/-- The schema of a record. -/
def recordSchema (source : SchemaSource) (named : TypeId → Synthesis SchemaNode) (id : TypeId)
    (fields : List Field) : SchemaAttempt SchemaNode := do
  let kept := fields.filter fun field => !source.isSkipped id field
  let skipped := (fields.filter (source.isSkipped id)).map unionName
  let node ← source.addFields named id (SchemaNode.ofType .object) kept
  ExceptT.mk (pure (node.addUnions skipped (source.index.declaration id)))

/-- The schema of a declaration before its own markers are applied. -/
def shapeSchema (source : SchemaSource) (named : TypeId → Synthesis SchemaNode) (id : TypeId) :
    Shape → SchemaAttempt SchemaNode
  | .record fields => source.recordSchema named id fields
  | .synonym target => source.refSchema named target
  | .enumeration base members =>
    pure { SchemaNode.ofScalar base with enumeration := members.map (·.value) }
  | .scalar kind => pure (SchemaNode.ofScalar kind)

/-- The schema of a declaration. -/
def declarationSchema (source : SchemaSource) (named : TypeId → Synthesis SchemaNode)
    (declaration : Declaration) : SchemaAttempt SchemaNode := do
  let node ← source.shapeSchema named declaration.id declaration.shape
  marked (.declaration declaration.id) (source.index.declaration declaration.id)
    (source.withDescription declaration.doc node)

/-- Builds the schema of a declaration that has to be declared. -/
def build (source : SchemaSource) (named : TypeId → Synthesis SchemaNode) (id : TypeId) :
    SchemaAttempt SchemaNode :=
  match source.graph.resolve? id with
  | none => throw (.unresolved id)
  | some declaration => source.declarationSchema named declaration

/-- Keeps the result of an attempt, and reports it if it failed. -/
def settle (key : SchemaKey) : Except SynthesisError SchemaNode → Synthesis SchemaNode
  | .ok node => do
    modify fun table => table.keep key node
    return node
  | .error error => do
    modify fun table => (table.fail key error).keep key SchemaNode.opaqueObject
    return SchemaNode.opaqueObject

/-- Answers a request for a schema, where at most the given number of requests may be nested. -/
def synthesizeWithin (source : SchemaSource) (version : String) :
    Nat → TypeId → Synthesis SchemaNode
  | 0, id => pure (SchemaNode.referenceTo id)
  | levels + 1, id => do
    let key : SchemaKey := ⟨id, version⟩
    let table ← get
    match table.finished? key with
    | some node => return node
    | none =>
      if key ∈ table.active then
        return SchemaNode.referenceTo id
      else
        modify fun table => table.begin key
        let result ← (source.build (source.synthesizeWithin version levels) id).run
        settle key result

/-- The schema of a declaration at a version. -/
def synthesize (source : SchemaSource) (id : TypeId) (version : String) :
    Synthesis SchemaNode :=
  source.synthesizeWithin version (source.graph.size + 1) id

/-- The schemas of declarations at a version, in order. -/
def synthesizeEach (source : SchemaSource) (version : String) :
    List TypeId → Synthesis (List (TypeId × SchemaNode))
  | [] => pure []
  | id :: rest => do
    let node ← source.synthesize id version
    let others ← source.synthesizeEach version rest
    return (id, node) :: others

/-- The schemas of all declarations at a version, in source order. -/
def synthesizeAll (source : SchemaSource) (version : String) :
    Synthesis (List (TypeId × SchemaNode)) :=
  source.synthesizeEach version (source.graph.declarations.map (·.id))

end SchemaSource
end MarkerManifests
