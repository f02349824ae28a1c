import MarkerManifests.Json.Reader
import MarkerManifests.Schema.Constraint
import MarkerManifests.Schema.Error
import MarkerManifests.Schema.Rule

/-!
# Markers on schemas

How the markers of a declaration or a field change its schema. Markers that change the type are
applied first, wherever they are written, so that bounds see the final type. A marker that does not
fit is dropped with a diagnostic, and only a list that is merged by keys which its items lack fails.
-/

namespace MarkerManifests
namespace SchemaNode

/-- A semantic failure at a location. -/
def semantic (location : Location) (message : String) : Diagnostic :=
  ⟨.semantic, location, message⟩

/-- The diagnostic of a marker that does not apply to a type. -/
def mismatch (location : Location) (what : String) (type : Option SchemaType) : Diagnostic :=
  let type := match type with
    | some type => type.word
    | none => "untyped"
  semantic location s!"{what} does not apply to a {type} schema; dropped"

/-- Applies a marker that changes the type; other markers change nothing. -/
def shape (location : Location) (node : SchemaNode) (marker : Marker) :
    SchemaNode × Diagnostics :=
  if marker.name = Vocabulary.typeOverride then
    match marker.string? Definition.unnamed with
    | none => (node, [])
    | some word =>
      match SchemaType.ofWord? word with
      | some type => ({ node with type := some type }, [])
      | none =>
        (node, [semantic location
          s!"{Vocabulary.typeOverride}: {SchemaType.unknownMessage word}"])
  else if marker.name = Vocabulary.format then
    ({ node with format := marker.string? Definition.unnamed }, [])
  else if marker.name = Vocabulary.intOrString then
    ({ node with
        type := none
        format := none
        intOrString := true
        anyOf := integerOrString }, [])
  else
    (node, [])

/-- Sets a bound, or reports why it is dropped. -/
def constrain (location : Location) (node : SchemaNode) (constraint : Constraint)
    (argument : Argument) : SchemaNode × Diagnostics :=
  if constraint.appliesTo node.type then
    match constraint.set? argument node.toKeywords with
    | some keywords => ({ node with toKeywords := keywords }, [])
    | none =>
      let value := String.ofList argument.render
      (node, [semantic location s!"{constraint.key}: invalid value '{value}'; constraint dropped"])
  else
    (node, [mismatch location constraint.key node.type])

/-- Sets several bounds, one after the other. -/
def constrainAll (location : Location) (node : SchemaNode) :
    List (String × Argument) → SchemaNode × Diagnostics
  | [] => (node, [])
  | (key, argument) :: rest =>
    match Constraint.ofKey? key with
    | none => constrainAll location node rest
    | some constraint =>
      let (node, before) := constrain location node constraint argument
      let (node, after) := constrainAll location node rest
      (node, before ++ after)

/-- A permitted value: a text where strings are permitted, and otherwise the document that the text
spells, if it spells one. -/
def permittedValue (type : Option SchemaType) (item : String) : Json :=
  match type with
  | none => .string item
  | some .string => .string item
  | some _ => (Json.read? item.toList).getD (.string item)

/-- Adds a validation rule whose surface is sound. -/
def addRule (location : Location) (node : SchemaNode) (marker : Marker) :
    SchemaNode × Diagnostics :=
  let rule := (marker.string? "rule").getD ""
  match Rule.check rule.toList with
  | .ok () =>
    let rule : ValidationRule :=
      { rule, message := marker.string? "message", fieldPath := marker.string? "fieldPath" }
    ({ node with validations := node.validations ++ [rule] }, [])
  | .error fault =>
    (node, [⟨.syntactic, location, s!"{Vocabulary.rule}: {fault.message}; rule dropped"⟩])

/-- Sets how lists are merged. -/
def mergeList (location : Location) (node : SchemaNode) (marker : Marker) :
    SchemaNode × Diagnostics :=
  if node.type = some .array then
    let word := (marker.string? Definition.unnamed).getD ""
    if word = "atomic" then ({ node with listType := some .atomic }, [])
    else if word = "set" then ({ node with listType := some .set }, [])
    else if word = "map" then ({ node with listType := some .map }, [])
    else (node, [semantic location s!"{Vocabulary.listType}: unknown list type '{word}'"])
  else
    (node, [mismatch location Vocabulary.listType node.type])

/-- Adds a key by which the items of a list are merged, unless it is there already. -/
def addListKey (node : SchemaNode) (marker : Marker) : SchemaNode :=
  match marker.string? Definition.unnamed with
  | none => node
  | some key =>
    if key ∈ node.listMapKeys then node
    else { node with listMapKeys := node.listMapKeys ++ [key] }

/-- Sets how maps are merged. -/
def mergeMap (location : Location) (node : SchemaNode) (marker : Marker) :
    SchemaNode × Diagnostics :=
  if node.type = some .object then
    let word := (marker.string? Definition.unnamed).getD ""
    if word = "granular" then ({ node with mapType := some .granular }, [])
    else if word = "atomic" then ({ node with mapType := some .atomic }, [])
    else (node, [semantic location s!"{Vocabulary.mapType}: unknown map type '{word}'"])
  else
    (node, [mismatch location Vocabulary.mapType node.type])

/-- Marks the values as whole objects. -/
def embed (location : Location) (node : SchemaNode) : SchemaNode × Diagnostics :=
  if node.type = some .object then ({ node with embeddedResource := true }, [])
  else (node, [mismatch location Vocabulary.embeddedResource node.type])

/-- Applies a marker that does not change the type; other markers change nothing. -/
def refine (location : Location) (node : SchemaNode) (marker : Marker) :
    SchemaNode × Diagnostics :=
  if marker.name = Vocabulary.constraints then
    constrainAll location node marker.arguments
  else if marker.name = Vocabulary.nullable then
    ({ node with nullable := true }, [])
  else if marker.name = Vocabulary.defaultValue then
    match marker.value? with
    | some (.document document) => ({ node with defaultValue := some document }, [])
    | _ => (node, [])
  else if marker.name = Vocabulary.enumeration then
    let items := marker.list Definition.unnamed
    ({ node with enumeration := items.map (permittedValue node.type) }, [])
  else if marker.name = Vocabulary.rule then
    addRule location node marker
  else if marker.name = Vocabulary.preserveUnknownFields then
    ({ node with preserveUnknownFields := some true }, [])
  else if marker.name = Vocabulary.embeddedResource then
    embed location node
  else if marker.name = Vocabulary.listType then
    mergeList location node marker
  else if marker.name = Vocabulary.listMapKey then
    (addListKey node marker, [])
  else if marker.name = Vocabulary.mapType then
    mergeMap location node marker
  else
    match Constraint.ofMarker? marker.name, marker.value? with
    | some constraint, some argument => constrain location node constraint argument
    | _, _ => (node, [])

/-- Applies markers one after the other and collects what they report. -/
def applyEach (apply : SchemaNode → Marker → SchemaNode × Diagnostics) (node : SchemaNode) :
    Markers → SchemaNode × Diagnostics
  | [] => (node, [])
  | marker :: rest =>
    let (node, before) := apply node marker
    let (node, after) := applyEach apply node rest
    (node, before ++ after)

/-- The first key by which items are merged that is not a property of the items. Nothing is known
about the properties of references and of unknown objects. -/
def unknownListKey? (node : SchemaNode) : Option String :=
  match node.items with
  | none => none
  | some items =>
    if items.isReference || items.isOpaque then none
    else node.listMapKeys.find? fun key => !items.hasProperty key

/-- Checks the keys by which the items of a list are merged. -/
def checkListKeys (location : Location) (node : SchemaNode) :
    Except SynthesisError SchemaNode × Diagnostics :=
  if node.listType = some .map then
    if node.listMapKeys = [] then
      (.error (.listMapWithoutKeys location), [])
    else
      match unknownListKey? node with
      | some key => (.error (.unknownListMapKey location key), [])
      | none => (.ok node, [])
  else if node.listMapKeys = [] then
    (.ok node, [])
  else
    (.ok { node with listMapKeys := [] },
      [semantic location
        s!"{Vocabulary.listMapKey} requires {Vocabulary.listType}=map; keys dropped"])

/-- Applies the markers of a declaration or a field to its schema, and gives the result together
with the diagnostics. -/
def applyMarkers (location : Location) (node : SchemaNode) (markers : Markers) :
    Except SynthesisError SchemaNode × Diagnostics :=
  let markers := markers.consumedBy .schema
  let (node, shaping) := applyEach (shape location) node markers
  let (node, refining) := applyEach (refine location) node markers
  let (result, checking) := checkListKeys location node
  (result, shaping ++ refining ++ checking)

end SchemaNode
end MarkerManifests
