import MarkerManifests.Json.Record
import MarkerManifests.Schema.Node

/-!
# Documents of schemas

Schemas as JSON documents. Absent keywords are not written, and keywords are written in a fixed
order; when a schema is read, unknown keywords are ignored.
-/

namespace MarkerManifests

namespace UnionPolicy

/-- The word for a policy in documents. -/
def word : UnionPolicy → String
  | atMostOne => "atMostOne"
  | exactlyOne => "exactlyOne"
  | atLeastOne => "atLeastOne"

/-- The policy with a word. -/
def ofWord? (word : String) : Option UnionPolicy :=
  [atMostOne, exactlyOne, atLeastOne].find? (UnionPolicy.word · = word)

end UnionPolicy

namespace UnionGroup

/-- Writes a union. -/
def toJson (group : UnionGroup) : Json :=
  .object [("policy", .string group.policy.word), ("members", .strings group.members)]

/-- Reads a union. -/
def ofJson? (document : Json) : Option UnionGroup :=
  match document.record? ["policy", "members"] with
  | some [some policy, some members] => do
    let policy ← Json.word? UnionPolicy.ofWord? policy
    let members ← Json.strings? members
    return { policy, members }
  | _ => none

end UnionGroup

namespace ListType

/-- The word for a way to merge lists. -/
def word : ListType → String
  | atomic => "atomic"
  | set => "set"
  | map => "map"

/-- The way to merge lists with a word. -/
def ofWord? (word : String) : Option ListType :=
  [atomic, set, map].find? (ListType.word · = word)

end ListType

namespace MapType

/-- The word for a way to merge maps. -/
def word : MapType → String
  | granular => "granular"
  | atomic => "atomic"

/-- The way to merge maps with a word. -/
def ofWord? (word : String) : Option MapType :=
  [granular, atomic].find? (MapType.word · = word)

end MapType

namespace ValidationRule

/-- Writes a rule. -/
def toJson (rule : ValidationRule) : Json :=
  .object (("rule", .string rule.rule) ::
    Json.optionEntry "message" .string rule.message ++
    Json.optionEntry "fieldPath" .string rule.fieldPath)

/-- Reads a rule. -/
def ofJson? (document : Json) : Option ValidationRule :=
  match document.record? ["rule", "message", "fieldPath"] with
  | some [some (.string rule), message, fieldPath] => do
    let message ← Json.readOr (Json.nullable? Json.string?) none message
    let fieldPath ← Json.readOr (Json.nullable? Json.string?) none fieldPath
    return { rule, message, fieldPath }
  | _ => none

end ValidationRule

namespace Keywords

/-- The keywords that are written before the properties. -/
def leadingEntries (keywords : Keywords) : List (String × Json) :=
  Json.optionEntry "$ref" .string keywords.reference ++
  Json.optionEntry "type" (fun type => .string type.word) keywords.type ++
  Json.optionEntry "format" .string keywords.format ++
  Json.optionEntry "description" .string keywords.description

/-- The keyword for required properties. -/
def requiredEntry (keywords : Keywords) : List (String × Json) :=
  Json.listEntry "required" (keywords.required.map .string)

/-- The keywords that are written between the items and the compositions. -/
def boundEntries (keywords : Keywords) : List (String × Json) :=
  Json.optionEntry "maxLength" Json.ofUInt64 keywords.maxLength ++
  Json.optionEntry "minLength" Json.ofUInt64 keywords.minLength ++
  Json.optionEntry "maxItems" Json.ofUInt64 keywords.maxItems ++
  Json.optionEntry "minItems" Json.ofUInt64 keywords.minItems ++
  Json.optionEntry "maxProperties" Json.ofUInt64 keywords.maxProperties ++
  Json.optionEntry "minProperties" Json.ofUInt64 keywords.minProperties ++
  Json.optionEntry "maximum" .number keywords.maximum ++
  Json.optionEntry "minimum" .number keywords.minimum ++
  Json.flagEntry "exclusiveMaximum" keywords.exclusiveMaximum ++
  Json.flagEntry "exclusiveMinimum" keywords.exclusiveMinimum ++
  Json.optionEntry "multipleOf" .number keywords.multipleOf ++
  Json.optionEntry "pattern" .string keywords.pattern ++
  Json.listEntry "enum" keywords.enumeration ++
  Json.optionEntry "default" id keywords.defaultValue ++
  Json.flagEntry "nullable" keywords.nullable

/-- The keywords that are written last. -/
def extensionEntries (keywords : Keywords) : List (String × Json) :=
  Json.listEntry "x-kubernetes-unions" (keywords.unions.map UnionGroup.toJson) ++
  Json.optionEntry "x-kubernetes-list-type" (fun type => .string type.word) keywords.listType ++
  Json.listEntry "x-kubernetes-list-map-keys" (keywords.listMapKeys.map .string) ++
  Json.optionEntry "x-kubernetes-map-type" (fun type => .string type.word) keywords.mapType ++
  Json.optionEntry "x-kubernetes-preserve-unknown-fields" .bool keywords.preserveUnknownFields ++
  Json.flagEntry "x-kubernetes-int-or-string" keywords.intOrString ++
  Json.flagEntry "x-kubernetes-embedded-resource" keywords.embeddedResource ++
  Json.listEntry "x-kubernetes-validations" (keywords.validations.map ValidationRule.toJson)

/-- Reads the value of a keyword that holds no nodes; other keys change nothing. -/
def read? (keywords : Keywords) (key : String) (value : Json) : Option Keywords :=
  match key with
  | "$ref" => do return { keywords with reference := ← Json.nullable? Json.string? value }
  | "type" => do
    return { keywords with type := ← Json.nullable? (Json.word? SchemaType.ofWord?) value }
  | "format" => do return { keywords with format := ← Json.nullable? Json.string? value }
  | "description" => do return { keywords with description := ← Json.nullable? Json.string? value }
  | "required" => do return { keywords with required := ← Json.strings? value }
  | "maxLength" => do return { keywords with maxLength := ← Json.nullable? Json.natural? value }
  | "minLength" => do return { keywords with minLength := ← Json.nullable? Json.natural? value }
  | "maxItems" => do return { keywords with maxItems := ← Json.nullable? Json.natural? value }
  | "minItems" => do return { keywords with minItems := ← Json.nullable? Json.natural? value }
  | "maxProperties" => do
    return { keywords with maxProperties := ← Json.nullable? Json.natural? value }
  | "minProperties" => do
    return { keywords with minProperties := ← Json.nullable? Json.natural? value }
  | "maximum" => do return { keywords with maximum := ← Json.nullable? Json.number? value }
  | "minimum" => do return { keywords with minimum := ← Json.nullable? Json.number? value }
  | "exclusiveMaximum" => do return { keywords with exclusiveMaximum := ← value.bool? }
  | "exclusiveMinimum" => do return { keywords with exclusiveMinimum := ← value.bool? }
  | "multipleOf" => do return { keywords with multipleOf := ← Json.nullable? Json.number? value }
  | "pattern" => do return { keywords with pattern := ← Json.nullable? Json.string? value }
  | "enum" => do return { keywords with enumeration := ← value.array? }
  | "default" => do return { keywords with defaultValue := ← Json.nullable? some value }
  | "nullable" => do return { keywords with nullable := ← value.bool? }
  | "x-kubernetes-unions" => do
    return { keywords with unions := ← Json.arrayOf? UnionGroup.ofJson? value }
  | "x-kubernetes-list-type" => do
    return { keywords with listType := ← Json.nullable? (Json.word? ListType.ofWord?) value }
  | "x-kubernetes-list-map-keys" => do
    return { keywords with listMapKeys := ← Json.strings? value }
  | "x-kubernetes-map-type" => do
    return { keywords with mapType := ← Json.nullable? (Json.word? MapType.ofWord?) value }
  | "x-kubernetes-preserve-unknown-fields" => do
    return { keywords with preserveUnknownFields := ← Json.nullable? Json.bool? value }
  | "x-kubernetes-int-or-string" => do return { keywords with intOrString := ← value.bool? }
  | "x-kubernetes-embedded-resource" => do
    return { keywords with embeddedResource := ← value.bool? }
  | "x-kubernetes-validations" => do
    return { keywords with validations := ← Json.arrayOf? ValidationRule.ofJson? value }
  | _ => some keywords

end Keywords

namespace SchemaNode

mutual

/-- Writes a schema. -/
def toJson : SchemaNode → Json
  | ⟨keywords, properties, items, additionalProperties, oneOf, anyOf, allOf⟩ =>
    .object (
      keywords.leadingEntries ++
      (if properties.isEmpty then [] else [("properties", .object (propertiesJson properties))]) ++
      keywords.requiredEntry ++
      optionJson "items" items ++
      optionJson "additionalProperties" additionalProperties ++
      keywords.boundEntries ++
      Json.listEntry "oneOf" (listJson oneOf) ++
      Json.listEntry "anyOf" (listJson anyOf) ++
      Json.listEntry "allOf" (listJson allOf) ++
      keywords.extensionEntries)

/-- Writes the schemas of properties. -/
def propertiesJson : List (String × SchemaNode) → List (String × Json)
  | [] => []
  | (key, node) :: rest => (key, toJson node) :: propertiesJson rest

/-- Writes a schema that may be absent. -/
def optionJson (key : String) : Option SchemaNode → List (String × Json)
  | none => []
  | some node => [(key, toJson node)]

/-- Writes schemas. -/
def listJson : List SchemaNode → List Json
  | [] => []
  | node :: rest => toJson node :: listJson rest

end

/-- The keywords in the order in which an array gives their values. -/
def positions : List String := [
  "$ref", "type", "format", "description", "properties", "required", "items",
  "additionalProperties", "maxLength", "minLength", "maxItems", "minItems", "maxProperties",
  "minProperties", "maximum", "minimum", "exclusiveMaximum", "exclusiveMinimum", "multipleOf",
  "pattern", "enum", "default", "nullable", "oneOf", "anyOf", "allOf", "x-kubernetes-unions",
  "x-kubernetes-list-type", "x-kubernetes-list-map-keys", "x-kubernetes-map-type",
  "x-kubernetes-preserve-unknown-fields", "x-kubernetes-int-or-string",
  "x-kubernetes-embedded-resource", "x-kubernetes-validations"]

mutual

/-- Reads a schema: an object of keywords, or an array of the values of the first keywords. -/
def ofJson? : Json → Option SchemaNode
  | .object entries => readEntries {} entries
  | .array values => readValues {} positions values
  | _ => none

/-- Reads keywords one after the other. -/
def readEntries (node : SchemaNode) : List (String × Json) → Option SchemaNode
  | [] => some node
  | (key, value) :: rest =>
    match readKeyword node key value with
    | some node => readEntries node rest
    | none => none

/-- Reads the values of keywords in the order of the keywords. -/
def readValues (node : SchemaNode) : List String → List Json → Option SchemaNode
  | _, [] => some node
  | [], _ :: _ => none
  | key :: keys, value :: rest =>
    match readKeyword node key value with
    | some node => readValues node keys rest
    | none => none

/-- Reads the value of a keyword. -/
def readKeyword (node : SchemaNode) (key : String) (value : Json) : Option SchemaNode :=
  if key = "properties" then
    match value with
    | .object entries =>
      (readProperties entries).map fun properties => { node with properties }
    | _ => none
  else if key = "items" then
    match value with
    | .null => some { node with items := none }
    | value => (ofJson? value).map fun items => { node with items := some items }
  else if key = "additionalProperties" then
    match value with
    | .null => some { node with additionalProperties := none }
    | value => (ofJson? value).map fun values => { node with additionalProperties := some values }
  else if key = "oneOf" then
    match value with
    | .array items => (readList items).map fun oneOf => { node with oneOf }
    | _ => none
  else if key = "anyOf" then
    match value with
    | .array items => (readList items).map fun anyOf => { node with anyOf }
    | _ => none
  else if key = "allOf" then
    match value with
    | .array items => (readList items).map fun allOf => { node with allOf }
    | _ => none
  else
    (node.toKeywords.read? key value).map fun keywords => { node with toKeywords := keywords }

/-- Reads the schemas of properties. -/
def readProperties : List (String × Json) → Option (List (String × SchemaNode))
  | [] => some []
  | (key, value) :: rest =>
    match ofJson? value, readProperties rest with
    | some node, some properties => some ((key, node) :: properties)
    | _, _ => none

/-- Reads schemas. -/
def readList : List Json → Option (List SchemaNode)
  | [] => some []
  | value :: rest =>
    match ofJson? value, readList rest with
    | some node, some nodes => some (node :: nodes)
    | _, _ => none

end

end SchemaNode
end MarkerManifests
