import MarkerManifests.Marker.Registry

/-!
# Markers of schemas and resources

The markers that describe the schemas of declarations and fields, and those that make resources of
declarations.
-/

namespace MarkerManifests
namespace Vocabulary

/-- The marker of the greatest length of a string. -/
def maxLength : String := "validation:MaxLength"

/-- The marker of the least length of a string. -/
def minLength : String := "validation:MinLength"

/-- The marker of the greatest number of items. -/
def maxItems : String := "validation:MaxItems"

/-- The marker of the least number of items. -/
def minItems : String := "validation:MinItems"

/-- The marker of the greatest number of map entries. -/
def maxProperties : String := "validation:MaxProperties"

/-- The marker of the least number of map entries. -/
def minProperties : String := "validation:MinProperties"

/-- The marker of the lower bound of a number. -/
def minimum : String := "validation:Minimum"

/-- The marker of the upper bound of a number. -/
def maximum : String := "validation:Maximum"

/-- The marker of the divisor of a number. -/
def multipleOf : String := "validation:MultipleOf"

/-- The marker of whether the lower bound is excluded. -/
def exclusiveMinimum : String := "validation:ExclusiveMinimum"

/-- The marker of whether the upper bound is excluded. -/
def exclusiveMaximum : String := "validation:ExclusiveMaximum"

/-- The marker of the pattern of a string. -/
def pattern : String := "validation:Pattern"

/-- The marker of the format of a value. -/
def format : String := "validation:Format"

/-- The marker of the type that replaces the inferred one. -/
def typeOverride : String := "validation:Type"

/-- The marker of the permitted values. -/
def enumeration : String := "validation:Enum"

/-- The marker of several bounds at once. -/
def constraints : String := "validation:Constraints"

/-- The marker of a validation rule. -/
def rule : String := "validation:XValidation"

/-- The marker of values whose unknown fields are kept. -/
def preserveUnknownFields : String := "validation:XPreserveUnknownFields"

/-- The marker of values that are whole objects. -/
def embeddedResource : String := "validation:XEmbeddedResource"

/-- The marker of values that are integers or strings. -/
def intOrString : String := "validation:XIntOrString"

/-- The marker of values that may be null. -/
def nullable : String := "nullable"

/-- The marker of the default value. -/
def defaultValue : String := "default"

/-- The marker of fields that may be absent. -/
def optional : String := "optional"

/-- The marker of fields that must be present. -/
def required : String := "required"

/-- The marker of how lists are merged. -/
def listType : String := "listType"

/-- The marker of a key of the items of a list. -/
def listMapKey : String := "listMapKey"

/-- The marker of how maps are merged. -/
def mapType : String := "mapType"

/-- The marker of the gate expression that switches something on. -/
def featureGate : String := "featureGate"

/-- The marker of fields of which exactly one must be set. -/
def exactlyOneOf : String := "validation:ExactlyOneOf"

/-- The marker of fields of which at most one may be set. -/
def atMostOneOf : String := "validation:AtMostOneOf"

/-- The marker of fields of which at least one must be set. -/
def atLeastOneOf : String := "validation:AtLeastOneOf"

/-- The marker of the group of the resources of a package. -/
def groupName : String := "groupName"

/-- The marker of the version of the resources of a package. -/
def versionName : String := "versionName"

/-- The marker of declarations that are resources. -/
def resource : String := "resource"

/-- The marker of resources with a status. -/
def statusSubresource : String := "subresource:status"

/-- The marker of the version that is stored. -/
def storageVersion : String := "storageversion"

/-- The marker of a column that is printed. -/
def printerColumn : String := "printcolumn"

/-- A marker of schemas without arguments. -/
def schemaMarker (name : String) (applicability : Applicability) : Definition where
  name := name
  applicability := applicability
  consumer := .schema

/-- The same marker for declarations and for fields. -/
def bothComments (definition : Definition) : List Definition :=
  [definition.inComment .declaration, definition.inComment .field]

/-- A marker of declarations and fields that takes one value and may occur once. -/
def bound (name : String) (kind : ArgumentKind) (summary : String) : List Definition :=
  bothComments (((schemaMarker name .field).value kind).single.describe "validation" summary)

/-- A marker of declarations and fields without arguments that may occur once. -/
def flag (name summary : String) : List Definition :=
  bothComments ((schemaMarker name .field).single.describe "validation" summary)

/-- A marker of declarations that lists the members of a union. -/
def union (name summary : String) : Definition :=
  ((schemaMarker name .declaration).value .list).describe "unions" summary

/-- The markers that bound values. -/
def bounds : List Definition :=
  List.flatten [
    bound maxLength .integer "maximum string length",
    bound minLength .integer "minimum string length",
    bound maxItems .integer "maximum list length",
    bound minItems .integer "minimum list length",
    bound maxProperties .integer "maximum number of map entries",
    bound minProperties .integer "minimum number of map entries",
    bound minimum .number "inclusive numeric lower bound",
    bound maximum .number "inclusive numeric upper bound",
    bound multipleOf .number "value must be a multiple of this",
    bound exclusiveMinimum .boolean "make the lower bound exclusive",
    bound exclusiveMaximum .boolean "make the upper bound exclusive",
    bound pattern .string "regular expression strings must match",
    bound format .string "OpenAPI format",
    bound typeOverride .string "override the inferred type",
    bound enumeration .list "closed set of permitted values"]

/-- The marker that sets several bounds at once. -/
def constraintsDefinition : Definition :=
  ((((((((schemaMarker constraints .field).optional "maxLength" .integer).optional "minLength"
    .integer).optional "maxItems" .integer).optional "minItems" .integer).optional "minimum"
    .number).optional "maximum" .number).optional "pattern" .string).describe
    "validation" "several bounds in one marker"

/-- The marker that attaches a validation rule. -/
def ruleDefinition : Definition :=
  ((((schemaMarker rule .field).required "rule" .string).optional "message" .string).optional
    "fieldPath" .string).describe "validation" "attach a validation rule expression"
    |>.explain "Only the surface syntax of the rule is checked."

/-- The markers that describe the merging of lists and maps, and the gates of declarations and
fields. -/
def topology : List Definition :=
  List.flatten [
    bothComments (((schemaMarker listType .field).value .string).single.describe
      "topology" "merge strategy for lists: atomic, set, or map"),
    bothComments (((schemaMarker listMapKey .field).value .string).describe
      "topology" "key field of a map-typed list; repeatable"),
    bothComments (((schemaMarker mapType .field).value .string).single.describe
      "topology" "merge strategy for maps: granular or atomic"),
    bothComments (((schemaMarker featureGate .field).value .gate).single.describe
      "gates" "include only when the gate expression holds")]

/-- The markers that describe unions. -/
def unions : List Definition := [
  union exactlyOneOf "exactly one of the listed fields must be set",
  union atMostOneOf "at most one of the listed fields may be set",
  union atLeastOneOf "at least one of the listed fields must be set"]

/-- The marker of resources. -/
def resourceDefinition : Definition :=
  ((((((schemaMarker resource .declaration).optional "path" .string).optional "singular"
    .string).optional "shortName" .list).optional "categories" .list).optional "scope"
    .string).single.describe "crd" "declare a resource root"

/-- The marker of printed columns. -/
def printerColumnDefinition : Definition :=
  ((((((schemaMarker printerColumn .declaration).required "name" .string).required "type"
    .string).required "JSONPath" .path).optional "description" .string).optional "format"
    .string).optional "priority" .integer |>.describe "crd" "additional printer column"

/-- The markers of packages and resources. -/
def resources : List Definition := [
  ((schemaMarker groupName .package).value .string).single.describe
    "crd" "API group of the package's resources",
  ((schemaMarker versionName .package).value .string).single.describe
    "crd" "API version of the package's resources",
  resourceDefinition,
  (schemaMarker statusSubresource .declaration).single.describe
    "crd" "enable the status subresource",
  (schemaMarker storageVersion .declaration).single.describe
    "crd" "mark this version as the storage version",
  printerColumnDefinition]

/-- The markers of schemas and resources. -/
def schema : Provider where
  name := "schema"
  definitions := List.flatten [
    bounds,
    bothComments constraintsDefinition,
    bothComments ruleDefinition,
    flag preserveUnknownFields "keep fields not described by the schema",
    flag embeddedResource "value is a complete embedded object",
    flag intOrString "value may be an integer or a string",
    flag nullable "value may be null",
    bound defaultValue .document "default value applied when the field is absent",
    [(schemaMarker optional .field).single.describe "validation" "field is not required",
      (schemaMarker required .field).single.describe
        "validation" "field is required even if optional in source"],
    topology,
    unions,
    resources]

end Vocabulary
end MarkerManifests
