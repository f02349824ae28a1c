import MarkerManifests.Diagnostic.Document
import MarkerManifests.Marker.Basic

/-!
# Documents of definitions

Marker definitions and arguments as JSON documents. Keys of a definition that are missing stand for
empty lists, empty texts and false; its name and its tags are required.
-/

namespace MarkerManifests

/-- The tree of a gate expression as a document. -/
def Gate.Expr.toJson : Gate.Expr → Json
  | literal name => .object [("Literal", .string name)]
  | and left right => .object [("And", .array [left.toJson, right.toJson])]
  | or left right => .object [("Or", .array [left.toJson, right.toJson])]

namespace Consumer

/-- All consumers. -/
def all : List Consumer :=
  [rule, schema, webhook, metric]

/-- The name of a consumer in documents. -/
def tag : Consumer → String
  | rule => "Rule"
  | schema => "Schema"
  | webhook => "Webhook"
  | metric => "Metric"

/-- The consumer with a tag. -/
def ofTag? (tag : String) : Option Consumer :=
  all.find? (Consumer.tag · = tag)

end Consumer

namespace ArgumentKind

/-- All kinds of arguments. -/
def all : List ArgumentKind :=
  [string, integer, number, boolean, list, path, record, gate, document]

/-- The name of a kind of argument in documents. -/
def tag : ArgumentKind → String
  | string => "String"
  | integer => "Int"
  | number => "Number"
  | boolean => "Bool"
  | list => "StringList"
  | path => "Path"
  | record => "SubRecord"
  | gate => "GateExpression"
  | document => "Any"

/-- The kind of argument with a tag. -/
def ofTag? (tag : String) : Option ArgumentKind :=
  all.find? (ArgumentKind.tag · = tag)

end ArgumentKind

namespace Parameter

/-- Reads a parameter. -/
def ofJson? (document : Json) : Option Parameter := do
  let name ← (← document.field? "name").string?
  let kind ← ArgumentKind.ofTag? (← (← document.field? "kind").string?)
  return { name, kind, optional := document.flagAt "optional" }

/-- Writes a parameter. -/
def toJson (parameter : Parameter) : Json :=
  .object [
    ("name", .string parameter.name),
    ("kind", .string parameter.kind.tag),
    ("optional", .bool parameter.optional)]

end Parameter

namespace Definition

/-- Reads a definition. -/
def ofJson? (document : Json) : Option Definition := do
  let name ← (← document.field? "name").string?
  let applicability ← Applicability.ofTag? (← (← document.field? "applicability").string?)
  let consumer ← Consumer.ofTag? (← (← document.field? "contributor").string?)
  let parameters ← (((document.field? "args").bind Json.array?).getD []).mapM Parameter.ofJson?
  let help := (document.field? "help").getD .null
  return {
    name, applicability, consumer, parameters
    repeatable := document.flagAt "repeatable"
    help := ⟨help.textAt "category", help.textAt "summary", help.textAt "details"⟩ }

/-- Writes a definition. -/
def toJson (definition : Definition) : Json :=
  .object [
    ("name", .string definition.name),
    ("applicability", .string definition.applicability.tag),
    ("args", .array (definition.parameters.map Parameter.toJson)),
    ("contributor", .string definition.consumer.tag),
    ("repeatable", .bool definition.repeatable),
    ("help", .object [
      ("category", .string definition.help.category),
      ("summary", .string definition.help.summary),
      ("details", .string definition.help.details)])]

end Definition

namespace SubRecord

/-- Writes a record: its sections with their entries as pairs. -/
def toJson (record : SubRecord) : Json :=
  .object [("sections", .array (record.sections.map fun part => .object [
    ("name", .string part.name),
    ("entries", .array (part.entries.map fun (key, value) => .strings [key, value]))]))]

end SubRecord

/-- Writes an argument under the tag for its kind. -/
def Argument.toJson : Argument → Json
  | string text => .object [("String", .string text)]
  | integer value => .object [("Int", .number (.ofInt64 value))]
  | number value => .object [("Number", .number value)]
  | boolean value => .object [("Bool", .bool value)]
  | list items => .object [("StringList", .strings items)]
  | path value => .object [("Path", .object [("segments", .strings value.segments)])]
  | record value => .object [("Record", value.toJson)]
  | gate expr => .object [("Gate", expr.toJson)]
  | document value => .object [("Any", value)]

end MarkerManifests
