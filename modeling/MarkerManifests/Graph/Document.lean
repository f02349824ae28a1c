import MarkerManifests.Graph.Basic
import MarkerManifests.Json.Record

/-!
# Documents of packages

Packages as JSON documents. Keys with a default may be left out when reading and are all written.
-/

namespace MarkerManifests

namespace ScalarKind

/-- The scalar type that a document names. -/
def ofJson? (document : Json) : Option ScalarKind :=
  Json.word? ofWord? document

/-- The word of a scalar type as a document. -/
def toJson (kind : ScalarKind) : Json :=
  .string kind.word

end ScalarKind

namespace TypeId

/-- Reads an identity. -/
def ofJson? (document : Json) : Option TypeId :=
  match document.record? ["package", "name"] with
  | some [package, some (.string name)] => do
    let package ← Json.readOr Json.string? "" package
    return ⟨package, name⟩
  | _ => none

/-- Writes an identity. -/
def toJson (id : TypeId) : Json :=
  .object [("package", .string id.package), ("name", .string id.name)]

end TypeId

namespace TypeRef

/-- Reads a reference: an object with one key. -/
def ofJson? : Json → Option TypeRef
  | .object [(key, value)] =>
    if key = "scalar" then (ScalarKind.ofJson? value).map scalar
    else if key = "named" then (TypeId.ofJson? value).map named
    else if key = "list" then (ofJson? value).map list
    else if key = "map" then (ofJson? value).map map
    else if key = "pointer" then (ofJson? value).map pointer
    else none
  | _ => none

/-- Writes a reference. -/
def toJson : TypeRef → Json
  | scalar kind => .object [("scalar", kind.toJson)]
  | named target => .object [("named", target.toJson)]
  | list element => .object [("list", element.toJson)]
  | map value => .object [("map", value.toJson)]
  | pointer target => .object [("pointer", target.toJson)]

end TypeRef

namespace Field

/-- Reads a field. -/
def ofJson? (document : Json) : Option Field :=
  match document.record? ["name", "type", "key", "optional", "inline", "doc"] with
  | some [some (.string name), some type, key, optional, inline, doc] => do
    let type ← TypeRef.ofJson? type
    let key ← Json.readOr Json.string? "" key
    let optional ← Json.readOr Json.bool? false optional
    let inline ← Json.readOr Json.bool? false inline
    let doc ← Json.readOr Json.strings? [] doc
    return { name, type, key, optional, inline, doc }
  | _ => none

/-- Writes a field. -/
def toJson (field : Field) : Json :=
  .object [
    ("name", .string field.name),
    ("type", field.type.toJson),
    ("key", .string field.key),
    ("optional", .bool field.optional),
    ("inline", .bool field.inline),
    ("doc", .strings field.doc)]

end Field

namespace EnumMember

/-- Reads a member of an enumeration. -/
def ofJson? (document : Json) : Option EnumMember :=
  match document.record? ["name", "value", "doc"] with
  | some [some (.string name), some value, doc] => do
    let doc ← Json.readOr Json.strings? [] doc
    return { name, value := value.normal, doc }
  | _ => none

/-- Writes a member of an enumeration. -/
def toJson (member : EnumMember) : Json :=
  .object [
    ("name", .string member.name),
    ("value", member.value),
    ("doc", .strings member.doc)]

end EnumMember

namespace Shape

/-- The words for the kinds of shapes, in their order. -/
def kindWords : List String :=
  ["record", "alias", "enumeration", "scalar"]

/-- The kind that a document names by its word or by its place in the order. -/
def kindWord? : Json → Option String
  | .string word => some word
  | .number (.natural place) => kindWords[place.toNat]?
  | _ => none

/-- Reads the shape of a declaration from the entries of the declaration. -/
def ofEntries? (entries : List (String × Json)) : Option Shape := do
  match (← Json.single? entries "kind").bind kindWord? with
  | some "record" =>
    let fields ← Json.single? entries "fields"
    return record (← Json.readOr (Json.arrayOf? Field.ofJson?) [] fields)
  | some "alias" =>
    let target ← (← Json.single? entries "target")
    return synonym (← TypeRef.ofJson? target)
  | some "enumeration" =>
    let base ← (← Json.single? entries "base")
    let base ← ScalarKind.ofJson? base
    let members ← Json.single? entries "values"
    return enumeration base (← Json.readOr (Json.arrayOf? EnumMember.ofJson?) [] members)
  | some "scalar" =>
    let kind ← (← Json.single? entries "scalar")
    return scalar (← ScalarKind.ofJson? kind)
  | _ => none

/-- Writes the entries of a shape. -/
def toEntries : Shape → List (String × Json)
  | record fields => [("kind", .string "record"), ("fields", .array (fields.map Field.toJson))]
  | synonym target => [("kind", .string "alias"), ("target", target.toJson)]
  | enumeration base members => [
    ("kind", .string "enumeration"),
    ("base", base.toJson),
    ("values", .array (members.map EnumMember.toJson))]
  | scalar kind => [("kind", .string "scalar"), ("scalar", kind.toJson)]

end Shape

namespace Declaration

/-- Reads a declaration, which has to be an object. -/
def ofJson? : Json → Option Declaration
  | .object entries => do
    match ← Json.singles? entries ["name", "package", "doc"] with
    | [some (.string name), package, doc] =>
      let package ← Json.readOr Json.string? "" package
      let doc ← Json.readOr Json.strings? [] doc
      let shape ← Shape.ofEntries? entries
      return { name, package, doc, shape }
    | _ => none
  | _ => none

/-- Writes a declaration. -/
def toJson (declaration : Declaration) : Json :=
  .object ([
    ("name", .string declaration.name),
    ("package", .string declaration.package),
    ("doc", .strings declaration.doc)] ++ declaration.shape.toEntries)

end Declaration

namespace Package

/-- Reads a package. -/
def ofJson? (document : Json) : Option Package :=
  match document.record? ["name", "doc", "types"] with
  | some [some (.string name), doc, types] => do
    let doc ← Json.readOr Json.strings? [] doc
    let types ← Json.readOr (Json.arrayOf? Declaration.ofJson?) [] types
    return { name, doc, types }
  | _ => none

/-- Writes a package. -/
def toJson (package : Package) : Json :=
  .object [
    ("name", .string package.name),
    ("doc", .strings package.doc),
    ("types", .array (package.types.map Declaration.toJson))]

/-- Reads a document of packages: a list of packages or a single package. -/
def listOfJson? (document : Json) : Option (List Package) :=
  match Json.arrayOf? ofJson? document with
  | some packages => some packages
  | none => (ofJson? document).map ([·])

end Package
end MarkerManifests
