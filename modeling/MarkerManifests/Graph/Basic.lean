import MarkerManifests.Json.Basic

/-!
# Type graphs

The declarations that a loader found, package by package. A declaration is a record, an alias, an
enumeration or a named scalar; types refer to declarations by identity, so that references may
form cycles.
-/

namespace MarkerManifests

/-- The identity of a declaration. -/
structure TypeId where
  /-- The package path. In a reference, the empty path means the enclosing package. -/
  package : String
  name : String
  deriving DecidableEq, Inhabited

/-- The package path and the name, with a point between them. -/
def TypeId.text (id : TypeId) : String :=
  id.package ++ "." ++ id.name

/-- The scalar types that need no declaration. -/
inductive ScalarKind where
  | string
  | int32
  | int64
  | float
  | boolean
  | bytes
  | time
  | intOrString
  | any
  deriving DecidableEq

namespace ScalarKind

/-- All scalar types. -/
def all : List ScalarKind :=
  [string, int32, int64, float, boolean, bytes, time, intOrString, any]

/-- The name of a scalar type in documents. -/
def word : ScalarKind → String
  | string => "string"
  | int32 => "int32"
  | int64 => "int64"
  | float => "float"
  | boolean => "boolean"
  | bytes => "bytes"
  | time => "time"
  | intOrString => "int-or-string"
  | any => "any"

/-- The scalar type with a name. -/
def ofWord? (word : String) : Option ScalarKind :=
  all.find? (·.word = word)

end ScalarKind

/-- A reference to a type. -/
inductive TypeRef where
  | scalar (kind : ScalarKind)
  | named (target : TypeId)
  | list (element : TypeRef)
  /-- A map from strings. -/
  | map (value : TypeRef)
  /-- A value that may be absent. -/
  | pointer (target : TypeRef)
  deriving DecidableEq

namespace TypeRef

/-- The reference below all outer pointers. -/
def stripPointers : TypeRef → TypeRef
  | pointer target => target.stripPointers
  | other => other

/-- Puts a package path in place of the empty ones. -/
def qualify (package : String) : TypeRef → TypeRef
  | scalar kind => scalar kind
  | named target => if target.package = "" then named ⟨package, target.name⟩ else named target
  | list element => list (element.qualify package)
  | map value => map (value.qualify package)
  | pointer target => pointer (target.qualify package)

/-- The declarations that a reference names. -/
def targets : TypeRef → List TypeId
  | scalar _ => []
  | named target => [target]
  | list element => element.targets
  | map value => value.targets
  | pointer target => target.targets

end TypeRef

/-- The serialization key of fields that are never serialized. -/
def omitKey : String := "-"

/-- A field of a record. -/
structure Field where
  name : String
  type : TypeRef
  /-- The serialization key; the empty key means the name of the field. -/
  key : String := ""
  /-- Whether the field may be absent. -/
  optional : Bool := false
  /-- Whether the fields of the field's record are embedded in place of the field. -/
  inline : Bool := false
  /-- The lines of the comment. -/
  doc : List String := []
  deriving DecidableEq

namespace Field

/-- Whether the field is never serialized. -/
def isOmitted (field : Field) : Bool :=
  field.key == omitKey

/-- Fills in the package of the type and the key. -/
def qualify (package : String) (field : Field) : Field :=
  { field with
    type := field.type.qualify package
    key := if field.key = "" then field.name else field.key }

end Field

/-- A member of an enumeration. -/
structure EnumMember where
  name : String
  /-- The serialized value. -/
  value : Json
  doc : List String := []
  deriving DecidableEq

/-- What a declaration declares. -/
inductive Shape where
  | record (fields : List Field)
  | synonym (target : TypeRef)
  | enumeration (base : ScalarKind) (members : List EnumMember)
  | scalar (kind : ScalarKind)
  deriving DecidableEq

namespace Shape

/-- Fills in the package of the types and the keys of the fields. -/
def qualify (package : String) : Shape → Shape
  | record fields => record (fields.map (·.qualify package))
  | synonym target => synonym (target.qualify package)
  | enumeration base members => enumeration base members
  | scalar kind => scalar kind

/-- The fields of a record; other shapes have none. -/
def fields : Shape → List Field
  | record fields => fields
  | _ => []

/-- Whether the shape is a record. -/
def isRecord : Shape → Bool
  | record _ => true
  | _ => false

end Shape

/-- A declaration. -/
structure Declaration where
  name : String
  /-- The path of the package that holds the declaration. -/
  package : String := ""
  doc : List String := []
  shape : Shape
  deriving DecidableEq

namespace Declaration

/-- The identity of the declaration. -/
def id (declaration : Declaration) : TypeId :=
  ⟨declaration.package, declaration.name⟩

/-- The fields of a record; other declarations have none. -/
def fields (declaration : Declaration) : List Field :=
  declaration.shape.fields

/-- Moves the declaration into a package. -/
def qualify (package : String) (declaration : Declaration) : Declaration :=
  { declaration with package := package, shape := declaration.shape.qualify package }

end Declaration

/-- A package with its comment and its declarations in source order. -/
structure Package where
  name : String
  doc : List String := []
  types : List Declaration := []
  deriving DecidableEq

/-- Moves the declarations of a package into it. -/
def Package.qualify (package : Package) : Package :=
  { package with types := package.types.map (·.qualify package.name) }

end MarkerManifests
