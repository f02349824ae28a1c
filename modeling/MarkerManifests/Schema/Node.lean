import MarkerManifests.Graph.Basic

/-!
# Schema nodes

Validation schemas as trees. A node carries keywords of its own and nested nodes: properties, items,
values of maps and the members of compositions. A keyword that is absent is not written.
-/

namespace MarkerManifests

/-- The types that a schema may demand. -/
inductive SchemaType where
  | object
  | array
  | string
  | number
  | integer
  | boolean
  deriving DecidableEq

namespace SchemaType

/-- All types. -/
def all : List SchemaType :=
  [object, array, string, number, integer, boolean]

/-- The word for a type. -/
def word : SchemaType → String
  | object => "object"
  | array => "array"
  | string => "string"
  | number => "number"
  | integer => "integer"
  | boolean => "boolean"

/-- The type with a word. -/
def ofWord? (word : String) : Option SchemaType :=
  all.find? (·.word = word)

/-- Whether bounds of numbers apply. -/
def isNumeric : SchemaType → Bool
  | number => true
  | integer => true
  | _ => false

/-- The wording of a fault: a word names no type. -/
def unknownMessage (word : String) : String :=
  s!"unknown schema type '{word}'"

end SchemaType

/-- How many members of a union may be set. -/
inductive UnionPolicy where
  | atMostOne
  | exactlyOne
  | atLeastOne
  deriving DecidableEq

/-- The words for a policy in messages. -/
def UnionPolicy.words : UnionPolicy → String
  | atMostOne => "at-most-one"
  | exactlyOne => "exactly-one"
  | atLeastOne => "at-least-one"

/-- A union of properties of one object. -/
structure UnionGroup where
  policy : UnionPolicy
  members : List String
  deriving DecidableEq

/-- How lists are merged. -/
inductive ListType where
  /-- As a whole. -/
  | atomic
  /-- As sets of scalars. -/
  | set
  /-- By the keys of their items. -/
  | map
  deriving DecidableEq

/-- How maps are merged. -/
inductive MapType where
  /-- Key by key. -/
  | granular
  /-- As a whole. -/
  | atomic
  deriving DecidableEq

/-- A validation rule. -/
structure ValidationRule where
  rule : String
  message : Option String := none
  fieldPath : Option String := none
  deriving DecidableEq

/-- The keywords of a node that hold no nodes. -/
structure Keywords where
  /-- The path of another schema that stands in place of this one. -/
  reference : Option String := none
  type : Option SchemaType := none
  format : Option String := none
  description : Option String := none
  required : List String := []
  maxLength : Option UInt64 := none
  minLength : Option UInt64 := none
  maxItems : Option UInt64 := none
  minItems : Option UInt64 := none
  maxProperties : Option UInt64 := none
  minProperties : Option UInt64 := none
  maximum : Option Number := none
  minimum : Option Number := none
  exclusiveMaximum : Bool := false
  exclusiveMinimum : Bool := false
  multipleOf : Option Number := none
  pattern : Option String := none
  /-- The permitted values, unless any value is permitted. -/
  enumeration : List Json := []
  defaultValue : Option Json := none
  nullable : Bool := false
  unions : List UnionGroup := []
  listType : Option ListType := none
  listMapKeys : List String := []
  mapType : Option MapType := none
  preserveUnknownFields : Option Bool := none
  intOrString : Bool := false
  embeddedResource : Bool := false
  validations : List ValidationRule := []
  deriving DecidableEq

/-- A validation schema. -/
structure SchemaNode extends Keywords where
  /-- The properties of an object in their order. -/
  properties : List (String × SchemaNode) := []
  items : Option SchemaNode := none
  /-- The values of a map. -/
  additionalProperties : Option SchemaNode := none
  oneOf : List SchemaNode := []
  anyOf : List SchemaNode := []
  allOf : List SchemaNode := []

namespace SchemaNode

instance : Inhabited SchemaNode := ⟨{}⟩

/-- The path of the schema of a declaration. -/
def referencePath (id : TypeId) : String :=
  "#/definitions/" ++ id.text

/-- A node that demands a type. -/
def ofType (type : SchemaType) : SchemaNode :=
  { type := some type }

/-- A node that demands a type and a format. -/
def formatted (type : SchemaType) (format : String) : SchemaNode :=
  { type := some type, format := some format }

/-- A reference to the schema of a declaration. -/
def referenceTo (id : TypeId) : SchemaNode :=
  { reference := some (referencePath id) }

/-- The node that stands for objects about which nothing is known. -/
def opaqueObject : SchemaNode :=
  { type := some .object, preserveUnknownFields := some true }

/-- A list of items. -/
def array (items : SchemaNode) : SchemaNode :=
  { type := some .array, items := some items }

/-- A map to values. -/
def map (values : SchemaNode) : SchemaNode :=
  { type := some .object, additionalProperties := some values }

/-- The alternatives of values that are integers or strings. -/
def integerOrString : List SchemaNode :=
  [ofType .integer, ofType .string]

/-- The schema of a scalar type. -/
def ofScalar : ScalarKind → SchemaNode
  | .string => ofType .string
  | .int32 => formatted .integer "int32"
  | .int64 => formatted .integer "int64"
  | .float => formatted .number "double"
  | .boolean => ofType .boolean
  | .bytes => formatted .string "byte"
  | .time => formatted .string "date-time"
  | .intOrString => { intOrString := true, anyOf := integerOrString }
  | .any => { preserveUnknownFields := some true }

/-- Whether the node refers to another schema. -/
def isReference (node : SchemaNode) : Bool :=
  node.reference.isSome

/-- The schema of a property. -/
def property? (node : SchemaNode) (key : String) : Option SchemaNode :=
  (node.properties.find? (·.1 = key)).map (·.2)

/-- Whether the node has a property. -/
def hasProperty (node : SchemaNode) (key : String) : Bool :=
  node.properties.any (·.1 = key)

/-- Whether the node describes objects about which nothing is known. -/
def isOpaque (node : SchemaNode) : Bool :=
  node.type = some .object && node.preserveUnknownFields = some true &&
    node.properties.isEmpty && node.additionalProperties.isNone

/-- The nodes directly below a node. -/
def children (node : SchemaNode) : List SchemaNode :=
  node.properties.map (·.2) ++ node.items.toList ++ node.additionalProperties.toList ++
    node.oneOf ++ node.anyOf ++ node.allOf

mutual

/-- The number of nodes of a tree. -/
def size : SchemaNode → Nat
  | ⟨_, properties, items, additionalProperties, oneOf, anyOf, allOf⟩ =>
    1 + (sizeOfProperties properties + sizeOfOption items + sizeOfOption additionalProperties +
      sizeOfList oneOf + sizeOfList anyOf + sizeOfList allOf)

/-- The number of nodes of the schemas of properties. -/
def sizeOfProperties : List (String × SchemaNode) → Nat
  | [] => 0
  | (_, node) :: rest => size node + sizeOfProperties rest

/-- The number of nodes of a schema that may be absent. -/
def sizeOfOption : Option SchemaNode → Nat
  | none => 0
  | some node => size node

/-- The number of nodes of several trees. -/
def sizeOfList : List SchemaNode → Nat
  | [] => 0
  | node :: rest => size node + sizeOfList rest

end

@[simp] theorem sizeOfList_append (left right : List SchemaNode) :
    sizeOfList (left ++ right) = sizeOfList left + sizeOfList right := by
  induction left with
  | nil => simp [sizeOfList]
  | cons node rest step => simp [sizeOfList, step, Nat.add_assoc]

theorem sizeOfList_map_snd (properties : List (String × SchemaNode)) :
    sizeOfList (properties.map (·.2)) = sizeOfProperties properties := by
  induction properties with
  | nil => rfl
  | cons entry rest step => simp [sizeOfList, sizeOfProperties, step]

theorem sizeOfList_toList (node : Option SchemaNode) :
    sizeOfList node.toList = sizeOfOption node := by
  cases node <;> simp [sizeOfList, sizeOfOption]

/-- A tree has one node more than the trees below its root. -/
theorem size_eq (node : SchemaNode) : node.size = 1 + sizeOfList node.children := by
  obtain ⟨keywords, properties, items, additional, oneOf, anyOf, allOf⟩ := node
  simp [size, children, sizeOfList_map_snd, sizeOfList_toList, Nat.add_assoc]

/-- The nodes of trees, level by level. -/
def walkAll : List SchemaNode → List SchemaNode
  | [] => []
  | node :: rest => node :: walkAll (rest ++ node.children)
termination_by nodes => sizeOfList nodes
decreasing_by
  simp only [sizeOfList_append, sizeOfList, size_eq node]
  omega

/-- All nodes of a tree: the node itself, the nodes below it, those below them, and so on. -/
def walk (node : SchemaNode) : List SchemaNode :=
  walkAll [node]

end SchemaNode
end MarkerManifests
