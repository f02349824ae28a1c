import MarkerManifests.Proofs.Schema.Answers
import MarkerManifests.Proofs.Schema.Frame
import MarkerManifests.Proofs.Schema.Unions

/-!
# Parts of schemas

The parts of a schema describe parts of its values: its properties, its items and its values, and
their parts in turn. What every step of synthesis keeps holds of all parts of all schemas.
-/

namespace MarkerManifests

namespace SchemaNode

/-- A node is reached from another one through properties, items and values. -/
inductive IsPartOf (part : SchemaNode) : SchemaNode → Prop where
  | self : IsPartOf part part
  | property
      {node child : SchemaNode}
      {key : String}
      (isProperty : (key, child) ∈ node.properties)
      (below : IsPartOf part child) :
      IsPartOf part node
  | items
      {node child : SchemaNode}
      (areItems : node.items = some child)
      (below : IsPartOf part child) :
      IsPartOf part node
  | additionalProperties
      {node child : SchemaNode}
      (areValues : node.additionalProperties = some child)
      (below : IsPartOf part child) :
      IsPartOf part node

theorem IsPartOf.of_property?
    {node child : SchemaNode}
    {key : String}
    (isProperty : node.property? key = some child) :
    child.IsPartOf node :=
  .property (Entries.mem_of_find?_fst isProperty) .self

/-- All parts of a node have a property. -/
def EveryPart (node : SchemaNode) (property : SchemaNode → Prop) : Prop :=
  ∀ part : SchemaNode, part.IsPartOf node → property part

/-- All parts of the nodes directly below a node have a property. -/
structure EveryPartBelow (node : SchemaNode) (property : SchemaNode → Prop) : Prop where
  properties : ∀ key child, (key, child) ∈ node.properties → child.EveryPart property
  items : ∀ child, node.items = some child → child.EveryPart property
  additionalProperties : ∀ child, node.additionalProperties = some child → child.EveryPart property

variable {property : SchemaNode → Prop} {node : SchemaNode}

theorem everyPart_iff : node.EveryPart property ↔ property node ∧ node.EveryPartBelow property := by
  constructor
  · intro every
    exact ⟨every node .self, fun _ _ isProperty _ below => every _ (.property isProperty below),
      fun _ areItems _ below => every _ (.items areItems below),
      fun _ areValues _ below => every _ (.additionalProperties areValues below)⟩
  · rintro ⟨here, everyBelow⟩ part isPart
    cases isPart with
    | self => exact here
    | property isProperty below => exact everyBelow.properties _ _ isProperty part below
    | items areItems below => exact everyBelow.items _ areItems part below
    | additionalProperties areValues below =>
        exact everyBelow.additionalProperties _ areValues part below

/-! ## Steps that keep the parts -/

/-- Markers leave what is below a node as it is. -/
theorem EveryPartBelow.of_keepsFrame
    {before after : SchemaNode}
    (everyBelow : before.EveryPartBelow property)
    (keeps : KeepsFrame before after) :
    after.EveryPartBelow property where
  properties := keeps.properties ▸ everyBelow.properties
  items := keeps.items ▸ everyBelow.items
  additionalProperties := keeps.additionalProperties ▸ everyBelow.additionalProperties

/-- A node that demands nothing and does not say how lists are merged. -/
structure Blank (node : SchemaNode) : Prop where
  required : node.required = []
  listType : node.listType = none
  listMapKeys : node.listMapKeys = []

theorem blank_ofScalar (kind : ScalarKind) : (ofScalar kind).Blank := by
  cases kind <;> exact ⟨rfl, rfl, rfl⟩

/-- A node with nothing below it. -/
theorem everyPartBelow_of_leaf
    {keywords : Keywords}
    {anyOf : List SchemaNode} :
    EveryPartBelow { toKeywords := keywords, anyOf } property :=
  ⟨fun _ _ isProperty => absurd isProperty List.not_mem_nil, nofun, nofun⟩

theorem everyPartBelow_ofScalar (kind : ScalarKind) : (ofScalar kind).EveryPartBelow property := by
  cases kind <;> exact everyPartBelow_of_leaf

end SchemaNode

namespace SchemaSource

/-- A property of nodes that every step of synthesis keeps. A record is made from the schemas of
the records that it embeds. -/
structure StepsKeep (source : SchemaSource) (property : SchemaNode → Prop) : Prop where
  blank : ∀ node : SchemaNode, node.Blank → property node
  record : ∀ schemaOf id fields node,
    (∀ field ∈ fields, source.isSkipped id field = false → field.inline = true →
      ∀ target, field.type.stripPointers = .named target →
        (source.graph.resolve? target).isSome → property (schemaOf target)) →
    source.plainRecord schemaOf id fields = .ok node → property node
  marked : ∀ location markers node marked, property node →
    (SchemaNode.applyMarkers location node markers).1 = .ok marked → property marked
  described : ∀ doc node, property node → property (source.withDescription doc node)

namespace StepsKeep

variable {source : SchemaSource} {property : SchemaNode → Prop}
variable {schemaOf : TypeId → SchemaNode} {id : TypeId}

/-- A leaf of a schema. -/
theorem everyPart_of_leaf
    (keeps : source.StepsKeep property)
    {keywords : Keywords}
    {anyOf : List SchemaNode}
    (blank : SchemaNode.Blank { toKeywords := keywords, anyOf }) :
    SchemaNode.EveryPart { toKeywords := keywords, anyOf } property :=
  SchemaNode.everyPart_iff.mpr ⟨keeps.blank _ blank, SchemaNode.everyPartBelow_of_leaf⟩

/-- A node with a description and markers. -/
theorem everyPart_marked
    (keeps : source.StepsKeep property)
    {doc : List String}
    {location : Location}
    {markers : Markers}
    {node marked : SchemaNode}
    (every : node.EveryPart property)
    (applied : ((source.withDescription doc node).applyMarkers location markers).1 =
      .ok marked) :
    marked.EveryPart property := by
  obtain ⟨here, everyBelow⟩ := SchemaNode.everyPart_iff.mp every
  refine SchemaNode.everyPart_iff.mpr
    ⟨keeps.marked _ _ _ _ (keeps.described doc node here) applied, everyBelow.of_keepsFrame ?_⟩
  exact (source.keepsFrame_withDescription doc node).trans
    (SchemaNode.keepsFrame_applyMarkers applied)

theorem everyPart_plainRef
    (keeps : source.StepsKeep property)
    {reference : TypeRef}
    (answers : ∀ target ∈ reference.targets, (source.graph.resolve? target).isSome →
      (schemaOf target).EveryPart property)
    {node : SchemaNode}
    (defined : source.plainRef schemaOf reference = .ok node) :
    node.EveryPart property := by
  induction reference generalizing node with
  | scalar kind =>
      cases defined
      exact SchemaNode.everyPart_iff.mpr ⟨keeps.blank _ (SchemaNode.blank_ofScalar kind),
        SchemaNode.everyPartBelow_ofScalar kind⟩
  | named target =>
      unfold plainRef at defined
      split at defined
      · cases defined
      · rename_i declaration resolved
        cases defined
        exact answers target List.mem_cons_self (by rw [resolved]; rfl)
  | list element inductionHypothesis =>
      obtain ⟨inner, made, rfl⟩ := Except.exists_of_map_eq_ok defined
      refine SchemaNode.everyPart_iff.mpr ⟨keeps.blank _ ⟨rfl, rfl, rfl⟩, ?_⟩
      refine ⟨fun _ _ isProperty => absurd isProperty List.not_mem_nil, ?_, nofun⟩
      rintro _ ⟨⟩
      exact inductionHypothesis answers made
  | map value inductionHypothesis =>
      obtain ⟨inner, made, rfl⟩ := Except.exists_of_map_eq_ok defined
      refine SchemaNode.everyPart_iff.mpr ⟨keeps.blank _ ⟨rfl, rfl, rfl⟩, ?_⟩
      refine ⟨fun _ _ isProperty => absurd isProperty List.not_mem_nil, nofun, ?_⟩
      rintro _ ⟨⟩
      exact inductionHypothesis answers made
  | pointer target inductionHypothesis => exact inductionHypothesis answers defined

/-- What is below the schema of a record comes from its fields. -/
theorem everyPartBelow_plainRecord
    (keeps : source.StepsKeep property)
    {fields : List Field}
    (answers : ∀ field ∈ fields, source.isSkipped id field = false →
      ∀ target ∈ field.type.targets, (source.graph.resolve? target).isSome →
        (schemaOf target).EveryPart property)
    {node : SchemaNode}
    (defined : source.plainRecord schemaOf id fields = .ok node) :
    node.EveryPartBelow property := by
  obtain ⟨withFields, added, addedUnions⟩ := Except.exists_of_bind_eq_ok defined
  obtain ⟨properties, required, addedBy, rfl⟩ := exists_addedBy_of_foldlM_plainField added
  obtain ⟨unions, oneOf, anyOf, allOf, rfl⟩ := SchemaNode.exists_eq_of_addUnions addedUnions
  refine ⟨fun key child isProperty => ?_, nofun, nofun⟩
  obtain ⟨field, isKept, part, adds, isAdded⟩ := addedBy.sound (key, child) isProperty
  obtain ⟨isField, unskipped⟩ := List.mem_filter.mp isKept
  have known := answers field isField (Bool.not_eq_true' _ ▸ unskipped)
  cases adds with
  | own _ made applied =>
      cases List.mem_singleton.mp isAdded
      exact keeps.everyPart_marked (keeps.everyPart_plainRef known made) applied
  | embedded _ stripped resolved _ =>
      have every := known _ (TypeRef.mem_targets_of_stripPointers_eq_named stripped)
        (by rw [resolved]; rfl)
      exact (SchemaNode.everyPart_iff.mp every).2.properties key child isAdded

/-- What is made from schemas whose parts have the property has parts with the property. -/
theorem everyPart_plainFrom
    (keeps : source.StepsKeep property)
    (answers : ∀ target, source.References id target → (schemaOf target).EveryPart property)
    {node : SchemaNode}
    (defined : source.plainFrom schemaOf id = .ok node) :
    node.EveryPart property := by
  obtain ⟨declaration, resolved⟩ := exists_resolve?_of_plainFrom defined
  have followed : ∀ target ∈ source.followed declaration,
      (source.graph.resolve? target).isSome → (schemaOf target).EveryPart property :=
    fun target member declared => answers target ⟨declared, declaration, resolved, member⟩
  rw [plainFrom, resolved] at defined
  obtain ⟨unmarked, shaped, applied⟩ := Except.exists_of_bind_eq_ok defined
  refine keeps.everyPart_marked ?_ applied
  unfold SchemaSource.followed at followed
  cases shape : declaration.shape with
  | record fields =>
      rw [shape] at shaped followed
      have known : ∀ field ∈ fields, source.isSkipped declaration.id field = false →
          ∀ target ∈ field.type.targets, (source.graph.resolve? target).isSome →
            (schemaOf target).EveryPart property := fun field isField unskipped target named =>
        followed target (List.mem_flatMap.mpr
          ⟨field, List.mem_filter.mpr ⟨isField, by rw [unskipped]; rfl⟩, named⟩)
      refine SchemaNode.everyPart_iff.mpr ⟨?_, keeps.everyPartBelow_plainRecord known shaped⟩
      refine keeps.record _ _ _ _ (fun field isField unskipped _ target stripped declared => ?_)
        shaped
      exact known field isField unskipped target
        (TypeRef.mem_targets_of_stripPointers_eq_named stripped) declared _ .self
  | synonym target =>
      rw [shape] at shaped followed
      exact keeps.everyPart_plainRef followed shaped
  | enumeration base members =>
      rw [shape] at shaped
      cases shaped
      have blank := SchemaNode.blank_ofScalar base
      refine SchemaNode.everyPart_iff.mpr ⟨keeps.blank _ ⟨blank.required, blank.listType,
        blank.listMapKeys⟩, ?_⟩
      cases base <;> exact SchemaNode.everyPartBelow_of_leaf
  | scalar kind =>
      rw [shape] at shaped
      cases shaped
      exact SchemaNode.everyPart_iff.mpr ⟨keeps.blank _ (SchemaNode.blank_ofScalar kind),
        SchemaNode.everyPartBelow_ofScalar kind⟩

/-- All parts of a finished schema have a property that every step keeps. -/
theorem everyPart_of_finished
    (keeps : source.StepsKeep property)
    {table : SchemaTable}
    (settled : source.Settled table)
    {key : SchemaKey}
    {node : SchemaNode}
    (finished : table.finished? key = some node) :
    node.EveryPart property := by
  have unknown : SchemaNode.opaqueObject.EveryPart property :=
    keeps.everyPart_of_leaf ⟨rfl, rfl, rfl⟩
  cases failed : table.hasFailed key with
  | true => exact settled.eq_opaqueObject finished failed ▸ unknown
  | false =>
      refine settled.induction (fun _ node => node.EveryPart property)
        (fun key node schemaOf made answers => ?_) finished failed
      refine keeps.everyPart_plainFrom (fun target refers => ?_) made.plain
      have answered := answers target refers
      generalize schemaOf target = answer at answered ⊢
      cases answered with
      | reference => exact keeps.everyPart_of_leaf ⟨rfl, rfl, rfl⟩
      | failed _ => exact unknown
      | schema _ inherits => exact inherits

/-- Whatever was called before, all parts of an answer have the property. -/
theorem everyPart_synthesize
    (keeps : source.StepsKeep property)
    (calls : List SchemaCall)
    (key : SchemaKey) :
    ((source.synthesize key.id key.version).run
      (source.performedAll calls)).1.EveryPart property := by
  obtain ⟨settled, finished⟩ :=
    (source.settled_performedAll calls).synthesize key.id key.version
  exact keeps.everyPart_of_finished settled finished

end StepsKeep

end SchemaSource
end MarkerManifests
