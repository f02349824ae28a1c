import MarkerManifests.Proofs.Schema.Decoration
import MarkerManifests.Proofs.Schema.Order
import MarkerManifests.Proofs.Text.Cutting

/-!
# Schemas by plain recursion

In a graph whose declarations do not mention each other in a circle, the schema of a declaration
can be defined by plain recursion: it is built from the schemas of the declarations that it
refers to, and a declaration that fails has the schema of unknown objects there. There is no
table and there are no references to schemas that are not finished yet.
-/

namespace MarkerManifests

namespace Shape

variable {shape : Shape}

theorem exists_eq_record (isRecord : shape.isRecord = true) :
    ∃ fields, shape = .record fields := by
  cases shape with
  | record fields => exact ⟨fields, rfl⟩
  | synonym target => cases isRecord
  | enumeration base members => cases isRecord
  | scalar kind => cases isRecord

theorem isRecord_of_mem_fields
    {field : Field}
    (member : field ∈ shape.fields) :
    shape.isRecord = true := by
  cases shape with
  | record fields => rfl
  | synonym target => cases member
  | enumeration base members => cases member
  | scalar kind => cases member

end Shape

/-! ## Acyclic graphs -/

/-- The declarations that the types of a declaration name, those of skipped fields too. -/
def Declaration.mentioned (declaration : Declaration) : List TypeId :=
  match declaration.shape with
  | .record fields => fields.flatMap (·.type.targets)
  | .synonym target => target.targets
  | .enumeration _ _ => []
  | .scalar _ => []

namespace TypeGraph

variable {graph : TypeGraph} {id target : TypeId}

/-- A declaration of the graph mentions another declaration. -/
def Mentions (graph : TypeGraph) (id target : TypeId) : Prop :=
  ∃ declaration, graph.resolve? id = some declaration ∧ target ∈ declaration.mentioned

/-- No declaration mentions itself, directly or through other ones. -/
def IsAcyclic (graph : TypeGraph) : Prop :=
  ∀ id, ¬ Relation.TransGen graph.Mentions id id

/-- A rank that falls along every mention excludes circles. -/
theorem isAcyclic_of_rank
    (rank : TypeId → Nat)
    (falls : ∀ declaration ∈ graph.declarations, ∀ target ∈ declaration.mentioned,
      rank target < rank declaration.id) :
    graph.IsAcyclic := by
  have fallsAlong : ∀ {id target}, Relation.TransGen graph.Mentions id target →
      rank target < rank id := by
    have fallsOnce : ∀ {id target}, graph.Mentions id target → rank target < rank id := by
      rintro id target ⟨declaration, resolved, mentioned⟩
      exact id_of_resolve? resolved ▸
        falls declaration (List.mem_of_find?_eq_some resolved) target mentioned
    intro id target along
    induction along with
    | single mentions => exact fallsOnce mentions
    | tail _ mentions inductionHypothesis => exact (fallsOnce mentions).trans inductionHypothesis
  exact fun id circle => (fallsAlong circle).false

end TypeGraph

namespace SchemaSource

variable {source : SchemaSource} {id : TypeId}

theorem mem_mentioned_of_mem_followed
    {declaration : Declaration}
    {target : TypeId}
    (followed : target ∈ source.followed declaration) :
    target ∈ declaration.mentioned := by
  unfold SchemaSource.followed at followed
  unfold Declaration.mentioned
  cases shape : declaration.shape with
  | record fields =>
      rw [shape] at followed
      obtain ⟨field, isKept, named⟩ := List.mem_flatMap.mp followed
      exact List.mem_flatMap.mpr ⟨field, List.mem_of_mem_filter isKept, named⟩
  | synonym target => simpa [shape] using followed
  | enumeration base members => simp [shape] at followed
  | scalar kind => simp [shape] at followed

theorem References.mentions
    {target : TypeId}
    (refers : source.References id target) :
    source.graph.Mentions id target := by
  obtain ⟨-, declaration, resolved, followed⟩ := refers
  exact ⟨declaration, resolved, mem_mentioned_of_mem_followed followed⟩

/-- In an acyclic graph nothing leads back from what a declaration refers to. -/
theorem not_reaches_of_references
    (acyclic : source.graph.IsAcyclic)
    {target : TypeId}
    (refers : source.References id target) :
    ¬ source.Reaches target id := by
  intro back
  have backMentions : Relation.ReflTransGen source.graph.Mentions target id :=
    Relation.ReflTransGen.mono (fun _ _ refers => References.mentions refers) _ _ back
  exact acyclic id (Relation.TransGen.head' refers.mentions backMentions)

/-! ## The plain recursion -/

/-- The schema of a reference, given the schemas of declarations. -/
def plainRef (source : SchemaSource) (schemaOf : TypeId → SchemaNode) :
    TypeRef → Except SynthesisError SchemaNode
  | .scalar kind => .ok (SchemaNode.ofScalar kind)
  | .named target =>
      match source.graph.resolve? target with
      | none => .error (.unresolved target)
      | some _ => .ok (schemaOf target)
  | .list element => (source.plainRef schemaOf element).map SchemaNode.array
  | .map value => (source.plainRef schemaOf value).map SchemaNode.map
  | .pointer target => source.plainRef schemaOf target

/-- The schema of the record that a field embeds, given the schemas of declarations. -/
def plainEmbedded
    (source : SchemaSource)
    (schemaOf : TypeId → SchemaNode)
    (field : Field) : Except SynthesisError SchemaNode :=
  match field.type.stripPointers with
  | .named target =>
      match source.graph.resolve? target with
      | none => .error (.unresolved target)
      | some declaration =>
          if declaration.shape.isRecord then .ok (schemaOf target)
          else .error (.inlineNotRecord field.name)
  | _ => .error (.inlineNotRecord field.name)

/-- Adds a field to the schema of a record, given the schemas of declarations. -/
def plainField
    (source : SchemaSource)
    (schemaOf : TypeId → SchemaNode)
    (id : TypeId)
    (node : SchemaNode)
    (field : Field) : Except SynthesisError SchemaNode :=
  if field.inline then do
    let embedded ← source.plainEmbedded schemaOf field
    embed node embedded
  else do
    let markers := source.index.field id field.name
    let unmarked ← source.plainRef schemaOf field.type
    let schema ← ((source.withDescription field.doc unmarked).applyMarkers
      (.field id field.name) markers).1
    let node := if isRequired field markers schema
      then { node with required := node.required ++ [field.key] } else node
    addProperty node field.key schema

/-- The schema of a record, given the schemas of declarations. -/
def plainRecord
    (source : SchemaSource)
    (schemaOf : TypeId → SchemaNode)
    (id : TypeId)
    (fields : List Field) : Except SynthesisError SchemaNode := do
  let kept := fields.filter fun field => !source.isSkipped id field
  let skipped := (fields.filter (source.isSkipped id)).map unionName
  let node ← kept.foldlM (source.plainField schemaOf id) (SchemaNode.ofType .object)
  node.addUnions skipped (source.index.declaration id)

/-- The schema of a declaration before its own markers, given the schemas of declarations. -/
def plainShape
    (source : SchemaSource)
    (schemaOf : TypeId → SchemaNode)
    (id : TypeId) : Shape → Except SynthesisError SchemaNode
  | .record fields => source.plainRecord schemaOf id fields
  | .synonym target => source.plainRef schemaOf target
  | .enumeration base members =>
      .ok { SchemaNode.ofScalar base with enumeration := members.map (·.value) }
  | .scalar kind => .ok (SchemaNode.ofScalar kind)

/-- The schema of a declaration, given the schemas of other declarations. -/
def plainFrom
    (source : SchemaSource)
    (schemaOf : TypeId → SchemaNode)
    (id : TypeId) : Except SynthesisError SchemaNode :=
  match source.graph.resolve? id with
  | none => .error (.unresolved id)
  | some declaration => do
      let unmarked ← source.plainShape schemaOf declaration.id declaration.shape
      ((source.withDescription declaration.doc unmarked).applyMarkers
        (.declaration declaration.id) (source.index.declaration declaration.id)).1

instance (source : SchemaSource) (id target : TypeId) : Decidable (source.References id target) :=
  inferInstanceAs (Decidable ((source.graph.resolve? target).isSome ∧
    ∃ declaration ∈ source.graph.resolve? id, target ∈ source.followed declaration))

/-- The schema of a declaration of an acyclic graph, by recursion on what it refers to. Of other
declarations than these, whose schemas are not asked for, nothing is said. -/
def plain
    (source : SchemaSource)
    (acyclic : source.graph.IsAcyclic)
    (id : TypeId) : Except SynthesisError SchemaNode :=
  source.plainFrom (fun target =>
    if source.References id target then SchemaNode.ofOutcome (source.plain acyclic target)
    else SchemaNode.opaqueObject) id
termination_by (source.reachedDeclarations id).card
decreasing_by
  rename_i refers
  exact card_reachedDeclarations_lt (.single refers) (not_reaches_of_references acyclic refers)

/-! ## Builds from given schemas -/

end SchemaSource

/-- An attempt that has one outcome whatever the table is. -/
def SchemaAttempt.Gives
    {Result : Type}
    (attempt : SchemaAttempt Result)
    (outcome : Except SynthesisError Result) : Prop :=
  ∀ table, (attempt.run.run table).1 = outcome

namespace SchemaAttempt

variable {Result Next : Type}

theorem gives_mk_pure (outcome : Except SynthesisError Result) :
    Gives (ExceptT.mk (pure outcome)) outcome :=
  fun _ => rfl

theorem gives_lift_pure (result : Result) :
    Gives (ExceptT.lift (pure result)) (.ok result) :=
  fun _ => rfl

theorem Gives.bind
    {attempt : SchemaAttempt Result}
    {outcome : Except SynthesisError Result}
    {next : Result → SchemaAttempt Next}
    {nextOutcome : Result → Except SynthesisError Next}
    (gives : Gives attempt outcome)
    (givesNext : ∀ result, outcome = .ok result → Gives (next result) (nextOutcome result)) :
    Gives (attempt >>= next) (outcome >>= nextOutcome) := by
  intro table
  have run_bind : ∀ (first : Synthesis (Except SynthesisError Result))
      (second : Except SynthesisError Result → Synthesis (Except SynthesisError Next)),
      (first >>= second).run table = (second (first.run table).1).run (first.run table).2 :=
    fun _ _ => rfl
  rw [ExceptT.run_bind, run_bind, gives table]
  cases outcome with
  | ok result => exact givesNext result rfl _
  | error error => rfl

theorem Gives.map
    {attempt : SchemaAttempt Result}
    {outcome : Except SynthesisError Result}
    (gives : Gives attempt outcome)
    (change : Result → Next) :
    Gives (do return change (← attempt)) (outcome.map change) := by
  have mapped : Gives (do return change (← attempt))
      (outcome >>= fun result => .ok (change result)) :=
    gives.bind fun result _ => gives_mk_pure (.ok (change result))
  cases outcome <;> exact mapped

end SchemaAttempt

namespace SchemaSource

open SchemaAttempt

variable {source : SchemaSource} {schemaOf : TypeId → SchemaNode} {id : TypeId}

theorem gives_refSchema
    (schemaOf : TypeId → SchemaNode)
    (reference : TypeRef) :
    Gives (source.refSchema (fun target => pure (schemaOf target)) reference)
      (source.plainRef schemaOf reference) := by
  induction reference with
  | scalar kind => exact gives_mk_pure _
  | named target =>
      unfold refSchema plainRef
      cases source.graph.resolve? target with
      | none => exact gives_mk_pure _
      | some declaration => exact fun _ => rfl
  | list element inductionHypothesis => exact inductionHypothesis.map SchemaNode.array
  | map value inductionHypothesis => exact inductionHypothesis.map SchemaNode.map
  | pointer target inductionHypothesis => exact inductionHypothesis

/-- Schemas that are no references can be embedded. -/
theorem gives_embeddedSchema
    (noReference : ∀ target, (schemaOf target).isReference = false)
    (field : Field) :
    Gives (source.embeddedSchema (fun target => pure (schemaOf target)) field)
      (source.plainEmbedded schemaOf field) := by
  unfold embeddedSchema plainEmbedded
  cases field.type.stripPointers with
  | named target =>
      dsimp only
      cases source.graph.resolve? target with
      | none => exact gives_mk_pure _
      | some declaration =>
          dsimp only
          split
          · refine (gives_lift_pure (schemaOf target)).bind (fun embedded same => ?_)
            cases same
            rw [noReference target]
            exact gives_mk_pure (.ok (schemaOf target))
          · exact gives_mk_pure _
  | scalar kind => exact gives_mk_pure _
  | list element => exact gives_mk_pure _
  | map value => exact gives_mk_pure _
  | pointer inner => exact gives_mk_pure _

theorem gives_marked
    (location : Location)
    (markers : Markers)
    (node : SchemaNode) :
    Gives (marked location markers node) (node.applyMarkers location markers).1 :=
  fun _ => rfl

theorem gives_addField
    (noReference : ∀ target, (schemaOf target).isReference = false)
    (id : TypeId)
    (node : SchemaNode)
    (field : Field) :
    Gives (source.addField (fun target => pure (schemaOf target)) id node field)
      (source.plainField schemaOf id node field) := by
  unfold addField plainField
  split
  · exact (gives_embeddedSchema noReference field).bind fun _ _ => gives_mk_pure _
  · refine (gives_refSchema schemaOf field.type).bind fun unmarked _ => ?_
    exact (gives_marked _ _ _).bind fun schema _ => gives_mk_pure _

theorem gives_addFields
    (noReference : ∀ target, (schemaOf target).isReference = false)
    (id : TypeId)
    (node : SchemaNode)
    (fields : List Field) :
    Gives (source.addFields (fun target => pure (schemaOf target)) id node fields)
      (fields.foldlM (source.plainField schemaOf id) node) := by
  induction fields generalizing node with
  | nil => exact gives_mk_pure _
  | cons field rest inductionHypothesis =>
      rw [List.foldlM_cons]
      exact (gives_addField noReference id node field).bind fun extended _ =>
        inductionHypothesis extended

/-- A build whose requests are answered by given schemas, none of which is a reference, has the
outcome of the plain recursion. -/
theorem gives_build
    (noReference : ∀ target, (schemaOf target).isReference = false)
    (id : TypeId) :
    Gives (source.build (fun target => pure (schemaOf target)) id)
      (source.plainFrom schemaOf id) := by
  unfold build plainFrom
  cases source.graph.resolve? id with
  | none => exact gives_mk_pure _
  | some declaration =>
      refine Gives.bind ?_ fun unmarked _ => gives_marked _ _ _
      cases declaration.shape with
      | record fields =>
          exact (gives_addFields noReference _ _ _).bind fun _ _ => gives_mk_pure _
      | synonym target => exact gives_refSchema schemaOf target
      | enumeration base members => exact gives_mk_pure _
      | scalar kind => exact gives_mk_pure _

/-! ## What plain schemas are made of -/

/-- The fields of a declaration that are not left out of its schema. -/
def keptFields (source : SchemaSource) (declaration : Declaration) : List Field :=
  declaration.fields.filter fun field => !source.isSkipped declaration.id field

/-- The properties that a field adds to the schema of a record: its own one, or those of the record
that it embeds. -/
inductive Adds
    (source : SchemaSource)
    (schemaOf : TypeId → SchemaNode)
    (id : TypeId)
    (field : Field) : List (String × SchemaNode) → Prop where
  | own
      {unmarked schema : SchemaNode}
      (notInline : field.inline = false)
      (made : source.plainRef schemaOf field.type = .ok unmarked)
      (applied : ((source.withDescription field.doc unmarked).applyMarkers
        (.field id field.name) (source.index.field id field.name)).1 = .ok schema) :
      Adds source schemaOf id field [(field.key, schema)]
  | embedded
      {target : TypeId}
      {declaration : Declaration}
      (isInline : field.inline = true)
      (stripped : field.type.stripPointers = .named target)
      (resolved : source.graph.resolve? target = some declaration)
      (isRecord : declaration.shape.isRecord = true) :
      Adds source schemaOf id field (schemaOf target).properties

/-- Properties that are those that fields add. -/
structure AddedBy
    (source : SchemaSource)
    (schemaOf : TypeId → SchemaNode)
    (id : TypeId)
    (fields : List Field)
    (properties : List (String × SchemaNode)) : Prop where
  complete : ∀ field ∈ fields, ∃ part, source.Adds schemaOf id field part ∧ part ⊆ properties
  sound : ∀ entry ∈ properties, ∃ field ∈ fields, ∃ part,
    source.Adds schemaOf id field part ∧ entry ∈ part

theorem decorates_withDescription
    {allowed : Constraint → Prop}
    (doc : List String)
    (node : SchemaNode) :
    SchemaNode.Decorates allowed node (source.withDescription doc node) := by
  unfold withDescription
  split
  · exact .refl node
  · exact .of_same rfl rfl rfl rfl fun _ => rfl

/-- A node with a description and markers is the node with another type, decorated. -/
theorem decorates_marked
    {doc : List String}
    {node marked : SchemaNode}
    {location : Location}
    {markers : Markers}
    (applied : ((source.withDescription doc node).applyMarkers location markers).1 =
      .ok marked) :
    SchemaNode.Decorates (· ∈ markers.bounds)
      { node with type := markers.override?.getD node.type } marked := by
  have described : SchemaNode.Decorates (fun _ => False) node (source.withDescription doc node) :=
    decorates_withDescription doc node
  have decorates := SchemaNode.decorates_applyMarkers applied
  rw [described.type] at decorates
  exact ((described.overriding _).mono fun _ => False.elim).trans decorates

/-- A property that is added is new. -/
theorem hasProperty_eq_false_of_addProperty
    {node schema extended : SchemaNode}
    {key : String}
    (added : addProperty node key schema = .ok extended) :
    node.hasProperty key = false := by
  unfold addProperty at added
  split at added
  · cases added
  · rename_i isNew
    exact Bool.eq_false_iff.mpr isNew

theorem eq_of_addProperty
    {node schema extended : SchemaNode}
    {key : String}
    (added : addProperty node key schema = .ok extended) :
    extended = { node with properties := node.properties ++ [(key, schema)] } := by
  unfold addProperty at added
  split at added
  · cases added
  · cases added
    rfl

theorem eq_of_addProperties
    {node extended : SchemaNode}
    {properties : List (String × SchemaNode)}
    (added : addProperties node properties = .ok extended) :
    extended = { node with properties := node.properties ++ properties } := by
  induction properties generalizing node with
  | nil =>
      cases node
      rw [List.append_nil]
      exact (Except.ok.inj added).symm
  | cons property rest inductionHypothesis =>
      unfold addProperties at added
      split at added
      · cases added
      · rename_i first
        rw [inductionHypothesis added, eq_of_addProperty first, List.append_assoc,
          List.singleton_append]

theorem exists_eq_foldl_requireOnce
    (node : SchemaNode)
    (keys : List String) :
    ∃ required, keys.foldl requireOnce node = { node with required } := by
  induction keys generalizing node with
  | nil =>
      cases node
      exact ⟨_, rfl⟩
  | cons key rest inductionHypothesis =>
      obtain ⟨required, demanded⟩ := inductionHypothesis (requireOnce node key)
      refine ⟨required, demanded.trans ?_⟩
      unfold requireOnce
      split <;> rfl

/-- How a field extends the schema of a record: by a property of its own, which may be demanded, or
by what the record has that it embeds. -/
inductive FieldExtends
    (source : SchemaSource)
    (schemaOf : TypeId → SchemaNode)
    (id : TypeId)
    (node : SchemaNode)
    (field : Field)
    (extended : SchemaNode) : Prop where
  | own
      {unmarked schema : SchemaNode}
      (notInline : field.inline = false)
      (made : source.plainRef schemaOf field.type = .ok unmarked)
      (applied : ((source.withDescription field.doc unmarked).applyMarkers
        (.field id field.name) (source.index.field id field.name)).1 = .ok schema)
      (added : addProperty
        (if isRequired field (source.index.field id field.name) schema
          then { node with required := node.required ++ [field.key] } else node)
        field.key schema = .ok extended)
  | embedded
      {target : TypeId}
      {declaration : Declaration}
      (isInline : field.inline = true)
      (stripped : field.type.stripPointers = .named target)
      (resolved : source.graph.resolve? target = some declaration)
      (isRecord : declaration.shape.isRecord = true)
      (added : embed node (schemaOf target) = .ok extended)

theorem fieldExtends_of_plainField
    {node extended : SchemaNode}
    {field : Field}
    (defined : source.plainField schemaOf id node field = .ok extended) :
    source.FieldExtends schemaOf id node field extended := by
  unfold plainField at defined
  split at defined
  · rename_i isInline
    obtain ⟨embedded, made, added⟩ := Except.exists_of_bind_eq_ok defined
    unfold plainEmbedded at made
    split at made
    · rename_i target stripped
      split at made
      · cases made
      · rename_i declaration resolved
        split at made
        · rename_i isRecord
          cases made
          exact .embedded isInline stripped resolved isRecord added
        · cases made
    · cases made
  · rename_i notInline
    obtain ⟨unmarked, made, rest⟩ := Except.exists_of_bind_eq_ok defined
    obtain ⟨schema, applied, added⟩ := Except.exists_of_bind_eq_ok rest
    exact .own (Bool.eq_false_iff.mpr notInline) made applied added

theorem exists_adds_of_plainField
    {node extended : SchemaNode}
    {field : Field}
    (defined : source.plainField schemaOf id node field = .ok extended) :
    ∃ part required, source.Adds schemaOf id field part ∧
      extended = { node with properties := node.properties ++ part, required } := by
  cases fieldExtends_of_plainField defined with
  | own notInline made applied added =>
      rw [eq_of_addProperty added]
      split
      · exact ⟨_, _, .own notInline made applied, rfl⟩
      · exact ⟨_, _, .own notInline made applied, rfl⟩
  | @embedded target declaration isInline stripped resolved isRecord added =>
      obtain ⟨withProperties, addedProperties, rfl⟩ := Except.exists_of_map_eq_ok added
      obtain ⟨required, demanded⟩ :=
        exists_eq_foldl_requireOnce withProperties (schemaOf target).required
      refine ⟨_, required, .embedded isInline stripped resolved isRecord, ?_⟩
      rw [demanded, eq_of_addProperties addedProperties]

theorem exists_addedBy_of_foldlM_plainField
    {fields : List Field}
    {node extended : SchemaNode}
    (defined : fields.foldlM (source.plainField schemaOf id) node = .ok extended) :
    ∃ properties required, source.AddedBy schemaOf id fields properties ∧
      extended = { node with properties := node.properties ++ properties, required } := by
  induction fields generalizing node with
  | nil =>
      refine ⟨[], node.required, ⟨?_, ?_⟩, ?_⟩
      · exact fun _ member => absurd member List.not_mem_nil
      · exact fun _ member => absurd member List.not_mem_nil
      · cases node
        rw [List.append_nil]
        exact (Except.ok.inj defined).symm
  | cons field rest inductionHypothesis =>
      rw [List.foldlM_cons] at defined
      obtain ⟨next, added, folded⟩ := Except.exists_of_bind_eq_ok defined
      obtain ⟨part, demanded, adds, rfl⟩ := exists_adds_of_plainField added
      obtain ⟨properties, required, addedBy, rfl⟩ := inductionHypothesis folded
      refine ⟨part ++ properties, required, ⟨?_, ?_⟩, by rw [List.append_assoc]⟩
      · rw [List.forall_mem_cons]
        refine ⟨⟨part, adds, List.subset_append_left part properties⟩, fun other member => ?_⟩
        obtain ⟨otherPart, otherAdds, subset⟩ := addedBy.complete other member
        exact ⟨otherPart, otherAdds, List.subset_append_of_subset_right part subset⟩
      · intro entry member
        rcases List.mem_append.mp member with first | later
        · exact ⟨field, List.mem_cons_self, part, adds, first⟩
        · obtain ⟨other, isField, otherPart, otherAdds, isEntry⟩ := addedBy.sound entry later
          exact ⟨other, List.mem_cons_of_mem field isField, otherPart, otherAdds, isEntry⟩

/-- The schema of a record is an object with the properties that its fields add, decorated. -/
theorem exists_addedBy_of_plainRecord
    {fields : List Field}
    {node : SchemaNode}
    (defined : source.plainRecord schemaOf id fields = .ok node) :
    ∃ properties,
      source.AddedBy schemaOf id (fields.filter fun field => !source.isSkipped id field)
        properties ∧
      SchemaNode.Decorates (fun _ => False)
        { SchemaNode.ofType .object with properties } node := by
  obtain ⟨withFields, added, addedUnions⟩ := Except.exists_of_bind_eq_ok defined
  obtain ⟨properties, required, addedBy, rfl⟩ := exists_addedBy_of_foldlM_plainField added
  refine ⟨properties, addedBy, SchemaNode.Decorates.trans ?_
    (SchemaNode.decorates_addUnions addedUnions)⟩
  exact .of_same rfl rfl rfl rfl fun _ => rfl

theorem isRecord_of_mem_keptFields
    {declaration : Declaration}
    {field : Field}
    (isKept : field ∈ source.keptFields declaration) :
    declaration.shape.isRecord = true :=
  Shape.isRecord_of_mem_fields (List.mem_of_mem_filter isKept)

theorem mem_followed_of_mem_keptFields
    {declaration : Declaration}
    {field : Field}
    {target : TypeId}
    (isKept : field ∈ source.keptFields declaration)
    (named : target ∈ field.type.targets) :
    target ∈ source.followed declaration := by
  obtain ⟨fields, shape⟩ := Shape.exists_eq_record (isRecord_of_mem_keptFields isKept)
  unfold keptFields Declaration.fields at isKept
  unfold SchemaSource.followed
  rw [shape] at isKept ⊢
  exact List.mem_flatMap.mpr ⟨field, isKept, named⟩

/-- The kept fields of a record make its properties. -/
theorem exists_foldlM_plainField_of_plainFrom
    {declaration : Declaration}
    (resolved : source.graph.resolve? id = some declaration)
    (isRecord : declaration.shape.isRecord = true)
    {node : SchemaNode}
    (defined : source.plainFrom schemaOf id = .ok node) :
    ∃ withFields, (source.keptFields declaration).foldlM
        (source.plainField schemaOf declaration.id) (SchemaNode.ofType .object) =
          .ok withFields ∧
      node.properties = withFields.properties := by
  rw [plainFrom, resolved] at defined
  obtain ⟨unmarked, shaped, applied⟩ := Except.exists_of_bind_eq_ok defined
  obtain ⟨fields, shape⟩ := Shape.exists_eq_record isRecord
  rw [shape] at shaped
  obtain ⟨withFields, added, addedUnions⟩ := Except.exists_of_bind_eq_ok shaped
  refine ⟨withFields, by rwa [keptFields, Declaration.fields, shape], ?_⟩
  have unions : SchemaNode.Decorates (fun _ => False) withFields unmarked :=
    SchemaNode.decorates_addUnions addedUnions
  exact (decorates_marked applied).properties.trans unions.properties

/-- The properties of the schema of a record are those that its fields add. -/
theorem addedBy_of_plainFrom
    {declaration : Declaration}
    (resolved : source.graph.resolve? id = some declaration)
    (isRecord : declaration.shape.isRecord = true)
    {node : SchemaNode}
    (defined : source.plainFrom schemaOf id = .ok node) :
    source.AddedBy schemaOf declaration.id (source.keptFields declaration) node.properties := by
  obtain ⟨withFields, added, same⟩ :=
    exists_foldlM_plainField_of_plainFrom resolved isRecord defined
  obtain ⟨properties, required, addedBy, rfl⟩ := exists_addedBy_of_foldlM_plainField added
  rw [same]
  exact addedBy

/-- A reference that does not name a declaration itself has a schema that is bare at its root. -/
theorem bare_or_eq_of_plainRef
    {reference : TypeRef}
    {node : SchemaNode}
    (defined : source.plainRef schemaOf reference = .ok node) :
    node.Bare ∨ ∃ target, reference.stripPointers = .named target ∧
      (source.graph.resolve? target).isSome ∧ node = schemaOf target := by
  induction reference with
  | scalar kind =>
      cases defined
      exact .inl (SchemaNode.everywhere_bare_ofScalar kind).here
  | named target =>
      unfold plainRef at defined
      split at defined
      · cases defined
      · rename_i declaration resolved
        cases defined
        exact .inr ⟨target, rfl, by rw [resolved]; rfl, rfl⟩
  | list element =>
      obtain ⟨inner, -, rfl⟩ := Except.exists_of_map_eq_ok defined
      exact .inl (SchemaNode.bare_array inner)
  | map value =>
      obtain ⟨inner, -, rfl⟩ := Except.exists_of_map_eq_ok defined
      exact .inl (SchemaNode.bare_map inner)
  | pointer target inductionHypothesis => exact inductionHypothesis defined

/-! ## What holds everywhere in plain schemas -/

section Everywhere

variable {property : SchemaNode → Prop}

/-- What holds everywhere in the schemas of declarations, and of bare nodes, holds everywhere in
the schemas of references. -/
theorem everywhere_plainRef
    (bare : ∀ node : SchemaNode, node.Bare → property node)
    {reference : TypeRef}
    (answers : ∀ target ∈ reference.targets, (source.graph.resolve? target).isSome →
      (schemaOf target).Everywhere property)
    {node : SchemaNode}
    (defined : source.plainRef schemaOf reference = .ok node) :
    node.Everywhere property := by
  induction reference generalizing node with
  | scalar kind =>
      cases defined
      exact (SchemaNode.everywhere_bare_ofScalar kind).mono bare
  | named target =>
      unfold plainRef at defined
      split at defined
      · cases defined
      · rename_i declaration resolved
        cases defined
        exact answers target List.mem_cons_self (by rw [resolved]; rfl)
  | list element inductionHypothesis =>
      obtain ⟨inner, made, rfl⟩ := Except.exists_of_map_eq_ok defined
      refine .intro (bare _ (SchemaNode.bare_array inner)) fun child isChild => ?_
      have isInner : child = inner := by simpa [SchemaNode.array, SchemaNode.children] using isChild
      exact isInner ▸ inductionHypothesis answers made
  | map value inductionHypothesis =>
      obtain ⟨inner, made, rfl⟩ := Except.exists_of_map_eq_ok defined
      refine .intro (bare _ (SchemaNode.bare_map inner)) fun child isChild => ?_
      have isInner : child = inner := by simpa [SchemaNode.map, SchemaNode.children] using isChild
      exact isInner ▸ inductionHypothesis answers made
  | pointer target inductionHypothesis => exact inductionHypothesis answers defined

/-- What holds everywhere in the schemas of the declarations that are referred to, of bare nodes
and of the marked schemas of fields, holds everywhere below the root of the schema that is made of
them. -/
theorem forall_mem_children_everywhere_of_plainFrom
    (bare : ∀ node : SchemaNode, node.Bare → property node)
    (answers : ∀ target, source.References id target → (schemaOf target).Everywhere property)
    {declaration : Declaration}
    (resolved : source.graph.resolve? id = some declaration)
    (fields : ∀ field ∈ source.keptFields declaration, field.inline = false →
      ∀ unmarked schema, source.plainRef schemaOf field.type = .ok unmarked →
        ((source.withDescription field.doc unmarked).applyMarkers
          (.field declaration.id field.name)
          (source.index.field declaration.id field.name)).1 = .ok schema →
        property schema)
    {node : SchemaNode}
    (defined : source.plainFrom schemaOf id = .ok node) :
    ∀ child ∈ node.children, child.Everywhere property := by
  have followed : ∀ target ∈ source.followed declaration,
      (source.graph.resolve? target).isSome → (schemaOf target).Everywhere property :=
    fun target member declared => answers target ⟨declared, declaration, resolved, member⟩
  rw [plainFrom, resolved] at defined
  obtain ⟨unmarked, shaped, applied⟩ := Except.exists_of_bind_eq_ok defined
  suffices below : ∀ child ∈ unmarked.children, child.Everywhere property by
    intro child isChild
    rcases (decorates_marked applied).children child isChild with old | new
    · exact below child old
    · exact new.mono bare
  unfold keptFields Declaration.fields at fields
  unfold SchemaSource.followed at followed
  cases shape : declaration.shape with
  | record recordFields =>
      rw [shape] at shaped fields followed
      obtain ⟨properties, addedBy, decorates⟩ := exists_addedBy_of_plainRecord shaped
      intro child isChild
      rcases decorates.children child isChild with old | new
      · rw [SchemaNode.mem_children_iff] at old
        obtain ⟨key, isProperty⟩ : ∃ key, (key, child) ∈ properties := by
          simpa [SchemaNode.ofType] using old
        obtain ⟨field, isKept, part, adds, isAdded⟩ := addedBy.sound _ isProperty
        have fieldAnswers : ∀ target ∈ field.type.targets,
            (source.graph.resolve? target).isSome → (schemaOf target).Everywhere property :=
          fun target member => followed target (List.mem_flatMap.mpr ⟨field, isKept, member⟩)
        cases adds with
        | own notInline made applied =>
            cases List.mem_singleton.mp isAdded
            exact (decorates_marked applied).everywhere
              (everywhere_plainRef bare fieldAnswers made).of_mem_children bare
              (fields field isKept notInline _ _ made applied)
        | embedded isInline stripped resolved isRecord =>
            have named := TypeRef.mem_targets_of_stripPointers_eq_named stripped
            exact (fieldAnswers _ named (by rw [resolved]; rfl)).of_mem_children child
              (SchemaNode.mem_children_iff.mpr (.inl ⟨key, isAdded⟩))
      · exact new.mono bare
  | synonym target =>
      rw [shape] at shaped followed
      exact (everywhere_plainRef bare followed shaped).of_mem_children
  | enumeration base members =>
      rw [shape] at shaped
      cases shaped
      exact ((SchemaNode.everywhere_bare_ofScalar base).mono bare).of_mem_children
  | scalar kind =>
      rw [shape] at shaped
      cases shaped
      exact ((SchemaNode.everywhere_bare_ofScalar kind).mono bare).of_mem_children

theorem exists_resolve?_of_plainFrom
    {node : SchemaNode}
    (defined : source.plainFrom schemaOf id = .ok node) :
    ∃ declaration, source.graph.resolve? id = some declaration := by
  refine Option.ne_none_iff_exists'.mp fun unresolved => ?_
  rw [plainFrom, unresolved] at defined
  cases defined

/-- At its root a plain schema is bare before its markers, or it is that of another declaration for
which an alias stands. -/
theorem exists_decorates_of_plainFrom
    {declaration : Declaration}
    (resolved : source.graph.resolve? id = some declaration)
    {node : SchemaNode}
    (defined : source.plainFrom schemaOf id = .ok node) :
    ∃ unmarked : SchemaNode,
      (unmarked.Bare ∨ ∃ reference target, declaration.shape = .synonym reference ∧
        reference.stripPointers = .named target ∧ (source.graph.resolve? target).isSome ∧
        unmarked = schemaOf target) ∧
      SchemaNode.Decorates (· ∈ (source.index.declaration declaration.id).bounds)
        { unmarked with
          type := (source.index.declaration declaration.id).override?.getD unmarked.type }
        node := by
  rw [plainFrom, resolved] at defined
  obtain ⟨unmarked, shaped, applied⟩ := Except.exists_of_bind_eq_ok defined
  refine ⟨unmarked, ?_, decorates_marked applied⟩
  cases shape : declaration.shape with
  | record fields =>
      rw [shape] at shaped
      obtain ⟨properties, -, decorates⟩ := exists_addedBy_of_plainRecord shaped
      refine .inl ⟨decorates.reference, fun constraint => Bool.eq_false_iff.mpr fun held => ?_⟩
      rcases decorates.bounds constraint held with old | new
      · cases constraint <;> cases old
      · exact new.1
  | synonym target =>
      rw [shape] at shaped
      exact (bare_or_eq_of_plainRef shaped).imp_right fun ⟨named, stripped, declared, same⟩ =>
        ⟨target, named, rfl, stripped, declared, same⟩
  | enumeration base members =>
      rw [shape] at shaped
      cases shaped
      have bare := (SchemaNode.everywhere_bare_ofScalar base).here
      exact .inl ⟨bare.reference, bare.bounds⟩
  | scalar kind =>
      rw [shape] at shaped
      cases shaped
      exact .inl (SchemaNode.everywhere_bare_ofScalar kind).here

end Everywhere

/-! ## References in plain schemas -/

/-- No step of the plain recursion makes a reference: what holds of all references in the schemas of
the declarations that are referred to, and of the absence of one, holds of all references in the
schema that is made of them. -/
theorem everywhere_reference_plainFrom
    (property : Option String → Prop)
    (absent : property none)
    (answers : ∀ target, source.References id target →
      (schemaOf target).Everywhere (property ·.reference))
    {node : SchemaNode}
    (defined : source.plainFrom schemaOf id = .ok node) :
    node.Everywhere (property ·.reference) := by
  have ofBare : ∀ node : SchemaNode, node.Bare → property node.reference :=
    fun _ bare => bare.reference ▸ absent
  obtain ⟨declaration, resolved⟩ := exists_resolve?_of_plainFrom defined
  refine .intro ?_ (forall_mem_children_everywhere_of_plainFrom ofBare answers resolved
    (fun field isKept _ unmarked schema made applied => ?_) defined)
  · obtain ⟨unmarked, isBare | ⟨_, target, shape, stripped, declared, rfl⟩, decorates⟩ :=
      exists_decorates_of_plainFrom resolved defined
    · exact decorates.reference ▸ ofBare unmarked isBare
    · have followed : target ∈ source.followed declaration := by
        rw [SchemaSource.followed, shape]
        exact TypeRef.mem_targets_of_stripPointers_eq_named stripped
      exact decorates.reference ▸ (answers target ⟨declared, declaration, resolved, followed⟩).here
  · rw [(decorates_marked applied).reference]
    rcases bare_or_eq_of_plainRef made with isBare | ⟨target, stripped, declared, rfl⟩
    · exact ofBare unmarked isBare
    · have followed := mem_followed_of_mem_keptFields isKept
        (TypeRef.mem_targets_of_stripPointers_eq_named stripped)
      exact (answers target ⟨declared, declaration, resolved, followed⟩).here

/-- What is built from schemas without references has no references. -/
theorem referenceFree_plainFrom
    (free : ∀ target, (schemaOf target).ReferenceFree)
    {node : SchemaNode}
    (defined : source.plainFrom schemaOf id = .ok node) :
    node.ReferenceFree :=
  everywhere_reference_plainFrom (· = none) rfl (fun target _ => free target) defined

theorem referenceFree_ofOutcome
    {outcome : Except SynthesisError SchemaNode}
    (free : ∀ node, outcome = .ok node → node.ReferenceFree) :
    (SchemaNode.ofOutcome outcome).ReferenceFree := by
  cases outcome with
  | ok node => exact free node rfl
  | error error => exact SchemaNode.referenceFree_opaqueObject

theorem referenceFree_plain
    (acyclic : source.graph.IsAcyclic)
    (id : TypeId) :
    (SchemaNode.ofOutcome (source.plain acyclic id)).ReferenceFree := by
  induction id using plain.induct source acyclic with
  | case1 id inductionHypothesis =>
      refine referenceFree_ofOutcome fun node defined => ?_
      rw [plain] at defined
      refine referenceFree_plainFrom (fun target => ?_) defined
      split
      · rename_i refers
        exact inductionHypothesis target refers
      · exact SchemaNode.referenceFree_opaqueObject

/-! ## The recursion -/

/-- Schemas that agree on what a declaration refers to define the same schema for it. -/
theorem plainFrom_congr
    {first second : TypeId → SchemaNode}
    (freeFirst : ∀ target, (first target).ReferenceFree)
    (freeSecond : ∀ target, (second target).ReferenceFree)
    (same : ∀ target, source.References id target → first target = second target) :
    source.plainFrom first id = source.plainFrom second id := by
  -- the recursion has the outcome of a build, and a build asks for nothing but references
  have related : Synthesis.Related (fun _ _ => True)
      (source.build (fun target => pure (first target)) id).run
      (source.build (fun target => pure (second target)) id).run :=
    related_build id (fun _ _ _ _ _ => trivial) fun target refers =>
      same target refers ▸ Synthesis.related_pure (first target)
  have outcome := (@related {} {} trivial).1
  rw [gives_build (fun target => (freeFirst target).isReference_eq_false) id {}] at outcome
  rw [gives_build (fun target => (freeSecond target).isReference_eq_false) id {}] at outcome
  exact outcome

/-- The schema of a declaration is built from those of all others. -/
theorem plain_eq
    (acyclic : source.graph.IsAcyclic)
    (id : TypeId) :
    source.plain acyclic id =
      source.plainFrom (fun target => SchemaNode.ofOutcome (source.plain acyclic target)) id := by
  rw [plain]
  refine plainFrom_congr (fun target => ?_) (referenceFree_plain acyclic)
    fun target refers => if_pos refers
  split
  · exact referenceFree_plain acyclic target
  · exact SchemaNode.referenceFree_opaqueObject

/-- A build whose requests are answered by the plain recursion has its outcome. -/
theorem gives_build_plain
    (acyclic : source.graph.IsAcyclic)
    (id : TypeId) :
    Gives
      (source.build
        (fun target => pure (SchemaNode.ofOutcome (source.plain acyclic target))) id)
      (source.plain acyclic id) := by
  rw [plain_eq acyclic id]
  exact gives_build (fun target => (referenceFree_plain acyclic target).isReference_eq_false) id

end SchemaSource
end MarkerManifests
