import MarkerManifests.Proofs.Schema.Acyclic
import MarkerManifests.Proofs.Schema.Failures

/-!
# Paths through schemas

A path leads through a schema from property to property. The keys of a record's schema are distinct,
so a path that leads somewhere below the schema of a field goes on to lead there below the key of
the field, or, if the field embeds its record, in the schema of the outer record itself.
-/

namespace MarkerManifests

namespace SchemaNode

variable {node part : SchemaNode}

/-- The node to which a path of properties leads. -/
def descend? (node : SchemaNode) : List String → Option SchemaNode
  | [] => some node
  | key :: rest => (node.property? key).bind fun child => child.descend? rest

/-- Paths depend on properties only. -/
theorem isSome_descend?_congr
    (same : part.properties = node.properties)
    (path : List String) :
    (part.descend? path).isSome = (node.descend? path).isSome := by
  cases path with
  | nil => rfl
  | cons key rest => rw [descend?, descend?, property?, property?, same]

/-- No two properties have one key. -/
def HasDistinctKeys (node : SchemaNode) : Prop :=
  (node.properties.map (·.1)).Nodup

theorem HasDistinctKeys.property?_eq_some_iff
    {key : String}
    {child : SchemaNode}
    (distinct : node.HasDistinctKeys) :
    node.property? key = some child ↔ (key, child) ∈ node.properties :=
  Entries.find?_fst_eq_some_iff distinct

/-- What paths find among some properties they find among more properties. -/
theorem HasDistinctKeys.isSome_descend?
    (distinct : node.HasDistinctKeys)
    (subset : part.properties ⊆ node.properties)
    {path : List String}
    (leads : (part.descend? path).isSome) :
    (node.descend? path).isSome := by
  cases path with
  | nil => rfl
  | cons key rest =>
      obtain ⟨target, found⟩ := Option.isSome_iff_exists.mp leads
      obtain ⟨child, isChild, below⟩ := Option.bind_eq_some_iff.mp found
      have isProperty := distinct.property?_eq_some_iff.mpr (subset (Entries.mem_of_find?_fst isChild))
      rw [descend?, isProperty, Option.bind_some, below]
      rfl

/-- Below a property paths go on. -/
theorem HasDistinctKeys.isSome_descend?_cons
    {key : String}
    {child : SchemaNode}
    {path : List String}
    (distinct : node.HasDistinctKeys)
    (isProperty : (key, child) ∈ node.properties)
    (leads : (child.descend? path).isSome) :
    (node.descend? (key :: path)).isSome := by
  rw [descend?, distinct.property?_eq_some_iff.mpr isProperty, Option.bind_some]
  exact leads

end SchemaNode

namespace SchemaSource

variable {source : SchemaSource} {schemaOf : TypeId → SchemaNode} {root id : TypeId}

/-! ## Distinct keys -/

theorem hasDistinctKeys_addProperty
    {node schema extended : SchemaNode}
    {key : String}
    (distinct : node.HasDistinctKeys)
    (added : addProperty node key schema = .ok extended) :
    extended.HasDistinctKeys := by
  have isNew := hasProperty_eq_false_of_addProperty added
  have absent : key ∉ node.properties.map (·.1) := by
    intro present
    obtain ⟨entry, member, same⟩ := List.mem_map.mp present
    have isOld : node.hasProperty key = true :=
      List.any_eq_true.mpr ⟨entry, member, decide_eq_true same⟩
    rw [isNew] at isOld
    cases isOld
  rw [eq_of_addProperty added, SchemaNode.HasDistinctKeys, List.map_append, List.map_singleton,
    List.nodup_append_comm]
  exact List.nodup_cons.mpr ⟨absent, distinct⟩

theorem hasDistinctKeys_addProperties
    {node extended : SchemaNode}
    {properties : List (String × SchemaNode)}
    (distinct : node.HasDistinctKeys)
    (added : addProperties node properties = .ok extended) :
    extended.HasDistinctKeys := by
  induction properties generalizing node with
  | nil =>
      cases added
      exact distinct
  | cons property rest inductionHypothesis =>
      unfold addProperties at added
      split at added
      · cases added
      · rename_i first
        exact inductionHypothesis (hasDistinctKeys_addProperty distinct first) added

theorem hasDistinctKeys_plainField
    {node extended : SchemaNode}
    {field : Field}
    (distinct : node.HasDistinctKeys)
    (added : source.plainField schemaOf id node field = .ok extended) :
    extended.HasDistinctKeys := by
  cases fieldExtends_of_plainField added with
  | own _ _ _ isNew =>
      refine hasDistinctKeys_addProperty ?_ isNew
      split <;> exact distinct
  | @embedded target _ _ _ _ _ embeds =>
      obtain ⟨withProperties, addedProperties, rfl⟩ := Except.exists_of_map_eq_ok embeds
      obtain ⟨required, demanded⟩ :=
        exists_eq_foldl_requireOnce withProperties (schemaOf target).required
      have stillDistinct := hasDistinctKeys_addProperties distinct addedProperties
      rw [demanded]
      exact stillDistinct

theorem hasDistinctKeys_foldlM_plainField
    {fields : List Field}
    {node extended : SchemaNode}
    (distinct : node.HasDistinctKeys)
    (added : fields.foldlM (source.plainField schemaOf id) node = .ok extended) :
    extended.HasDistinctKeys :=
  Except.foldlM_preserves (fun _ _ _ _ distinct added => hasDistinctKeys_plainField distinct added)
    distinct added

/-- The properties of the schema of a record have distinct keys, since a key that is there is
refused. -/
theorem hasDistinctKeys_of_plainFrom
    {declaration : Declaration}
    (resolved : source.graph.resolve? id = some declaration)
    (isRecord : declaration.shape.isRecord = true)
    {node : SchemaNode}
    (defined : source.plainFrom schemaOf id = .ok node) :
    node.HasDistinctKeys := by
  obtain ⟨withFields, added, same⟩ :=
    exists_foldlM_plainField_of_plainFrom resolved isRecord defined
  have empty : (SchemaNode.ofType .object).HasDistinctKeys := List.nodup_nil
  rw [SchemaNode.HasDistinctKeys, same]
  exact hasDistinctKeys_foldlM_plainField empty added

/-! ## Schemas that are built from each other -/

/-- Below a root every schema is built from the schemas of the declarations that it refers to, and
none fails. -/
def BuiltBelow
    (source : SchemaSource)
    (schemaOf : TypeId → SchemaNode)
    (root : TypeId) : Prop :=
  ∀ id, source.Reaches root id → source.plainFrom schemaOf id = .ok (schemaOf id)

theorem plainRef_of_stripPointers
    {type : TypeRef}
    {target : TypeId}
    (stripped : type.stripPointers = .named target) :
    source.plainRef schemaOf type = source.plainRef schemaOf (.named target) := by
  induction type with
  | named other => exact congrArg _ stripped
  | pointer inner inductionHypothesis => exact inductionHypothesis stripped
  | scalar kind => cases stripped
  | list element => cases stripped
  | map value => cases stripped

/-- The schema of a reference to a declaration is the schema of the declaration. -/
theorem eq_of_plainRef
    {type : TypeRef}
    {target : TypeId}
    {node : SchemaNode}
    (stripped : type.stripPointers = .named target)
    (defined : source.plainRef schemaOf type = .ok node) :
    node = schemaOf target := by
  rw [plainRef_of_stripPointers stripped, plainRef] at defined
  split at defined
  · cases defined
  · cases defined
    rfl

/-- An alias has the properties of what it stands for. -/
theorem exists_plainRef_of_synonym
    {declaration : Declaration}
    {next : TypeRef}
    (resolved : source.graph.resolve? id = some declaration)
    (isSynonym : declaration.shape = .synonym next)
    {node : SchemaNode}
    (defined : source.plainFrom schemaOf id = .ok node) :
    ∃ unmarked, source.plainRef schemaOf next = .ok unmarked ∧
      node.properties = unmarked.properties := by
  rw [plainFrom, resolved] at defined
  obtain ⟨unmarked, shaped, applied⟩ := Except.exists_of_bind_eq_ok defined
  rw [isSynonym] at shaped
  exact ⟨unmarked, shaped, (decorates_marked applied).properties⟩

/-- In an acyclic graph, whatever was called before, the schemas below a root on which nothing
failed are built from each other, and the root is answered with its own one. -/
theorem builtBelow_of_unfailed
    (acyclic : source.graph.IsAcyclic)
    (calls : List SchemaCall)
    (key : SchemaKey) :
    let answer := (source.synthesize key.id key.version).run (source.performedAll calls)
    (∀ id, source.Reaches key.id id → answer.2.hasFailed ⟨id, key.version⟩ = false) →
      answer.1 = SchemaNode.ofOutcome (source.plain acyclic key.id) ∧
        source.BuiltBelow (fun id => SchemaNode.ofOutcome (source.plain acyclic id))
          key.id := by
  intro answer unfailed
  obtain ⟨settled, finished⟩ :=
    (source.settled_performedAll calls).synthesize key.id key.version
  have idle := (source.settled_performedAll calls).runs.1
  obtain ⟨isPlain, holds, -⟩ := answersPlainly acyclic
    (activeAt_of_idle source key.version idle) (idleOn_of_idle idle)
    (holdsPlain_performedAll acyclic calls)
  refine ⟨isPlain, fun id reached => ?_⟩
  -- where nothing fails, a schema is built on everything that is met in it
  have buildsOn : source.BuildsOn answer.2 key.version key.id id := by
    induction reached with
    | refl => exact .refl
    | tail before refers inductionHypothesis =>
        exact inductionHypothesis.tail ⟨unfailed _ before, refers⟩
  have isFinished := settled.finished_of_buildsOn (finished ▸ rfl) buildsOn
  have noFailure := unfailed id reached
  rw [holds.failed, isFinished, Bool.true_and] at noFailure
  rw [← plain_eq acyclic id]
  dsimp only
  cases outcome : source.plain acyclic id with
  | ok node => rfl
  | error error =>
      rw [outcome] at noFailure
      cases noFailure

end SchemaSource
end MarkerManifests
