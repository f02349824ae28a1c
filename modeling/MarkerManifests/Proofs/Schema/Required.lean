import MarkerManifests.Proofs.Schema.Accounting
import MarkerManifests.Proofs.Schema.Parts
import MarkerManifests.Proofs.Schema.Properties

/-!
# Required keys

What a schema demands comes from the fields of its record and from the records that it embeds. A
field is demanded before its property is there and without a look at what is demanded already, and
an embedded record brings demands of its own. Still every schema demands each key once, and only
keys that it describes.
-/

namespace MarkerManifests
namespace SchemaNode

/-- A node demands each key once, and only keys of its properties. -/
structure RequiredFit (node : SchemaNode) : Prop where
  distinct : node.required.Nodup
  declared : ∀ key ∈ node.required, node.hasProperty key = true

variable {node extended : SchemaNode} {key : String}

theorem Blank.requiredFit (blank : node.Blank) : node.RequiredFit where
  distinct := blank.required ▸ List.nodup_nil
  declared := blank.required ▸ fun _ isRequired => absurd isRequired List.not_mem_nil

theorem hasProperty_of_subset
    (properties : node.properties ⊆ extended.properties)
    (isProperty : node.hasProperty key = true) :
    extended.hasProperty key = true := by
  obtain ⟨schema, member⟩ := hasProperty_eq_true_iff.mp isProperty
  exact hasProperty_eq_true_iff.mpr ⟨schema, properties member⟩

namespace RequiredFit

/-- More properties do no harm. -/
theorem of_subset
    (fit : node.RequiredFit)
    (properties : node.properties ⊆ extended.properties)
    (required : extended.required = node.required) :
    extended.RequiredFit where
  distinct := required ▸ fit.distinct
  declared key isRequired :=
    hasProperty_of_subset properties (fit.declared key (required ▸ isRequired))

/-- A new demand needs its property. -/
theorem of_append
    (fit : node.RequiredFit)
    (properties : node.properties ⊆ extended.properties)
    (required : extended.required = node.required ++ [key])
    (undemanded : key ∉ node.required)
    (isProperty : extended.hasProperty key = true) :
    extended.RequiredFit := by
  constructor
  · rw [required]
    exact List.nodup_append_comm.mpr (List.nodup_cons.mpr ⟨undemanded, fit.distinct⟩)
  · intro other isRequired
    rw [required] at isRequired
    rcases List.mem_append.mp isRequired with before | isKey
    · exact hasProperty_of_subset properties (fit.declared other before)
    · cases List.mem_singleton.mp isKey
      exact isProperty

end RequiredFit

end SchemaNode

namespace SchemaSource

open SchemaNode

variable {source : SchemaSource} {schemaOf : TypeId → SchemaNode} {id : TypeId}
variable {node extended schema : SchemaNode} {key : String} {fields : List Field}

/-! ## Fields -/

theorem requiredFit_addProperty
    (fit : node.RequiredFit)
    (added : addProperty node key schema = .ok extended) :
    extended.RequiredFit := by
  rw [eq_of_addProperty added]
  exact fit.of_subset (List.subset_append_left _ _) rfl

/-- A key that is demanded before its property is added was not demanded already, since the property
is new. -/
theorem requiredFit_addProperty_required
    (fit : node.RequiredFit)
    (added : addProperty { node with required := node.required ++ [key] } key schema =
      .ok extended) :
    extended.RequiredFit := by
  have isNew : node.hasProperty key = false := (hasProperty_eq_false_of_addProperty added :)
  have undemanded : key ∉ node.required := by
    intro demanded
    rw [fit.declared key demanded] at isNew
    cases isNew
  rw [eq_of_addProperty added]
  exact fit.of_append (List.subset_append_left _ _) rfl undemanded
    (hasProperty_eq_true_iff.mpr ⟨schema, List.mem_append_right _ List.mem_cons_self⟩)

theorem requiredFit_requireOnce
    (fit : node.RequiredFit)
    (isProperty : node.hasProperty key = true) :
    (requireOnce node key).RequiredFit := by
  unfold requireOnce
  split
  · exact fit
  · rename_i undemanded
    exact fit.of_append (List.Subset.refl _) rfl undemanded isProperty

theorem hasProperty_requireOnce (node : SchemaNode) (key other : String) :
    (requireOnce node key).hasProperty other = node.hasProperty other := by
  unfold requireOnce
  split <;> rfl

theorem requiredFit_foldl_requireOnce
    {keys : List String}
    (fit : node.RequiredFit)
    (areProperties : ∀ key ∈ keys, node.hasProperty key = true) :
    (keys.foldl requireOnce node).RequiredFit := by
  induction keys generalizing node with
  | nil => exact fit
  | cons key rest inductionHypothesis =>
      obtain ⟨isProperty, others⟩ := List.forall_mem_cons.mp areProperties
      refine inductionHypothesis (requiredFit_requireOnce fit isProperty) fun other isOther => ?_
      rw [hasProperty_requireOnce]
      exact others other isOther

/-- An embedded record brings the properties that it demands. -/
theorem requiredFit_embed
    {embedded : SchemaNode}
    (fit : node.RequiredFit)
    (embeddedFit : embedded.RequiredFit)
    (added : embed node embedded = .ok extended) :
    extended.RequiredFit := by
  obtain ⟨withProperties, addedProperties, rfl⟩ := Except.exists_of_map_eq_ok added
  rw [eq_of_addProperties addedProperties]
  refine requiredFit_foldl_requireOnce (fit.of_subset (List.subset_append_left _ _) rfl) ?_
  intro key isRequired
  obtain ⟨child, isProperty⟩ := hasProperty_eq_true_iff.mp (embeddedFit.declared key isRequired)
  exact hasProperty_eq_true_iff.mpr ⟨child, List.mem_append_right _ isProperty⟩

theorem requiredFit_plainField
    {field : Field}
    (fit : node.RequiredFit)
    (embeds : field.inline = true → ∀ target, field.type.stripPointers = .named target →
      (source.graph.resolve? target).isSome → (schemaOf target).RequiredFit)
    (defined : source.plainField schemaOf id node field = .ok extended) :
    extended.RequiredFit := by
  cases fieldExtends_of_plainField defined with
  | own _ _ _ added =>
      split at added
      · exact requiredFit_addProperty_required fit added
      · exact requiredFit_addProperty fit added
  | embedded isInline stripped resolved _ added =>
      exact requiredFit_embed fit (embeds isInline _ stripped (by rw [resolved]; rfl)) added

theorem requiredFit_foldlM_plainField
    (fit : node.RequiredFit)
    (embeds : ∀ field ∈ fields, field.inline = true → ∀ target,
      field.type.stripPointers = .named target → (source.graph.resolve? target).isSome →
        (schemaOf target).RequiredFit)
    (defined : fields.foldlM (source.plainField schemaOf id) node = .ok extended) :
    extended.RequiredFit :=
  Except.foldlM_preserves
    (fun field isField _ _ fit added => requiredFit_plainField fit (embeds field isField) added)
    fit defined

/-! ## Schemas -/

theorem stepsKeep_requiredFit (source : SchemaSource) : source.StepsKeep RequiredFit where
  blank _ blank := blank.requiredFit
  record schemaOf id fields node embeds defined := by
    obtain ⟨withFields, added, addedUnions⟩ := Except.exists_of_bind_eq_ok defined
    obtain ⟨unions, oneOf, anyOf, allOf, rfl⟩ := exists_eq_of_addUnions addedUnions
    have object : (ofType .object).RequiredFit := Blank.requiredFit ⟨rfl, rfl, rfl⟩
    have withFieldsFit : withFields.RequiredFit := by
      refine requiredFit_foldlM_plainField object (fun field isKept => ?_) added
      obtain ⟨isField, unskipped⟩ := List.mem_filter.mp isKept
      exact embeds field isField (Bool.not_eq_true' _ ▸ unskipped)
    exact withFieldsFit.of_subset (List.Subset.refl _) rfl
  marked _ _ _ _ fit applied := by
    have keeps := keepsFrame_applyMarkers applied
    exact fit.of_subset (keeps.properties ▸ List.Subset.refl _) keeps.required
  described doc node fit := by
    have keeps := source.keepsFrame_withDescription doc node
    exact fit.of_subset (keeps.properties ▸ List.Subset.refl _) keeps.required

/-- The root of a resource has the same keys, and its metadata demand nothing. -/
theorem everyPart_requiredFit_rootSchema
    (every : node.EveryPart RequiredFit) :
    (ResourceFamily.rootSchema node).EveryPart RequiredFit := by
  obtain ⟨here, below⟩ := everyPart_iff.mp every
  refine everyPart_iff.mpr ⟨⟨here.distinct, fun key isRequired => ?_⟩, ?_⟩
  · rw [ResourceFamily.hasProperty_rootSchema]
    exact here.declared key isRequired
  · refine ⟨fun key child isProperty => ?_, below.items, below.additionalProperties⟩
    obtain ⟨⟨name, original⟩, isOriginal, same⟩ := List.mem_map.mp isProperty
    dsimp only at same
    split at same
    · cases same
      exact everyPart_iff.mpr ⟨Blank.requiredFit ⟨rfl, rfl, rfl⟩, everyPartBelow_of_leaf⟩
    · cases same
      exact below.properties _ _ isOriginal

/-- The versions of definitions have the finished schemas of their declarations. -/
theorem exists_finished_of_mem_versions
    (source : SchemaSource)
    (calls : List SchemaCall) :
    let result := source.defineResources.run (source.performedAll calls)
    ∀ definition ∈ result.1.1, ∀ version ∈ definition.versions,
      ∃ key node, result.2.finished? key = some node ∧
        version.schema = ResourceFamily.rootSchema node := by
  intro result definition listed version isVersion
  obtain ⟨families, gathered, definitions, -⟩ := source.exists_gathered_defineResources calls
  rw [definitions] at listed
  obtain ⟨family, member, made⟩ := List.mem_filterMap.mp listed
  have described := gathered.forall₂_versions member (ResourceFamily.defined_of_definition? made)
  obtain ⟨key, -, -, node, finished, schema⟩ :=
    exists_forall₂_iff.mp ⟨_, described.flip⟩ version isVersion
  exact ⟨key, node, finished, schema⟩

/-- Whatever was called before, all parts of an answer demand each key once and only keys of their
properties, and so do all parts of the versions of resource definitions. -/
theorem requiredFit_of_isPartOf (source : SchemaSource) (calls : List SchemaCall) :
    (∀ key : SchemaKey,
      let answer := (source.synthesize key.id key.version).run (source.performedAll calls)
      ∀ part : SchemaNode, part.IsPartOf answer.1 → part.RequiredFit) ∧
    let result := source.defineResources.run (source.performedAll calls)
    ∀ definition ∈ result.1.1, ∀ version ∈ definition.versions,
      ∀ part : SchemaNode, part.IsPartOf version.schema → part.RequiredFit := by
  have keeps := source.stepsKeep_requiredFit
  constructor
  · exact fun key => keeps.everyPart_synthesize calls key
  · intro result definition listed version isVersion
    obtain ⟨key, node, finished, schema⟩ :=
      source.exists_finished_of_mem_versions calls definition listed version isVersion
    have settled : source.Settled result.2 :=
      (source.settled_performedAll calls).calls [.defineResources]
    rw [schema]
    exact everyPart_requiredFit_rootSchema (keeps.everyPart_of_finished settled finished)

/-! ## A resource with an embedded part -/

/-- A resource that embeds a record with two of its fields, one of which may be left out, and that
is demanded to have metadata although they may be left out. -/
def resourceWithHead : SchemaSource where
  graph :=
    { packages := [{
        name := "p"
        types := [
          { name := "Widget", package := "p"
            shape := .record [
              { name := "metadata", type := .named ⟨"p", "Meta"⟩, key := "metadata",
                optional := true },
              { name := "Head", type := .named ⟨"p", "Head"⟩, key := "Head", inline := true },
              { name := "spec", type := .scalar .string, key := "spec" }] },
          { name := "Head", package := "p"
            shape := .record [
              { name := "apiVersion", type := .scalar .string, key := "apiVersion",
                optional := true },
              { name := "kind", type := .scalar .string, key := "kind" }] },
          { name := "Meta", package := "p"
            shape := .record
              [{ name := "name", type := .scalar .string, key := "name" }] }] }] }
  index :=
    { entries := [
        (.package "p", [
          { name := Vocabulary.groupName, location := .package "p", consumer := .schema,
            arguments := [(Definition.unnamed, .string "apps.example.com")] },
          { name := Vocabulary.versionName, location := .package "p", consumer := .schema,
            arguments := [(Definition.unnamed, .string "v1")] }]),
        (.declaration ⟨"p", "Widget"⟩, [
          { name := Vocabulary.resource, location := .declaration ⟨"p", "Widget"⟩,
            consumer := .schema, arguments := [] }]),
        (.field ⟨"p", "Widget"⟩ "metadata", [
          { name := Vocabulary.required, location := .field ⟨"p", "Widget"⟩ "metadata",
            consumer := .schema, arguments := [] }])] }
  gates := .empty

theorem exists_required_resourceWithHead :
    ∃ definition ∈ (resourceWithHead.defineResources.run (resourceWithHead.performedAll [])).1.1,
      ∃ version ∈ definition.versions,
        version.schema.required = ["metadata", "kind", "spec"] := by
  decide +kernel

/-- The demands of the embedded record stand between those of the fields around it, and all of them
are met by properties. -/
theorem requiredFit_resourceWithHead :
    let result := resourceWithHead.defineResources.run (resourceWithHead.performedAll [])
    ∃ definition ∈ result.1.1, ∃ version ∈ definition.versions,
      version.schema.required = ["metadata", "kind", "spec"] ∧ version.schema.RequiredFit := by
  have defined := exists_required_resourceWithHead
  have fit := (requiredFit_of_isPartOf resourceWithHead []).2
  dsimp only at fit ⊢
  generalize resourceWithHead.defineResources.run (resourceWithHead.performedAll []) = result
    at defined fit ⊢
  obtain ⟨definition, listed, version, isVersion, required⟩ := defined
  exact ⟨definition, listed, version, isVersion, required,
    fit definition listed version isVersion _ .self⟩

end SchemaSource
end MarkerManifests
