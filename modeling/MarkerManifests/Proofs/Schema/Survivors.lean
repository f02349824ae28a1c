import MarkerManifests.Proofs.Schema.Frame
import MarkerManifests.Proofs.Schema.Properties
import MarkerManifests.Proofs.Schema.Unions

/-!
# Members that survive

The unions of a record that did not fail are those that its markers describe after the fields that
were left out. These are known by name: the key of a field that is gated off, or the name of a field
that is never serialized. A union has all listed keys that are properties unless a field that was
left out has the name of a field that was kept.
-/

namespace MarkerManifests

namespace SchemaNode

/-! ## Unions of surviving members -/

/-- The keys that a marker lists and that are properties of a node, without repetitions. -/
def listedProperties (node : SchemaNode) (marker : Marker) : List String :=
  ((marker.list Definition.unnamed).filter node.hasProperty).eraseDups

/-- A marker is heeded in full if every key that it lists and that is a property is a member of a
union with its policy, and this union consists of all such keys. -/
def HeedsInFull (node : SchemaNode) (policy : UnionPolicy) (marker : Marker) : Prop :=
  ∀ key ∈ marker.list Definition.unnamed, node.hasProperty key = true →
    ∃ group ∈ node.unions, group.policy = policy ∧ key ∈ group.members ∧
      group.members = node.listedProperties marker

/-- Whether a marker is heeded in full depends on properties and unions only. -/
theorem heedsInFull_congr
    {node other : SchemaNode}
    {policy : UnionPolicy}
    {marker : Marker}
    (properties : node.properties = other.properties)
    (unions : node.unions = other.unions) :
    node.HeedsInFull policy marker ↔ other.HeedsInFull policy marker := by
  have hasProperty : node.hasProperty = other.hasProperty := by
    funext key
    rw [SchemaNode.hasProperty, SchemaNode.hasProperty, properties]
  rw [HeedsInFull, HeedsInFull, listedProperties, listedProperties, hasProperty, unions]

/-- A marker is heeded in full unless the name of something that was left out is the key of a
property. -/
theorem heedsInFull_iff
    {node extended : SchemaNode}
    {skipped : List String}
    {markers : Markers}
    {marker : Marker}
    {policy : UnionPolicy}
    (fresh : node.unions = [])
    (added : node.addUnions skipped markers = .ok extended)
    (isMarker : marker ∈ markers)
    (demands : UnionPolicy.ofMarker? marker.name = some policy) :
    extended.HeedsInFull policy marker ↔
      ∀ key ∈ marker.list Definition.unnamed, extended.hasProperty key = true →
        key ∉ skipped := by
  obtain ⟨known, -, isExtended⟩ := addUnions_eq_ok_iff.mp added
  have recorded : ∀ group, group ∈ extended.unions ↔
      ∃ other ∈ markers, other.union? skipped = some group := fun group => by
    rw [unions_addUnions fresh added, List.mem_eraseDups, Markers.mem_unions_iff]
  constructor
  · intro heeded key listed isProperty isSkipped
    obtain ⟨group, isRecorded, -, member, -⟩ := heeded key listed isProperty
    obtain ⟨other, -, described⟩ := (recorded group).mp isRecorded
    exact (Marker.unites_iff.mpr ⟨group, described, rfl, member⟩).isKept isSkipped
  · intro survives key listed isProperty
    have unites : marker.Unites skipped policy key :=
      ⟨demands, listed, survives key listed isProperty⟩
    obtain ⟨group, described, samePolicy, member⟩ := Marker.unites_iff.mp unites
    refine ⟨group, (recorded group).mpr ⟨marker, isMarker, described⟩, samePolicy, member, ?_⟩
    rw [(Marker.union?_eq_some_iff.mp described).2.1, Marker.unitedKeys, listedProperties]
    refine congrArg List.eraseDups (List.filter_congr fun other isListed => ?_)
    -- what was not left out is a property, since the marker was accepted
    rw [Bool.eq_iff_iff, decide_eq_true_eq]
    refine ⟨fun isKept => ?_, survives other isListed⟩
    rw [hasProperty, isExtended, properties_foldl_record]
    exact known marker isMarker policy other ⟨demands, isListed, isKept⟩

end SchemaNode

namespace SchemaSource

variable {source : SchemaSource} {schemaOf : TypeId → SchemaNode} {id : TypeId}

/-- The names under which unions know the fields that are left out of a record. -/
def skippedNames (source : SchemaSource) (declaration : Declaration) : List String :=
  (declaration.fields.filter (source.isSkipped declaration.id)).map unionName

theorem mem_skippedNames_iff {declaration : Declaration} {name : String} :
    name ∈ source.skippedNames declaration ↔
      ∃ field ∈ declaration.fields, source.isSkipped declaration.id field = true ∧
        unionName field = name := by
  simp [skippedNames, and_assoc]

/-- The schema of a record has the properties and the unions that come of adding unions to a node
without unions. -/
theorem exists_addUnions_of_plainFrom
    {declaration : Declaration}
    (resolved : source.graph.resolve? id = some declaration)
    (isRecord : declaration.shape.isRecord = true)
    {node : SchemaNode}
    (defined : source.plainFrom schemaOf id = .ok node) :
    ∃ withFields extended : SchemaNode, withFields.unions = [] ∧
      withFields.addUnions (source.skippedNames declaration)
        (source.index.declaration declaration.id) = .ok extended ∧
      node.properties = extended.properties ∧ node.unions = extended.unions := by
  rw [plainFrom, resolved] at defined
  obtain ⟨unmarked, shaped, applied⟩ := Except.exists_of_bind_eq_ok defined
  obtain ⟨fields, shape⟩ := Shape.exists_eq_record isRecord
  rw [shape] at shaped
  obtain ⟨withFields, added, addedUnions⟩ := Except.exists_of_bind_eq_ok shaped
  obtain ⟨properties, required, -, fresh⟩ := exists_addedBy_of_foldlM_plainField added
  refine ⟨withFields, unmarked, ?_, ?_, ?_, ?_⟩
  · rw [fresh]
    rfl
  · rwa [skippedNames, Declaration.fields, shape]
  · exact (decorates_marked applied).properties
  · exact ((source.keepsFrame_withDescription declaration.doc unmarked).trans
      (SchemaNode.keepsFrame_applyMarkers applied)).unions

/-- Whatever was called before, a union marker of a record that did not fail is heeded in full
exactly if no key that it lists is both the key of a property and the name of a field that was left
out: then a recorded union with the policy of the marker consists of the listed keys that are
properties, in order and without repetitions. -/
theorem heedsInFull_iff_forall_skipped
    (source : SchemaSource)
    (calls : List SchemaCall)
    (key : SchemaKey)
    {declaration : Declaration}
    (resolved : source.graph.resolve? key.id = some declaration)
    (isRecord : declaration.shape.isRecord = true) :
    let answer := (source.synthesize key.id key.version).run (source.performedAll calls)
    answer.2.hasFailed key = false →
      ∀ marker ∈ source.index.declaration declaration.id, ∀ policy,
        UnionPolicy.ofMarker? marker.name = some policy →
          (answer.1.HeedsInFull policy marker ↔
            ∀ listed ∈ marker.list Definition.unnamed, answer.1.hasProperty listed = true →
              ∀ field ∈ declaration.fields, source.isSkipped declaration.id field = true →
                unionName field ≠ listed) := by
  intro answer unfailed marker isMarker policy demands
  obtain ⟨settled, finished⟩ :=
    (source.settled_performedAll calls).synthesize key.id key.version
  obtain ⟨schemaOf, made, -⟩ := settled.exists_madeFrom finished unfailed
  obtain ⟨withFields, extended, fresh, added, sameProperties, sameUnions⟩ :=
    exists_addUnions_of_plainFrom resolved isRecord made.plain
  rw [SchemaNode.heedsInFull_congr sameProperties sameUnions,
    SchemaNode.heedsInFull_iff fresh added isMarker demands]
  refine forall₂_congr fun listed _ => ?_
  rw [SchemaNode.hasProperty, SchemaNode.hasProperty, sameProperties, mem_skippedNames_iff]
  push Not
  rfl

/-! ## A source with two backends -/

/-- A marker that puts a field behind a gate. -/
def gateMarker (id : TypeId) (field gate : String) : Marker where
  name := Vocabulary.featureGate
  location := .field id field
  consumer := .schema
  arguments := [(Definition.unnamed, .gate (.literal gate))]

/-- A record with a backend, behind a gate that is on, and a second backend with the given key,
behind a gate that is off. Of the listed keys exactly one is demanded. -/
def sourceWithBackends (beta : String) (listed : List String) : SchemaSource where
  graph :=
    { packages := [{
        name := "p"
        types := [
          { name := "Source", package := "p"
            shape := .record [
              { name := "url", type := .scalar .string, key := "url", optional := true },
              { name := "stable", type := .scalar .string, key := "backend", optional := true },
              { name := "beta", type := .scalar .string, key := beta, optional := true }] }] }]
      distinct := List.nodup_singleton _ }
  index :=
    { entries := [
        (.declaration ⟨"p", "Source"⟩,
          [SchemaNode.unionMarker Vocabulary.exactlyOneOf listed]),
        (.field ⟨"p", "Source"⟩ "stable", [gateMarker ⟨"p", "Source"⟩ "stable" "Stable"]),
        (.field ⟨"p", "Source"⟩ "beta", [gateMarker ⟨"p", "Source"⟩ "beta" "Beta"])] }
  gates := Gate.State.empty.set "Stable" true

/-- The key of a source at a version. -/
def sourceKey : SchemaKey :=
  ⟨⟨"p", "Source"⟩, "v1"⟩

/-- If the backends have different keys, the union has the one that is there. -/
theorem heedsInFull_preview :
    let answer := ((sourceWithBackends "preview" ["url", "backend", "preview"]).synthesize
      sourceKey.id sourceKey.version).run
        ((sourceWithBackends "preview" ["url", "backend", "preview"]).performedAll
          [.synthesizeAll "v1"])
    answer.2.hasFailed sourceKey = false ∧ answer.1.hasProperty "backend" = true ∧
      ∃ group ∈ answer.1.unions, group.policy = .exactlyOne ∧ "backend" ∈ group.members ∧
        group.members = ["url", "backend"] := by
  intro answer
  have unfailed : answer.2.hasFailed sourceKey = false := by decide +kernel
  have hasBackend : answer.1.hasProperty "backend" = true := by decide +kernel
  have listed : answer.1.listedProperties
      (SchemaNode.unionMarker Vocabulary.exactlyOneOf ["url", "backend", "preview"]) =
        ["url", "backend"] := by decide +kernel
  have survives := heedsInFull_iff_forall_skipped
    (sourceWithBackends "preview" ["url", "backend", "preview"]) [.synthesizeAll "v1"] sourceKey
    rfl rfl unfailed
    (SchemaNode.unionMarker Vocabulary.exactlyOneOf ["url", "backend", "preview"])
    (by decide +kernel) .exactlyOne (by decide +kernel)
  have heeded := survives.mpr (by decide +kernel) "backend" (by decide +kernel) hasBackend
  refine ⟨unfailed, hasBackend, ?_⟩
  rw [← listed]
  with_reducible exact heeded

/-- If both backends have one key, the union loses the backend that is there, since the other one is
not. -/
theorem exists_surviving_member_missing :
    ¬ ∀ (source : SchemaSource) (calls : List SchemaCall) (key : SchemaKey)
        (declaration : Declaration),
      source.graph.resolve? key.id = some declaration → declaration.shape.isRecord = true →
        let answer := (source.synthesize key.id key.version).run (source.performedAll calls)
        answer.2.hasFailed key = false →
          ∀ marker ∈ source.index.declaration declaration.id, ∀ policy,
            UnionPolicy.ofMarker? marker.name = some policy →
              answer.1.HeedsInFull policy marker := by
  intro heeded
  have united := heeded (sourceWithBackends "backend" ["url", "backend"]) [] sourceKey _ rfl rfl
    (by decide +kernel)
    (SchemaNode.unionMarker Vocabulary.exactlyOneOf ["url", "backend"]) (by decide +kernel)
    .exactlyOne (by decide +kernel) "backend" (by decide +kernel) (by decide +kernel)
  revert united
  decide +kernel

end SchemaSource
end MarkerManifests
