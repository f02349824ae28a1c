import MarkerManifests.Proofs.Gate.Evaluation
import MarkerManifests.Proofs.Schema.UnionFailures

/-!
# Unions behind gates

With all gates on nothing is left out of a record but what is never serialized, so its unions have
all the members that they can have. In other gates the fields of the record that are gated off take
their names along out of its unions. Members that come from an embedded record are not known by name
where they are missing, so the record fails where one of them is gated off, and it never fails
because of a field of its own.
-/

namespace MarkerManifests

namespace MarkerIndex

/-- The gates that the markers of an index name. -/
def gateNames (index : MarkerIndex) : List String :=
  index.entries.flatMap fun entry => entry.2.flatMap fun marker =>
    (marker.arguments.filterMap (·.2.gate?)).flatMap (·.gateNames.toList)

/-- Every gate that a marker names is on. -/
def IsOpen (index : MarkerIndex) (gates : Gate.State) : Prop :=
  ∀ name ∈ index.gateNames, gates.isEnabled name = true

variable {index : MarkerIndex} {gates : Gate.State}

theorem mem_gateNames_of_gate?
    {location : Location}
    {marker : Marker}
    (isMarker : marker ∈ index.markersAt location)
    {key : String}
    {expr : Gate.Expr}
    (isGate : marker.gate? key = some expr)
    {name : String}
    (named : name ∈ expr.gateNames) :
    name ∈ index.gateNames := by
  unfold markersAt at isMarker
  split at isMarker
  · rename_i other markers found
    obtain ⟨argument, isArgument, isExpr⟩ := Option.bind_eq_some_iff.mp isGate
    obtain ⟨entry, isEntry, rfl⟩ := Option.map_eq_some_iff.mp isArgument
    refine List.mem_flatMap.mpr ⟨_, List.mem_of_find?_eq_some found,
      List.mem_flatMap.mpr ⟨marker, isMarker, List.mem_flatMap.mpr ⟨expr, ?_, named⟩⟩⟩
    exact List.mem_filterMap.mpr ⟨entry, List.mem_of_find?_eq_some isEntry, isExpr⟩
  · cases isMarker

/-- With all gates on nothing is gated off. -/
theorem IsOpen.isGatedOff_eq_false
    (isOpen : index.IsOpen gates)
    (location : Location)
    (name : String) :
    (index.markersAt location).isGatedOff name gates = false := by
  unfold Markers.isGatedOff
  split
  · rename_i expr isGate
    obtain ⟨marker, first, isExpr⟩ := Option.bind_eq_some_iff.mp isGate
    have isMarker : marker ∈ index.markersAt location := List.mem_of_find?_eq_some first
    rw [Gate.Expr.eval_of_forall_isEnabled fun name named =>
      isOpen name (mem_gateNames_of_gate? isMarker isExpr named), Bool.not_true]
  · rfl

end MarkerIndex

namespace SchemaSource

variable {source : SchemaSource} {declaration : Declaration} {field : Field}

/-- The same source in other gates. -/
def withGates (source : SchemaSource) (gates : Gate.State) : SchemaSource :=
  { source with gates }

/-- With all gates on only fields that are never serialized are left out. -/
theorem isSkipped_of_isOpen
    (isOpen : source.index.IsOpen source.gates)
    (id : TypeId)
    (field : Field) :
    source.isSkipped id field = field.isOmitted := by
  rw [isSkipped, MarkerIndex.field, isOpen.isGatedOff_eq_false, Bool.or_false]

/-- What is left out with all gates on is left out in all gates. -/
theorem isSkipped_withGates
    (isOpen : source.index.IsOpen source.gates)
    (gates : Gate.State)
    {id : TypeId}
    (isSkipped : source.isSkipped id field = true) :
    (source.withGates gates).isSkipped id field = true := by
  rw [isSkipped_of_isOpen isOpen] at isSkipped
  rw [SchemaSource.isSkipped, isSkipped, Bool.true_or]

theorem skippedNames_subset_withGates
    (isOpen : source.index.IsOpen source.gates)
    (gates : Gate.State)
    (declaration : Declaration) :
    source.skippedNames declaration ⊆ (source.withGates gates).skippedNames declaration := by
  intro name isSkippedName
  obtain ⟨field, isField, isSkipped, named⟩ := mem_skippedNames_iff.mp isSkippedName
  exact mem_skippedNames_iff.mpr ⟨field, isField, isSkipped_withGates isOpen gates isSkipped, named⟩

theorem unionName_of_mem_keptFields (isKept : field ∈ source.keptFields declaration) :
    unionName field = field.key := by
  have notSkipped : source.isSkipped declaration.id field = false :=
    (Bool.not_eq_true' _).mp (List.mem_filter.mp isKept).2
  have serialized : field.isOmitted = false := (Bool.or_eq_false_iff.mp notSkipped).1
  rw [unionName, serialized]
  rfl

/-- A field whose name unions keep is kept. -/
theorem mem_keptFields_of_not_mem_skippedNames
    (isField : field ∈ declaration.fields)
    (isKeptName : unionName field ∉ source.skippedNames declaration) :
    field ∈ source.keptFields declaration := by
  refine List.mem_filter.mpr ⟨isField, (Bool.not_eq_true' _).mpr ?_⟩
  refine Bool.eq_false_iff.mpr fun isSkipped => isKeptName ?_
  exact mem_skippedNames_iff.mpr ⟨field, isField, isSkipped, rfl⟩

/-- A member that a record has lost in other gates: with all gates on an embedded record contributes
it, no field of the record itself has its name, and in the other gates nothing contributes it. -/
structure Loses
    (source other : SchemaSource)
    (embeds otherEmbeds : TypeId → Prop)
    (declaration : Declaration)
    (member : String) : Prop where
  embedded : ∃ field ∈ source.keptFields declaration, field.inline = true ∧
    ∃ target, field.type.stripPointers = .named target ∧ embeds target ∧
      source.Contributes embeds target member
  notOwn : ∀ field ∈ declaration.fields, field.inline = false → unionName field ≠ member
  missing : ¬ other.Contributes otherEmbeds declaration.id member

/-- What is not left out in other gates and contributed with all gates on, but not in the other
gates, has been lost. -/
theorem loses_of_not_contributes
    {embeds otherEmbeds : TypeId → Prop}
    {gates : Gate.State}
    {member : String}
    (resolved : source.graph.resolve? declaration.id = some declaration)
    (contributes : source.Contributes embeds declaration.id member)
    (isKeptName : member ∉ (source.withGates gates).skippedNames declaration)
    (missing : ¬ (source.withGates gates).Contributes otherEmbeds declaration.id member) :
    source.Loses (source.withGates gates) embeds otherEmbeds declaration member := by
  have notOwn : ∀ field ∈ declaration.fields, field.inline = false → unionName field ≠ member := by
    rintro field isField notInline rfl
    have isKept := mem_keptFields_of_not_mem_skippedNames isField isKeptName
    exact missing (unionName_of_mem_keptFields isKept ▸ .own resolved isKept notInline)
  refine ⟨?_, notOwn, missing⟩
  cases contributes with
  | own same isKept notInline =>
      cases resolved.symm.trans same
      exact absurd (unionName_of_mem_keptFields isKept)
        (notOwn _ (List.mem_of_mem_filter isKept) notInline)
  | embedded same isKept isInline stripped allowed contributes =>
      cases resolved.symm.trans same
      exact ⟨_, isKept, isInline, _, stripped, allowed, contributes⟩

/-- Let a record be synthesized without error with all gates on, and let the gates be switched in
any way. Then the record fails because of a member of a union only if it has lost the member, and
it does fail if it has lost a member that its markers unite. If it does not fail, its unions are
those that its markers describe without the names of the fields that are left out, those that are
gated off among them. -/
theorem loses_of_unknownUnionMember
    (source : SchemaSource)
    (calls : List SchemaCall)
    (key : SchemaKey)
    {declaration : Declaration}
    (resolved : source.graph.resolve? key.id = some declaration)
    (isRecord : declaration.shape.isRecord = true)
    (isOpen : source.index.IsOpen source.gates)
    (finished : ((source.performedAll calls).finished? key).isSome)
    (unfailed : (source.performedAll calls).hasFailed key = false)
    (gates : Gate.State)
    (others : List SchemaCall)
    (version : String) :
    let other := source.withGates gates
    let table := other.performedAll others
    let embeds := fun target => (source.performedAll calls).hasFailed ⟨target, key.version⟩ = false
    let otherEmbeds := fun target => table.hasFailed ⟨target, version⟩ = false
    (∀ events, other.Ledger events table → ∀ member,
        .ended ⟨key.id, version⟩ (.error (.unknownUnionMember member)) ∈ events →
          source.Loses other embeds otherEmbeds declaration member) ∧
      ∀ node, table.finished? ⟨key.id, version⟩ = some node →
        (∀ marker ∈ source.index.declaration key.id, ∀ policy member,
          marker.Unites (other.skippedNames declaration) policy member →
            source.Loses other embeds otherEmbeds declaration member →
              table.hasFailed ⟨key.id, version⟩ = true) ∧
        (table.hasFailed ⟨key.id, version⟩ = false → ∀ group, group ∈ node.unions ↔
          ∃ marker ∈ source.index.declaration key.id,
            marker.union? (other.skippedNames declaration) = some group) := by
  intro other table embeds otherEmbeds
  have settled : other.Settled table := other.settled_performedAll others
  have sameId : declaration.id = key.id := TypeGraph.id_of_resolve? resolved
  have resolvedOther : other.graph.resolve? (⟨key.id, version⟩ : SchemaKey).id =
      some declaration := resolved
  refine ⟨fun events ledger member ended => ?_, fun node isFinished => ⟨?_, fun succeeded => ?_⟩⟩
  · obtain ⟨_, same, ⟨marker, isMarker, policy, unites⟩, missing⟩ :=
      settled.not_contributes_of_ended ledger.trace ended
    cases resolvedOther.symm.trans same
    obtain ⟨openNode, isFinished⟩ := Option.isSome_iff_exists.mp finished
    have united : marker.Unites (source.skippedNames declaration) policy member :=
      ⟨unites.demands, unites.listed, fun isSkipped =>
        unites.isKept (skippedNames_subset_withGates isOpen gates declaration isSkipped)⟩
    have contributes := ((source.settled_performedAll calls).contributes_of_unites resolved isRecord
      isFinished unfailed).1 marker isMarker policy member united
    rw [← sameId] at contributes missing
    exact loses_of_not_contributes (sameId ▸ resolved) contributes unites.isKept missing
  · intro marker isMarker policy member unites loses
    by_contra notFailed
    have contributes := (settled.contributes_of_unites resolvedOther isRecord isFinished
      (Bool.eq_false_iff.mpr notFailed)).1 marker (sameId ▸ isMarker) policy member unites
    exact loses.missing (sameId ▸ contributes)
  · have unions := (settled.contributes_of_unites resolvedOther isRecord isFinished succeeded).2
    rw [sameId] at unions
    exact unions

/-! ## A source that embeds a registry -/

/-- A record with a field behind a gate and an embedded record whose field is behind another gate.
Exactly one of all three fields is demanded. -/
def sourceWithRegistry : SchemaSource where
  graph :=
    { packages := [{
        name := "p"
        types := [
          { name := "Source", package := "p"
            shape := .record [
              { name := "git", type := .scalar .string, key := "git", optional := true },
              { name := "bucket", type := .scalar .string, key := "bucket", optional := true },
              { name := "Registry", type := .named ⟨"p", "Registry"⟩, key := "Registry",
                inline := true }] },
          { name := "Registry", package := "p"
            shape := .record
              [{ name := "oci", type := .scalar .string, key := "oci", optional := true }] }] }] }
  index :=
    { entries := [
        (.declaration ⟨"p", "Source"⟩,
          [SchemaNode.unionMarker Vocabulary.exactlyOneOf ["git", "bucket", "oci"]]),
        (.field ⟨"p", "Source"⟩ "bucket", [gateMarker ⟨"p", "Source"⟩ "bucket" "Bucket"]),
        (.field ⟨"p", "Registry"⟩ "oci", [gateMarker ⟨"p", "Registry"⟩ "oci" "Oci"])] }
  gates := (Gate.State.empty.set "Oci" true).set "Bucket" true

theorem isOpen_sourceWithRegistry :
    sourceWithRegistry.index.IsOpen sourceWithRegistry.gates := by
  unfold MarkerIndex.IsOpen
  decide +kernel

/-- With all gates off the source fails because of the member that the registry lacks. -/
theorem exists_ended_sourceWithRegistry :
    ∃ events, (sourceWithRegistry.withGates .empty).Ledger events
        ((sourceWithRegistry.withGates .empty).performedAll [.synthesize sourceKey.id "v1"]) ∧
      .ended sourceKey (.error (.unknownUnionMember "oci")) ∈ events := by
  let closed := sourceWithRegistry.withGates .empty
  have activeAt : ({} : SchemaTable).ActiveAt closed "v1" := closed.activeAt_of_idle "v1" rfl
  obtain ⟨events, trace⟩ := exists_trace_of_new sourceKey.id activeAt rfl List.not_mem_nil
  have outcome : ((closed.build (closed.synthesize · "v1") sourceKey.id).run.run
      (({} : SchemaTable).begin ⟨sourceKey.id, "v1"⟩)).1.map (fun _ => ()) =
        .error (.unknownUnionMember "oci") := by decide +kernel
  rw [Except.map_eq_error_iff] at outcome
  rw [outcome] at trace
  exact ⟨_, trace.ledger (closed.settled_performedAll [.synthesize sourceKey.id "v1"]).runs.1,
    List.mem_append_right _ List.mem_cons_self⟩

/-- With all gates off the source has lost the member of the registry. With the gate of the registry
on it fails for no member, and its union is that of the two fields that are there. -/
theorem loses_of_unknownUnionMember_registry :
    let closed := sourceWithRegistry.withGates .empty
    let table := closed.performedAll [.synthesize sourceKey.id "v1"]
    let narrowed := sourceWithRegistry.withGates (Gate.State.empty.set "Oci" true)
    (∃ declaration, sourceWithRegistry.Loses closed
        (fun target => (sourceWithRegistry.performedAll [.synthesizeAll "v1"]).hasFailed
          ⟨target, "v1"⟩ = false)
        (fun target => table.hasFailed ⟨target, "v1"⟩ = false) declaration "oci") ∧
      ∃ node, (narrowed.performedAll [.synthesize sourceKey.id "v1"]).finished? sourceKey =
          some node ∧
        ⟨.exactlyOne, ["git", "oci"]⟩ ∈ node.unions := by
  intro closed table narrowed
  have finished : ((sourceWithRegistry.performedAll [.synthesizeAll "v1"]).finished?
      sourceKey).isSome := by decide +kernel
  have unfailed : (sourceWithRegistry.performedAll [.synthesizeAll "v1"]).hasFailed
      sourceKey = false := by decide +kernel
  have switched := loses_of_unknownUnionMember sourceWithRegistry [.synthesizeAll "v1"] sourceKey
    rfl rfl isOpen_sourceWithRegistry finished unfailed
  constructor
  · obtain ⟨events, ledger, ended⟩ := exists_ended_sourceWithRegistry
    exact ⟨_, (switched .empty [.synthesize sourceKey.id "v1"] "v1").1 events ledger "oci" ended⟩
  · have isFinished : ((narrowed.performedAll [.synthesize sourceKey.id "v1"]).finished?
        sourceKey).isSome := by decide +kernel
    obtain ⟨node, isNode⟩ := Option.isSome_iff_exists.mp isFinished
    refine ⟨node, isNode, ?_⟩
    have unions := ((switched (Gate.State.empty.set "Oci" true) [.synthesize sourceKey.id "v1"]
      "v1").2 node isNode).2 (by decide +kernel)
    exact (unions ⟨.exactlyOne, ["git", "oci"]⟩).mpr
      ⟨SchemaNode.unionMarker Vocabulary.exactlyOneOf ["git", "bucket", "oci"],
        by decide +kernel, by decide +kernel⟩

/-- A record that is fine with all gates on may fail for a member of a union if gates are switched
off. -/
theorem exists_union_broken_by_gates :
    ¬ ∀ (source : SchemaSource) (calls : List SchemaCall) (key : SchemaKey)
        (declaration : Declaration),
      source.graph.resolve? key.id = some declaration → declaration.shape.isRecord = true →
        source.index.IsOpen source.gates → ((source.performedAll calls).finished? key).isSome →
          (source.performedAll calls).hasFailed key = false →
            ∀ (gates : Gate.State) (others : List SchemaCall) (events : List SchemaEvent),
              (source.withGates gates).Ledger events
                ((source.withGates gates).performedAll others) →
                ∀ member, .ended key (.error (.unknownUnionMember member)) ∉ events := by
  intro unbroken
  obtain ⟨events, ledger, ended⟩ := exists_ended_sourceWithRegistry
  exact unbroken sourceWithRegistry [.synthesizeAll "v1"] sourceKey _ rfl rfl
    isOpen_sourceWithRegistry (by decide +kernel) (by decide +kernel) .empty _ events ledger "oci"
    ended

end SchemaSource
end MarkerManifests
