import MarkerManifests.Proofs.Metrics.Entries
import MarkerManifests.Proofs.Metrics.Roots
import MarkerManifests.Proofs.Schema.Descent

/-!
# Paths of metrics

Metrics and schemas walk through the declarations of a graph each on its own. Where nothing fails,
the path at which the walk of metrics meets a field leads through the properties of the schema of
the root: what the walk enters for a field is what the schema has below the key of the field, or,
for an embedded record, at the same place.
-/

namespace MarkerManifests

namespace MetricOccurrence

/-- The metrics of more markers come after those of the first ones. -/
theorem metricsAfter_append
    (kind : String)
    (before : List Metric)
    (first second : List MetricOccurrence) :
    (metricsAfter kind before (first ++ second)).1 =
      (metricsAfter kind (metricsAfter kind before first).1 second).1 := by
  induction first generalizing before with
  | nil => rfl
  | cons occurrence rest inductionHypothesis =>
      rw [List.cons_append, metricsAfter, metricsAfter]
      cases occurrence.metric kind (before.map Metric.name) with
      | ok metric => exact inductionHypothesis (before ++ [metric])
      | error error => exact inductionHypothesis before

/-- Markers keep the metrics before them, and every further metric is that of a marker. -/
theorem exists_metricsAfter_eq_append
    (kind : String)
    (before : List Metric)
    (occurrences : List MetricOccurrence) :
    ∃ later, (metricsAfter kind before occurrences).1 = before ++ later ∧
      ∀ metric ∈ later, ∃ occurrence ∈ occurrences, ∃ taken,
        occurrence.metric kind taken = .ok metric := by
  refine ⟨_, congrArg Prod.fst MetricEntry.metricsAfter_eq, fun metric member => ?_⟩
  obtain ⟨entry, isEntry, isMetric⟩ := List.mem_filterMap.mp member
  obtain ⟨taken, outcome⟩ := MetricEntry.exists_outcome_eq isEntry
  have met := List.mem_map_of_mem (f := MetricEntry.occurrence) isEntry
  rw [MetricEntry.map_occurrence_entriesAfter] at met
  exact ⟨entry.occurrence, met, taken,
    outcome.symm.trans (MetricEntry.metric?_eq_some_iff.mp isMetric)⟩

/-- A metric has the path of its marker. -/
theorem path_of_metric
    {kind : String}
    {taken : List String}
    {occurrence : MetricOccurrence}
    {metric : Metric}
    (given : occurrence.metric kind taken = .ok metric) :
    metric.path = occurrence.path :=
  (describes_of_metric given).path

end MetricOccurrence

namespace MetricsSource

/-- The metric markers of a declaration itself. -/
def declared (source : MetricsSource) (root : TypeId) : List MetricOccurrence :=
  ((source.index.declaration root).filter MetricOccurrence.isMetric).map fun marker =>
    ⟨marker, (marker.path? "JSONPath").getD ⟨[]⟩, none⟩

/-- The metric markers of fields that are met below a declaration. -/
def inferred (source : MetricsSource) (root : TypeId) : List MetricOccurrence :=
  source.walk source.graph.size [root] [] root

theorem fieldPath_eq_append (path : List String) (field : Field) :
    fieldPath path field = path ++ fieldPath [] field := by
  unfold fieldPath
  split
  · exact (List.append_nil path).symm
  · rfl

end MetricsSource

namespace SchemaSource

variable {source : SchemaSource} {schemaOf : TypeId → SchemaNode} {root record : TypeId}

/-- The fields that the walk of metrics visits are those that the schema of a record keeps. -/
theorem exists_mem_keptFields_of_mem_activeFields
    {field : Field}
    (active : field ∈ source.metricsSource.activeFields record) :
    ∃ declaration, source.graph.resolve? record = some declaration ∧
      field ∈ source.keptFields declaration := by
  unfold MetricsSource.activeFields at active
  split at active
  · cases active
  · rename_i declaration resolved
    obtain ⟨isField, isOn⟩ := List.mem_filter.mp active
    refine ⟨declaration, resolved, List.mem_filter.mpr ⟨isField, ?_⟩⟩
    rw [isSkipped, TypeGraph.id_of_resolve? resolved, Bool.not_or]
    exact isOn

namespace BuiltBelow

/-- The record to which a reference leads through pointers and aliases has the properties of the
schema of the reference. -/
theorem properties_eq_of_recordTarget?
    (built : source.BuiltBelow schemaOf root)
    {depth : Nat}
    {type : TypeRef}
    {target : TypeId}
    {node : SchemaNode}
    (reached : ∀ named ∈ type.targets, (source.graph.resolve? named).isSome →
      source.Reaches root named)
    (leads : source.metricsSource.recordTarget? depth type = some target)
    (defined : source.plainRef schemaOf type = .ok node) :
    source.Reaches root target ∧ node.properties = (schemaOf target).properties := by
  induction depth generalizing type node with
  | zero => cases leads
  | succ depth inductionHypothesis =>
      unfold MetricsSource.recordTarget? at leads
      split at leads
      · rename_i named stripped
        rw [eq_of_plainRef stripped defined]
        have isTarget := TypeRef.mem_targets_of_stripPointers_eq_named stripped
        split at leads
        · rename_i fields isRecord
          cases leads
          obtain ⟨declaration, resolved, -⟩ := Option.map_eq_some_iff.mp isRecord
          exact ⟨reached target isTarget (Option.isSome_iff_exists.mpr ⟨_, resolved⟩), rfl⟩
        · rename_i next isSynonym
          obtain ⟨declaration, resolved, shape⟩ := Option.map_eq_some_iff.mp isSynonym
          have reachesNamed :=
            reached named isTarget (Option.isSome_iff_exists.mpr ⟨_, resolved⟩)
          obtain ⟨unmarked, made, same⟩ :=
            exists_plainRef_of_synonym resolved shape (built named reachesNamed)
          rw [same]
          refine inductionHypothesis (fun other isNext isDeclared => ?_) leads made
          have followed : other ∈ source.followed declaration := by
            rw [SchemaSource.followed, shape]
            exact isNext
          exact reachesNamed.tail ⟨isDeclared, declaration, resolved, followed⟩
        · cases leads
      · cases leads

/-- A kept field of a record has a schema in the schema of the record: below its key, or, if the
field embeds a record, at the same place. It has the properties of the record to which the field
leads. -/
theorem exists_part
    (built : source.BuiltBelow schemaOf root)
    (reached : source.Reaches root record)
    {declaration : Declaration}
    {field : Field}
    (resolved : source.graph.resolve? record = some declaration)
    (isKept : field ∈ source.keptFields declaration) :
    ∃ part : SchemaNode,
      (∀ suffix, (part.descend? suffix).isSome →
        ((schemaOf record).descend? (MetricsSource.fieldPath [] field ++ suffix)).isSome) ∧
      ∀ depth target, source.metricsSource.recordTarget? depth field.type = some target →
        source.Reaches root target ∧ part.properties = (schemaOf target).properties := by
  have isRecord := isRecord_of_mem_keptFields isKept
  have defined := built record reached
  have distinct := hasDistinctKeys_of_plainFrom resolved isRecord defined
  have reachesNamed : ∀ named ∈ field.type.targets, (source.graph.resolve? named).isSome →
      source.Reaches root named := fun named isNamed isDeclared =>
    reached.tail ⟨isDeclared, declaration, resolved, mem_followed_of_mem_keptFields isKept isNamed⟩
  obtain ⟨properties, adds, subset⟩ :=
    (addedBy_of_plainFrom resolved isRecord defined).complete field isKept
  cases adds with
  | @own unmarked schema notInline made applied =>
      refine ⟨schema, fun suffix leads => ?_, fun depth target leads => ?_⟩
      · rw [MetricsSource.fieldPath, if_neg (by simp [notInline])]
        exact distinct.isSome_descend?_cons (subset List.mem_cons_self) leads
      · have same : schema.properties = unmarked.properties :=
          (decorates_marked applied).properties
        rw [same]
        exact built.properties_eq_of_recordTarget? reachesNamed leads made
  | @embedded target embedded isInline stripped resolvedTarget isRecordTarget =>
      refine ⟨schemaOf target, fun suffix leads => ?_, fun depth other leads => ?_⟩
      · rw [MetricsSource.fieldPath, if_pos isInline]
        exact distinct.isSome_descend? subset leads
      · have made : source.plainRef schemaOf field.type = .ok (schemaOf target) := by
          rw [plainRef_of_stripPointers stripped, plainRef, resolvedTarget]
        exact built.properties_eq_of_recordTarget? reachesNamed leads made

/-- Where the walk of metrics meets a marker below a record, a path leads to a property in the
schema of the record. The induction is on the depth of the walk. -/
theorem exists_suffix_of_mem_walk
    (built : source.BuiltBelow schemaOf root)
    {depth : Nat}
    {walked : List TypeId}
    {path : List String}
    (reached : source.Reaches root record)
    {occurrence : MetricOccurrence}
    (met : occurrence ∈ source.metricsSource.walk depth walked path record) :
    ∃ suffix, occurrence.path.segments = path ++ suffix ∧
      ((schemaOf record).descend? suffix).isSome := by
  induction depth generalizing walked path record with
  | zero => cases met
  | succ depth inductionHypothesis =>
      obtain ⟨field, active, inField⟩ := List.mem_flatMap.mp met
      obtain ⟨declaration, resolved, isKept⟩ := exists_mem_keptFields_of_mem_activeFields active
      obtain ⟨part, goesOn, leadsTo⟩ := built.exists_part reached resolved isKept
      rcases List.mem_append.mp inField with own | below
      · obtain ⟨marker, -, rfl⟩ := List.mem_map.mp own
        refine ⟨MetricsSource.fieldPath [] field,
          MetricsSource.fieldPath_eq_append path field, ?_⟩
        simpa using goesOn [] rfl
      · split at below
        · cases below
        · rename_i target isTarget
          split at below
          · cases below
          · obtain ⟨reachesTarget, same⟩ := leadsTo _ target isTarget
            obtain ⟨suffix, isPath, leads⟩ := inductionHypothesis reachesTarget below
            refine ⟨MetricsSource.fieldPath [] field ++ suffix, ?_, goesOn suffix ?_⟩
            · rw [isPath, MetricsSource.fieldPath_eq_append path field, List.append_assoc]
            · exact (SchemaNode.isSome_descend?_congr same suffix).trans leads

end BuiltBelow

/-- Inferred paths exist in the schema. In an acyclic graph, whatever was called before, the metrics
of every resource are those of the markers of its declaration, followed by metrics of markers of
fields; and if nothing that is met in the root fails, the path of each of the latter leads from
property to property through the schema of the root. -/
theorem isSome_descend?_of_inferred
    (source : SchemaSource)
    (acyclic : source.graph.IsAcyclic)
    (calls : List SchemaCall)
    (version : String) :
    ∀ resource ∈ source.metricsSource.collect.1.resources,
      (∃ package declaration, source.metricsSource.Gives package declaration resource) ∧
      ∀ package declaration, source.metricsSource.Gives package declaration resource →
        let answer :=
          (source.synthesize declaration.id version).run (source.performedAll calls)
        (∀ id, source.Reaches declaration.id id →
          answer.2.hasFailed ⟨id, version⟩ = false) →
        ∃ later,
          resource.metrics = (MetricOccurrence.metricsAfter declaration.name []
            (source.metricsSource.declared declaration.id)).1 ++ later ∧
          ∀ metric ∈ later,
            (∃ occurrence ∈ source.metricsSource.inferred declaration.id, ∃ taken,
              occurrence.metric declaration.name taken = .ok metric) ∧
            (answer.1.descend? metric.path.segments).isSome := by
  intro resource member
  refine ⟨MetricsSource.exists_gives_of_mem_collect member, ?_⟩
  intro package declaration gives answer unfailed
  obtain ⟨isPlain, built⟩ :=
    builtBelow_of_unfailed acyclic calls ⟨declaration.id, version⟩ unfailed
  obtain ⟨later, same, given⟩ := MetricOccurrence.exists_metricsAfter_eq_append declaration.name
    (MetricOccurrence.metricsAfter declaration.name []
      (source.metricsSource.declared declaration.id)).1
    (source.metricsSource.inferred declaration.id)
  refine ⟨later, ?_, fun metric isLater => ?_⟩
  · rw [gives.metrics, ← same, ← MetricOccurrence.metricsAfter_append]
    rfl
  · obtain ⟨occurrence, met, taken, isGiven⟩ := given metric isLater
    refine ⟨⟨occurrence, met, taken, isGiven⟩, ?_⟩
    obtain ⟨suffix, isPath, leads⟩ := built.exists_suffix_of_mem_walk .refl met
    rw [MetricOccurrence.path_of_metric isGiven, isPath, List.nil_append]
    exact isPlain ▸ leads

/-! ## Metrics of an embedded record and of an alias -/

/-- A resource that embeds a record and has a field of an alias for another one. -/
def tank : Declaration where
  name := "Tank"
  package := "p"
  shape := .record [
    { name := "Base", type := .pointer (.named ⟨"p", "Base"⟩), key := "", inline := true },
    { name := "Status", type := .pointer (.named ⟨"p", "TankStatus"⟩), key := "status" }]

/-- The package of the resource. -/
def tankPackage : Package where
  name := "p"
  types := [
    tank,
    { name := "Base", package := "p"
      shape := .record [{ name := "Size", type := .scalar .int64, key := "size" }] },
    { name := "TankStatus", package := "p", shape := .synonym (.named ⟨"p", "Status"⟩) },
    { name := "Status", package := "p"
      shape := .record [{ name := "Level", type := .scalar .int64, key := "level" }] }]

/-- A marker that asks for a numeric metric. -/
def gaugeMarker (location : Location) (arguments : List (String × Argument)) : Marker where
  name := Vocabulary.gauge
  location := location
  consumer := .metric
  arguments := arguments

/-- The graph of the package. The resource has a metric of its own, and both records have one. -/
def tanks : SchemaSource where
  graph := { packages := [tankPackage] }
  index :=
    { entries := [
        (.package "p", [
          { name := Vocabulary.groupName, location := .package "p", consumer := .schema,
            arguments := [(Definition.unnamed, .string "tanks.example.com")] },
          { name := Vocabulary.versionName, location := .package "p", consumer := .schema,
            arguments := [(Definition.unnamed, .string "v1")] }]),
        (.declaration tank.id, [
          { name := Vocabulary.resource, location := .declaration tank.id,
            consumer := .schema, arguments := [] },
          { name := Vocabulary.metricsResource, location := .declaration tank.id,
            consumer := .metric, arguments := [] },
          gaugeMarker (.declaration tank.id)
            [("name", .string "limit"), ("JSONPath", .path ⟨["spec", "limit"]⟩)]]),
        (.field ⟨"p", "Base"⟩ "Size",
          [gaugeMarker (.field ⟨"p", "Base"⟩ "Size") [("name", .string "size")]]),
        (.field ⟨"p", "Status"⟩ "Level",
          [gaugeMarker (.field ⟨"p", "Status"⟩ "Level") [("name", .string "level")]])] }
  gates := .empty

/-- The metric of the declaration, that of the embedded record and that behind the alias. -/
def tankMetrics : ResourceMetrics where
  group := "tanks.example.com"
  version := "v1"
  kind := "Tank"
  namePrefix := none
  metrics := [
    ⟨"limit", "", ⟨["spec", "limit"]⟩, .gauge false⟩,
    ⟨"size", "", ⟨["size"]⟩, .gauge false⟩,
    ⟨"level", "", ⟨["status", "level"]⟩, .gauge false⟩]

theorem isAcyclic_tanks : tanks.graph.IsAcyclic :=
  TypeGraph.isAcyclic_of_rank
    (fun id => if id.name = "Tank" then 2 else if id.name = "TankStatus" then 1 else 0)
    (by decide +kernel)

/-- The inferred paths exist, though that of the declaration does not. -/
theorem descend?_tank :
    let answer := (tanks.synthesize tank.id "v1").run (tanks.performedAll [])
    tanks.graph.IsAcyclic ∧
      tankMetrics ∈ tanks.metricsSource.collect.1.resources ∧
      tanks.metricsSource.Gives tankPackage tank tankMetrics ∧
      (∀ id, tanks.Reaches tank.id id → answer.2.hasFailed ⟨id, "v1"⟩ = false) ∧
      (answer.1.descend? ["size"]).isSome ∧
      (answer.1.descend? ["status", "level"]).isSome ∧
      answer.1.descend? ["spec", "limit"] = none := by
  intro answer
  have collected : tankMetrics ∈ tanks.metricsSource.collect.1.resources := by decide +kernel
  have gives : tanks.metricsSource.Gives tankPackage tank tankMetrics :=
    MetricsSource.gives_of_resource List.mem_cons_self List.mem_cons_self (by decide +kernel)
  have noFailures : answer.2.failed = [] := by decide +kernel
  have unfailed : ∀ id, tanks.Reaches tank.id id → answer.2.hasFailed ⟨id, "v1"⟩ = false :=
    fun _ _ => by simp [SchemaTable.hasFailed, noFailures]
  have ofDeclaration : (MetricOccurrence.metricsAfter tank.name []
      (tanks.metricsSource.declared tank.id)).1 = tankMetrics.metrics.take 1 := by
    decide +kernel
  obtain ⟨later, same, leads⟩ := (isSome_descend?_of_inferred tanks isAcyclic_tanks [] "v1"
    tankMetrics collected).2 tankPackage tank gives unfailed
  rw [ofDeclaration] at same
  have isLater : tankMetrics.metrics.drop 1 = later :=
    List.append_cancel_left ((List.take_append_drop 1 tankMetrics.metrics).trans same)
  subst isLater
  exact ⟨isAcyclic_tanks, collected, gives, unfailed,
    (leads _ List.mem_cons_self).2,
    (leads _ (List.mem_cons_of_mem _ List.mem_cons_self)).2, by decide +kernel⟩

end SchemaSource
end MarkerManifests
