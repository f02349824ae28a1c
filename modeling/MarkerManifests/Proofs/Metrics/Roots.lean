import MarkerManifests.Metrics.Collection
import MarkerManifests.Proofs.Marker.Indexed
import MarkerManifests.Proofs.Schema.Accounting
import MarkerManifests.Proofs.Vocabulary.Canonical

/-!
# Roots of metrics

Metrics and resource definitions decide each on its own which declarations are resources. A
declaration that gives a resource with metrics is a resource of the definitions, too, so it is a
version of a definition, or its family is left out and reported.
-/

namespace MarkerManifests

namespace MetricsSource

variable {source : MetricsSource} {package : Package} {declaration : Declaration}
  {resource : ResourceMetrics}

/-- The resource with metrics that a declaration of a package gives. -/
structure Gives
    (source : MetricsSource)
    (package : Package)
    (declaration : Declaration)
    (resource : ResourceMetrics) : Prop where
  inGraph : package ∈ source.graph.packages
  inPackage : declaration ∈ package.types
  isMarked : (source.index.declaration declaration.id).has Vocabulary.resource = true
  isOn : ((source.index.declaration declaration.id).first? Vocabulary.featureGate).any
    source.isGatedOff = false
  placed : source.index.groupVersion? package = some (resource.group, resource.version)
  kind : resource.kind = declaration.name
  metrics : resource.metrics = (MetricOccurrence.metricsAfter declaration.name []
    (source.occurrences declaration.id)).1

/-- The declaration asks for metrics, nothing switches it off, and it is a resource with a group
and a version. -/
structure HasMetrics
    (source : MetricsSource)
    (package : Package)
    (declaration : Declaration) : Prop where
  asks : ∃ marker, (source.index.declaration declaration.id).first?
    Vocabulary.metricsResource = some marker ∧ source.isGatedOff marker = false
  isOn : ((source.index.declaration declaration.id).first? Vocabulary.featureGate).any
    source.isGatedOff = false
  isMarked : (source.index.declaration declaration.id).has Vocabulary.resource = true
  isPlaced : (source.index.groupVersion? package).isSome

/-- The diagnostic of a declaration that asks for metrics and is no resource. -/
def IsNotAResource
    (source : MetricsSource)
    (declaration : Declaration)
    (diagnostic : Diagnostic) : Prop :=
  ∃ marker, (source.index.declaration declaration.id).first? Vocabulary.metricsResource =
      some marker ∧
    diagnostic = ⟨.semantic, marker.location,
      (MetricError.notAResource declaration.name).message⟩

/-- A declaration has the metrics and the diagnostics of the markers that are met in it, or no
metrics. -/
theorem resource_spec (source : MetricsSource) (package : Package) (declaration : Declaration) :
    (source.HasMetrics package declaration ∧ ∃ resource,
      source.resource package declaration = (some resource,
        (MetricOccurrence.metricsAfter declaration.name []
          (source.occurrences declaration.id)).2) ∧
      source.index.groupVersion? package = some (resource.group, resource.version) ∧
      resource.kind = declaration.name ∧
      resource.metrics = (MetricOccurrence.metricsAfter declaration.name []
        (source.occurrences declaration.id)).1) ∨
    (¬ source.HasMetrics package declaration ∧ ∃ diagnostics,
      source.resource package declaration = (none, diagnostics) ∧
      ∀ diagnostic ∈ diagnostics, source.IsNotAResource declaration diagnostic) := by
  unfold MetricsSource.resource
  dsimp only
  split
  · rename_i unasked
    refine .inr ⟨fun has => ?_, [], rfl, nofun⟩
    obtain ⟨marker, asked, -⟩ := has.asks
    cases unasked.symm.trans asked
  · rename_i marker asked
    split
    · rename_i isOff
      refine .inr ⟨fun has => ?_, [], rfl, nofun⟩
      obtain ⟨other, isOther, isOn⟩ := has.asks
      cases asked.symm.trans isOther
      simp [isOn, has.isOn] at isOff
    · rename_i isOn
      rw [Bool.or_eq_true, not_or, Bool.not_eq_true, Bool.not_eq_true] at isOn
      unfold markedResource
      split
      · rename_i isMarked
        split
        · rename_i unplaced
          refine .inr ⟨fun has => ?_, [], rfl, nofun⟩
          have isPlaced := has.isPlaced
          rw [unplaced] at isPlaced
          cases isPlaced
        · rename_i group version placed
          exact .inl ⟨⟨⟨marker, asked, isOn.1⟩, isOn.2, isMarked,
            Option.isSome_of_mem placed⟩, _, rfl, placed, rfl, rfl⟩
      · rename_i unmarked
        refine .inr ⟨fun has => unmarked has.isMarked, _, rfl, fun diagnostic member => ?_⟩
        exact ⟨marker, asked, List.mem_singleton.mp member⟩

theorem gives_of_resource
    (inGraph : package ∈ source.graph.packages)
    (inPackage : declaration ∈ package.types)
    (given : (source.resource package declaration).1 = some resource) :
    source.Gives package declaration resource := by
  obtain ⟨has, other, isOther, placed, kind, metrics⟩ | ⟨-, diagnostics, isNone, -⟩ :=
    source.resource_spec package declaration
  · rw [isOther] at given
    cases given
    exact ⟨inGraph, inPackage, has.isMarked, has.isOn, placed, kind, metrics⟩
  · rw [isNone] at given
    cases given

/-- Every resource that is collected is given by a declaration. -/
theorem exists_gives_of_mem_collect
    (member : resource ∈ source.collect.1.resources) :
    ∃ package declaration, source.Gives package declaration resource := by
  obtain ⟨found, isFound, given⟩ := List.mem_filterMap.mp member
  obtain ⟨package, inGraph, inPackages⟩ := List.mem_flatMap.mp isFound
  obtain ⟨declaration, inPackage, rfl⟩ := List.mem_map.mp inPackages
  exact ⟨package, declaration, gives_of_resource inGraph inPackage given⟩

end MetricsSource

namespace SchemaSource

variable {source : SchemaSource} {package : Package} {declaration : Declaration}
  {resource : ResourceMetrics}

/-- Metrics that are collected from what schemas are built from. -/
def metricsSource (source : SchemaSource) : MetricsSource where
  graph := source.graph
  index := source.index
  gates := source.gates

theorem mem_declarationsInPackages
    {graph : TypeGraph}
    (inGraph : package ∈ graph.packages)
    (inPackage : declaration ∈ package.types) :
    (package, declaration) ∈ declarationsInPackages graph :=
  List.mem_flatMap.mpr ⟨package, inGraph, List.mem_map_of_mem inPackage⟩

/-- Markers that are switched on for metrics are switched on for definitions. The former also look
at a gate with a key, which does not stand beside one without. -/
theorem isGatedOff_eq_false
    {markers : Markers}
    (lone : ∀ marker ∈ markers, marker.name = Vocabulary.featureGate → marker.HasLoneValue)
    (isOn : (markers.first? Vocabulary.featureGate).any source.metricsSource.isGatedOff =
      false) :
    markers.isGatedOff Vocabulary.featureGate source.gates = false := by
  unfold Markers.isGatedOff
  cases found : markers.first? Vocabulary.featureGate with
  | none => rfl
  | some marker =>
      cases isGate : marker.gate? Definition.unnamed with
      | none => simp [isGate]
      | some expr =>
          have isNamed : marker.name = Vocabulary.featureGate := by
            simpa using List.find?_some found
          have noKey : marker.gate? "featureGate" = none :=
            (lone marker (List.mem_of_find?_eq_some found) isNamed).gate?_eq_none isGate
              (by decide)
          rw [found, Option.any_some, MetricsSource.isGatedOff, noKey, isGate] at isOn
          simpa [isGate, metricsSource] using isOn

/-- A declaration that gives a resource with metrics is a resource of the definitions. -/
theorem mem_resources_of_gives
    (lone : ∀ marker ∈ source.index.declaration declaration.id,
      marker.name = Vocabulary.featureGate → marker.HasLoneValue)
    (gives : source.metricsSource.Gives package declaration resource) :
    (package, declaration) ∈ source.resources := by
  refine List.mem_filter.mpr
    ⟨mem_declarationsInPackages gives.inGraph gives.inPackage, ?_⟩
  have isMarked : (source.index.declaration declaration.id).has Vocabulary.resource = true :=
    gives.isMarked
  rw [isResource, isMarked, isGatedOff_eq_false lone gives.isOn]
  rfl

/-- What becomes of a group, version and kind: a definition of the group and kind has the version,
or an omission of the group and kind is reported at one of its declarations. -/
inductive DefinedOrOmitted
    (source : SchemaSource)
    (definitions : List ResourceDefinition)
    (diagnostics : Diagnostics)
    (group version kind : String) : Prop where
  | defined
      {definition : ResourceDefinition}
      (isListed : definition ∈ definitions)
      (sameGroup : definition.group = group)
      (sameKind : definition.names.kind = kind)
      (hasVersion : ∃ described ∈ definition.versions, described.name = version)
  | omitted
      {family : ResourceFamily}
      {root : ResourceRoot}
      {fault : ResourceFault}
      (sameGroup : family.group = group)
      (sameKind : family.kind = kind)
      (isMember : ⟨root.id, root.version⟩ ∈ source.members (group, kind))
      (isReported : family.omitted root fault ∈ diagnostics)

/-- The account of a resource with a group and a version names both. -/
theorem Fate.definedOrOmitted
    {definitions : List ResourceDefinition}
    {diagnostics : Diagnostics}
    {table : SchemaTable}
    {group version : String}
    (fate : source.Fate definitions diagnostics table package declaration)
    (placed : source.index.groupVersion? package = some (group, version)) :
    source.DefinedOrOmitted definitions diagnostics group version declaration.name := by
  cases fate with
  | unversioned missing _ =>
      rw [missing] at placed
      cases placed
  | @defined _ _ definition _ found _ only once _ =>
      cases placed.symm.trans found
      have isOnly : definition ∈ definitionsFor definitions (group, declaration.name) :=
        only ▸ List.mem_singleton_self definition
      obtain ⟨isListed, same⟩ := List.mem_filter.mp isOnly
      obtain ⟨sameGroup, sameKind⟩ := Prod.mk.inj (of_decide_eq_true same)
      obtain ⟨described, isDescribed, -⟩ :=
        List.mem_map.mp (once ▸ List.mem_singleton_self (ResourceFamily.rootSchema _))
      obtain ⟨isVersion, sameName⟩ := List.mem_filter.mp isDescribed
      exact .defined isListed sameGroup sameKind
        ⟨described, isVersion, of_decide_eq_true sameName⟩
  | @omitted _ _ family root fault found _ sameFamily isMember reported =>
      cases placed.symm.trans found
      obtain ⟨sameGroup, sameKind⟩ := Prod.mk.inj sameFamily
      have isReported : family.omitted root fault ∈
          source.reportedFor diagnostics (group, declaration.name) :=
        reported ▸ List.mem_singleton_self _
      exact .omitted sameGroup sameKind isMember (List.mem_filter.mp isReported).1

/-- Metrics and resource definitions agree on their roots. For every graph, every state of the gates
and every index, every resource with metrics is a version of a definition, or its group and kind are
omitted and one of its declarations says so. Whatever was requested before does not matter. Any
registry may have read the index, unless it lets a feature gate have an expression with a key beside
one without: metrics would look at the former and definitions at the latter. -/
theorem definedOrOmitted_of_mem_collect
    {registry : Registry}
    (keyed : ∀ definition ∈ registry.definitions, definition.name = Vocabulary.featureGate →
      definition.IsKeyed)
    (commented graph : TypeGraph)
    (gates : Gate.State)
    (descriptionLimit : Option Nat)
    (calls : List SchemaCall) :
    let index := (MarkerIndex.ofGraph registry commented).1
    let source : SchemaSource := { graph, index, gates, descriptionLimit }
    let result := (source.defineResources.run (source.performedAll calls)).1
    ∀ resource ∈ source.metricsSource.collect.1.resources,
      source.DefinedOrOmitted result.1 result.2
        resource.group resource.version resource.kind := by
  intro index source result resource member
  obtain ⟨package, declaration, gives⟩ :=
    MetricsSource.exists_gives_of_mem_collect member
  have lone : ∀ marker ∈ source.index.declaration declaration.id,
      marker.name = Vocabulary.featureGate → marker.HasLoneValue := fun _ inIndex isGate =>
    (MarkerIndex.isReadBy_ofGraph registry commented).hasLoneValue (isGate ▸ keyed) inIndex
  have fate := source.fate_defineResources calls (mem_resources_of_gives lone gives)
  rw [gives.kind]
  exact fate.definedOrOmitted gives.placed

/-! ## A resource with metrics -/

/-- In the vocabulary, only single values have no key. -/
theorem isKeyed_of_mem_registry :
    ∀ definition ∈ Vocabulary.registry.definitions, definition.IsKeyed := by
  intro definition member noValue parameter isParameter isUnnamed
  have nonempty :=
    (Vocabulary.keys_definitions definition member noValue parameter isParameter).1
  exact nonempty (by rw [isUnnamed]; rfl)

/-- A resource with metrics behind a gate. -/
def queues : TypeGraph where
  packages := [{
    name := "p"
    doc := ["+groupName=queues.example.com", "+versionName=v1"]
    types := [
      { name := "Queue", package := "p"
        doc := ["+resource", "+metrics:resource", "+featureGate=Depth"]
        shape := .record [
          { name := "apiVersion", type := .scalar .string, key := "apiVersion" },
          { name := "kind", type := .scalar .string, key := "kind" },
          { name := "metadata", type := .scalar .any, key := "metadata" }] }] }]

/-- The state in which the gate is on. -/
def depthOn : Gate.State :=
  Gate.State.empty.set "Depth" true

/-- The resource is collected, so it is defined or its omission is reported. -/
theorem definedOrOmitted_queue :
    let index := (MarkerIndex.ofGraph Vocabulary.registry queues).1
    let source : SchemaSource := { graph := queues, index, gates := depthOn }
    let result := (source.defineResources.run (source.performedAll [])).1
    (∀ definition ∈ Vocabulary.registry.definitions, definition.IsKeyed) ∧
      (⟨"queues.example.com", "v1", "Queue", none, []⟩ : ResourceMetrics) ∈
        source.metricsSource.collect.1.resources ∧
      source.DefinedOrOmitted result.1 result.2 "queues.example.com" "v1" "Queue" := by
  have collected : (⟨"queues.example.com", "v1", "Queue", none, []⟩ : ResourceMetrics) ∈
      (MetricsSource.collect ⟨queues, (MarkerIndex.ofGraph Vocabulary.registry queues).1,
        depthOn⟩).1.resources := by
    decide +kernel
  exact ⟨isKeyed_of_mem_registry, collected, definedOrOmitted_of_mem_collect
    (fun definition member _ => isKeyed_of_mem_registry definition member) queues queues depthOn
    none [] _ collected⟩

end SchemaSource
end MarkerManifests
