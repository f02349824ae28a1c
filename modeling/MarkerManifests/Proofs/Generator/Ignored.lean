import MarkerManifests.Generator.Pipeline
import MarkerManifests.Proofs.Schema.Heeded

/-!
# Runs and ignored entries

A marker line from which no marker is read changes nothing in a run but what is reported when
comments are read: without it the generators make the same documents and report the same.
-/

namespace MarkerManifests

/-! ## Metrics -/

namespace MetricsSource

variable {registry : Registry} {source : MetricsSource}

/-- The source with the graph without ignored entries. -/
def heeded (registry : Registry) (source : MetricsSource) : MetricsSource :=
  { source with graph := source.graph.heeded registry }

@[simp] theorem graph_heeded :
    (source.heeded registry).graph = source.graph.heeded registry := rfl

theorem recordTarget?_heeded (depth : Nat) (type : TypeRef) :
    (source.heeded registry).recordTarget? depth type = source.recordTarget? depth type := by
  induction depth generalizing type with
  | zero => rfl
  | succ depth inductionHypothesis =>
      rw [recordTarget?, recordTarget?]
      cases type.stripPointers with
      | named target =>
          dsimp only
          rw [graph_heeded, TypeGraph.resolve?_heeded]
          cases source.graph.resolve? target with
          | none => rfl
          | some declaration =>
              simp only [Option.map_some, Declaration.shape_heeded]
              cases declaration.shape with
              | record fields => rfl
              | synonym next => exact inductionHypothesis next
              | enumeration base members => rfl
              | scalar kind => rfl
      | scalar kind => rfl
      | list element => rfl
      | map value => rfl
      | pointer inner => rfl

theorem activeFields_heeded (record : TypeId) :
    (source.heeded registry).activeFields record =
      (source.activeFields record).map (·.heeded registry record) := by
  rw [activeFields, activeFields, graph_heeded, TypeGraph.resolve?_heeded]
  cases resolved : source.graph.resolve? record with
  | none => rfl
  | some declaration =>
      simp only [Option.map_some, Declaration.fields_heeded, TypeGraph.id_of_resolve? resolved,
        List.filter_map]
      rfl

theorem fieldOccurrences_heeded
    (record : TypeId)
    (path : List String)
    (field : Field) :
    (source.heeded registry).fieldOccurrences record path (field.heeded registry record) =
      source.fieldOccurrences record path field := by
  rw [fieldOccurrences, fieldOccurrences, Field.heeded, registry.description?_heeded]
  rfl

theorem walk_heeded
    (depth : Nat)
    (walked : List TypeId)
    (path : List String)
    (record : TypeId) :
    (source.heeded registry).walk depth walked path record =
      source.walk depth walked path record := by
  induction depth generalizing walked path record with
  | zero => rfl
  | succ depth inductionHypothesis =>
      rw [walk, walk, activeFields_heeded, List.flatMap_map]
      simp only [fieldOccurrences_heeded, recordTarget?_heeded, inductionHypothesis, graph_heeded,
        TypeGraph.size_heeded]
      rfl

theorem resource_heeded (package : Package) (declaration : Declaration) :
    (source.heeded registry).resource (package.heeded registry) (declaration.heeded registry) =
      source.resource package declaration := by
  have sameOccurrences : (source.heeded registry).occurrences = source.occurrences := by
    funext root
    rw [occurrences, occurrences, walk_heeded, graph_heeded, TypeGraph.size_heeded]
    rfl
  simp only [resource, markedResource, Declaration.id_heeded, Declaration.name_heeded,
    sameOccurrences]
  rfl

/-- Ignored entries do not change the metrics or their diagnostics. -/
theorem collect_heeded (registry : Registry) (source : MetricsSource) :
    (source.heeded registry).collect = source.collect := by
  have sameFound : (source.heeded registry).graph.packages.flatMap (fun package =>
        package.types.map ((source.heeded registry).resource package)) =
      source.graph.packages.flatMap fun package => package.types.map (source.resource package) := by
    rw [graph_heeded, TypeGraph.heeded, List.flatMap_map]
    refine congrArg (source.graph.packages.flatMap ·) (funext fun package => ?_)
    rw [show (package.heeded registry).types = package.types.map (·.heeded registry) from rfl,
      List.map_map]
    exact congrArg (package.types.map ·) (funext (resource_heeded package))
  rw [collect, collect, sameFound]

end MetricsSource

/-! ## Runs -/

namespace GeneratorConfiguration

theorem runResources_heeded
    (registry : Registry)
    (configuration : GeneratorConfiguration)
    (graph : TypeGraph)
    (index : MarkerIndex)
    (gates : Gate.State) :
    configuration.runResources (graph.heeded registry) index gates =
      configuration.runResources graph index gates := by
  unfold runResources
  split
  · have sameDefinitions := SchemaSource.defineResources_heeded registry
      ⟨graph, index, gates, configuration.resources.descriptionLimit.map UInt64.toNat⟩
    simp only [← sameDefinitions]
    rfl
  · rfl

theorem runMetrics_heeded
    (registry : Registry)
    (configuration : GeneratorConfiguration)
    (graph : TypeGraph)
    (index : MarkerIndex)
    (gates : Gate.State) :
    configuration.runMetrics (graph.heeded registry) index gates =
      configuration.runMetrics graph index gates := by
  unfold runMetrics
  split
  · have sameMetrics := MetricsSource.collect_heeded registry ⟨graph, index, gates⟩
    simp only [← sameMetrics]
    rfl
  · rfl

/-- The gates of a run. -/
def gates (configuration : GeneratorConfiguration) : Gate.State :=
  (Gate.State.read configuration.featureGates).1

/-- The diagnostics that the generators report in a run. -/
def ownDiagnostics
    (configuration : GeneratorConfiguration)
    (graph : TypeGraph)
    (index : MarkerIndex) : Diagnostics :=
  (configuration.runResources graph index configuration.gates).2 ++
    (configuration.runRoles index configuration.gates).2 ++
    (configuration.runWebhooks index configuration.gates).2 ++
    (configuration.runMetrics graph index configuration.gates).2

/-- The diagnostics of a run are those of reading and then those of the generators. -/
theorem diagnostics_run (configuration : GeneratorConfiguration) (graph : TypeGraph) :
    (configuration.run graph).diagnostics =
      (MarkerIndex.ofGraph Vocabulary.registry graph).2 ++
        configuration.ownDiagnostics graph (MarkerIndex.ofGraph Vocabulary.registry graph).1 := by
  simp only [run, ownDiagnostics, gates, List.append_assoc]

/-- Two runs that make the same documents and whose generators report the same. -/
structure SameBeyondReading
    (configuration : GeneratorConfiguration)
    (first second : TypeGraph) : Prop where
  resources : (configuration.run first).resources = (configuration.run second).resources
  roles : (configuration.run first).roles = (configuration.run second).roles
  webhooks : (configuration.run first).webhooks = (configuration.run second).webhooks
  metrics : (configuration.run first).metrics = (configuration.run second).metrics
  diagnostics : ∃ own : Diagnostics,
    (configuration.run first).diagnostics =
        (MarkerIndex.ofGraph Vocabulary.registry first).2 ++ own ∧
      (configuration.run second).diagnostics =
        (MarkerIndex.ofGraph Vocabulary.registry second).2 ++ own

namespace SameBeyondReading

variable {configuration : GeneratorConfiguration} {first second third : TypeGraph}

theorem symm (same : configuration.SameBeyondReading first second) :
    configuration.SameBeyondReading second first where
  resources := same.resources.symm
  roles := same.roles.symm
  webhooks := same.webhooks.symm
  metrics := same.metrics.symm
  diagnostics := same.diagnostics.imp fun _ => And.symm

theorem trans
    (left : configuration.SameBeyondReading first second)
    (right : configuration.SameBeyondReading second third) :
    configuration.SameBeyondReading first third where
  resources := left.resources.trans right.resources
  roles := left.roles.trans right.roles
  webhooks := left.webhooks.trans right.webhooks
  metrics := left.metrics.trans right.metrics
  diagnostics := by
    obtain ⟨own, firstSplit, secondSplit⟩ := left.diagnostics
    obtain ⟨others, secondSplitAgain, thirdSplit⟩ := right.diagnostics
    have sameOwn : own = others :=
      List.append_cancel_left (secondSplit.symm.trans secondSplitAgain)
    exact ⟨own, firstSplit, sameOwn ▸ thirdSplit⟩

end SameBeyondReading

/-- A run does not depend on ignored entries beyond the reading of comments. -/
theorem sameBeyondReading_heeded
    (configuration : GeneratorConfiguration)
    (graph : TypeGraph) :
    configuration.SameBeyondReading (graph.heeded Vocabulary.registry) graph where
  resources := by
    simp only [run, MarkerIndex.ofGraph_heeded, runResources_heeded]
  roles := by
    simp only [run, MarkerIndex.ofGraph_heeded]
  webhooks := by
    simp only [run, MarkerIndex.ofGraph_heeded]
  metrics := by
    simp only [run, MarkerIndex.ofGraph_heeded, runMetrics_heeded]
  diagnostics := by
    refine ⟨_, diagnostics_run configuration _, ?_⟩
    rw [diagnostics_run, ownDiagnostics, ownDiagnostics, MarkerIndex.ofGraph_heeded,
      runResources_heeded, runMetrics_heeded]

end GeneratorConfiguration

/-! ## Removing an entry -/

/-- The second list is the first one without one entry of the comment at a location. The packages
may still lack the path of a package in their declarations. -/
inductive RemovesEntry (entry : String) : Location → List Package → List Package → Prop where
  | package
      {before after : List Package}
      {package : Package}
      {earlier later : List String}
      (commented : package.doc = earlier ++ entry :: later) :
      RemovesEntry entry (.package package.name)
        (before ++ package :: after)
        (before ++ { package with doc := earlier ++ later } :: after)
  | declaration
      {before after : List Package}
      {package : Package}
      {preceding following : List Declaration}
      {declaration : Declaration}
      {earlier later : List String}
      (contained : package.types = preceding ++ declaration :: following)
      (commented : declaration.doc = earlier ++ entry :: later) :
      RemovesEntry entry (.declaration ⟨package.name, declaration.name⟩)
        (before ++ package :: after)
        (before ++ { package with
          types := preceding ++ { declaration with doc := earlier ++ later } :: following } ::
            after)
  | field
      {before after : List Package}
      {package : Package}
      {preceding following : List Declaration}
      {declaration : Declaration}
      {left right : List Field}
      {field : Field}
      {earlier later : List String}
      (contained : package.types = preceding ++ declaration :: following)
      (shaped : declaration.shape = .record (left ++ field :: right))
      (commented : field.doc = earlier ++ entry :: later) :
      RemovesEntry entry (.field ⟨package.name, declaration.name⟩ field.name)
        (before ++ package :: after)
        (before ++ { package with
          types := preceding ++ { declaration with
            shape := .record (left ++ { field with doc := earlier ++ later } :: right) } ::
              following } :: after)

/-- Packages from which an ignored entry was removed differ in ignored entries only. -/
theorem RemovesEntry.heeded_eq
    {registry : Registry}
    {entry : String}
    {location : Location}
    {packages fewer : List Package}
    (removes : RemovesEntry entry location packages fewer)
    (ignored : registry.isIgnored location entry = true) :
    (fewer.map Package.qualify).map (·.heeded registry) =
      (packages.map Package.qualify).map (·.heeded registry) := by
  cases removes with
  | package commented =>
      simp [Package.qualify, Package.heeded, commented, Registry.heeded_of_isIgnored ignored]
  | declaration contained commented =>
      simp [Package.qualify, Package.heeded, Declaration.qualify, Declaration.heeded,
        Declaration.id, contained, commented, Registry.heeded_of_isIgnored ignored]
  | field contained shaped commented =>
      simp [Package.qualify, Package.heeded, Declaration.qualify, Declaration.heeded,
        Declaration.id, Shape.qualify, Shape.heeded, Field.qualify, Field.heeded, contained,
        shaped, commented, Registry.heeded_of_isIgnored ignored]

/-- A marker line from which no marker is read may be removed from a comment of packages that form
a graph. The rest forms a graph, too, and a run over it makes the same documents; its generators
report the same. -/
theorem sameBeyondReading_of_removesEntry
    (configuration : GeneratorConfiguration)
    {entry : String}
    {location : Location}
    {packages fewer : List Package}
    {graph : TypeGraph}
    (removes : RemovesEntry entry location packages fewer)
    (oneLine : '\n' ∉ entry.toList)
    (isMarkerLine : (Comment.markerBody? entry.toList).isSome)
    (unread : ∀ marker, Vocabulary.registry.readLine location entry.toList ≠ .ok (some marker))
    (accepted : TypeGraph.ofPackages packages = .ok graph) :
    ∃ other, TypeGraph.ofPackages fewer = .ok other ∧
      configuration.SameBeyondReading graph other := by
  have ignored := Registry.isIgnored_iff.mpr ⟨oneLine, isMarkerLine, unread⟩
  obtain ⟨other, acceptedOther, sameHeeded⟩ :=
    TypeGraph.exists_ofPackages_of_heeded_eq (removes.heeded_eq ignored) accepted
  have fromGraph := (configuration.sameBeyondReading_heeded graph).symm
  rw [← sameHeeded] at fromGraph
  exact ⟨other, acceptedOther, fromGraph.trans (configuration.sameBeyondReading_heeded other)⟩

/-- A field with a comment. -/
def countField (doc : List String) : Field where
  name := "Count"
  type := .scalar .int32
  key := "count"
  doc := doc

/-- A resource with the field. -/
def counter (doc : List String) : Declaration where
  name := "Counter"
  doc := ["+resource:path=counters"]
  shape := .record [{ name := "Size", type := .scalar .int64, key := "size" }, countField doc]

/-- Two documents of a package, of which the second one has the resource. -/
def countingPackages (doc : List String) : List Package := [
  { name := "p", doc := ["+groupName=counts.example.com"] },
  { name := "p", doc := ["+versionName=v1"], types := [counter doc] }]

theorem removesEntry_countingPackages (entry : String) (earlier later : List String) :
    RemovesEntry entry (.field ⟨"p", "Counter"⟩ "Count")
      (countingPackages (earlier ++ entry :: later)) (countingPackages (earlier ++ later)) :=
  @RemovesEntry.field entry [{ name := "p", doc := ["+groupName=counts.example.com"] }] []
    { name := "p", doc := ["+versionName=v1"], types := [counter (earlier ++ entry :: later)] }
    [] [] (counter (earlier ++ entry :: later))
    [{ name := "Size", type := .scalar .int64, key := "size" }] []
    (countField (earlier ++ entry :: later)) earlier later rfl rfl rfl

/-- A bound that is no number may be removed before a good one of the same name. -/
theorem countingPackages_without_malformed_bound :
    ∃ graph other,
      TypeGraph.ofPackages (countingPackages
        ["Counts.", "// +validation:Minimum=few", "+validation:Minimum=1"]) = .ok graph ∧
      TypeGraph.ofPackages (countingPackages ["Counts.", "+validation:Minimum=1"]) = .ok other ∧
      GeneratorConfiguration.SameBeyondReading {} graph other := by
  have accepted : TypeGraph.ofPackages (countingPackages
      ["Counts.", "// +validation:Minimum=few", "+validation:Minimum=1"]) =
        .ok ⟨TypeGraph.merge ((countingPackages
          ["Counts.", "// +validation:Minimum=few", "+validation:Minimum=1"]).map
            Package.qualify), by decide +kernel⟩ :=
    TypeGraph.ofPackages_eq_ok_iff.mpr rfl
  have ignored : Vocabulary.registry.isIgnored (.field ⟨"p", "Counter"⟩ "Count")
      "// +validation:Minimum=few" = true := by
    decide +kernel
  obtain ⟨oneLine, isMarkerLine, unread⟩ := Registry.isIgnored_iff.mp ignored
  obtain ⟨other, acceptedOther, same⟩ := sameBeyondReading_of_removesEntry {}
    (removesEntry_countingPackages "// +validation:Minimum=few" ["Counts."]
      ["+validation:Minimum=1"])
    oneLine isMarkerLine unread accepted
  exact ⟨_, other, accepted, acceptedOther, same⟩

end MarkerManifests
