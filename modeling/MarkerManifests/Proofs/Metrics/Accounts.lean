import MarkerManifests.Proofs.Metrics.Paths
import MarkerManifests.Proofs.Metrics.Reaching

/-!
# Accounts of metric markers

Every metric marker that is met in a resource gives one metric or one diagnostic, and what is
collected consists of these. The markers are those of the declaration and those that the rules of
the walk meet in and below its fields.
-/

namespace MarkerManifests

/-- What the collection has for a declaration of a package. -/
structure MetricsReport where
  package : Package
  declaration : Declaration
  resource? : Option ResourceMetrics
  diagnostics : Diagnostics

namespace MetricsSource

variable {source : MetricsSource} {package : Package} {declaration : Declaration}

/-! ## The markers of a resource -/

/-- The markers that are met in a resource: first those of its declaration, at the paths that they
name, then those of its fields. -/
def Meets (source : MetricsSource) (root : TypeId) (met : List MetricOccurrence) : Prop :=
  ∃ declaration ofDeclaration ofFields,
    source.graph.resolve? root = some declaration ∧
    Sights (source.index.markersAt (.declaration root))
      (fun marker => (marker.path? "JSONPath").getD ⟨[]⟩) none ofDeclaration ∧
    source.MeetsIn [root] [] root declaration.fields ofFields ∧
    met = ofDeclaration ++ ofFields

/-- The markers that are met in a resource are those that are collected. -/
theorem Meets.eq_occurrences
    {root : TypeId}
    {met : List MetricOccurrence}
    (meets : source.Meets root met) :
    met = source.occurrences root := by
  obtain ⟨declaration, ofDeclaration, ofFields, resolved, sights, meetsFields, rfl⟩ := meets
  rw [sights_iff.mp sights, ← meetsFields.eq_walk resolved]
  rfl

/-- Markers are met in every declared resource, if no chain of aliases returns. -/
theorem meets_occurrences
    (noReturn : source.graph.NoAliasReturns)
    {root : TypeId}
    (isDeclared : (source.graph.resolve? root).isSome) :
    source.Meets root (source.occurrences root) := by
  obtain ⟨declaration, resolved⟩ := Option.isSome_iff_exists.mp isDeclared
  obtain ⟨ofFields, meetsFields⟩ :=
    exists_meetsIn noReturn (.singleton isDeclared) [] root declaration.fields
  have meets : source.Meets root _ :=
    ⟨declaration, _, ofFields, resolved, sights_iff.mpr rfl, meetsFields, rfl⟩
  exact meets.eq_occurrences ▸ meets

/-- A record that refers to itself, with a marker on another field. -/
def recursiveTree : MetricsSource where
  graph := { packages := [{
    name := "p"
    types := [{
      name := "Tree", package := "p"
      shape := .record [
        { name := "Child", type := .pointer (.named ⟨"p", "Tree"⟩), key := "child" },
        { name := "Size", type := .scalar .int64, key := "size" }] }] }] }
  index := { entries := [(.field ⟨"p", "Tree"⟩ "Size",
    [SchemaSource.gaugeMarker (.field ⟨"p", "Tree"⟩ "Size") [("name", .string "size")]])] }
  gates := .empty

/-- The record is not entered again while it is being walked. -/
example :
    recursiveTree.Meets ⟨"p", "Tree"⟩
      [⟨SchemaSource.gaugeMarker (.field ⟨"p", "Tree"⟩ "Size") [("name", .string "size")],
        ⟨["size"]⟩, none⟩] := by
  refine ⟨_, [], _, rfl, sights_iff.mpr rfl,
    .passed (visits_iff.mpr ⟨?_, rfl, rfl⟩) (.record rfl rfl rfl)
      (fun _ isTree => Option.some.inj isTree ▸ List.mem_cons_self)
      (.passed (visits_iff.mpr ⟨?_, rfl, rfl⟩) (.unnamed nofun) nofun .nothing), ?_⟩
  · decide +kernel
  · decide +kernel
  · decide +kernel

/-! ## Reports -/

/-- A report accounts for the metric markers of its declaration. -/
structure Accounts (source : MetricsSource) (report : MetricsReport) : Prop where
  isSome_iff : report.resource?.isSome ↔ source.HasMetrics report.package report.declaration
  /-- Every marker that is met in the resource has its metric or its diagnostic, and there are no
  others. -/
  account : ∀ resource ∈ report.resource?, ∃ entries,
    MetricAccount report.declaration.name (source.occurrences report.declaration.id)
      resource.metrics report.diagnostics entries
  /-- The rules of the walk meet nothing else, and they meet this unless a chain of aliases does not
  end. -/
  walks : ∀ met, source.Meets report.declaration.id met →
    met = source.occurrences report.declaration.id
  reached : source.graph.NoAliasReturns →
    source.Meets report.declaration.id (source.occurrences report.declaration.id)
  /-- What has no metrics has no diagnostics of metrics. -/
  others : report.resource? = none → ∀ diagnostic ∈ report.diagnostics,
    source.IsNotAResource report.declaration diagnostic

/-- The report of a declaration. -/
def report
    (source : MetricsSource)
    (package : Package)
    (declaration : Declaration) : MetricsReport where
  package := package
  declaration := declaration
  resource? := (source.resource package declaration).1
  diagnostics := (source.resource package declaration).2

/-- The reports of all declarations, in order. -/
def reports (source : MetricsSource) : List MetricsReport :=
  (SchemaSource.declarationsInPackages source.graph).map fun entry =>
    source.report entry.1 entry.2

theorem collect_eq (source : MetricsSource) :
    source.collect = (⟨source.reports.filterMap MetricsReport.resource?⟩,
      source.reports.flatMap MetricsReport.diagnostics) := by
  have inPackages : source.reports = source.graph.packages.flatMap fun package =>
      package.types.map (source.report package) := by
    simp only [reports, SchemaSource.declarationsInPackages, List.map_flatMap, List.map_map]
    rfl
  rw [inPackages, collect]
  simp only [List.filterMap_flatMap, List.flatMap_assoc, List.filterMap_map, List.flatMap_map]
  rfl

theorem accounts_report
    (package : Package)
    (isDeclared : declaration ∈ source.graph.declarations) :
    source.Accounts (source.report package declaration) := by
  have walks : ∀ met, source.Meets declaration.id met →
      met = source.occurrences declaration.id := fun met meets => meets.eq_occurrences
  have reached : source.graph.NoAliasReturns →
      source.Meets declaration.id (source.occurrences declaration.id) := fun noReturn =>
    meets_occurrences noReturn (Option.isSome_of_mem
      (TypeGraph.resolve?_eq_some_iff.mpr ⟨isDeclared, rfl⟩))
  obtain ⟨has, resource, given, -, -, metrics⟩ | ⟨hasNot, diagnostics, given, areOthers⟩ :=
    source.resource_spec package declaration
  · refine ⟨?_, ?_, walks, reached, ?_⟩
    · simp [report, given, has]
    · intro other isOther
      rw [report, given] at isOther
      cases isOther
      rw [metrics, report, given]
      exact ⟨_, metricAccount_entriesAfter declaration.name _⟩
    · simp [report, given]
  · refine ⟨?_, ?_, walks, reached, ?_⟩
    · simp [report, given, hasNot]
    · simp [report, given]
    · simpa [report, given] using areOthers

/-- Metric names are unique and every metric marker is accounted for. Whatever the graph, the
markers and the state of the gates, the metrics of a resource have distinct names. The collection
consists of one report for every declaration, in order, and every report accounts for the markers
that are met in its declaration: each of them gives one metric, in the order in which they are met,
or one diagnostic, the latter exactly if it lists no states or an earlier metric has its name. -/
theorem accounts_collect (source : MetricsSource) :
    (∀ resource ∈ source.collect.1.resources, (resource.metrics.map Metric.name).Nodup) ∧
      ∃ reports : List MetricsReport,
        reports.map (fun report => (report.package, report.declaration)) =
          SchemaSource.declarationsInPackages source.graph ∧
        source.collect.1.resources = reports.filterMap MetricsReport.resource? ∧
        source.collect.2 = reports.flatMap MetricsReport.diagnostics ∧
        ∀ report ∈ reports, source.Accounts report := by
  constructor
  · intro resource member
    obtain ⟨package, declaration, gives⟩ := exists_gives_of_mem_collect member
    have distinct : (([] : List Metric).map Metric.name).Nodup := List.nodup_nil
    rw [gives.metrics]
    exact MetricOccurrence.nodup_names_metricsAfter distinct _
  · refine ⟨source.reports, ?_, ?_, ?_, ?_⟩
    · rw [reports, List.map_map]
      exact List.map_id _
    · rw [collect_eq]
    · rw [collect_eq]
    · intro found isFound
      obtain ⟨⟨package, declaration⟩, isEntry, rfl⟩ := List.mem_map.mp isFound
      obtain ⟨other, inGraph, inPackage⟩ := List.mem_flatMap.mp isEntry
      obtain ⟨_, isListed, isSame⟩ := List.mem_map.mp inPackage
      cases isSame
      exact accounts_report package (List.mem_flatMap.mpr ⟨package, inGraph, isListed⟩)

end MetricsSource
end MarkerManifests
