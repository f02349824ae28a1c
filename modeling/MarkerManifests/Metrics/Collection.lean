import MarkerManifests.Marker.Index
import MarkerManifests.Metrics.Configuration
import MarkerManifests.Text.Displayed
import MarkerManifests.Vocabulary.GroupVersion
import MarkerManifests.Vocabulary.Metrics

/-!
# Metrics of a type graph

The metric markers of a resource are those of its declaration, followed by those of its fields in the
order of a walk that descends into the records that fields lead to. A record is not entered again
while it is being walked, so the walk is nested at most as deep as there are declarations. Every
marker on the way gives one metric, or one diagnostic if it has no states or if its name is taken.
-/

namespace MarkerManifests

/-- Why a marker gives no metric. -/
inductive MetricError where
  /-- The declaration is no resource. -/
  | notAResource (kind : String)
  | duplicateMetric (kind name : String)
  | emptyStateList (name : String)
  deriving DecidableEq

/-- The wording of an error. -/
def MetricError.message : MetricError → String
  | notAResource kind =>
    "metrics:resource on " ++ kind ++ " requires +resource on the same declaration"
  | duplicateMetric kind name =>
    "metric " ++ Text.displayed name ++ " is already defined for " ++ kind
  | emptyStateList name => "metric " ++ Text.displayed name ++ " lists no states"

/-- A metric marker that was met on the way through a resource. -/
structure MetricOccurrence where
  marker : Marker
  /-- The path of the value. -/
  path : FieldPath
  /-- The help of metrics whose marker has none. -/
  help : Option String := none
  deriving DecidableEq

namespace MetricOccurrence

/-- The label of states where a marker names none. -/
def defaultLabel : String := "state"

/-- Whether a marker asks for a metric. -/
def isMetric (marker : Marker) : Bool :=
  [Vocabulary.gauge, Vocabulary.info, Vocabulary.stateSet].contains marker.name

/-- The name of the metric. -/
def name (occurrence : MetricOccurrence) : String :=
  (occurrence.marker.string? "name").getD ""

/-- The series that a marker asks for; a set of states must not be empty. -/
def series (occurrence : MetricOccurrence) : Except MetricError MetricSeries :=
  let marker := occurrence.marker
  if marker.name = Vocabulary.gauge then
    .ok (.gauge (marker.flag "nilIsZero"))
  else if marker.name = Vocabulary.stateSet then
    match marker.list "list" with
    | [] => .error (.emptyStateList occurrence.name)
    | states => .ok (.stateSet states ((marker.string? "labelName").getD defaultLabel))
  else
    .ok .info

/-- The metric of a marker in a resource of a kind, where some names are taken. -/
def metric (kind : String) (taken : List String) (occurrence : MetricOccurrence) :
    Except MetricError Metric :=
  match occurrence.series with
  | .error error => .error error
  | .ok series =>
    if occurrence.name ∈ taken then
      .error (.duplicateMetric kind occurrence.name)
    else
      .ok {
        name := occurrence.name
        help := ((occurrence.marker.string? "help").or occurrence.help).getD ""
        path := occurrence.path
        series }

/-- The metrics of markers, after the metrics before them, and the diagnostics of the markers that
give none. -/
def metricsAfter (kind : String) (before : List Metric) :
    List MetricOccurrence → List Metric × Diagnostics
  | [] => (before, [])
  | occurrence :: rest =>
    match occurrence.metric kind (before.map Metric.name) with
    | .ok metric => metricsAfter kind (before ++ [metric]) rest
    | .error error =>
      let (metrics, diagnostics) := metricsAfter kind before rest
      (metrics, ⟨.semantic, occurrence.marker.location, error.message⟩ :: diagnostics)

end MetricOccurrence

/-- What metrics are collected from. -/
structure MetricsSource where
  graph : TypeGraph
  index : MarkerIndex
  gates : Gate.State

namespace MetricsSource

/-- The record that a reference leads to through pointers and at most the given number of
declarations. -/
def recordTarget? (source : MetricsSource) : Nat → TypeRef → Option TypeId
  | 0, _ => none
  | depth + 1, type =>
    match type.stripPointers with
    | .named target =>
      match (source.graph.resolve? target).map Declaration.shape with
      | some (.record _) => some target
      | some (.synonym next) => source.recordTarget? depth next
      | _ => none
    | _ => none

/-- The fields of a record that are serialized and not gated off. -/
def activeFields (source : MetricsSource) (record : TypeId) : List Field :=
  match source.graph.resolve? record with
  | none => []
  | some declaration => declaration.fields.filter fun field =>
      !field.isOmitted &&
        !(source.index.field record field.name).isGatedOff Vocabulary.featureGate source.gates

/-- The path of a field of the record at a path; embedded records stand at the path itself. -/
def fieldPath (path : List String) (field : Field) : List String :=
  if field.inline then path else path ++ [field.key]

/-- The metric markers of a field at a path. -/
def fieldOccurrences (source : MetricsSource) (record : TypeId) (path : List String)
    (field : Field) : List MetricOccurrence :=
  ((source.index.field record field.name).filter MetricOccurrence.isMetric).map fun marker =>
    ⟨marker, ⟨path⟩, Comment.description? field.doc⟩

/-- The metric markers below a record at a path. The records that are being walked are not entered
again, and records are nested at most as deep as the given number. -/
def walk (source : MetricsSource) :
    Nat → List TypeId → List String → TypeId → List MetricOccurrence
  | 0, _, _, _ => []
  | depth + 1, walked, path, record =>
    (source.activeFields record).flatMap fun field =>
      let path := fieldPath path field
      source.fieldOccurrences record path field ++
        match source.recordTarget? source.graph.size field.type with
        | none => []
        | some target =>
          if target ∈ walked then [] else source.walk depth (target :: walked) path target

/-- The metric markers of a resource, in the order in which they are met. -/
def occurrences (source : MetricsSource) (root : TypeId) : List MetricOccurrence :=
  (((source.index.declaration root).filter MetricOccurrence.isMetric).map fun marker =>
    ⟨marker, (marker.path? "JSONPath").getD ⟨[]⟩, none⟩) ++
    source.walk source.graph.size [root] [] root

/-- Whether the gate expression of a marker does not hold. -/
def isGatedOff (source : MetricsSource) (marker : Marker) : Bool :=
  match (marker.gate? "featureGate").or (marker.gate? Definition.unnamed) with
  | some expr => !expr.eval source.gates
  | none => false

/-- The metrics of a declaration that is marked as a resource with metrics and that is not gated
off. There are none without a group and a version, which is reported elsewhere. -/
def markedResource (source : MetricsSource) (package : Package) (declaration : Declaration)
    (marker : Marker) : Option ResourceMetrics × Diagnostics :=
  if (source.index.declaration declaration.id).has Vocabulary.resource then
    match source.index.groupVersion? package with
    | none => (none, [])
    | some (group, version) =>
      let (metrics, diagnostics) :=
        MetricOccurrence.metricsAfter declaration.name [] (source.occurrences declaration.id)
      (some {
        group, version
        kind := declaration.name
        namePrefix := marker.string? "namePrefix"
        metrics }, diagnostics)
  else
    (none, [⟨.semantic, marker.location, (MetricError.notAResource declaration.name).message⟩])

/-- The metrics of a declaration, if it has any. -/
def resource (source : MetricsSource) (package : Package) (declaration : Declaration) :
    Option ResourceMetrics × Diagnostics :=
  let markers := source.index.declaration declaration.id
  match markers.first? Vocabulary.metricsResource with
  | none => (none, [])
  | some marker =>
    if source.isGatedOff marker ||
        ((markers.first? Vocabulary.featureGate).any source.isGatedOff) then
      (none, [])
    else
      source.markedResource package declaration marker

/-- The metrics of a graph and the diagnostics of markers that give none. -/
def collect (source : MetricsSource) : MetricsConfiguration × Diagnostics :=
  let found := source.graph.packages.flatMap fun package =>
    package.types.map (source.resource package)
  (⟨found.filterMap (·.1)⟩, found.flatMap (·.2))

end MetricsSource
end MarkerManifests
