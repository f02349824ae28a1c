import MarkerManifests.Json.Record
import MarkerManifests.Marker.FieldPath

/-!
# Metric configurations

The document that tells which metrics are exported for which resources. Every metric has a name, the
path of its value and the series that it exports.
-/

namespace MarkerManifests

/-- The series that a metric exports. -/
inductive MetricSeries where
  /-- One series with the number at the path. -/
  | gauge (nilIsZero : Bool)
  /-- One series that only carries labels. -/
  | info
  /-- One series for every state, which is set for the state at the path. -/
  | stateSet (states : List String) (label : String)
  deriving DecidableEq

/-- A metric of a resource. -/
structure Metric where
  name : String
  help : String
  path : FieldPath
  series : MetricSeries
  deriving DecidableEq

/-- The metrics of a resource. -/
structure ResourceMetrics where
  group : String
  version : String
  kind : String
  namePrefix : Option String
  metrics : List Metric
  deriving DecidableEq

/-- The metrics of all resources. -/
structure MetricsConfiguration where
  resources : List ResourceMetrics := []
  deriving DecidableEq

namespace Metric

/-- Writes the series of a metric with the path of its value. -/
def seriesToJson (path : FieldPath) : MetricSeries → Json
  | .gauge nilIsZero => .object [
      ("type", .string "Gauge"),
      ("gauge", .object (
        ("path", .strings path.segments) :: Json.flagEntry "nilIsZero" nilIsZero))]
  | .info => .object [
      ("type", .string "Info"),
      ("info", .object [("path", .strings path.segments)])]
  | .stateSet states label => .object [
      ("type", .string "StateSet"),
      ("stateSet", .object [
        ("path", .strings path.segments),
        ("list", .strings states),
        ("labelName", .string label)])]

/-- Writes a metric; an empty help is left out. -/
def toJson (metric : Metric) : Json :=
  .object (
    ("name", .string metric.name) ::
    (if metric.help = "" then [] else [("help", .string metric.help)]) ++
    [("each", seriesToJson metric.path metric.series)])

end Metric

namespace ResourceMetrics

/-- Writes the metrics of a resource. -/
def toJson (resource : ResourceMetrics) : Json :=
  .object (
    ("groupVersionKind", .object [
      ("group", .string resource.group),
      ("version", .string resource.version),
      ("kind", .string resource.kind)]) ::
    Json.optionEntry "metricNamePrefix" .string resource.namePrefix ++
    [("metrics", .array (resource.metrics.map Metric.toJson))])

end ResourceMetrics

namespace MetricsConfiguration

/-- Whether there is no resource. -/
def isEmpty (configuration : MetricsConfiguration) : Bool :=
  configuration.resources.isEmpty

/-- Writes the metrics of all resources. -/
def toJson (configuration : MetricsConfiguration) : Json :=
  .object [
    ("kind", .string "CustomResourceStateMetrics"),
    ("spec", .object [
      ("resources", .array (configuration.resources.map ResourceMetrics.toJson))])]

end MetricsConfiguration
end MarkerManifests
