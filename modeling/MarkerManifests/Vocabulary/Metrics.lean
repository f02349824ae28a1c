import MarkerManifests.Marker.Registry

/-!
# The markers of metrics

On a declaration, a metric names the path of its value; on a field, the path is the one of the
field.
-/

namespace MarkerManifests
namespace Vocabulary

/-- The marker of resources with metrics. -/
def metricsResource : String := "metrics:resource"

/-- The marker of numeric metrics. -/
def gauge : String := "metrics:gauge"

/-- The marker of metrics that only carry labels. -/
def info : String := "metrics:info"

/-- The marker of metrics with one series for every state. -/
def stateSet : String := "metrics:stateset"

/-- The marker of a metric on declarations and on fields, with the arguments that are its own. -/
def metric (name summary : String) (own : List Parameter) : List Definition :=
  let definition (applicability : Applicability) (path : List Parameter) : Definition :=
    { name, applicability, consumer := .metric
      parameters := [⟨"name", .string, false⟩, ⟨"help", .string, true⟩] ++ path ++ own
      help := { category := "metrics", summary } }
  [definition .declaration [⟨"JSONPath", .path, false⟩], definition .field []]

/-- What the marker of resources with metrics takes. -/
def metricsResourceDefinition : Definition where
  name := metricsResource
  applicability := .declaration
  consumer := .metric
  parameters := [⟨"namePrefix", .string, true⟩, ⟨"featureGate", .gate, true⟩]
  repeatable := false
  help := { category := "metrics", summary := "export state metrics for this resource" }

/-- The markers of metrics. -/
def metrics : Provider where
  name := "metrics"
  definitions := List.flatten [
    [metricsResourceDefinition],
    metric gauge "numeric value at a path" [⟨"nilIsZero", .boolean, true⟩],
    metric info "labels-only metric for the value at a path" [],
    metric stateSet "one series per listed state, set for the current one"
      [⟨"list", .list, false⟩, ⟨"labelName", .string, true⟩]]

end Vocabulary
end MarkerManifests
