import MarkerManifests.Access.Marker
import MarkerManifests.Generator.Configuration
import MarkerManifests.Metrics.Collection
import MarkerManifests.Schema.Resource
import MarkerManifests.Vocabulary.Complete
import MarkerManifests.Webhook.Configuration

/-!
# Runs

One run over a type graph reads the markers, and then every generator that is switched on makes its
documents from them. The diagnostics come in this order: reading, synthesis of schemas, resource
definitions, access rules, webhooks, metrics. No diagnostic stops a run.
-/

namespace MarkerManifests

/-- The results of a run. -/
structure Generated where
  resources : List ResourceDefinition := []
  roles : List Role := []
  webhooks : List WebhookConfiguration := []
  /-- The metrics, if their generator ran. -/
  metrics : Option MetricsConfiguration := none
  diagnostics : Diagnostics := []
  /-- The entries of the gate configuration that were skipped. -/
  skippedGates : List Gate.SkippedEntry := []

namespace Generated

/-- The artifacts in the order in which they are written. Metrics without resources are left out. -/
def artifacts (generated : Generated) : List Artifact := [
  ⟨"crds", generated.resources.map ResourceDefinition.toJson⟩,
  ⟨"role", generated.roles.map Role.toJson⟩,
  ⟨"manifests", generated.webhooks.map WebhookConfiguration.toJson⟩,
  ⟨"metrics", (generated.metrics.toList.filter (!·.isEmpty)).map MetricsConfiguration.toJson⟩]

end Generated

namespace GeneratorConfiguration

/-- The resource definitions of a graph and their diagnostics: those of the synthesis of schemas come
before those of the definitions. -/
def runResources (configuration : GeneratorConfiguration) (graph : TypeGraph)
    (index : MarkerIndex) (gates : Gate.State) : List ResourceDefinition × Diagnostics :=
  if configuration.resources.enabled then
    let source : SchemaSource :=
      ⟨graph, index, gates, configuration.resources.descriptionLimit.map UInt64.toNat⟩
    let ((definitions, diagnostics), table) := source.defineResources.run {}
    (definitions, table.diagnostics ++ diagnostics)
  else
    ([], [])

/-- The roles of a graph and their diagnostics. -/
def runRoles (configuration : GeneratorConfiguration) (index : MarkerIndex)
    (gates : Gate.State) : List Role × Diagnostics :=
  if configuration.roles.enabled then
    let (rules, diagnostics) := AccessRules.collect index gates
    (rules.roles configuration.roles.roleName, diagnostics)
  else
    ([], [])

/-- The webhook configurations of a graph and their diagnostics. -/
def runWebhooks (configuration : GeneratorConfiguration) (index : MarkerIndex)
    (gates : Gate.State) : List WebhookConfiguration × Diagnostics :=
  if configuration.webhooks.enabled then
    let (lists, diagnostics) := WebhookLists.assemble index gates
    (lists.configurations configuration.webhooks.names, diagnostics)
  else
    ([], [])

/-- The metrics of a graph and their diagnostics. -/
def runMetrics (configuration : GeneratorConfiguration) (graph : TypeGraph)
    (index : MarkerIndex) (gates : Gate.State) : Option MetricsConfiguration × Diagnostics :=
  if configuration.metrics.enabled then
    let (metrics, diagnostics) := MetricsSource.collect ⟨graph, index, gates⟩
    (some metrics, diagnostics)
  else
    (none, [])

/-- Runs every generator that is switched on. -/
def run (configuration : GeneratorConfiguration) (graph : TypeGraph) : Generated :=
  let (index, reading) := MarkerIndex.ofGraph Vocabulary.registry graph
  let (gates, skippedGates) := Gate.State.read configuration.featureGates
  let (resources, resourceDiagnostics) := configuration.runResources graph index gates
  let (roles, roleDiagnostics) := configuration.runRoles index gates
  let (webhooks, webhookDiagnostics) := configuration.runWebhooks index gates
  let (metrics, metricDiagnostics) := configuration.runMetrics graph index gates
  { resources, roles, webhooks, metrics, skippedGates
    diagnostics := reading ++ resourceDiagnostics ++ roleDiagnostics ++ webhookDiagnostics ++
      metricDiagnostics }

end GeneratorConfiguration
end MarkerManifests
