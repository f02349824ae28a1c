import MarkerManifests.Vocabulary.Access
import MarkerManifests.Vocabulary.Metrics
import MarkerManifests.Vocabulary.Schema
import MarkerManifests.Vocabulary.Webhook

/-!
# All markers

The registry of the markers of schemas, access rules, webhooks and metrics.
-/

namespace MarkerManifests
namespace Vocabulary

/-- The providers in the order in which their markers are registered. -/
def providers : List Provider :=
  [schema, access, webhooks, metrics]

/-- The registry of all markers. -/
def registry : Registry where
  definitions := providers.flatMap (·.definitions)
  distinct := by decide +kernel

end Vocabulary
end MarkerManifests
