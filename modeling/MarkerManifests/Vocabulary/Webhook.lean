import MarkerManifests.Marker.Registry

/-!
# The marker of admission webhooks
-/

namespace MarkerManifests
namespace Vocabulary

/-- The marker of admission webhooks. -/
def webhook : String := "webhook"

/-- What a webhook marker takes. -/
def webhookDefinition : Definition where
  name := webhook
  applicability := .package
  consumer := .webhook
  parameters := [
    ⟨"name", .string, false⟩,
    ⟨"mutating", .boolean, true⟩,
    ⟨"path", .string, true⟩,
    ⟨"url", .string, true⟩,
    ⟨"groups", .list, false⟩,
    ⟨"versions", .list, false⟩,
    ⟨"resources", .list, false⟩,
    ⟨"verbs", .list, false⟩,
    ⟨"failurePolicy", .string, true⟩,
    ⟨"sideEffects", .string, false⟩,
    ⟨"timeoutSeconds", .integer, true⟩,
    ⟨"admissionReviewVersions", .list, true⟩,
    ⟨"reinvocationPolicy", .string, true⟩,
    ⟨"matchPolicy", .string, true⟩,
    ⟨"namespaceSelector", .record, true⟩,
    ⟨"objectSelector", .record, true⟩,
    ⟨"webhookVersions", .list, true⟩,
    ⟨"featureGate", .gate, true⟩]
  help := {
    category := "webhook"
    summary := "register an admission webhook"
    details := "Exactly one of path (served by the configured service) or url must be set. " ++
      "verbs are admission operations such as create or update." }

/-- The markers of admission webhooks. -/
def webhooks : Provider where
  name := "webhook"
  definitions := [webhookDefinition, webhookDefinition.inComment .declaration]

end Vocabulary
end MarkerManifests
