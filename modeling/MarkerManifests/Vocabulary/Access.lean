import MarkerManifests.Marker.Registry

/-!
# The marker of access rules
-/

namespace MarkerManifests
namespace Vocabulary

/-- The marker of access rules. -/
def accessRule : String := "rbac"

/-- What an access rule marker takes. -/
def accessDefinition : Definition where
  name := accessRule
  applicability := .package
  consumer := .rule
  parameters := [
    ⟨"group", .list, true⟩,
    ⟨"resource", .list, true⟩,
    ⟨"resourceNames", .list, true⟩,
    ⟨"verbs", .list, false⟩,
    ⟨"urls", .list, true⟩,
    ⟨"namespace", .list, true⟩,
    ⟨"featureGate", .gate, true⟩]
  help := {
    category := "rbac"
    summary := "grant the generated role a permission"
    details := "Each combination of group, resource and namespace becomes one rule. " ++
      "Rules naming urls are cluster-scoped and may not name resources." }

/-- The markers of access rules. -/
def access : Provider where
  name := "rbac"
  definitions := [accessDefinition, accessDefinition.inComment .declaration]

end Vocabulary
end MarkerManifests
