import MarkerManifests.Access.Rule
import MarkerManifests.Json.Record
import MarkerManifests.Ordered.Entries

/-!
# Roles

Rules are published as roles: one for the whole cluster, and one for each namespace in the order in
which the namespaces were first seen. A role without rules is not published.
-/

namespace MarkerManifests

/-- A rule of a role. -/
structure PolicyRule where
  apiGroups : List String := []
  resources : List String := []
  resourceNames : List String := []
  urls : List String := []
  verbs : List String
  deriving DecidableEq

/-- A role. -/
structure Role where
  name : String
  /-- The namespace, or none for the whole cluster. -/
  namespaceName : Option String
  rules : List PolicyRule
  deriving DecidableEq

namespace PolicyRule

/-- The rule of a role for an access rule. -/
def ofAccessRule (rule : AccessRule) : PolicyRule :=
  if rule.isUrl then
    { urls := [rule.url], verbs := rule.verbs.toList }
  else
    { apiGroups := [rule.group]
      resources := [rule.resource]
      resourceNames := rule.resourceNames.toList
      verbs := rule.verbs.toList }

/-- Writes a rule of a role. -/
def toJson (rule : PolicyRule) : Json :=
  .object (
    Json.listEntry "apiGroups" (rule.apiGroups.map .string) ++
    Json.listEntry "resources" (rule.resources.map .string) ++
    Json.listEntry "resourceNames" (rule.resourceNames.map .string) ++
    Json.listEntry "nonResourceURLs" (rule.urls.map .string) ++
    [("verbs", .strings rule.verbs)])

end PolicyRule

namespace Role

/-- The word for the kind of a role. -/
def kind (role : Role) : String :=
  match role.namespaceName with
  | none => "ClusterRole"
  | some _ => "Role"

/-- Writes a role. -/
def toJson (role : Role) : Json :=
  .object [
    ("apiVersion", .string "rbac.authorization.k8s.io/v1"),
    ("kind", .string role.kind),
    ("metadata", .object (("name", .string role.name) ::
      Json.optionEntry "namespace" .string role.namespaceName)),
    ("rules", .array (role.rules.map PolicyRule.toJson))]

end Role

/-- Rules of roles by the place where they hold. -/
structure PlacedRules where
  /-- The rules for the whole cluster. -/
  cluster : List PolicyRule := []
  /-- The rules of each namespace, in the order in which the namespaces were first seen. -/
  namespaced : List (String × List PolicyRule) := []

namespace PlacedRules

/-- The rules of a namespace. -/
def ofNamespace (placed : PlacedRules) (namespaceName : String) : List PolicyRule :=
  (Entries.get? placed.namespaced namespaceName).getD []

/-- Adds an access rule behind the rules of its place. -/
def add (placed : PlacedRules) (rule : AccessRule) : PlacedRules :=
  if rule.isClusterScoped then
    { placed with cluster := placed.cluster ++ [.ofAccessRule rule] }
  else
    { placed with
      namespaced := Entries.put placed.namespaced rule.namespaceName
        (placed.ofNamespace rule.namespaceName ++ [.ofAccessRule rule]) }

/-- The roles of a name for placed rules. -/
def roles (placed : PlacedRules) (name : String) : List Role :=
  (if placed.cluster.isEmpty then [] else [⟨name, none, placed.cluster⟩]) ++
    placed.namespaced.map fun (namespaceName, rules) => ⟨name, some namespaceName, rules⟩

end PlacedRules

namespace AccessRules

/-- The roles of a name that grant what the rules grant. -/
def roles (set : AccessRules) (name : String) : List Role :=
  (set.rules.foldl PlacedRules.add {}).roles name

/-- The name of roles where none is given. -/
def defaultRoleName : String := "manager-role"

/-- The role of a name for the rules that hold in the whole cluster. -/
def clusterRole (set : AccessRules) (name : String) : Role where
  name := name
  namespaceName := none
  rules := (set.rules.filter (·.isClusterScoped)).map PolicyRule.ofAccessRule

end AccessRules
end MarkerManifests
