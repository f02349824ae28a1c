import MarkerManifests.Access.Rule
import MarkerManifests.Marker.Index
import MarkerManifests.Text.Displayed
import MarkerManifests.Vocabulary.Access

/-!
# Access rules of markers

A marker stands for a rule for every combination of its groups, resources and namespaces, or for
a rule for each of its URLs. A marker without verbs, without targets or with targets of both kinds
grants nothing and is reported.
-/

namespace MarkerManifests

/-- Why a marker grants nothing. -/
inductive AccessError where
  | mixedTarget (urls : List String)
  | missingTarget
  | namespacedUrl (namespaceName : String)
  | noVerbs
  deriving DecidableEq

/-- The wording of an error. -/
def AccessError.message : AccessError → String
  | mixedTarget urls =>
    "rbac marker mixes urls (" ++ ";".intercalate urls ++ ") with resource arguments"
  | missingTarget => "rbac marker names neither a resource nor a url"
  | namespacedUrl namespaceName =>
    "rbac marker scopes urls to namespace " ++ Text.displayed namespaceName
  | noVerbs => "rbac marker grants no verbs"

namespace AccessRule

/-- The rule that grants verbs on a URL. -/
def onUrl (verbs : NameSet) (url : String) : AccessRule :=
  { url, verbs }

/-- The rule that grants verbs on a resource in a namespace. -/
def onResource (verbs resourceNames : NameSet) (group resource namespaceName : String) :
    AccessRule :=
  { group := groupOf group, resource, resourceNames, namespaceName, verbs }

/-- The names of a list, or the empty name if there are none. -/
def orEmpty (names : List String) : List String :=
  if names = [] then [""] else names

/-- The rules for all combinations of groups, resources and namespaces. -/
def combinations (verbs resourceNames : NameSet) (groups resources namespaces : List String) :
    List AccessRule :=
  groups.flatMap fun group => resources.flatMap fun resource =>
    namespaces.map (onResource verbs resourceNames group resource)

/-- The rules that a marker stands for. -/
def ofMarker (marker : Marker) : Except AccessError (List AccessRule) :=
  let verbs := (marker.list "verbs").filter (· ≠ "")
  let groups := marker.list "group"
  let resources := marker.list "resource"
  let names := marker.list "resourceNames"
  let urls := marker.list "urls"
  let namespaces := marker.list "namespace"
  if verbs = [] then
    .error .noVerbs
  else if urls ≠ [] then
    if groups ≠ [] ∨ resources ≠ [] ∨ names ≠ [] then
      .error (.mixedTarget urls)
    else
      match namespaces.find? (· ≠ "") with
      | some namespaceName => .error (.namespacedUrl namespaceName)
      | none => .ok (urls.map (onUrl (NameSet.ofList verbs)))
  else if resources = [] then
    .error .missingTarget
  else
    .ok (combinations (NameSet.ofList verbs) (NameSet.ofList names) (orEmpty groups) resources
      (orEmpty namespaces))

end AccessRule

namespace AccessRules

/-- The access rule markers of an index that are switched on, in source order. -/
def activeMarkers (index : MarkerIndex) (gates : Gate.State) : Markers :=
  ((index.consumedBy .rule).named Vocabulary.accessRule).filter fun marker =>
    match marker.gate? "featureGate" with
    | some expr => expr.eval gates
    | none => true

/-- Adds the rules of markers and reports the markers that grant nothing. -/
def collectMarkers (set : AccessRules) (diagnostics : Diagnostics) :
    Markers → AccessRules × Diagnostics
  | [] => (set, diagnostics)
  | marker :: rest =>
    match AccessRule.ofMarker marker with
    | .ok rules => (set.insertAll rules).collectMarkers diagnostics rest
    | .error error =>
      set.collectMarkers (diagnostics ++ [⟨.semantic, marker.location, error.message⟩]) rest

/-- The access rules of an index and the failures met while they were collected. -/
def collect (index : MarkerIndex) (gates : Gate.State) : AccessRules × Diagnostics :=
  empty.collectMarkers [] (activeMarkers index gates)

end AccessRules
end MarkerManifests
