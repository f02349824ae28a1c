import MarkerManifests.Access.Marker
import MarkerManifests.Access.Role
import MarkerManifests.Proofs.Access.Grouping
import MarkerManifests.Proofs.Access.Placing
import MarkerManifests.Proofs.Marker.Occurrence
import Mathlib.Tactic.Tauto

/-!
# What access rules grant

Requests for a verb on an object of a resource or on a URL, and what the stages of
aggregation grant: a marker by its own arguments, a rule, a set of rules and the published
roles. The stages grant the same requests, so merging rules under their targets and
splitting them into roles neither adds nor loses a permission.
-/

namespace MarkerManifests

/-- Something that a client asks to do. -/
inductive AccessRequest where
  /-- A verb on an object of a resource in a namespace. -/
  | onResource (verb group resource object namespaceName : String)
  /-- A verb on a URL. -/
  | onUrl (verb url : String)
  deriving DecidableEq

namespace AccessRequest

/-- The verb of a request. -/
def verb : AccessRequest → String
  | onResource verb _ _ _ _ => verb
  | onUrl verb _ => verb

/-- The namespace of a request; a URL lies in none. -/
def namespaceName? : AccessRequest → Option String
  | onResource _ _ _ _ namespaceName => some namespaceName
  | onUrl _ _ => none

end AccessRequest

/-! ## What each stage grants -/

/-- Whether a request is about the objects of a target. -/
def RuleTarget.Covers (target : RuleTarget) : AccessRequest → Prop
  | .onResource _ group resource object namespaceName =>
    target.url = "" ∧ group = target.group ∧ resource = target.resource ∧
      (target.resourceNames.isEmpty ∨ object ∈ target.resourceNames) ∧
      (target.namespaceName = "" ∨ namespaceName = target.namespaceName)
  | .onUrl _ url => url ≠ "" ∧ url = target.url ∧ target.namespaceName = ""

/-- Whether a rule grants a request. -/
def AccessRule.Grants (rule : AccessRule) (request : AccessRequest) : Prop :=
  request.verb ∈ rule.verbs ∧ rule.target.Covers request

/-- Whether some rule of a list grants a request. -/
def AccessRule.SomeGrants (rules : List AccessRule) (request : AccessRequest) : Prop :=
  ∃ rule ∈ rules, rule.Grants request

/-- Whether a rule of a role grants a request, wherever the role applies. -/
def PolicyRule.Grants (rule : PolicyRule) : AccessRequest → Prop
  | .onResource verb group resource object _ =>
    verb ∈ rule.verbs ∧ group ∈ rule.apiGroups ∧ resource ∈ rule.resources ∧
      (rule.resourceNames = [] ∨ object ∈ rule.resourceNames)
  | .onUrl verb url => verb ∈ rule.verbs ∧ url ∈ rule.urls

/-- A role for the whole cluster applies everywhere, and another one in its namespace only. -/
def Role.AppliesTo (role : Role) (request : AccessRequest) : Prop :=
  match role.namespaceName with
  | none => True
  | some namespaceName => request.namespaceName? = some namespaceName

/-- Whether a role grants a request. -/
def Role.Grants (role : Role) (request : AccessRequest) : Prop :=
  role.AppliesTo request ∧ ∃ rule ∈ role.rules, rule.Grants request

namespace Marker

/-- The groups that an access rule marker names. -/
def accessGroups (marker : Marker) : List String :=
  if marker.list "group" = [] then [""] else (marker.list "group").map AccessRule.groupOf

/-- Whether the arguments of an access rule marker grant a request. -/
def GrantsAccess (marker : Marker) : AccessRequest → Prop
  | .onResource verb group resource object namespaceName =>
    verb ≠ "" ∧ verb ∈ marker.list "verbs" ∧
      group ∈ marker.accessGroups ∧
      resource ∈ marker.list "resource" ∧
      (marker.list "resourceNames" = [] ∨ object ∈ marker.list "resourceNames") ∧
      (marker.list "namespace" = [] ∨ namespaceName ∈ marker.list "namespace" ∨
        "" ∈ marker.list "namespace")
  | .onUrl verb url =>
    verb ≠ "" ∧ verb ∈ marker.list "verbs" ∧ url ∈ marker.list "urls"

end Marker

/-! ## Sets of rules -/

namespace AccessRule

@[simp] theorem someGrants_nil (request : AccessRequest) :
    ¬ SomeGrants [] request := by
  simp [SomeGrants]

/-- A request is granted where its verb is, on a target that covers it. -/
theorem someGrants_iff
    {rules : List AccessRule}
    {request : AccessRequest} :
    SomeGrants rules request ↔
      ∃ target : RuleTarget, target.Covers request ∧ SomeHasVerb rules target request.verb := by
  constructor
  · rintro ⟨rule, member, hasVerb, covers⟩
    exact ⟨rule.target, covers, rule, member, rfl, hasVerb⟩
  · rintro ⟨target, covers, rule, member, rfl, hasVerb⟩
    exact ⟨rule, member, hasVerb, covers⟩

end AccessRule

namespace AccessRules

open AccessRule

/-- Inserting rules adds exactly what they grant. -/
theorem someGrants_insertAll
    (set : AccessRules)
    (rules : List AccessRule)
    (request : AccessRequest) :
    SomeGrants (set.insertAll rules).rules request ↔
      SomeGrants set.rules request ∨ SomeGrants rules request := by
  simp only [someGrants_iff, someHasVerb_insertAll, and_or_left, exists_or]

/-- The rules collected from markers grant what the rules of any of the markers grant. -/
theorem someGrants_collectMarkers
    (set : AccessRules)
    (diagnostics : Diagnostics)
    (markers : Markers)
    (request : AccessRequest) :
    SomeGrants (set.collectMarkers diagnostics markers).1.rules request ↔
      SomeGrants set.rules request ∨
        ∃ marker ∈ markers, ∃ rules,
          AccessRule.ofMarker marker = .ok rules ∧ SomeGrants rules request := by
  induction markers generalizing set diagnostics with
  | nil => simp [collectMarkers]
  | cons marker rest inductionHypothesis =>
      cases expanded : AccessRule.ofMarker marker with
      | ok rules =>
          simp [collectMarkers, expanded, inductionHypothesis,
            someGrants_insertAll, or_assoc]
      | error error =>
          simp [collectMarkers, expanded, inductionHypothesis]

/-! ## Roles -/

/-- A rule grants what its form in a role grants, where the rule holds. -/
theorem grants_ofAccessRule
    (rule : AccessRule)
    (request : AccessRequest) :
    rule.Grants request ↔
      (PolicyRule.ofAccessRule rule).Grants request ∧
        (rule.namespaceName = "" ∨
          request.namespaceName? = some rule.namespaceName) := by
  have emptyNames : rule.resourceNames.isEmpty = true ↔
      rule.resourceNames.toList = [] := List.isEmpty_iff
  by_cases onUrl : rule.url = ""
  · have notUrl : rule.isUrl = false := by simp [AccessRule.isUrl, onUrl]
    cases request with
    | onResource verb group resource object namespaceName =>
        simp only [AccessRule.Grants, RuleTarget.Covers, AccessRule.target,
          AccessRequest.verb, AccessRequest.namespaceName?, PolicyRule.ofAccessRule,
          notUrl, PolicyRule.Grants, emptyNames, onUrl, Bool.false_eq_true, if_false,
          List.mem_singleton, NameSet.mem_toList, Option.some.injEq, true_and]
        tauto
    | onUrl verb url =>
        simp only [AccessRule.Grants, RuleTarget.Covers, AccessRule.target, onUrl,
          PolicyRule.ofAccessRule, notUrl, PolicyRule.Grants, Bool.false_eq_true,
          if_false, List.not_mem_nil, and_false, false_and, iff_false]
        rintro ⟨-, nonempty, empty, -⟩
        exact nonempty empty
  · have isUrl : rule.isUrl = true := by simp [AccessRule.isUrl, onUrl]
    cases request with
    | onResource verb group resource object namespaceName =>
        simp [AccessRule.Grants, RuleTarget.Covers, AccessRule.target, onUrl,
          PolicyRule.ofAccessRule, isUrl, PolicyRule.Grants]
    | onUrl verb url =>
        simp only [AccessRule.Grants, RuleTarget.Covers, AccessRule.target,
          AccessRequest.verb, AccessRequest.namespaceName?, PolicyRule.ofAccessRule,
          isUrl, PolicyRule.Grants, if_true, List.mem_singleton, NameSet.mem_toList,
          reduceCtorEq, or_false]
        constructor
        · rintro ⟨granted, -, same, everywhere⟩
          exact ⟨⟨granted, same⟩, everywhere⟩
        · rintro ⟨⟨granted, same⟩, everywhere⟩
          exact ⟨granted, same ▸ onUrl, same, everywhere⟩

/-- The role for the place of a rule applies where the rule holds. -/
theorem appliesTo_forPlace_iff
    {rules : List AccessRule}
    {name : String}
    {rule : AccessRule}
    {request : AccessRequest} :
    (Role.forPlace rules name rule.place).AppliesTo request ↔
      rule.namespaceName = "" ∨ request.namespaceName? = some rule.namespaceName := by
  by_cases everywhere : rule.namespaceName = "" <;>
    simp [Role.AppliesTo, Role.forPlace, place, everywhere]

/-- The roles of a set of rules grant what the rules grant. -/
theorem exists_role_grants_iff_someGrants
    (set : AccessRules)
    (name : String)
    (request : AccessRequest) :
    (∃ role ∈ set.roles name, role.Grants request) ↔
      SomeGrants set.rules request := by
  rw [roles_eq_map_forPlace]
  constructor
  · rintro ⟨role, isRole, applies, policy, listed, granted⟩
    obtain ⟨place, -, rfl⟩ := List.mem_map.mp isRole
    obtain ⟨rule, member, rfl⟩ := List.mem_map.mp listed
    obtain ⟨present, isPlace⟩ := List.mem_filter.mp member
    obtain rfl := of_decide_eq_true isPlace
    exact ⟨rule, present,
      (grants_ofAccessRule rule request).mpr ⟨granted, appliesTo_forPlace_iff.mp applies⟩⟩
  · rintro ⟨rule, present, grants⟩
    obtain ⟨granted, holds⟩ := (grants_ofAccessRule rule request).mp grants
    have isPlace : rule.place ∈ placesOf set.rules := mem_placesOf_iff.mpr ⟨rule, present, rfl⟩
    refine ⟨.forPlace set.rules name rule.place, List.mem_map_of_mem isPlace,
      appliesTo_forPlace_iff.mpr holds, .ofAccessRule rule, ?_, granted⟩
    exact List.mem_map_of_mem (List.mem_filter.mpr ⟨present, decide_eq_true rfl⟩)

end AccessRules

/-! ## Expansion of markers -/

namespace AccessRule

theorem onResource_grants_iff
    (verbs names : NameSet)
    (word resource namespaceName : String)
    (request : AccessRequest) :
    (onResource verbs names word resource namespaceName).Grants request ↔
      ∃ verb object place,
        request = .onResource verb (groupOf word) resource object place ∧
          verb ∈ verbs ∧ (names.isEmpty ∨ object ∈ names) ∧
          (namespaceName = "" ∨ place = namespaceName) := by
  cases request with
  | onResource verb group wanted object place =>
      simp only [Grants, onResource, target, RuleTarget.Covers, AccessRequest.verb,
        AccessRequest.onResource.injEq, true_and]
      constructor
      · rintro ⟨granted, rfl, rfl, named, placed⟩
        exact ⟨verb, object, place, ⟨rfl, rfl, rfl, rfl, rfl⟩, granted, named, placed⟩
      · rintro ⟨_, _, _, ⟨rfl, rfl, rfl, rfl, rfl⟩, granted, named, placed⟩
        exact ⟨granted, rfl, rfl, named, placed⟩
  | onUrl verb url =>
      simp only [Grants, onResource, target, RuleTarget.Covers, reduceCtorEq, false_and,
        exists_false, iff_false]
      rintro ⟨-, nonempty, empty, -⟩
      exact nonempty empty

theorem onUrl_grants_iff
    (verbs : NameSet)
    {url : String}
    (nonempty : url ≠ "")
    (request : AccessRequest) :
    (onUrl verbs url).Grants request ↔
      ∃ verb, request = .onUrl verb url ∧ verb ∈ verbs := by
  cases request with
  | onResource verb group wanted object place =>
      simp [Grants, onUrl, target, RuleTarget.Covers, nonempty]
  | onUrl verb wanted =>
      simp only [Grants, onUrl, target, RuleTarget.Covers, AccessRequest.verb,
        AccessRequest.onUrl.injEq, and_true]
      constructor
      · rintro ⟨granted, -, rfl⟩
        exact ⟨verb, ⟨rfl, rfl⟩, granted⟩
      · rintro ⟨_, ⟨rfl, rfl⟩, granted⟩
        exact ⟨granted, nonempty, rfl⟩

/-- Every URL has its rule. -/
theorem someGrants_urls
    (verbs : NameSet)
    {urls : List String}
    (nonemptyUrls : "" ∉ urls)
    (request : AccessRequest) :
    SomeGrants (urls.map (onUrl verbs)) request ↔
      ∃ verb, ∃ url ∈ urls, request = .onUrl verb url ∧ verb ∈ verbs := by
  have nonempty : ∀ url ∈ urls, url ≠ "" := by
    rintro url listed rfl
    exact nonemptyUrls listed
  constructor
  · rintro ⟨rule, present, grants⟩
    obtain ⟨url, listed, rfl⟩ := List.mem_map.mp present
    obtain ⟨verb, covered⟩ := (onUrl_grants_iff _ (nonempty url listed) request).mp grants
    exact ⟨verb, url, listed, covered⟩
  · rintro ⟨verb, url, listed, covered⟩
    exact ⟨onUrl verbs url, List.mem_map_of_mem listed,
      (onUrl_grants_iff _ (nonempty url listed) request).mpr ⟨verb, covered⟩⟩

/-- Every combination of a group, a resource and a namespace has its rule. -/
theorem someGrants_combinations
    (verbs names : NameSet)
    (groups resources namespaces : List String)
    (request : AccessRequest) :
    SomeGrants (combinations verbs names groups resources namespaces) request ↔
      ∃ verb object place, ∃ word ∈ groups, ∃ resource ∈ resources,
        ∃ namespaceName ∈ namespaces,
          request = .onResource verb (groupOf word) resource object place ∧
            verb ∈ verbs ∧ (names.isEmpty ∨ object ∈ names) ∧
            (namespaceName = "" ∨ place = namespaceName) := by
  constructor
  · rintro ⟨rule, present, grants⟩
    simp only [combinations, List.mem_flatMap, List.mem_map] at present
    obtain ⟨word, inGroups, resource, inResources, namespaceName, inNamespaces, rfl⟩ :=
      present
    obtain ⟨verb, object, place, covered⟩ := (onResource_grants_iff ..).mp grants
    exact ⟨verb, object, place, word, inGroups, resource, inResources, namespaceName,
      inNamespaces, covered⟩
  · rintro ⟨verb, object, place, word, inGroups, resource, inResources, namespaceName,
      inNamespaces, covered⟩
    refine ⟨onResource verbs names word resource namespaceName, ?_,
      (onResource_grants_iff ..).mpr ⟨verb, object, place, covered⟩⟩
    simp only [combinations, List.mem_flatMap, List.mem_map]
    exact ⟨word, inGroups, resource, inResources, namespaceName, inNamespaces, rfl⟩

/-- The two ways in which a marker stands for rules. -/
theorem ofMarker_eq_ok_cases
    {marker : Marker}
    {rules : List AccessRule}
    (expanded : ofMarker marker = .ok rules) :
    (marker.list "urls" ≠ [] ∧ marker.list "resource" = [] ∧
      (∀ namespaceName ∈ marker.list "namespace", namespaceName = "") ∧
      rules = (marker.list "urls").map
        (onUrl (NameSet.ofList ((marker.list "verbs").filter (· ≠ ""))))) ∨
    (marker.list "urls" = [] ∧ marker.list "resource" ≠ [] ∧
      rules = combinations (NameSet.ofList ((marker.list "verbs").filter (· ≠ "")))
        (NameSet.ofList (marker.list "resourceNames")) (orEmpty (marker.list "group"))
        (marker.list "resource") (orEmpty (marker.list "namespace"))) := by
  simp only [ofMarker] at expanded
  split at expanded
  · cases expanded
  · split at expanded
    · rename_i hasUrls
      split at expanded
      · cases expanded
      · rename_i unmixed
        simp only [not_or, not_not] at unmixed
        split at expanded
        · cases expanded
        · rename_i noNamespace
          cases expanded
          refine .inl ⟨hasUrls, unmixed.2.1, fun namespaceName listed => ?_, rfl⟩
          simpa using List.find?_eq_none.mp noNamespace namespaceName listed
    · rename_i noUrls
      split at expanded
      · cases expanded
      · rename_i hasResources
        cases expanded
        exact .inr ⟨not_not.mp noUrls, hasResources, rfl⟩

theorem mem_accessGroups_iff
    {marker : Marker}
    {group : String} :
    group ∈ marker.accessGroups ↔
      ∃ word ∈ orEmpty (marker.list "group"), group = groupOf word := by
  unfold Marker.accessGroups orEmpty
  split
  · simp [groupOf, coreGroup]
  · simp [eq_comm]

/-- A list of namespaces that is empty or names the empty one stands for the whole cluster. -/
theorem mem_orEmpty_place_iff
    {namespaces : List String}
    {place : String} :
    (∃ namespaceName ∈ orEmpty namespaces, namespaceName = "" ∨ place = namespaceName) ↔
      namespaces = [] ∨ place ∈ namespaces ∨ "" ∈ namespaces := by
  unfold orEmpty
  split
  · rename_i none
    simp [none]
  · rename_i some
    constructor
    · rintro ⟨namespaceName, listed, rfl | rfl⟩
      · exact .inr (.inr listed)
      · exact .inr (.inl listed)
    · rintro (none | listed | listed)
      · exact absurd none some
      · exact ⟨place, listed, .inr rfl⟩
      · exact ⟨"", listed, .inl rfl⟩

theorem isEmpty_ofList (names : List String) :
    (NameSet.ofList names).isEmpty = true ↔ names = [] := by
  rw [NameSet.isEmpty, List.isEmpty_iff, List.eq_nil_iff_forall_not_mem,
    List.eq_nil_iff_forall_not_mem]
  simp

/-- The rules of a marker grant what its arguments grant. -/
theorem someGrants_ofMarker
    {marker : Marker}
    {rules : List AccessRule}
    (expanded : ofMarker marker = .ok rules)
    (nonemptyUrls : "" ∉ marker.list "urls")
    (request : AccessRequest) :
    SomeGrants rules request ↔ marker.GrantsAccess request := by
  rcases ofMarker_eq_ok_cases expanded with
    ⟨-, noResources, -, rfl⟩ | ⟨noUrls, -, rfl⟩
  · rw [someGrants_urls _ nonemptyUrls]
    cases request with
    | onResource verb group resource object place =>
        simp [Marker.GrantsAccess, noResources]
    | onUrl verb url =>
        simp only [AccessRequest.onUrl.injEq, NameSet.mem_ofList, List.mem_filter,
          decide_eq_true_eq, Marker.GrantsAccess]
        constructor
        · rintro ⟨_, _, listed, ⟨rfl, rfl⟩, granted, nonempty⟩
          exact ⟨nonempty, granted, listed⟩
        · rintro ⟨nonempty, granted, listed⟩
          exact ⟨verb, url, listed, ⟨rfl, rfl⟩, granted, nonempty⟩
  · rw [someGrants_combinations]
    cases request with
    | onUrl verb url => simp [Marker.GrantsAccess, noUrls]
    | onResource verb group resource object place =>
        simp only [AccessRequest.onResource.injEq, NameSet.mem_ofList, List.mem_filter,
          decide_eq_true_eq, isEmpty_ofList, Marker.GrantsAccess]
        constructor
        · rintro ⟨_, _, _, word, inGroups, _, inResources, namespaceName, inNamespaces,
            ⟨rfl, rfl, rfl, rfl, rfl⟩, ⟨granted, nonempty⟩, named, placed⟩
          refine ⟨nonempty, granted, ?_, inResources, named, ?_⟩
          · exact mem_accessGroups_iff.mpr ⟨word, inGroups, rfl⟩
          · exact mem_orEmpty_place_iff.mp ⟨namespaceName, inNamespaces, placed⟩
        · rintro ⟨nonempty, granted, inGroups, inResources, named, placed⟩
          obtain ⟨word, listed, rfl⟩ := mem_accessGroups_iff.mp inGroups
          obtain ⟨namespaceName, inNamespaces, placed⟩ := mem_orEmpty_place_iff.mpr placed
          exact ⟨verb, object, place, word, listed, resource, inResources, namespaceName,
            inNamespaces, ⟨rfl, rfl, rfl, rfl, rfl⟩, ⟨granted, nonempty⟩, named, placed⟩

end AccessRule

/-! ## The whole aggregation -/

namespace AccessRules

open AccessRule

theorem mem_activeMarkers
    (index : MarkerIndex)
    (gates : Gate.State)
    (marker : Marker) :
    marker ∈ activeMarkers index gates ↔
      marker ∈ index.consumedBy .rule ∧ marker.name = Vocabulary.accessRule ∧
        marker.IsUngated gates := by
  unfold activeMarkers Markers.named Marker.IsUngated
  rw [List.mem_filter, List.mem_filter, and_assoc, decide_eq_true_eq]
  cases marker.gate? "featureGate" <;> simp

/-- Some published role grants a request exactly if some access rule marker that is switched
on and stands for rules grants it by its own arguments. -/
theorem exists_role_grants_iff_exists_marker_grants
    (index : MarkerIndex)
    (gates : Gate.State)
    (nonemptyUrls : ∀ marker ∈ index.consumedBy .rule,
      marker.name = Vocabulary.accessRule → "" ∉ marker.list "urls")
    (name : String)
    (request : AccessRequest) :
    (∃ role ∈ (collect index gates).1.roles name, role.Grants request) ↔
      ∃ marker ∈ index.consumedBy .rule,
        marker.name = Vocabulary.accessRule ∧ marker.IsUngated gates ∧
          (∃ rules, AccessRule.ofMarker marker = .ok rules) ∧
            marker.GrantsAccess request := by
  rw [exists_role_grants_iff_someGrants, collect, someGrants_collectMarkers]
  constructor
  · rintro (impossible | ⟨marker, active, rules, expanded, grants⟩)
    · exact absurd impossible (someGrants_nil request)
    · obtain ⟨indexed, named, ungated⟩ := (mem_activeMarkers index gates marker).mp active
      exact ⟨marker, indexed, named, ungated, ⟨rules, expanded⟩,
        (someGrants_ofMarker expanded (nonemptyUrls marker indexed named) request).mp
          grants⟩
  · rintro ⟨marker, indexed, named, ungated, ⟨rules, expanded⟩, grants⟩
    exact .inr ⟨marker, (mem_activeMarkers index gates marker).mpr
      ⟨indexed, named, ungated⟩, rules, expanded,
      (someGrants_ofMarker expanded (nonemptyUrls marker indexed named) request).mpr
        grants⟩

/-- A package that reads pods in two namespaces, where the second marker adds a verb in one of
them, and that reads a URL. -/
def podReaders : MarkerIndex where
  entries := [(.package "apps", [
    ⟨"rbac", .package "apps", .rule,
      [("group", .list ["core"]), ("resource", .list ["pods"]), ("verbs", .list ["get", ""]),
        ("namespace", .list ["blue", "green"])]⟩,
    ⟨"rbac", .package "apps", .rule,
      [("resource", .list ["pods"]), ("verbs", .list ["list"]),
        ("namespace", .list ["green"])]⟩,
    ⟨"rbac", .package "apps", .rule,
      [("urls", .list ["/metrics"]), ("verbs", .list ["get"])]⟩])]

theorem podReaders_roles_grant :
    (∀ marker ∈ podReaders.consumedBy .rule,
      marker.name = Vocabulary.accessRule → "" ∉ marker.list "urls") ∧
    (∃ role ∈ (collect podReaders .empty).1.roles "reader",
      role.Grants (.onResource "list" "" "pods" "web" "green")) ∧
    ¬ ∃ role ∈ (collect podReaders .empty).1.roles "reader",
      role.Grants (.onResource "list" "" "pods" "web" "blue") := by
  have nonemptyUrls : ∀ marker ∈ podReaders.consumedBy .rule,
      marker.name = Vocabulary.accessRule → "" ∉ marker.list "urls" := by
    decide
  refine ⟨nonemptyUrls, ?_, ?_⟩
  · rw [exists_role_grants_iff_exists_marker_grants podReaders .empty nonemptyUrls]
    refine ⟨_, List.mem_of_getElem? (i := 1) rfl, rfl, ?_, ⟨_, rfl⟩, ?_⟩
    · intro expr gated
      cases gated
    · simp [Marker.GrantsAccess, Marker.accessGroups, Marker.list, Marker.argument?,
        Argument.list?]
  · rw [exists_role_grants_iff_exists_marker_grants podReaders .empty nonemptyUrls]
    rintro ⟨marker, indexed, -, -, -, grants⟩
    simp only [podReaders, MarkerIndex.consumedBy, Markers.consumedBy, List.flatMap_cons,
      List.flatMap_nil, List.append_nil, List.mem_filter, List.mem_cons, List.not_mem_nil,
      or_false] at indexed
    rcases indexed.1 with rfl | rfl | rfl <;>
      simp [Marker.GrantsAccess, Marker.list, Marker.argument?, Argument.list?] at grants

end AccessRules
end MarkerManifests
