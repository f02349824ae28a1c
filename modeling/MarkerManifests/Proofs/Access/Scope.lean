import MarkerManifests.Proofs.Access.Grant
import MarkerManifests.Vocabulary.Complete
import Mathlib.Data.List.Basic

/-!
# Where markers grant

A marker that lists namespaces grants in each of them. But a list may have empty items, which are
left by doubled separators and by separators at its end, and the empty namespace stands for the
whole cluster. So the rules of a marker that lists a namespace stay in namespaces exactly if the
list has no empty item. Rules that stay in namespaces leave the role for the whole cluster alone.
-/

namespace MarkerManifests

theorem AccessRule.isClusterScoped_eq_false_iff {rule : AccessRule} :
    rule.isClusterScoped = false ↔ rule.namespaceName ≠ "" :=
  beq_eq_false_iff_ne

namespace AccessRules

/-- Merging a rule of a namespace changes none of the rules for the whole cluster. -/
theorem filter_isClusterScoped_mergeRule
    {rule : AccessRule}
    (narrow : rule.isClusterScoped = false)
    (rules : List AccessRule) :
    (mergeRule rule rules).filter (·.isClusterScoped) = rules.filter (·.isClusterScoped) := by
  induction rules with
  | nil => simp [mergeRule, narrow]
  | cons first rest inductionHypothesis =>
      unfold mergeRule
      split
      · rename_i sameTarget
        have sameScope : first.isClusterScoped = rule.isClusterScoped := by
          rw [AccessRule.isClusterScoped, AccessRule.isClusterScoped]
          exact congrArg (·.namespaceName == "") sameTarget
        have withVerbs : (first.withVerbsOf rule).isClusterScoped = first.isClusterScoped := rfl
        rw [List.filter_cons_of_neg, List.filter_cons_of_neg]
        · rw [sameScope, narrow]
          exact Bool.false_ne_true
        · rw [withVerbs, sameScope, narrow]
          exact Bool.false_ne_true
      · rw [List.filter_cons, List.filter_cons, inductionHypothesis]

/-- Rules of namespaces change nothing in the role for the whole cluster. -/
theorem clusterRole_insertAll
    {rules : List AccessRule}
    (narrow : ∀ rule ∈ rules, rule.isClusterScoped = false)
    (set : AccessRules)
    (name : String) :
    (set.insertAll rules).clusterRole name = set.clusterRole name := by
  induction rules generalizing set with
  | nil => rfl
  | cons rule rest inductionHypothesis =>
      rw [List.forall_mem_cons] at narrow
      rw [insertAll, inductionHypothesis narrow.2, clusterRole, clusterRole, insert]
      dsimp only
      rw [filter_isClusterScoped_mergeRule narrow.1]

end AccessRules

namespace AccessRule

theorem mem_combinations_iff
    {verbs names : NameSet}
    {groups resources namespaces : List String}
    {rule : AccessRule} :
    rule ∈ combinations verbs names groups resources namespaces ↔
      ∃ group ∈ groups, ∃ resource ∈ resources, ∃ namespaceName ∈ namespaces,
        onResource verbs names group resource namespaceName = rule := by
  simp [combinations]

theorem orEmpty_ne_nil (names : List String) : orEmpty names ≠ [] := by
  unfold orEmpty
  split
  · exact List.cons_ne_nil _ _
  · assumption

/-- The rules of a marker that lists a namespace stay in namespaces exactly if the list has no
empty item, and then the role for the whole cluster is the same as without them. -/
theorem staysInNamespaces_iff_not_mem
    {marker : Marker}
    {rules : List AccessRule}
    (expanded : ofMarker marker = .ok rules)
    (named : ∃ namespaceName ∈ marker.list "namespace", namespaceName ≠ "") :
    ((∀ rule ∈ rules, rule.isClusterScoped = false) ↔ "" ∉ marker.list "namespace") ∧
      ("" ∉ marker.list "namespace" → ∀ (set : AccessRules) (name : String),
        (set.insertAll rules).clusterRole name = set.clusterRole name) := by
  obtain ⟨namespaceName, listed, nonempty⟩ := named
  rcases ofMarker_eq_ok_cases expanded with
    ⟨-, -, unnamed, -⟩ | ⟨-, hasResources, rfl⟩
  · exact absurd (unnamed namespaceName listed) nonempty
  have namespaces : orEmpty (marker.list "namespace") = marker.list "namespace" :=
    if_neg (List.ne_nil_of_mem listed)
  rw [namespaces]
  have stays : "" ∉ marker.list "namespace" →
      ∀ rule ∈ combinations (NameSet.ofList ((marker.list "verbs").filter (· ≠ "")))
        (NameSet.ofList (marker.list "resourceNames")) (orEmpty (marker.list "group"))
        (marker.list "resource") (marker.list "namespace"), rule.isClusterScoped = false := by
    intro noEmpty rule isRule
    obtain ⟨group, -, resource, -, place, isPlace, rfl⟩ := mem_combinations_iff.mp isRule
    exact isClusterScoped_eq_false_iff.mpr fun isEmpty => noEmpty (isEmpty ▸ isPlace)
  refine ⟨⟨fun narrow isEmpty => ?_, stays⟩, fun noEmpty set name =>
    AccessRules.clusterRole_insertAll (stays noEmpty) set name⟩
  obtain ⟨group, isGroup⟩ := List.exists_mem_of_ne_nil _ (orEmpty_ne_nil (marker.list "group"))
  obtain ⟨resource, isResource⟩ := List.exists_mem_of_ne_nil _ hasResources
  have wide := narrow _ (mem_combinations_iff.mpr
    ⟨group, isGroup, resource, isResource, "", isEmpty, rfl⟩)
  exact isClusterScoped_eq_false_iff.mp wide rfl

/-! ## A grant in listed namespaces -/

/-- A marker that reads deployments in the namespaces of a list. -/
def deploymentReader (namespaces : List String) : Marker where
  name := Vocabulary.accessRule
  location := .package "team"
  consumer := .rule
  arguments := [("group", .list ["apps"]), ("resource", .list ["deployments"]),
    ("verbs", .list ["get"]), ("namespace", .list namespaces)]

/-- The line of a marker that reads deployments, where the list of namespaces has the given text. -/
def deploymentLine (namespaces : String) : List Char :=
  ("+rbac:group=apps,resource=deployments,verbs=get,namespace=" ++ namespaces).toList

/-- Two namespaces with one separator between them. -/
theorem staysInNamespaces_deploymentReader :
    Vocabulary.registry.readLine (.package "team") (deploymentLine "blue;green") =
        .ok (some (deploymentReader ["blue", "green"])) ∧
      ∃ rules, ofMarker (deploymentReader ["blue", "green"]) = .ok rules ∧
        rules.length = 2 ∧ (∀ rule ∈ rules, rule.isClusterScoped = false) ∧
          ∀ set name, (AccessRules.insertAll set rules).clusterRole name =
            set.clusterRole name := by
  have noEmpty : "" ∉ (deploymentReader ["blue", "green"]).list "namespace" := by decide
  refine ⟨by decide +kernel, _, rfl, by decide, ?_⟩
  have named : ∃ name ∈ (deploymentReader ["blue", "green"]).list "namespace", name ≠ "" :=
    ⟨"blue", by decide, by decide⟩
  have stays := staysInNamespaces_iff_not_mem rfl named
  exact ⟨stays.1.mpr noEmpty, stays.2 noEmpty⟩

/-- One namespace with a separator behind it grants in the whole cluster. -/
theorem exists_clusterScoped_of_named :
    ¬ ∀ (location : Location) (line : List Char) (marker : Marker) (rules : List AccessRule),
      Vocabulary.registry.readLine location line = .ok (some marker) →
        marker.name = Vocabulary.accessRule →
          (∃ namespaceName ∈ marker.list "namespace", namespaceName ≠ "") →
            ofMarker marker = .ok rules → ∀ rule ∈ rules, rule.isClusterScoped = false := by
  intro narrow
  have wide := narrow (.package "team") (deploymentLine "team;") (deploymentReader ["team", ""])
    _ (by decide +kernel) rfl ⟨"team", by decide, by decide⟩ rfl
  revert wide
  decide

end AccessRule
end MarkerManifests
