import MarkerManifests.Proofs.Access.Scope

/-!
# On what markers grant

The rules of a marker grant verbs that are not empty, each on a URL or on a resource that the marker
lists. But a list may have empty items, which are left by doubled separators, by separators at its
ends and by empty quotes. So each rule names what it grants on exactly if neither the URLs nor the
resources have an empty item; otherwise some rule is neither about a URL nor about a resource.
-/

namespace MarkerManifests

/-- A target that is a URL and nothing else, or that is a resource. -/
def RuleTarget.IsNamed (target : RuleTarget) : Prop :=
  (target.url ≠ "" ∧ target.group = "" ∧ target.resource = "" ∧ target.resourceNames = .empty ∧
      target.namespaceName = "") ∨
    (target.url = "" ∧ target.resource ≠ "")

namespace AccessRule

/-- A rule that grants some verb, and no empty one. -/
def GrantsVerbs (rule : AccessRule) : Prop :=
  (∃ verb, verb ∈ rule.verbs) ∧ "" ∉ rule.verbs

/-- The rule is about a URL that the marker lists and nothing else, or about a resource that it
lists. -/
def IsAboutListed (marker : Marker) (rule : AccessRule) : Prop :=
  (rule.url ∈ marker.list "urls" ∧ rule.target = { url := rule.url }) ∨
    (rule.url = "" ∧ rule.resource ∈ marker.list "resource")

theorem isNamed_onUrl_iff {verbs : NameSet} {url : String} :
    (onUrl verbs url).target.IsNamed ↔ url ≠ "" := by
  simp [RuleTarget.IsNamed, target, onUrl, NameSet.empty]

theorem isNamed_onResource_iff
    {verbs names : NameSet}
    {group resource namespaceName : String} :
    (onResource verbs names group resource namespaceName).target.IsNamed ↔ resource ≠ "" := by
  simp [RuleTarget.IsNamed, target, onResource]

/-- The rules for all combinations name their targets if all resources do. -/
theorem forall_isNamed_combinations_iff
    {verbs names : NameSet}
    {groups resources namespaces : List String}
    (someGroup : groups ≠ [])
    (someNamespace : namespaces ≠ []) :
    (∀ rule ∈ combinations verbs names groups resources namespaces, rule.target.IsNamed) ↔
      "" ∉ resources := by
  constructor
  · intro named isEmpty
    obtain ⟨group, isGroup⟩ := List.exists_mem_of_ne_nil _ someGroup
    obtain ⟨namespaceName, isNamespace⟩ := List.exists_mem_of_ne_nil _ someNamespace
    have isNamed := named _ (mem_combinations_iff.mpr
      ⟨group, isGroup, "", isEmpty, namespaceName, isNamespace, rfl⟩)
    exact isNamed_onResource_iff.mp isNamed rfl
  · intro noEmpty rule isRule
    obtain ⟨group, -, resource, listed, namespaceName, -, rfl⟩ := mem_combinations_iff.mp isRule
    exact isNamed_onResource_iff.mpr fun isEmpty => noEmpty (isEmpty ▸ listed)

/-- A marker that stands for rules lists a verb. -/
theorem exists_verb_of_ofMarker
    {marker : Marker}
    {rules : List AccessRule}
    (expanded : ofMarker marker = .ok rules) :
    ∃ verb ∈ marker.list "verbs", verb ≠ "" := by
  by_contra noVerb
  push Not at noVerb
  have noVerbs : (marker.list "verbs").filter (· ≠ "") = [] := by
    simpa [List.filter_eq_nil_iff] using noVerb
  rw [ofMarker] at expanded
  simp only [noVerbs, if_true] at expanded
  cases expanded

/-- The verbs of a rule of a marker are those that the marker lists, without the empty ones. -/
theorem verbs_eq_of_mem
    {marker : Marker}
    {rules : List AccessRule}
    (expanded : ofMarker marker = .ok rules)
    {rule : AccessRule}
    (isRule : rule ∈ rules) :
    rule.verbs = NameSet.ofList ((marker.list "verbs").filter (· ≠ "")) := by
  rcases ofMarker_eq_ok_cases expanded with ⟨-, -, -, rfl⟩ | ⟨-, -, rfl⟩
  · obtain ⟨url, -, rfl⟩ := List.mem_map.mp isRule
    rfl
  · obtain ⟨group, -, resource, -, namespaceName, -, rfl⟩ := mem_combinations_iff.mp isRule
    rfl

theorem grantsVerbs_of_mem
    {marker : Marker}
    {rules : List AccessRule}
    (expanded : ofMarker marker = .ok rules)
    {rule : AccessRule}
    (isRule : rule ∈ rules) :
    rule.GrantsVerbs := by
  obtain ⟨verb, listed, nonempty⟩ := exists_verb_of_ofMarker expanded
  rw [GrantsVerbs, verbs_eq_of_mem expanded isRule]
  exact ⟨⟨verb, by simp [listed, nonempty]⟩, by simp⟩

theorem isAboutListed_of_mem
    {marker : Marker}
    {rules : List AccessRule}
    (expanded : ofMarker marker = .ok rules)
    {rule : AccessRule}
    (isRule : rule ∈ rules) :
    rule.IsAboutListed marker := by
  rcases ofMarker_eq_ok_cases expanded with ⟨-, -, -, rfl⟩ | ⟨-, -, rfl⟩
  · obtain ⟨url, listed, rfl⟩ := List.mem_map.mp isRule
    exact .inl ⟨listed, rfl⟩
  · obtain ⟨group, -, resource, listed, namespaceName, -, rfl⟩ := mem_combinations_iff.mp isRule
    exact .inr ⟨rfl, listed⟩

/-- The rules of a marker grant verbs on URLs and resources that the marker lists, and all of them
name what they grant on exactly if the marker lists neither an empty URL nor an empty resource. -/
theorem isNamed_iff_not_mem
    {marker : Marker}
    {rules : List AccessRule}
    (expanded : ofMarker marker = .ok rules) :
    (∀ rule ∈ rules, rule.GrantsVerbs ∧ rule.IsAboutListed marker) ∧
      ((∀ rule ∈ rules, rule.target.IsNamed) ↔
        "" ∉ marker.list "urls" ∧ "" ∉ marker.list "resource") := by
  refine ⟨fun rule isRule =>
    ⟨grantsVerbs_of_mem expanded isRule, isAboutListed_of_mem expanded isRule⟩, ?_⟩
  rcases ofMarker_eq_ok_cases expanded with ⟨-, noResources, -, rfl⟩ | ⟨noUrls, -, rfl⟩
  · rw [noResources, and_iff_left List.not_mem_nil, List.forall_mem_map]
    simp only [isNamed_onUrl_iff]
    exact ⟨fun named isEmpty => named "" isEmpty rfl, fun noEmpty url listed isEmpty =>
      noEmpty (isEmpty ▸ listed)⟩
  · rw [noUrls, and_iff_right List.not_mem_nil]
    exact forall_isNamed_combinations_iff (orEmpty_ne_nil _) (orEmpty_ne_nil _)

/-! ## A marker that gets pods -/

/-- A marker that gets the resources of a list in the core group. -/
def coreReader (resources : List String) : Marker where
  name := Vocabulary.accessRule
  location := .package "team"
  consumer := .rule
  arguments := [("verbs", .list ["get", ""]), ("resource", .list resources)]

/-- The line of a marker that gets resources, where their list has the given text. -/
def coreReaderLine (resources : String) : List Char :=
  ("+rbac:verbs=get;,resource=" ++ resources).toList

/-- Two resources with one separator between them. -/
theorem isNamed_coreReader :
    Vocabulary.registry.readLine (.package "team") (coreReaderLine "pods;nodes") =
        .ok (some (coreReader ["pods", "nodes"])) ∧
      ∃ rules, ofMarker (coreReader ["pods", "nodes"]) = .ok rules ∧ rules.length = 2 ∧
        ∀ rule ∈ rules, rule.GrantsVerbs ∧ rule.target.IsNamed := by
  obtain ⟨rules, expanded⟩ : ∃ rules, ofMarker (coreReader ["pods", "nodes"]) = .ok rules :=
    ⟨_, rfl⟩
  have named := isNamed_iff_not_mem expanded
  refine ⟨by decide +kernel, rules, expanded, ?_, fun rule isRule => ?_⟩
  · cases expanded
    rfl
  · have noEmpty : "" ∉ (coreReader ["pods", "nodes"]).list "urls" ∧
        "" ∉ (coreReader ["pods", "nodes"]).list "resource" := by decide
    exact ⟨(named.1 rule isRule).1, named.2.mpr noEmpty rule isRule⟩

/-- An empty resource between quotes makes a rule that names nothing. -/
theorem exists_rule_without_target :
    ¬ ∀ (location : Location) (line : List Char) (marker : Marker) (rules : List AccessRule),
      Vocabulary.registry.readLine location line = .ok (some marker) →
        marker.name = Vocabulary.accessRule →
          ofMarker marker = .ok rules →
            ∀ rule ∈ rules, rule.GrantsVerbs ∧ rule.target.IsNamed := by
  intro named
  have onNothing := (named (.package "team") (coreReaderLine "\"\"") (coreReader [""]) _
    (by decide +kernel) rfl rfl _ List.mem_cons_self).2
  exact isNamed_onResource_iff.mp onNothing rfl

end AccessRule
end MarkerManifests
