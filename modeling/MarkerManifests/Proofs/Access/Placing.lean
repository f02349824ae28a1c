import MarkerManifests.Access.Role
import MarkerManifests.Proofs.Ordered.Entries
import MarkerManifests.Proofs.Outcomes
import Mathlib.Data.List.Perm.Basic

/-!
# Rules in roles

The roles of a set are made in one pass over its rules, which puts each rule behind those that were
put in its place before. So a role has the rules of its place in the order of the set: first the
role for the whole cluster, if a rule holds there, and then a role for each namespace, in the order
in which the namespaces first occur. No rule is lost, none stands in two roles, and no role is
without rules.

A role states of a rule its verbs and what they are granted on. Read back at the places of their
roles, the published rules are the rules of the set, except that a rule on a URL has no group, no
resource and no object names there.
-/

namespace MarkerManifests

namespace AccessRule

/-- The place where a rule holds: a namespace, or none for the whole cluster. -/
def place (rule : AccessRule) : Option String :=
  if rule.namespaceName = "" then none else some rule.namespaceName

/-- The rules of a place, as they stand in a role. -/
def placedAt (rules : List AccessRule) (place : Option String) : List PolicyRule :=
  (rules.filter (·.place = place)).map PolicyRule.ofAccessRule

/-- The namespaces of rules in the order in which they first occur. -/
def namespacesOf (rules : List AccessRule) : List String :=
  (rules.filterMap place).eraseDups

variable {rules : List AccessRule} {rule : AccessRule} {place : Option String}
  {namespaceName : String}

theorem place_eq_none_iff : rule.place = none ↔ rule.isClusterScoped = true := by
  simp [AccessRule.place, isClusterScoped]

theorem place_of_not_isClusterScoped
    (narrow : ¬ rule.isClusterScoped = true) :
    rule.place = some rule.namespaceName :=
  if_neg (by simpa [isClusterScoped] using narrow)

theorem placedAt_append_singleton :
    placedAt (rules ++ [rule]) place =
      if rule.place = place then placedAt rules place ++ [.ofAccessRule rule]
      else placedAt rules place := by
  by_cases holds : rule.place = place <;> simp [placedAt, holds]

theorem placedAt_eq_nil_iff : placedAt rules place = [] ↔ ∀ rule ∈ rules, rule.place ≠ place := by
  simp [placedAt]

theorem placedAt_none :
    placedAt rules none = (rules.filter (·.isClusterScoped)).map PolicyRule.ofAccessRule := by
  refine congrArg (List.map PolicyRule.ofAccessRule) (List.filter_congr fun rule _ => ?_)
  rw [Bool.eq_iff_iff, decide_eq_true_eq, place_eq_none_iff]

theorem mem_namespacesOf_iff :
    namespaceName ∈ namespacesOf rules ↔ ∃ rule ∈ rules, rule.place = some namespaceName := by
  rw [namespacesOf, List.mem_eraseDups, List.mem_filterMap]

theorem nodup_namespacesOf (rules : List AccessRule) : (namespacesOf rules).Nodup :=
  nodup_eraseDups _

end AccessRule

/-! ## One pass -/

namespace PlacedRules

open AccessRule

variable {placed : PlacedRules} {rules : List AccessRule}

theorem ofNamespace_add (placed : PlacedRules) (rule : AccessRule) (namespaceName : String) :
    (placed.add rule).ofNamespace namespaceName =
      if rule.place = some namespaceName then
        placed.ofNamespace namespaceName ++ [.ofAccessRule rule]
      else placed.ofNamespace namespaceName := by
  unfold add
  split
  · rename_i wide
    rw [place_eq_none_iff.mpr wide, if_neg (by simp)]
    rfl
  · rename_i narrow
    rw [place_of_not_isClusterScoped narrow, ofNamespace, Entries.get?_put]
    by_cases same : rule.namespaceName = namespaceName
    · simp [same]
    · simp [same, ofNamespace]

/-- What a pass over rules has placed. -/
structure Holds (placed : PlacedRules) (rules : List AccessRule) : Prop where
  cluster : placed.cluster = placedAt rules none
  namespaces : placed.namespaced.map (·.1) = namespacesOf rules
  namespaced : ∀ namespaceName,
    placed.ofNamespace namespaceName = placedAt rules (some namespaceName)

/-- One more rule. -/
theorem Holds.add (holds : placed.Holds rules) (rule : AccessRule) :
    (placed.add rule).Holds (rules ++ [rule]) where
  cluster := by
    rw [placedAt_append_singleton, ← holds.cluster, PlacedRules.add]
    split
    · rename_i wide
      rw [if_pos (place_eq_none_iff.mpr wide)]
    · rename_i narrow
      rw [if_neg (mt place_eq_none_iff.mp narrow)]
  namespaces := by
    rw [PlacedRules.add]
    split
    · rename_i wide
      simp [namespacesOf, place_eq_none_iff.mpr wide, holds.namespaces]
    · rename_i narrow
      have distinct : (placed.namespaced.map (·.1)).Nodup := by
        rw [holds.namespaces]
        exact nodup_namespacesOf rules
      rw [Entries.keys_put distinct, holds.namespaces]
      simp [namespacesOf, place_of_not_isClusterScoped narrow]
  namespaced namespaceName := by
    rw [ofNamespace_add, placedAt_append_singleton, holds.namespaced]

/-- Any number of rules. -/
theorem holds_foldl_add (rules : List AccessRule) : (rules.foldl add {}).Holds rules := by
  induction rules using List.reverseRecOn with
  | nil => exact ⟨rfl, rfl, fun _ => rfl⟩
  | append_singleton earlier rule inductionHypothesis =>
      rw [List.foldl_append]
      exact inductionHypothesis.add rule

end PlacedRules

/-! ## What a role states of a rule -/

/-- A rule of a role that states what an access rule grants: its verbs, on its URL alone if it has
one, and otherwise on its resource of its group, for the objects with its names. -/
structure PolicyRule.States (published : PolicyRule) (rule : AccessRule) : Prop where
  verbs : published.verbs = rule.verbs.toList
  urls : published.urls = if rule.url = "" then [] else [rule.url]
  apiGroups : published.apiGroups = if rule.url = "" then [rule.group] else []
  resources : published.resources = if rule.url = "" then [rule.resource] else []
  resourceNames : published.resourceNames =
    if rule.url = "" then rule.resourceNames.toList else []

/-- The access rule that is read from a rule of a role at a place. -/
def PolicyRule.readAt (place : Option String) (published : PolicyRule) : AccessRule where
  group := published.apiGroups.headD ""
  resource := published.resources.headD ""
  resourceNames := .ofList published.resourceNames
  namespaceName := place.getD ""
  url := published.urls.headD ""
  verbs := .ofList published.verbs

/-- The rule without what it does not grant on: a rule on a URL is on no resource. -/
def AccessRule.essential (rule : AccessRule) : AccessRule :=
  if rule.url = "" then rule
  else { rule with group := "", resource := "", resourceNames := .empty }

section Stating

variable {published : PolicyRule} {rule : AccessRule}

/-- Exactly one rule of a role states what an access rule grants. -/
theorem PolicyRule.states_iff_eq_ofAccessRule :
    published.States rule ↔ published = .ofAccessRule rule := by
  constructor
  · intro states
    obtain ⟨apiGroups, resources, resourceNames, urls, verbs⟩ := published
    obtain ⟨rfl, rfl, rfl, rfl, rfl⟩ := states
    by_cases noUrl : rule.url = ""
    · simp [PolicyRule.ofAccessRule, AccessRule.isUrl, noUrl]
    · simp [PolicyRule.ofAccessRule, AccessRule.isUrl, noUrl]
  · rintro rfl
    by_cases noUrl : rule.url = ""
    · constructor <;> simp [PolicyRule.ofAccessRule, AccessRule.isUrl, noUrl]
    · constructor <;> simp [PolicyRule.ofAccessRule, AccessRule.isUrl, noUrl]

theorem AccessRule.getD_place (rule : AccessRule) : rule.place.getD "" = rule.namespaceName := by
  rw [AccessRule.place]
  split
  · rename_i wide
    exact wide.symm
  · rfl

/-- Nothing that a rule grants is lost when it is stated and read back. -/
theorem PolicyRule.States.readAt_eq (states : published.States rule) :
    published.readAt rule.place = rule.essential := by
  rw [PolicyRule.readAt, states.verbs, states.urls, states.apiGroups, states.resources,
    states.resourceNames, NameSet.ofList_toList, rule.getD_place, AccessRule.essential]
  by_cases noUrl : rule.url = ""
  · obtain ⟨⟨group, resource, resourceNames, namespaceName, url⟩, verbs⟩ := rule
    obtain rfl : url = "" := noUrl
    simp
  · simp only [noUrl, if_false]
    rfl

/-- A rule that has a URL or a resource, and not both, grants on all that it has. -/
theorem AccessRule.essential_eq_self
    (pure : rule.url ≠ "" → rule.group = "" ∧ rule.resource = "" ∧ rule.resourceNames = .empty) :
    rule.essential = rule := by
  rw [AccessRule.essential]
  split
  · rfl
  · rename_i hasUrl
    obtain ⟨⟨group, resource, resourceNames, namespaceName, url⟩, verbs⟩ := rule
    obtain ⟨rfl, rfl, rfl⟩ := pure hasUrl
    rfl

end Stating

/-! ## The roles -/

/-- The role of a name for the rules of a place. -/
def Role.forPlace (rules : List AccessRule) (name : String) (place : Option String) : Role :=
  ⟨name, place, AccessRule.placedAt rules place⟩

namespace AccessRule

/-- The places for which there are roles: the whole cluster, if a rule holds there, and then the
namespaces of the rules. -/
def placesOf (rules : List AccessRule) : List (Option String) :=
  (if ∃ rule ∈ rules, rule.place = none then [none] else []) ++ (namespacesOf rules).map some

variable {rules : List AccessRule} {rule : AccessRule} {place : Option String}
  {namespaceName : String}

theorem mem_placesOf_iff : place ∈ placesOf rules ↔ ∃ rule ∈ rules, rule.place = place := by
  rw [placesOf, List.mem_append]
  cases place with
  | none => split <;> simp [*]
  | some namespaceName => split <;> simp [mem_namespacesOf_iff]

theorem nodup_placesOf (rules : List AccessRule) : (placesOf rules).Nodup := by
  have distinct : ((namespacesOf rules).map some).Nodup :=
    (nodup_namespacesOf rules).map fun _ _ => Option.some.inj
  rw [placesOf]
  split
  · rw [List.singleton_append, List.nodup_cons]
    exact ⟨by simp, distinct⟩
  · exact distinct

/-- The shares of distinct places are all the rules, if every rule has one of these places. -/
theorem perm_flatMap_filter_place
    {places : List (Option String)}
    (distinct : places.Nodup)
    (covered : ∀ rule ∈ rules, rule.place ∈ places) :
    (places.flatMap fun place => rules.filter (·.place = place)).Perm rules := by
  induction places generalizing rules with
  | nil => rw [List.eq_nil_iff_forall_not_mem.mpr fun rule member =>
      List.not_mem_nil (covered rule member), List.flatMap_nil]
  | cons first others inductionHypothesis =>
      rw [List.nodup_cons] at distinct
      have coveredRest : ∀ rule ∈ rules.filter (¬ ·.place = first), rule.place ∈ others := by
        intro rule member
        rw [List.mem_filter, decide_eq_true_eq] at member
        exact (List.mem_cons.mp (covered rule member.1)).resolve_left member.2
      have rest := inductionHypothesis distinct.2 coveredRest
      -- the shares of the other places are the same without the rules of the first one
      have shares : ∀ place ∈ others, rules.filter (·.place = place) =
          (rules.filter (¬ ·.place = first)).filter (·.place = place) := by
        intro place listed
        rw [List.filter_filter]
        refine List.filter_congr fun rule _ => ?_
        by_cases same : rule.place = place
        · have differs : place ≠ first := fun isFirst => distinct.1 (isFirst ▸ listed)
          simp [same, differs]
        · simp [same]
      rw [List.flatMap_cons, List.flatMap_congr shares]
      refine (rest.append_left _).trans ?_
      simpa using List.filter_append_perm (fun rule : AccessRule => rule.place = first) rules

end AccessRule

open AccessRule

namespace PlacedRules

variable {placed : PlacedRules} {rules : List AccessRule}

/-- A role for each place is made of what a pass has placed. -/
theorem Holds.roles_eq (holds : placed.Holds rules) (name : String) :
    placed.roles name = (placesOf rules).map (Role.forPlace rules name) := by
  have distinct : (placed.namespaced.map (·.1)).Nodup := by
    rw [holds.namespaces]
    exact nodup_namespacesOf rules
  have forNamespace : ∀ entry ∈ placed.namespaced,
      (⟨name, some entry.1, entry.2⟩ : Role) = .forPlace rules name (some entry.1) := by
    intro entry member
    have isStored := (Entries.find?_fst_eq_some_iff distinct).mpr member
    rw [Role.forPlace, ← holds.namespaced, ofNamespace, Entries.get?, isStored]
    rfl
  have forCluster :
      (if placed.cluster.isEmpty then [] else [(⟨name, none, placed.cluster⟩ : Role)]) =
        (if ∃ rule ∈ rules, rule.place = none then [none] else []).map
          (Role.forPlace rules name) := by
    by_cases wide : ∃ rule ∈ rules, rule.place = none
    · have published : ¬ placed.cluster.isEmpty = true := by
        rw [List.isEmpty_iff, holds.cluster, placedAt_eq_nil_iff]
        push Not
        exact wide
      rw [if_pos wide, if_neg published, holds.cluster]
      rfl
    · have unpublished : placed.cluster.isEmpty = true := by
        rw [List.isEmpty_iff, holds.cluster, placedAt_eq_nil_iff]
        push Not at wide
        exact wide
      rw [if_neg wide, if_pos unpublished]
      rfl
  rw [PlacedRules.roles, placesOf, List.map_append, List.map_map, ← holds.namespaces, List.map_map,
    List.map_congr_left forNamespace, forCluster]
  rfl

end PlacedRules

namespace AccessRules

variable {set : AccessRules} {rules : List AccessRule} {name : String} {roles : List Role}

/-- The roles of a set are those for the places of its rules. -/
theorem roles_eq_map_forPlace (set : AccessRules) (name : String) :
    set.roles name = (placesOf set.rules).map (Role.forPlace set.rules name) :=
  (PlacedRules.holds_foldl_add set.rules).roles_eq name

/-- The role for the whole cluster is the one for the rules that hold there. -/
theorem forPlace_none (set : AccessRules) (name : String) :
    Role.forPlace set.rules name none = set.clusterRole name := by
  rw [Role.forPlace, placedAt_none, clusterRole]

/-- The role for the whole cluster is published if and only if a rule holds there. -/
theorem clusterRole_mem_roles_iff :
    set.clusterRole name ∈ set.roles name ↔ ∃ rule ∈ set.rules, rule.isClusterScoped = true := by
  simp only [← place_eq_none_iff, ← mem_placesOf_iff]
  rw [roles_eq_map_forPlace, ← forPlace_none, List.mem_map]
  constructor
  · rintro ⟨place, listed, same⟩
    obtain rfl : place = none := congrArg Role.namespaceName same
    exact listed
  · exact fun listed => ⟨none, listed, rfl⟩

/-- Roles of a name that publish rules, each of them in the role of its place. -/
structure PublishesByPlace (rules : List AccessRule) (name : String) (roles : List Role) :
    Prop where
  /-- The role for the whole cluster comes first, if a rule holds there, and then the roles for the
  namespaces of the rules come in the order in which these first occur. -/
  places : roles.map (·.namespaceName) = placesOf rules
  /-- There is one role for each place. -/
  apart : (roles.map (·.namespaceName)).Nodup
  named : ∀ role ∈ roles, role.name = name
  kinds : ∀ role ∈ roles,
    role.kind = if role.namespaceName = none then "ClusterRole" else "Role"
  /-- A role states exactly the rules of its place, in their order. -/
  shares : ∀ role ∈ roles,
    List.Forall₂ (fun rule published => published.States rule)
      (rules.filter (·.place = role.namespaceName)) role.rules
  nonempty : ∀ role ∈ roles, role.rules ≠ []
  /-- Every rule has exactly one role. -/
  exclusive : ∀ rule ∈ rules, ∃! role, role ∈ roles ∧ role.namespaceName = rule.place
  /-- The roles state all rules together, and none twice: reading back every rule that is published,
  at the place of its role, gives all that the rules grant. -/
  lossless : (roles.flatMap fun role => role.rules.map (·.readAt role.namespaceName)).Perm
    (rules.map AccessRule.essential)
  /-- The rules themselves are read back if none of them has both a URL and a resource. -/
  restored : (∀ rule ∈ rules, rule.url ≠ "" →
      rule.group = "" ∧ rule.resource = "" ∧ rule.resourceNames = .empty) →
    (roles.flatMap fun role => role.rules.map (·.readAt role.namespaceName)).Perm rules

/-- A role states the rules of a place if and only if its rules are made from them. -/
theorem forall₂_states_iff {place : Option String} {published : List PolicyRule} :
    List.Forall₂ (fun rule published => published.States rule)
        (rules.filter (·.place = place)) published ↔
      published = placedAt rules place := by
  refine forall₂_iff_eq_map fun rule _ published => ?_
  exact PolicyRule.states_iff_eq_ofAccessRule

/-- Reading back what is published for distinct places gives all that the rules grant, if every rule
has one of these places. -/
theorem perm_flatMap_readAt
    {places : List (Option String)}
    (distinct : places.Nodup)
    (covered : ∀ rule ∈ rules, rule.place ∈ places) :
    (places.flatMap fun place => (placedAt rules place).map (·.readAt place)).Perm
      (rules.map essential) := by
  have share : ∀ place ∈ places, (placedAt rules place).map (·.readAt place) =
      (rules.filter (·.place = place)).map essential := by
    intro place _
    rw [placedAt, List.map_map]
    refine List.map_congr_left fun rule member => ?_
    obtain rfl : rule.place = place := of_decide_eq_true (List.mem_filter.mp member).2
    exact (PolicyRule.states_iff_eq_ofAccessRule.mpr rfl).readAt_eq
  rw [List.flatMap_congr share, ← List.map_flatMap]
  exact (perm_flatMap_filter_place distinct covered).map essential

theorem publishesByPlace_map_forPlace (rules : List AccessRule) (name : String) :
    PublishesByPlace rules name ((placesOf rules).map (Role.forPlace rules name)) := by
  have places : ((placesOf rules).map (Role.forPlace rules name)).map (·.namespaceName) =
      placesOf rules := by
    rw [List.map_map]
    exact List.map_id _
  have lossless : (((placesOf rules).map (Role.forPlace rules name)).flatMap fun role =>
      role.rules.map (·.readAt role.namespaceName)).Perm (rules.map essential) := by
    rw [List.flatMap_map]
    exact perm_flatMap_readAt (nodup_placesOf rules) fun rule member =>
      mem_placesOf_iff.mpr ⟨rule, member, rfl⟩
  refine ⟨places, ?_, ?_, ?_, ?_, ?_, ?_, lossless, ?_⟩
  · rw [places]
    exact nodup_placesOf rules
  · rw [List.forall_mem_map]
    exact fun place _ => rfl
  · rw [List.forall_mem_map]
    rintro (_ | namespaceName) -
    · rfl
    · rfl
  · rw [List.forall_mem_map]
    exact fun place _ => forall₂_states_iff.mpr rfl
  · rw [List.forall_mem_map]
    intro place listed noRules
    obtain ⟨rule, member, isPlace⟩ := mem_placesOf_iff.mp listed
    exact placedAt_eq_nil_iff.mp noRules rule member isPlace
  · intro rule member
    refine ⟨.forPlace rules name rule.place, ⟨List.mem_map_of_mem ?_, rfl⟩, ?_⟩
    · exact mem_placesOf_iff.mpr ⟨rule, member, rfl⟩
    · rintro role ⟨isRole, isPlace⟩
      obtain ⟨place, -, rfl⟩ := List.mem_map.mp isRole
      rw [← isPlace]
      rfl
  · intro pure
    rwa [List.map_congr_left fun rule member => essential_eq_self (pure rule member),
      List.map_id'] at lossless

/-- The roles of a set are the only ones that publish its rules by their places. -/
theorem publishesByPlace_iff :
    PublishesByPlace set.rules name roles ↔ roles = set.roles name := by
  rw [roles_eq_map_forPlace]
  constructor
  · intro publishes
    have forPlace : ∀ role ∈ roles, role = .forPlace set.rules name role.namespaceName := by
      intro role member
      rw [Role.forPlace, ← forall₂_states_iff.mp (publishes.shares role member),
        ← publishes.named role member]
    rw [← publishes.places, List.map_map]
    exact (List.map_id roles).symm.trans (List.map_congr_left forPlace)
  · rintro rfl
    exact publishesByPlace_map_forPlace set.rules name

end AccessRules
end MarkerManifests
