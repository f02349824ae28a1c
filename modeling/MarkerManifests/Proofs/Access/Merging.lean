import Mathlib.Data.List.Basic
import Mathlib.Data.List.Nodup
import MarkerManifests.Proofs.Access.Grouping

/-!
# Merging sets of rules

A set of rules is determined by how it groups rules: by the order of its targets and by the verbs
on each of them. Merging two sets groups the rules of the first one followed by those of the second
one. So the laws of merging are laws of appending lists up to grouping: it is associative, it
absorbs what was merged before, and its order matters for the order of the rules only.
-/

namespace MarkerManifests

namespace AccessRule

namespace SameGroups

variable {rules others third : List AccessRule}

theorem symm (same : SameGroups rules others) : SameGroups others rules :=
  ⟨same.order.symm, fun target verb => (same.verbs target verb).symm⟩

theorem trans (first : SameGroups rules others) (second : SameGroups others third) :
    SameGroups rules third :=
  ⟨first.order.trans second.order, fun target verb =>
    (first.verbs target verb).trans (second.verbs target verb)⟩

/-- Only what a list groups matters to the lists that it is appended to. -/
theorem append_left (same : SameGroups rules others) (before : List AccessRule) :
    SameGroups (before ++ rules) (before ++ others) where
  order := by
    rw [List.map_append, List.map_append, ← eraseDups_append_eraseDups, same.order,
      eraseDups_append_eraseDups]
  verbs target verb := by
    rw [someHasVerb_append, someHasVerb_append, same.verbs]

/-- Rules that are grouped again change nothing. -/
theorem append_self (rules : List AccessRule) : SameGroups (rules ++ rules) rules where
  order := by
    rw [List.map_append]
    exact eraseDups_append_of_subset (List.Subset.refl _)
  verbs target verb := by
    rw [someHasVerb_append, or_self]

end SameGroups
end AccessRule

namespace AccessRules

open AccessRule

variable {set other : AccessRules}

/-! ## Equal sets -/

/-- Rules for the same target are equal where the sets have the same verbs on it. -/
theorem eq_of_mem_of_target_eq
    {rule otherRule : AccessRule}
    (sameVerbs : ∀ target verb,
      SomeHasVerb set.rules target verb ↔ SomeHasVerb other.rules target verb)
    (member : rule ∈ set.rules)
    (otherMember : otherRule ∈ other.rules)
    (sameTarget : rule.target = otherRule.target) :
    rule = otherRule := by
  refine eq_of_target_eq sameTarget fun verb => ?_
  rw [(mem_rules_iff_verbs.mp member).2, (mem_rules_iff_verbs.mp otherMember).2, sameVerbs,
    sameTarget]

/-- Sets that group rules in the same way are equal. -/
theorem eq_of_sameGroups (same : SameGroups set.rules other.rules) : set = other := by
  have sameTargets := same.order
  rw [eraseDups_of_nodup set.distinct, eraseDups_of_nodup other.distinct] at sameTargets
  have sameLength : set.rules.length = other.rules.length := by
    simpa using congrArg List.length sameTargets
  have sameRules : set.rules = other.rules := by
    refine List.ext_getElem sameLength fun index isIndex isOtherIndex => ?_
    refine eq_of_mem_of_target_eq same.verbs (List.getElem_mem _) (List.getElem_mem _) ?_
    have sameAt := congrArg (·[index]?) sameTargets
    simpa [isIndex, isOtherIndex] using sameAt
  obtain ⟨rules, distinct⟩ := set
  obtain rfl : rules = other.rules := sameRules
  rfl

/-- Sets with the same targets and the same verbs on them have the same rules up to order. -/
theorem perm_rules
    (sameTargets : ∀ target,
      target ∈ set.rules.map AccessRule.target ↔ target ∈ other.rules.map AccessRule.target)
    (sameVerbs : ∀ target verb,
      SomeHasVerb set.rules target verb ↔ SomeHasVerb other.rules target verb) :
    set.rules.Perm other.rules := by
  rw [List.perm_ext_iff_of_nodup (List.Nodup.of_map _ set.distinct)
    (List.Nodup.of_map _ other.distinct)]
  intro rule
  simp only [mem_rules_iff_verbs, sameTargets, sameVerbs]

/-! ## Merging as appending -/

theorem insertAll_append (set : AccessRules) (rules others : List AccessRule) :
    set.insertAll (rules ++ others) = (set.insertAll rules).insertAll others := by
  induction rules generalizing set with
  | nil => rfl
  | cons rule rest inductionHypothesis => exact inductionHypothesis (set.insert rule)

/-- Lists that are grouped in the same way add the same to a set. -/
theorem insertAll_eq_of_sameGroups
    {rules others : List AccessRule}
    (same : SameGroups rules others)
    (set : AccessRules) :
    set.insertAll rules = set.insertAll others :=
  eq_of_sameGroups ((sameGroups_insertAll set rules).trans
    ((same.append_left set.rules).trans (sameGroups_insertAll set others).symm))

/-- Every set is the set of its rules. -/
theorem ofList_rules (set : AccessRules) : ofList set.rules = set :=
  eq_of_sameGroups (sameGroups_ofList set.rules)

/-- Merging two sets collects the rules of the first one and then those of the second one. -/
theorem merge_eq_ofList (set other : AccessRules) :
    set.merge other = ofList (set.rules ++ other.rules) := by
  rw [ofList, insertAll_append, ← ofList, ofList_rules]
  rfl

theorem merge_assoc (first second third : AccessRules) :
    (first.merge second).merge third = first.merge (second.merge third) := by
  have grouped : SameGroups (second.merge third).rules (second.rules ++ third.rules) :=
    sameGroups_insertAll second third.rules
  calc (first.merge second).merge third
      = first.insertAll (second.rules ++ third.rules) :=
        (insertAll_append first second.rules third.rules).symm
    _ = first.merge (second.merge third) := (insertAll_eq_of_sameGroups grouped first).symm

@[simp] theorem merge_self (set : AccessRules) : set.merge set = set := by
  rw [merge_eq_ofList, ofList, insertAll_eq_of_sameGroups (.append_self set.rules)]
  exact ofList_rules set

/-- The order of rules matters for the order of the targets only. -/
theorem perm_ofList
    {rules others : List AccessRule}
    (permuted : rules.Perm others) :
    (ofList rules).rules.Perm (ofList others).rules := by
  have groups := sameGroups_ofList rules
  have otherGroups := sameGroups_ofList others
  refine perm_rules (fun target => ?_) (fun target verb => ?_)
  · rw [groups.mem_iff, otherGroups.mem_iff]
    exact (permuted.map AccessRule.target).mem_iff
  · rw [groups.verbs, otherGroups.verbs]
    exact exists_congr fun rule => and_congr_left fun _ => permuted.mem_iff

/-- Merging is associative and idempotent, and it is commutative up to the order of the rules. The
empty set is neutral, and merging is collecting the rules of one set after those of the other. -/
theorem merge_isOrderedSemilattice (first second third : AccessRules) :
    (first.merge second).merge third = first.merge (second.merge third) ∧
      first.merge first = first ∧
      first.merge empty = first ∧
      empty.merge first = first ∧
      first.merge second = ofList (first.rules ++ second.rules) ∧
      (first.merge second).merge second = first.merge second ∧
      (first.merge second).rules.Perm (second.merge first).rules ∧
      ∀ rules others : List AccessRule, rules.Perm others →
        (ofList rules).rules.Perm (ofList others).rules := by
  refine ⟨merge_assoc first second third, merge_self first, rfl, ofList_rules first,
    merge_eq_ofList first second, ?_, ?_, fun rules others => perm_ofList⟩
  · rw [merge_assoc, merge_self]
  · rw [merge_eq_ofList, merge_eq_ofList]
    exact perm_ofList List.perm_append_comm

/-- Rules for pods, with a rule for jobs between them. -/
def podsAroundJobs : List AccessRule :=
  [{ resource := "pods", verbs := .ofList ["get"] },
    { group := "batch", resource := "jobs", verbs := .ofList ["list"] },
    { resource := "pods", verbs := .ofList ["watch"] }]

/-- The same rules, with the one for jobs first. -/
def jobsBeforePods : List AccessRule :=
  [{ group := "batch", resource := "jobs", verbs := .ofList ["list"] },
    { resource := "pods", verbs := .ofList ["watch"] },
    { resource := "pods", verbs := .ofList ["get"] }]

/-- The rules for pods are merged in both orders, but they stand behind the one for jobs if that
one comes first. -/
theorem perm_podsAroundJobs_jobsBeforePods :
    podsAroundJobs.Perm jobsBeforePods ∧
      (ofList podsAroundJobs).rules.Perm (ofList jobsBeforePods).rules ∧
      (ofList podsAroundJobs).rules.map (·.resource) = ["pods", "jobs"] ∧
      (ofList jobsBeforePods).rules.map (·.resource) = ["jobs", "pods"] ∧
      (ofList podsAroundJobs).rules.map (·.verbs.toList) = [["get", "watch"], ["list"]] := by
  have permuted : podsAroundJobs.Perm jobsBeforePods := by decide +kernel
  have laws := merge_isOrderedSemilattice empty empty empty
  exact ⟨permuted, laws.2.2.2.2.2.2.2 _ _ permuted, by decide +kernel, by decide +kernel,
    by decide +kernel⟩

end AccessRules
end MarkerManifests
