import MarkerManifests.Access.Rule
import MarkerManifests.Ordered.Entries
import MarkerManifests.Proofs.Ordered.FirstOccurrences

/-!
# Rules grouped by target

The set of the rules of a list has one rule for each target of the list, in the order in which the
targets first occur. The rule for a target has the verbs of all rules of the list with that target.
So the set depends only on the order of the targets and on the verbs that some rule of the list has
on each of them.
-/

namespace MarkerManifests

namespace AccessRule

/-- Whether some rule of a list has a verb on a target. -/
def SomeHasVerb (rules : List AccessRule) (target : RuleTarget) (verb : String) : Prop :=
  ∃ rule ∈ rules, rule.target = target ∧ verb ∈ rule.verbs

variable {rules others : List AccessRule} {target : RuleTarget} {verb : String}

@[simp] theorem not_someHasVerb_nil (target : RuleTarget) (verb : String) :
    ¬ SomeHasVerb [] target verb := by
  rintro ⟨rule, member, -⟩
  cases member

@[simp] theorem someHasVerb_cons (rule : AccessRule) :
    SomeHasVerb (rule :: rules) target verb ↔
      (rule.target = target ∧ verb ∈ rule.verbs) ∨ SomeHasVerb rules target verb := by
  simp [SomeHasVerb]

@[simp] theorem someHasVerb_append :
    SomeHasVerb (rules ++ others) target verb ↔
      SomeHasVerb rules target verb ∨ SomeHasVerb others target verb := by
  simp only [SomeHasVerb, List.mem_append, or_and_right, exists_or]

/-- A rule is its target with its verbs. -/
theorem eq_of_target_eq
    {rule other : AccessRule}
    (sameTarget : rule.target = other.target)
    (sameVerbs : ∀ verb, verb ∈ rule.verbs ↔ verb ∈ other.verbs) :
    rule = other := by
  obtain ⟨target, verbs⟩ := rule
  obtain ⟨otherTarget, otherVerbs⟩ := other
  obtain rfl : target = otherTarget := sameTarget
  obtain rfl : verbs = otherVerbs := NameSet.ext sameVerbs
  rfl

/-- Lists of rules that are grouped in the same way: their targets first occur in the same order,
and they have the same verbs on each of them. -/
structure SameGroups (rules others : List AccessRule) : Prop where
  order : (rules.map AccessRule.target).eraseDups = (others.map AccessRule.target).eraseDups
  verbs : ∀ target verb, SomeHasVerb rules target verb ↔ SomeHasVerb others target verb

theorem SameGroups.mem_iff (same : SameGroups rules others) :
    target ∈ rules.map AccessRule.target ↔ target ∈ others.map AccessRule.target := by
  rw [← List.mem_eraseDups, same.order, List.mem_eraseDups]

end AccessRule

namespace AccessRules

open AccessRule

variable {set : AccessRules} {rule : AccessRule} {target : RuleTarget} {verb : String}

/-! ## What is stored -/

theorem target_of_get? (stored : set.get? target = some rule) : rule.target = target := by
  simpa [get?] using List.find?_some stored

/-- A rule belongs to the set exactly if it is the one that is stored for its target. -/
theorem mem_rules_iff : rule ∈ set.rules ↔ set.get? rule.target = some rule :=
  ⟨Entries.find?_key_of_mem set.distinct, List.mem_of_find?_eq_some⟩

theorem someHasVerb_rules_iff :
    SomeHasVerb set.rules target verb ↔
      ∃ rule, set.get? target = some rule ∧ verb ∈ rule.verbs := by
  constructor
  · rintro ⟨rule, member, rfl, hasVerb⟩
    exact ⟨rule, mem_rules_iff.mp member, hasVerb⟩
  · rintro ⟨rule, stored, hasVerb⟩
    exact ⟨rule, List.mem_of_find?_eq_some stored, target_of_get? stored, hasVerb⟩

/-- The rule that is stored for a target has all verbs that the set has on the target. -/
theorem get?_eq_some_iff :
    set.get? target = some rule ↔
      rule.target = target ∧ target ∈ set.rules.map AccessRule.target ∧
        ∀ verb, verb ∈ rule.verbs ↔ SomeHasVerb set.rules target verb := by
  constructor
  · intro stored
    obtain rfl := target_of_get? stored
    refine ⟨rfl, List.mem_map_of_mem (List.mem_of_find?_eq_some stored), fun verb => ?_⟩
    rw [someHasVerb_rules_iff, stored]
    simp
  · rintro ⟨isTarget, occurs, verbs⟩
    obtain ⟨found, member, rfl⟩ := List.mem_map.mp occurs
    have stored := mem_rules_iff.mp member
    have same : rule = found := by
      refine eq_of_target_eq isTarget fun verb => ?_
      rw [verbs, someHasVerb_rules_iff, stored]
      simp
    rw [same, stored]

theorem mem_rules_iff_verbs :
    rule ∈ set.rules ↔
      rule.target ∈ set.rules.map AccessRule.target ∧
        ∀ verb, verb ∈ rule.verbs ↔ SomeHasVerb set.rules rule.target verb := by
  rw [mem_rules_iff, get?_eq_some_iff]
  exact and_iff_right rfl

/-! ## One more rule -/

theorem find?_mergeRule (rule : AccessRule) (rules : List AccessRule) (target : RuleTarget) :
    (mergeRule rule rules).find? (·.target = target) =
      if rule.target = target then
        some (((rules.find? (·.target = target)).map (·.withVerbsOf rule)).getD rule)
      else
        rules.find? (·.target = target) := by
  induction rules with
  | nil => by_cases same : rule.target = target <;> simp [mergeRule, same]
  | cons first rest inductionHypothesis =>
      by_cases merges : first.target = rule.target
      · by_cases same : rule.target = target <;> simp [mergeRule, merges, same]
      · rw [mergeRule, if_neg merges, List.find?_cons, List.find?_cons, inductionHypothesis]
        by_cases found : first.target = target
        · have differs : rule.target ≠ target := fun same => merges (found.trans same.symm)
          simp [found, differs]
        · simp [found]

/-- Inserting a rule unites its verbs with what is stored for its target. -/
theorem get?_insert (set : AccessRules) (rule : AccessRule) (target : RuleTarget) :
    (set.insert rule).get? target =
      if rule.target = target then
        some (((set.get? target).map (·.withVerbsOf rule)).getD rule)
      else
        set.get? target :=
  find?_mergeRule rule set.rules target

/-- Inserting a rule adds its target behind the others if it is new. -/
theorem map_target_insert (set : AccessRules) (rule : AccessRule) :
    (set.insert rule).rules.map AccessRule.target =
      (set.rules.map AccessRule.target ++ [rule.target]).eraseDups := by
  rw [eraseDups_append_singleton, eraseDups_of_nodup set.distinct]
  exact map_target_mergeRule rule set.rules

/-- Inserting a rule adds its verbs on its target. -/
theorem someHasVerb_insert (set : AccessRules) (rule : AccessRule) :
    SomeHasVerb (set.insert rule).rules target verb ↔
      SomeHasVerb set.rules target verb ∨ (rule.target = target ∧ verb ∈ rule.verbs) := by
  rw [someHasVerb_rules_iff, someHasVerb_rules_iff, get?_insert]
  by_cases same : rule.target = target
  · cases set.get? target <;> simp [same, withVerbsOf]
  · simp [same]

theorem fst_containsThenMerge_iff (rule : AccessRule) (rules : List AccessRule) :
    (containsThenMerge rule rules).1 = true ↔ rule.target ∈ rules.map AccessRule.target := by
  induction rules with
  | nil => simp [containsThenMerge]
  | cons first rest inductionHypothesis =>
      unfold containsThenMerge
      by_cases merges : first.target = rule.target
      · simp [merges]
      · rw [if_neg merges, List.map_cons, List.mem_cons, or_iff_right (Ne.symm merges)]
        exact inductionHypothesis

theorem snd_containsThenInsert (set : AccessRules) (rule : AccessRule) :
    (set.containsThenInsert rule).2 = set.insert rule := by
  simp [containsThenInsert, insert]

/-- A set has a rule for each of its targets. -/
theorem mem_map_target_iff :
    target ∈ set.rules.map AccessRule.target ↔ ∃ rule, set.get? target = some rule := by
  constructor
  · intro occurs
    obtain ⟨rule, member, rfl⟩ := List.mem_map.mp occurs
    exact ⟨rule, mem_rules_iff.mp member⟩
  · rintro ⟨rule, stored⟩
    exact (get?_eq_some_iff.mp stored).2.1

/-! ## The rules of a list -/

theorem map_target_insertAll (set : AccessRules) (rules : List AccessRule) :
    (set.insertAll rules).rules.map AccessRule.target =
      (set.rules.map AccessRule.target ++ rules.map AccessRule.target).eraseDups := by
  induction rules generalizing set with
  | nil =>
      rw [List.map_nil, List.append_nil, eraseDups_of_nodup set.distinct]
      rfl
  | cons rule rest inductionHypothesis =>
      rw [insertAll, inductionHypothesis, map_target_insert, eraseDups_eraseDups_append,
        List.append_assoc]
      rfl

theorem someHasVerb_insertAll (set : AccessRules) (rules : List AccessRule) :
    SomeHasVerb (set.insertAll rules).rules target verb ↔
      SomeHasVerb set.rules target verb ∨ SomeHasVerb rules target verb := by
  induction rules generalizing set with
  | nil => simp [insertAll]
  | cons rule rest inductionHypothesis =>
      rw [insertAll, inductionHypothesis, someHasVerb_insert, someHasVerb_cons, or_assoc]

theorem mem_map_target_insertAll (set : AccessRules) (rules : List AccessRule) :
    target ∈ (set.insertAll rules).rules.map AccessRule.target ↔
      target ∈ set.rules.map AccessRule.target ∨ target ∈ rules.map AccessRule.target := by
  rw [map_target_insertAll, List.mem_eraseDups, List.mem_append]

/-- Inserting rules into a set groups them with the rules of the set. -/
theorem sameGroups_insertAll (set : AccessRules) (rules : List AccessRule) :
    SameGroups (set.insertAll rules).rules (set.rules ++ rules) where
  order := by
    rw [eraseDups_of_nodup (set.insertAll rules).distinct, map_target_insertAll, List.map_append]
  verbs target verb := by
    rw [someHasVerb_insertAll, someHasVerb_append]

/-- The set of the rules of a list groups them. -/
theorem sameGroups_ofList (rules : List AccessRule) :
    SameGroups (ofList rules).rules rules :=
  sameGroups_insertAll empty rules

/-- A set of rules that groups a list of rules by target. -/
structure GroupsByTarget (set : AccessRules) (rules : List AccessRule) : Prop where
  /-- There is one rule for each target of the list, in the order of first occurrences. -/
  order : set.rules.map AccessRule.target = (rules.map AccessRule.target).eraseDups
  /-- The rule for a target is found under it and has exactly the verbs that the rules of the list
  with this target have. -/
  stored : ∀ target ∈ rules.map AccessRule.target, ∃ rule ∈ set.rules,
    set.get? target = some rule ∧ rule.target = target ∧
      ∀ verb, verb ∈ rule.verbs ↔ ∃ other ∈ rules, other.target = target ∧ verb ∈ other.verbs
  /-- Nothing is found under another target. -/
  absent : ∀ target, target ∉ rules.map AccessRule.target → set.get? target = none

/-- Inserting the rules of a list one after the other groups them by target, and a rule is reported
as merged exactly if a rule is stored for its target already. -/
theorem groupsByTarget_ofList (rules : List AccessRule) :
    (ofList rules).GroupsByTarget rules ∧
      ∀ (set : AccessRules) (rule : AccessRule),
        (set.containsThenInsert rule).2 = set.insert rule ∧
          ((set.containsThenInsert rule).1 = true ↔
            ∃ stored, set.get? rule.target = some stored) := by
  have groups := sameGroups_ofList rules
  have order := groups.order
  rw [eraseDups_of_nodup (ofList rules).distinct] at order
  refine ⟨⟨order, fun target occurs => ?_, fun target absent => ?_⟩, fun set rule =>
    ⟨snd_containsThenInsert set rule, ?_⟩⟩
  · rw [← groups.mem_iff] at occurs
    obtain ⟨rule, member, rfl⟩ := List.mem_map.mp occurs
    refine ⟨rule, member, mem_rules_iff.mp member, rfl, fun verb => ?_⟩
    rw [(mem_rules_iff_verbs.mp member).2, groups.verbs]
    rfl
  · rw [← groups.mem_iff, mem_map_target_iff] at absent
    exact Option.eq_none_iff_forall_ne_some.mpr fun rule stored => absent ⟨rule, stored⟩
  · rw [← mem_map_target_iff]
    exact fst_containsThenMerge_iff rule set.rules

end AccessRules
end MarkerManifests
