import MarkerManifests.Ordered.NameSet

/-!
# Access rules

A rule grants verbs on a resource of a group, or on a URL. Rules that grant on the same objects are
merged by uniting their verbs, so a set of rules holds one rule for each target, in the order in
which the targets were first seen.
-/

namespace MarkerManifests

/-- What a rule grants verbs on. -/
structure RuleTarget where
  /-- The group of the resource; the core group is the empty one. -/
  group : String := ""
  /-- The resource, possibly with a part of it after a slash. -/
  resource : String := ""
  /-- The objects by name, or no name for all objects. -/
  resourceNames : NameSet := .empty
  /-- The namespace; the empty one stands for the whole cluster. -/
  namespaceName : String := ""
  /-- The URL of a rule that is not about a resource. -/
  url : String := ""
  deriving DecidableEq

/-- Verbs on a target. -/
structure AccessRule extends RuleTarget where
  verbs : NameSet
  deriving DecidableEq

namespace AccessRule

/-- The word for the core group. -/
def coreGroup : String := "core"

/-- The group that a word names: the word for the core group names the empty group. -/
def groupOf (word : String) : String :=
  if word = coreGroup then "" else word

/-- The target of a rule, under which rules are merged. -/
def target (rule : AccessRule) : RuleTarget :=
  rule.toRuleTarget

/-- Whether the rule is about a URL. -/
def isUrl (rule : AccessRule) : Bool :=
  rule.url != ""

/-- Whether the rule holds in the whole cluster. -/
def isClusterScoped (rule : AccessRule) : Bool :=
  rule.namespaceName == ""

/-- Names with commas between them. -/
def listText (names : NameSet) : String :=
  ",".intercalate names.toList

/-- The text of a rule. -/
def text (rule : AccessRule) : String :=
  let verbs := " [" ++ listText rule.verbs ++ "]"
  if rule.isUrl then
    rule.url ++ verbs
  else
    let group := if rule.group = "" then coreGroup else rule.group
    let names := if rule.resourceNames.isEmpty then "" else "(" ++ listText rule.resourceNames ++ ")"
    let place := if rule.namespaceName = "" then "" else " in " ++ rule.namespaceName
    group ++ "/" ++ rule.resource ++ names ++ place ++ verbs

/-- The rule with the verbs of another rule as well. -/
def withVerbsOf (rule other : AccessRule) : AccessRule :=
  { rule with verbs := rule.verbs.union other.verbs }

@[simp] theorem target_withVerbsOf (rule other : AccessRule) :
    (rule.withVerbsOf other).target = rule.target := rfl

end AccessRule

/-- Rules with distinct targets. -/
structure AccessRules where
  rules : List AccessRule := []
  distinct : (rules.map AccessRule.target).Nodup := by simp

namespace AccessRules

/-- The set without rules. -/
def empty : AccessRules := {}

/-- Adds a rule to rules: to the first one with its target, or at the end. -/
def mergeRule (rule : AccessRule) : List AccessRule → List AccessRule
  | [] => [rule]
  | first :: rest =>
    if first.target = rule.target then first.withVerbsOf rule :: rest
    else first :: mergeRule rule rest

/-- Adding a rule adds its target, unless the target is there already. -/
theorem map_target_mergeRule (rule : AccessRule) (rules : List AccessRule) :
    (mergeRule rule rules).map AccessRule.target =
      if rule.target ∈ rules.map AccessRule.target then rules.map AccessRule.target
      else rules.map AccessRule.target ++ [rule.target] := by
  induction rules with
  | nil => simp [mergeRule]
  | cons first rest step =>
    unfold mergeRule
    by_cases same : first.target = rule.target
    · simp [same]
    · have other : ¬ rule.target = first.target := fun equal => same equal.symm
      simp only [same, if_false, List.map_cons, step, List.mem_cons, other, false_or]
      split <;> simp

/-- The set with one more rule. -/
def insert (set : AccessRules) (rule : AccessRule) : AccessRules :=
  ⟨mergeRule rule set.rules, by
    rw [map_target_mergeRule]
    split
    · exact set.distinct
    · rename_i fresh
      rw [List.nodup_append]
      refine ⟨set.distinct, by simp, fun old inOld new inNew => ?_⟩
      simp only [List.mem_singleton] at inNew
      rintro rfl
      exact fresh (inNew ▸ inOld)⟩

/-- Adds a rule to rules, and whether it was merged into one of them. -/
def containsThenMerge (rule : AccessRule) : List AccessRule → Bool × List AccessRule
  | [] => (false, [rule])
  | first :: rest =>
    if first.target = rule.target then (true, first.withVerbsOf rule :: rest)
    else
      let (merged, others) := containsThenMerge rule rest
      (merged, first :: others)

@[simp] theorem snd_containsThenMerge (rule : AccessRule) (rules : List AccessRule) :
    (containsThenMerge rule rules).2 = mergeRule rule rules := by
  induction rules with
  | nil => rfl
  | cons first rest step =>
    unfold containsThenMerge mergeRule
    split
    · rfl
    · exact congrArg (first :: ·) step

/-- The set with one more rule, and whether the rule was merged into one that was there. -/
def containsThenInsert (set : AccessRules) (rule : AccessRule) : Bool × AccessRules :=
  let merged := containsThenMerge rule set.rules
  (merged.1, ⟨merged.2, by
    rw [show merged.2 = mergeRule rule set.rules from snd_containsThenMerge rule set.rules]
    exact (set.insert rule).distinct⟩)

/-- The rule that is stored for a target. -/
def get? (set : AccessRules) (target : RuleTarget) : Option AccessRule :=
  set.rules.find? (·.target = target)

/-- Whether a rule is stored for a target. -/
def contains (set : AccessRules) (target : RuleTarget) : Bool :=
  (set.get? target).isSome

/-- The set with the rules of a list. -/
def insertAll (set : AccessRules) : List AccessRule → AccessRules
  | [] => set
  | rule :: rest => (set.insert rule).insertAll rest

/-- The set of the rules of a list. -/
def ofList (rules : List AccessRule) : AccessRules :=
  empty.insertAll rules

/-- The rules of two sets; the targets of the first set keep their places. -/
def merge (set other : AccessRules) : AccessRules :=
  set.insertAll other.rules

/-- The number of targets. -/
def size (set : AccessRules) : Nat :=
  set.rules.length

end AccessRules
end MarkerManifests
