import MarkerManifests.Proofs.Ordered.Entries
import MarkerManifests.Proofs.Text.Cutting
import MarkerManifests.Webhook.Selector
import Mathlib.Data.List.Forall2

/-!
# Selectors and the sub-records that describe them

The two kinds of sections are read by opposite conventions. In a requirement the first entry with a
key counts, and all others are ignored. Labels are collected from all their sections together: a
label stands where it was first written and has the value that was written last. Sections of both
kinds may stand in any order, and a sub-record makes a selector exactly if every section is right by
itself.
-/

namespace MarkerManifests

theorem SelectorOperator.ofWord?_eq_some_iff
    {word : String}
    {operator : SelectorOperator} :
    ofWord? word = some operator ↔ operator.word = word := by
  constructor
  · intro found
    simpa using List.find?_some found
  · rintro rfl
    cases operator <;> rfl

/-! ## Requirements -/

namespace SelectorRequirement

/-- A text spells values: it joins texts with vertical bars, and the values are those of these
texts that are not empty. -/
def SpellsValues (text : String) (values : List String) : Prop :=
  ∃ parts : List (List Char),
    parts ≠ [] ∧
    (∀ part ∈ parts, '|' ∉ part) ∧
    Text.joined ['|'] parts = text.toList ∧
    values.map String.toList = parts.filter (· ≠ [])

theorem readValues_eq_iff
    {text : String}
    {values : List String} :
    readValues text = values ↔ SpellsValues text values := by
  constructor
  · rintro rfl
    refine ⟨Text.pieces '|' text.toList, Text.pieces_ne_nil _ _,
      fun part member => Text.not_mem_of_mem_pieces member, Text.joined_pieces _ _, ?_⟩
    simp [readValues, Function.comp_def]
  · rintro ⟨parts, nonempty, apart, isText, spelled⟩
    rw [readValues, ← isText, Text.pieces_joined nonempty apart, ← spelled, List.map_map]
    simp [Function.comp_def]

/-- A section describes a requirement. Of several entries with one key the first one counts. -/
structure Describes (part : Section) (requirement : SelectorRequirement) : Prop where
  known : ∀ entry ∈ part.entries, entry.1 = "key" ∨ entry.1 = "operator" ∨ entry.1 = "values"
  key : Entries.IsFirst part.entries "key" requirement.key
  operator : Entries.IsFirst part.entries "operator" requirement.operator.word
  values : ∀ text, Entries.IsFirst part.entries "values" text →
    SpellsValues text requirement.values
  unvalued : "values" ∉ part.entries.map (·.1) → requirement.values = []
  /-- Exactly the operators that compare with values have some. -/
  fitting : requirement.values ≠ [] ↔
    requirement.operator = .isIn ∨ requirement.operator = .notIn

variable {key : String} {operator : SelectorOperator} {values : List String} {part : Section}
  {requirement : SelectorRequirement}

theorem make_eq_ok_iff :
    make key operator values = .ok requirement ↔
      (values ≠ [] ↔ operator = .isIn ∨ operator = .notIn) ∧
        requirement = ⟨key, operator, values⟩ := by
  unfold make
  cases operator <;> cases values <;> simp [SelectorOperator.takesValues, eq_comm]

theorem find?_entryKeys_eq_none_iff :
    (part.entries.find? fun (key, _) => !entryKeys.contains key) = none ↔
      ∀ entry ∈ part.entries, entry.1 = "key" ∨ entry.1 = "operator" ∨ entry.1 = "values" := by
  simp [entryKeys, or_iff_not_imp_left]

/-- The values are those that the first entry for values spells, and none if there is no such
entry. -/
theorem getD_map_readValues_eq_iff :
    ((part.get? "values").map readValues).getD [] = values ↔
      (∀ text, Entries.IsFirst part.entries "values" text → SpellsValues text values) ∧
        ("values" ∉ part.entries.map (·.1) → values = []) := by
  simp only [← Entries.get?_eq_some_iff, ← Entries.get?_eq_none_iff, ← readValues_eq_iff]
  change ((Entries.get? part.entries "values").map readValues).getD [] = values ↔ _
  cases Entries.get? part.entries "values" with
  | none => simp [eq_comm]
  | some text => simp

/-- A section makes exactly the requirement that it describes. -/
theorem ofSection_eq_ok_iff :
    ofSection part = .ok requirement ↔ Describes part requirement := by
  constructor
  · intro made
    unfold ofSection at made
    split at made
    · cases made
    · rename_i known
      split at made
      · cases made
      · rename_i key isKey
        split at made
        · cases made
        · rename_i word isWord
          split at made
          · cases made
          · rename_i operator isOperator
            obtain ⟨fitting, rfl⟩ := make_eq_ok_iff.mp made
            obtain rfl := SelectorOperator.ofWord?_eq_some_iff.mp isOperator
            obtain ⟨spelled, unvalued⟩ := getD_map_readValues_eq_iff.mp rfl
            exact ⟨find?_entryKeys_eq_none_iff.mp known, Entries.get?_eq_some_iff.mp isKey,
              Entries.get?_eq_some_iff.mp isWord, spelled, unvalued, fitting⟩
  · intro describes
    have isKey : part.get? "key" = some requirement.key :=
      Entries.get?_eq_some_iff.mpr describes.key
    have isWord : part.get? "operator" = some requirement.operator.word :=
      Entries.get?_eq_some_iff.mpr describes.operator
    have isOperator := SelectorOperator.ofWord?_eq_some_iff.mpr (Eq.refl requirement.operator.word)
    have spelled := getD_map_readValues_eq_iff.mpr ⟨describes.values, describes.unvalued⟩
    have isKnown := find?_entryKeys_eq_none_iff.mpr describes.known
    simp only [ofSection, isKnown, isKey, isWord, isOperator, spelled]
    exact make_eq_ok_iff.mpr ⟨describes.fitting, rfl⟩

end SelectorRequirement

/-! ## Selectors -/

/-- The entries of the sections that list labels. -/
def SubRecord.labelEntries (record : SubRecord) : List (String × String) :=
  (record.sectionsNamed "matchLabels").flatMap (·.entries)

namespace LabelSelector

/-- A sub-record describes a selector: each of its requirements in the order of the sections, and
the labels of all sections together. -/
structure Describes (record : SubRecord) (selector : LabelSelector) : Prop where
  known : ∀ part ∈ record.sections, part.name = "matchLabels" ∨ part.name = "matchExpressions"
  requirements : List.Forall₂ SelectorRequirement.Describes
    (record.sectionsNamed "matchExpressions") selector.requirements
  labels : Entries.Collect selector.labels record.labelEntries

variable {selector result : LabelSelector} {part : Section} {sections : List Section}
  {record : SubRecord}

theorem addLabels_eq (selector : LabelSelector) (entries : List (String × String)) :
    selector.addLabels entries =
      { selector with labels := Entries.putAll selector.labels entries } :=
  rfl

/-- What one section adds to a selector. -/
theorem addSection_eq_ok_iff :
    selector.addSection part = .ok result ↔
      (part.name = "matchLabels" ∧
        result = { selector with labels := Entries.putAll selector.labels part.entries }) ∨
      (part.name = "matchExpressions" ∧
        ∃ requirement, SelectorRequirement.Describes part requirement ∧
          result = { selector with requirements := selector.requirements ++ [requirement] }) := by
  unfold addSection
  by_cases isLabels : part.name = "matchLabels"
  · simp [isLabels, addLabels_eq, eq_comm]
  · by_cases isExpression : part.name = "matchExpressions"
    · rw [if_neg isLabels, if_pos isExpression, or_iff_right (fun found => isLabels found.1),
        and_iff_right isExpression]
      constructor
      · intro made
        obtain ⟨requirement, isRequirement, rfl⟩ := Except.exists_of_map_eq_ok made
        exact ⟨requirement, SelectorRequirement.ofSection_eq_ok_iff.mp isRequirement, rfl⟩
      · rintro ⟨requirement, describes, rfl⟩
        rw [SelectorRequirement.ofSection_eq_ok_iff.mpr describes]
        rfl
    · simp [isLabels, isExpression]

/-- What sections add to a selector: their requirements come behind those that it has, and their
labels are put into those that it has. -/
structure Extends (selector : LabelSelector) (sections : List Section) (result : LabelSelector) :
    Prop where
  known : ∀ part ∈ sections, part.name = "matchLabels" ∨ part.name = "matchExpressions"
  added : ∃ added, List.Forall₂ SelectorRequirement.Describes
    (sections.filter (·.name = "matchExpressions")) added ∧
      result.requirements = selector.requirements ++ added
  labels : result.labels = Entries.putAll selector.labels
    ((sections.filter (·.name = "matchLabels")).flatMap (·.entries))

theorem extends_nil_iff : selector.Extends [] result ↔ result = selector := by
  constructor
  · rintro ⟨-, ⟨added, none, requirements⟩, labels⟩
    rw [List.forall₂_nil_left_iff.mp none, List.append_nil] at requirements
    cases result
    cases requirements
    cases labels
    rfl
  · rintro rfl
    exact ⟨nofun, ⟨[], .nil, (List.append_nil _).symm⟩, rfl⟩

theorem extends_cons_iff_of_labels (isLabels : part.name = "matchLabels") :
    selector.Extends (part :: sections) result ↔
      Extends { selector with labels := Entries.putAll selector.labels part.entries } sections
        result := by
  have others : (part :: sections).filter (·.name = "matchExpressions") =
      sections.filter (·.name = "matchExpressions") := List.filter_cons_of_neg (by simp [isLabels])
  have entries : ((part :: sections).filter (·.name = "matchLabels")).flatMap (·.entries) =
      part.entries ++ (sections.filter (·.name = "matchLabels")).flatMap (·.entries) := by
    rw [List.filter_cons_of_pos (by simp [isLabels]), List.flatMap_cons]
  constructor
  · rintro ⟨known, added, labels⟩
    rw [others] at added
    rw [entries, Entries.putAll_append] at labels
    exact ⟨(List.forall_mem_cons.mp known).2, added, labels⟩
  · rintro ⟨known, added, labels⟩
    refine ⟨List.forall_mem_cons.mpr ⟨.inl isLabels, known⟩, ?_, ?_⟩
    · rw [others]
      exact added
    · rw [entries, Entries.putAll_append]
      exact labels

theorem extends_cons_iff_of_expression (isExpression : part.name = "matchExpressions") :
    selector.Extends (part :: sections) result ↔
      ∃ requirement, SelectorRequirement.Describes part requirement ∧
        Extends { selector with requirements := selector.requirements ++ [requirement] } sections
          result := by
  have expressions : (part :: sections).filter (·.name = "matchExpressions") =
      part :: sections.filter (·.name = "matchExpressions") :=
    List.filter_cons_of_pos (by simp [isExpression])
  have others : (part :: sections).filter (·.name = "matchLabels") =
      sections.filter (·.name = "matchLabels") := List.filter_cons_of_neg (by simp [isExpression])
  constructor
  · rintro ⟨known, ⟨added, described, requirements⟩, labels⟩
    rw [expressions, List.forall₂_cons_left_iff] at described
    obtain ⟨requirement, rest, describes, describeRest, rfl⟩ := described
    rw [others] at labels
    refine ⟨requirement, describes, (List.forall_mem_cons.mp known).2,
      ⟨rest, describeRest, ?_⟩, labels⟩
    rw [requirements, List.append_assoc, List.singleton_append]
  · rintro ⟨requirement, describes, known, ⟨rest, describeRest, requirements⟩, labels⟩
    refine ⟨List.forall_mem_cons.mpr ⟨.inr isExpression, known⟩, ⟨requirement :: rest, ?_, ?_⟩, ?_⟩
    · rw [expressions]
      exact .cons describes describeRest
    · rw [requirements, List.append_assoc, List.singleton_append]
    · rw [others]
      exact labels

/-- Sections make the selectors that they describe, whatever was made before. -/
theorem addSections_eq_ok_iff :
    selector.addSections sections = .ok result ↔ selector.Extends sections result := by
  induction sections generalizing selector with
  | nil => rw [extends_nil_iff, addSections, Except.ok.injEq, eq_comm]
  | cons part rest inductionHypothesis =>
      have onePart : selector.addSections (part :: rest) = .ok result ↔
          ∃ next, selector.addSection part = .ok next ∧ next.addSections rest = .ok result := by
        rw [addSections]
        cases selector.addSection part with
        | error error => simp
        | ok next => simp
      simp only [onePart, inductionHypothesis, addSection_eq_ok_iff]
      constructor
      · rintro ⟨next, ⟨isLabels, rfl⟩ | ⟨isExpression, requirement, describes, rfl⟩, extended⟩
        · exact (extends_cons_iff_of_labels isLabels).mpr extended
        · exact (extends_cons_iff_of_expression isExpression).mpr ⟨requirement, describes, extended⟩
      · intro extended
        rcases extended.known part List.mem_cons_self with isLabels | isExpression
        · exact ⟨_, .inl ⟨isLabels, rfl⟩, (extends_cons_iff_of_labels isLabels).mp extended⟩
        · obtain ⟨requirement, describes, rest⟩ :=
            (extends_cons_iff_of_expression isExpression).mp extended
          exact ⟨_, .inr ⟨isExpression, requirement, describes, rfl⟩, rest⟩

/-- A sub-record makes exactly the selector that it describes. -/
theorem ofRecord_eq_ok_iff : ofRecord record = .ok selector ↔ Describes record selector := by
  rw [ofRecord, addSections_eq_ok_iff]
  constructor
  · rintro ⟨known, ⟨added, described, rfl⟩, labels⟩
    exact ⟨known, described, Entries.collect_iff.mpr labels⟩
  · rintro ⟨known, described, labels⟩
    exact ⟨known, ⟨selector.requirements, described, rfl⟩, Entries.collect_iff.mp labels⟩

example :
    (ofRecord ⟨[
      ⟨"matchLabels", [("app", "web"), ("tier", "front"), ("app", "api")]⟩,
      ⟨"matchExpressions", [("key", "env"), ("operator", "In"), ("values", "a||b"), ("key", "x")]⟩,
      ⟨"matchLabels", [("tier", "back")]⟩]⟩).toOption =
      some ⟨[("app", "api"), ("tier", "back")], [⟨"env", .isIn, ["a", "b"]⟩]⟩ := by
  decide +kernel

/-- A sub-record describes a selector as soon as each of its sections is right by itself. -/
theorem exists_describes_iff :
    (∃ selector, Describes record selector) ↔
      (∀ part ∈ record.sections, part.name = "matchLabels" ∨ part.name = "matchExpressions") ∧
      ∀ part ∈ record.sectionsNamed "matchExpressions",
        ∃ requirement, SelectorRequirement.Describes part requirement := by
  rw [← exists_forall₂_iff]
  constructor
  · rintro ⟨selector, known, described, -⟩
    exact ⟨known, selector.requirements, described⟩
  · rintro ⟨known, requirements, described⟩
    exact ⟨⟨Entries.putAll [] record.labelEntries, requirements⟩, known, described,
      Entries.collect_putAll _⟩

/-- A sub-record makes a selector exactly if each of its sections lists labels or describes a
requirement, and then it makes the selector that it describes. -/
theorem ofRecord_exact (record : SubRecord) :
    ((∃ selector, ofRecord record = .ok selector) ↔
      (∀ part ∈ record.sections, part.name = "matchLabels" ∨ part.name = "matchExpressions") ∧
      ∀ part ∈ record.sectionsNamed "matchExpressions",
        ∃ requirement, SelectorRequirement.Describes part requirement) ∧
    ∀ selector, ofRecord record = .ok selector ↔ Describes record selector := by
  simp only [ofRecord_eq_ok_iff, exists_describes_iff, implies_true, and_self]

end LabelSelector
end MarkerManifests
