import MarkerManifests.Gate.State
import MarkerManifests.Proofs.Text.Cutting

/-!
# Configurations of gates

A configuration is read entry by entry: an entry sets a gate or is reported as skipped, and what it
does depends on no other entry. So the entries of two configurations with a comma between them do
what they do in each of them, and the gates of the second configuration are put over those of the
first one.
-/

namespace MarkerManifests
namespace Gate

/-! ## Single entries -/

/-- The words for the values of a gate. -/
def valueWord (enabled : Bool) : List Char :=
  if enabled then ['t', 'r', 'u', 'e'] else ['f', 'a', 'l', 's', 'e']

/-- The texts before and after the first equals sign of an entry. -/
def IsAssignment (entry before after : List Char) : Prop :=
  entry = before ++ '=' :: after ∧ '=' ∉ before

/-- The entry gives a gate a value, with or without blanks around the name and the value. -/
def SetsGate (entry : List Char) (name : String) (enabled : Bool) : Prop :=
  isName name.toList = true ∧ ∃ before after : List Char, IsAssignment entry before after ∧
    Text.trim before = name.toList ∧ Text.trim after = valueWord enabled

/-- What is wrong with an entry that sets no gate. -/
def HasFault (entry : List Char) : SkipReason → Prop
  | .missingEquals => '=' ∉ entry
  | .invalidName => ∃ before after : List Char, IsAssignment entry before after ∧
      isName (Text.trim before) = false
  | .invalidValue => ∃ before after : List Char, IsAssignment entry before after ∧
      isName (Text.trim before) = true ∧ ∀ enabled, Text.trim after ≠ valueWord enabled

namespace State

theorem readValue?_eq_some_iff {text : List Char} {enabled : Bool} :
    readValue? text = some enabled ↔ text = valueWord enabled := by
  unfold readValue?
  split
  · rename_i isTrue
    rw [isTrue]
    cases enabled <;> decide
  split
  · rename_i isFalse
    rw [isFalse]
    cases enabled <;> decide
  · rename_i noTrue noFalse
    cases enabled with
    | true => exact iff_of_false nofun noTrue
    | false => exact iff_of_false nofun noFalse

/-- An entry that is read sets its gate, and an entry that is not has the reported fault. -/
theorem readEntry_sound (entry : List Char) :
    (∀ name enabled, readEntry entry = .ok (name, enabled) → SetsGate entry name enabled) ∧
      ∀ reason, readEntry entry = .error reason → HasFault entry reason := by
  unfold readEntry
  split
  · rename_i none
    refine ⟨nofun, fun reason failed => ?_⟩
    cases failed
    exact Text.cutFirst?_eq_none_iff.mp none
  rename_i before after cut
  have assigns := Text.cutFirst?_eq_some cut
  dsimp only
  split
  · rename_i named
    split
    · rename_i value spelled
      refine ⟨fun name enabled isRead => ?_, nofun⟩
      cases isRead
      refine ⟨?_, before, after, assigns, ?_, readValue?_eq_some_iff.mp spelled⟩
      · rwa [String.toList_ofList]
      · rw [String.toList_ofList]
    · rename_i unspelled
      refine ⟨nofun, fun reason failed => ?_⟩
      cases failed
      refine ⟨before, after, assigns, named, fun enabled value_eq => ?_⟩
      rw [readValue?_eq_some_iff.mpr value_eq] at unspelled
      cases unspelled
  · rename_i unnamed
    refine ⟨nofun, fun reason failed => ?_⟩
    cases failed
    exact ⟨before, after, assigns, Bool.eq_false_iff.mpr unnamed⟩

theorem readEntry_eq_ok_iff
    {entry : List Char}
    {name : String}
    {enabled : Bool} :
    readEntry entry = .ok (name, enabled) ↔ SetsGate entry name enabled := by
  refine ⟨(readEntry_sound entry).1 name enabled, ?_⟩
  rintro ⟨named, before, after, assigns, name_eq, value_eq⟩
  rw [readEntry, Text.cutFirst?_eq_some_iff.mpr assigns]
  dsimp only
  rw [name_eq, if_pos named, readValue?_eq_some_iff.mpr value_eq]
  dsimp only
  rw [String.ofList_toList]

/-! ## Several settings -/

/-- The state after several gates have been set, one after the other. -/
def setAll (state : State) (settings : List (String × Bool)) : State :=
  settings.foldl (fun state setting => state.set setting.1 setting.2) state

/-- The value in the last setting of a gate. -/
def lastValue? (settings : List (String × Bool)) (name : String) : Option Bool :=
  (settings.reverse.find? (·.1 = name)).map (·.2)

/-- The state with the explicit values of another one in place of its own. -/
def overriddenBy (state other : State) : State :=
  state.setAll other.gates.toList

theorem setAll_append (state : State) (settings others : List (String × Bool)) :
    state.setAll (settings ++ others) = (state.setAll settings).setAll others :=
  List.foldl_append

theorem lastValue?_cons (setting : String × Bool) (rest : List (String × Bool)) (name : String) :
    lastValue? (setting :: rest) name =
      (lastValue? rest name).or (if setting.1 = name then some setting.2 else none) := by
  rw [lastValue?, lastValue?, List.reverse_cons, List.find?_append, Option.map_or]
  by_cases same : setting.1 = name <;> simp [same]

/-- A gate has the value in its last setting. -/
theorem get?_setAll (state : State) (settings : List (String × Bool)) (name : String) :
    (state.setAll settings).gates.get? name =
      (lastValue? settings name).or (state.gates.get? name) := by
  induction settings generalizing state with
  | nil => rfl
  | cons setting rest inductionHypothesis =>
      have next := inductionHypothesis (state.set setting.1 setting.2)
      rw [set, NameMap.get?_insert] at next
      rw [lastValue?_cons, Option.or_assoc, setAll, List.foldl_cons]
      refine next.trans (congrArg _ ?_)
      split <;> rfl

/-- A gate with a value in the other state takes it, and every other gate keeps its own. -/
theorem get?_overriddenBy (state other : State) (name : String) :
    (state.overriddenBy other).gates.get? name =
      (other.gates.get? name).or (state.gates.get? name) := by
  have last : lastValue? other.gates.toList name = other.gates.get? name := by
    have distinct : (other.gates.toList.reverse.map (·.1)).Nodup :=
      ((List.reverse_perm _).map _).nodup_iff.mpr other.gates.nodup_keys
    refine Option.ext fun enabled => ?_
    rw [lastValue?, Entries.find?_fst_eq_some_iff distinct, List.mem_reverse,
      NameMap.get?_eq_some_iff]
  rw [overriddenBy, get?_setAll, last]

theorem setAll_eq_overriddenBy (state : State) (settings : List (String × Bool)) :
    state.setAll settings = state.overriddenBy (empty.setAll settings) := by
  have same : (state.setAll settings).gates =
      (state.overriddenBy (empty.setAll settings)).gates := by
    refine NameMap.ext_get? fun name => ?_
    rw [get?_overriddenBy, get?_setAll, get?_setAll]
    exact congrArg (Option.or · _) (Option.or_none).symm
  exact congrArg State.mk same

end State

/-! ## Entries -/

/-- The entries that are not blank, without the blanks around them. -/
def entries (pieces : List (List Char)) : List (List Char) :=
  (pieces.map Text.trim).filter (· ≠ [])

theorem entries_cons (piece : List Char) (rest : List (List Char)) :
    entries (piece :: rest) =
      if Text.trim piece = [] then entries rest else Text.trim piece :: entries rest := by
  rw [entries, List.map_cons, List.filter_cons]
  by_cases isBlank : Text.trim piece = [] <;> simp [isBlank, entries]

theorem entries_append (pieces others : List (List Char)) :
    entries (pieces ++ others) = entries pieces ++ entries others := by
  rw [entries, List.map_append, List.filter_append]
  rfl

/-- The entries are split into settings of gates and reports of skipped entries, each in order. -/
inductive Splits : List (List Char) → List (String × Bool) → List SkippedEntry → Prop where
  | nothing : Splits [] [] []
  | sets
      {entry : List Char}
      {name : String}
      {enabled : Bool}
      {others : List (List Char)}
      {settings : List (String × Bool)}
      {skipped : List SkippedEntry}
      (isSet : SetsGate entry name enabled)
      (rest : Splits others settings skipped) :
      Splits (entry :: others) ((name, enabled) :: settings) skipped
  | skips
      {entry : List Char}
      {reason : SkipReason}
      {others : List (List Char)}
      {settings : List (String × Bool)}
      {skipped : List SkippedEntry}
      (unset : ∀ name enabled, ¬ SetsGate entry name enabled)
      (fault : HasFault entry reason)
      (rest : Splits others settings skipped) :
      Splits (entry :: others) settings (⟨String.ofList entry, reason⟩ :: skipped)

namespace State

/-- The settings in entries that set gates. -/
def settings (entries : List (List Char)) : List (String × Bool) :=
  entries.filterMap fun entry => (readEntry entry).toOption

/-- The reports of entries that are skipped. -/
def reports (entries : List (List Char)) : List SkippedEntry :=
  entries.filterMap fun entry =>
    match readEntry entry with
    | .ok _ => none
    | .error reason => some ⟨String.ofList entry, reason⟩

theorem settings_and_reports_of_ok
    {entry : List Char}
    {setting : String × Bool}
    (isRead : readEntry entry = .ok setting)
    (others : List (List Char)) :
    settings (entry :: others) = setting :: settings others ∧
      reports (entry :: others) = reports others := by
  simp [settings, reports, isRead, Except.toOption]

theorem settings_and_reports_of_error
    {entry : List Char}
    {reason : SkipReason}
    (failed : readEntry entry = .error reason)
    (others : List (List Char)) :
    settings (entry :: others) = settings others ∧
      reports (entry :: others) = ⟨String.ofList entry, reason⟩ :: reports others := by
  simp [settings, reports, failed, Except.toOption]

/-- Every entry does what it does on its own. -/
theorem readEntries_eq (state : State) (skipped : List SkippedEntry) (pieces : List (List Char)) :
    readEntries state skipped pieces =
      (state.setAll (settings (entries pieces)), skipped ++ reports (entries pieces)) := by
  induction pieces generalizing state skipped with
  | nil => exact congrArg _ (List.append_nil skipped).symm
  | cons piece rest inductionHypothesis =>
      rw [readEntries, entries_cons]
      split
      · exact inductionHypothesis state skipped
      · split
        · rename_i name enabled isRead
          obtain ⟨isSet, notReported⟩ := settings_and_reports_of_ok isRead (entries rest)
          rw [inductionHypothesis, isSet, notReported]
          rfl
        · rename_i reason failed
          obtain ⟨notSet, isReported⟩ := settings_and_reports_of_error failed (entries rest)
          rw [inductionHypothesis, notSet, isReported, List.append_assoc]
          rfl

theorem read_eq (text : String) :
    read text = (empty.setAll (settings (entries (Text.pieces ',' text.toList))),
      reports (entries (Text.pieces ',' text.toList))) := by
  rw [read, readEntries_eq, List.nil_append]

/-- An entry that sets no gate is reported with its fault, and no other one is. -/
theorem splits_settings_reports (entries : List (List Char)) :
    Splits entries (settings entries) (reports entries) := by
  induction entries with
  | nil => exact .nothing
  | cons entry others inductionHypothesis =>
      cases outcome : readEntry entry with
      | ok setting =>
          obtain ⟨isSet, notReported⟩ := settings_and_reports_of_ok outcome others
          rw [isSet, notReported]
          exact .sets (readEntry_eq_ok_iff.mp outcome) inductionHypothesis
      | error reason =>
          obtain ⟨notSet, isReported⟩ := settings_and_reports_of_error outcome others
          rw [notSet, isReported]
          refine .skips (fun name enabled isSet => ?_)
            ((readEntry_sound entry).2 reason outcome) inductionHypothesis
          cases outcome.symm.trans (readEntry_eq_ok_iff.mpr isSet)

/-- A configuration goes on after a comma as if it began there. -/
theorem read_append_comma (first second : String) :
    read (first ++ "," ++ second) =
      ((read first).1.overriddenBy (read second).1, (read first).2 ++ (read second).2) := by
  have text_eq : (first ++ "," ++ second).toList = first.toList ++ ',' :: second.toList := by simp
  rw [read_eq, read_eq, read_eq, text_eq, Text.pieces_append, entries_append, settings, reports,
    List.filterMap_append, List.filterMap_append, setAll_append, setAll_eq_overriddenBy]
  rfl

/-- Configurations are read entry by entry: what stands after a comma is put over what stands before
it, and every entry that is not blank either sets a gate or is reported. -/
theorem read_entrywise :
    (∀ first second : String, read (first ++ "," ++ second) =
        ((read first).1.overriddenBy (read second).1, (read first).2 ++ (read second).2)) ∧
      (∀ (state other : State) (name : String), (state.overriddenBy other).gates.get? name =
        (other.gates.get? name).or (state.gates.get? name)) ∧
        ∀ text : String, ∃ settings : List (String × Bool),
          Splits (entries (Text.pieces ',' text.toList)) settings (read text).2 ∧
            (read text).1 = empty.setAll settings := by
  refine ⟨read_append_comma, get?_overriddenBy, fun text => ?_⟩
  rw [read_eq]
  exact ⟨_, splits_settings_reports _, rfl⟩

end State

end Gate
end MarkerManifests
