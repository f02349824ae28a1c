import MarkerManifests.Proofs.Gate.Configuration
import MarkerManifests.Proofs.Gate.Grammar

/-!
# Texts of states

A state is written as the configuration that gives every gate its value, in the order of the names.
The text reads back as the state, with no entry skipped, if and only if all gates with a value have
gate names. What is read from a configuration has gate names, so of the states that are reached
from configurations by setting gates, those read back for which only gate names were set.
-/

namespace MarkerManifests
namespace Gate

/-- The characters of gate names are letters, digits, underscores and hyphens, and there is at least
one. -/
theorem isName_iff {name : String} :
    isName name.toList = true ↔
      name ≠ "" ∧ ∀ character ∈ name.toList,
        character.isAlphanum = true ∨ character = '_' ∨ character = '-' := by
  simp [isName, isNameCharacter, or_assoc]

theorem isNameCharacter_of_isName
    {text : List Char}
    (named : isName text = true) :
    ∀ character ∈ text, isNameCharacter character = true := by
  rw [isName, Bool.and_eq_true] at named
  exact List.all_eq_true.mp named.2

/-- The characters of gate names are neither blank nor do they structure configurations. -/
theorem ordinary_of_isNameCharacter
    {character : Char}
    (isName : isNameCharacter character = true) :
    Text.isBlank character = false ∧ character ≠ ',' ∧ character ≠ '=' := by
  refine ⟨isBlank_of_isTextCharacter (.inl isName), ?_, ?_⟩
  · rintro rfl
    exact absurd isName (by decide)
  · rintro rfl
    exact absurd isName (by decide)

theorem isNameCharacter_of_mem_valueWord
    (enabled : Bool) :
    ∀ character ∈ valueWord enabled, isNameCharacter character = true := by
  cases enabled <;> exact List.all_eq_true.mp (by decide)

namespace State

/-! ## Entries of texts -/

/-- Every gate with a value has a gate name. -/
def IsNamed (state : State) : Prop :=
  ∀ name enabled, state.gates.get? name = some enabled → isName name.toList = true

theorem renderEntry_eq (setting : String × Bool) :
    renderEntry setting = setting.1.toList ++ '=' :: valueWord setting.2 := rfl

/-- The entry of a gate with a gate name is in one piece and has no blanks around it. -/
theorem ordinary_renderEntry
    {setting : String × Bool}
    (named : isName setting.1.toList = true) :
    ∀ character ∈ renderEntry setting, Text.isBlank character = false ∧ character ≠ ',' := by
  have ordinary : ∀ character, isNameCharacter character = true →
      Text.isBlank character = false ∧ character ≠ ',' := fun character isName =>
    have ⟨visible, noComma, _⟩ := ordinary_of_isNameCharacter isName
    ⟨visible, noComma⟩
  rw [renderEntry_eq, List.forall_mem_append, List.forall_mem_cons]
  refine ⟨fun character member => ?_, by decide, fun character member => ?_⟩
  · exact ordinary character (isNameCharacter_of_isName named character member)
  · exact ordinary character (isNameCharacter_of_mem_valueWord setting.2 character member)

theorem renderEntry_ne_nil (setting : String × Bool) : renderEntry setting ≠ [] := by
  simp [renderEntry_eq]

/-- The entry of a gate with a gate name sets the gate. -/
theorem setsGate_renderEntry
    {setting : String × Bool}
    (named : isName setting.1.toList = true) :
    SetsGate (renderEntry setting) setting.1 setting.2 := by
  have inName := isNameCharacter_of_isName named
  have inValue := isNameCharacter_of_mem_valueWord setting.2
  refine ⟨named, setting.1.toList, valueWord setting.2, ⟨renderEntry_eq setting, ?_⟩, ?_, ?_⟩
  · exact fun member => (ordinary_of_isNameCharacter (inName '=' member)).2.2 rfl
  · exact Text.trim_of_forall fun character member =>
      (ordinary_of_isNameCharacter (inName character member)).1
  · exact Text.trim_of_forall fun character member =>
      (ordinary_of_isNameCharacter (inValue character member)).1

/-- The entries of joined entries of gates are these entries, also if there are none. -/
theorem entries_joined_renderEntry
    {settings : List (String × Bool)}
    (named : ∀ setting ∈ settings, isName setting.1.toList = true) :
    entries (Text.pieces ',' (Text.joined [','] (settings.map renderEntry))) =
      settings.map renderEntry := by
  by_cases none : settings = []
  · subst none
    rfl
  have unbroken : ∀ text ∈ settings.map renderEntry, ',' ∉ text :=
    List.forall_mem_map.mpr fun setting member isComma =>
      (ordinary_renderEntry (named setting member) ',' isComma).2 rfl
  have trimmed : (settings.map renderEntry).map Text.trim = settings.map renderEntry := by
    rw [List.map_map]
    refine List.map_congr_left fun setting member => Text.trim_of_forall ?_
    exact fun character inEntry => (ordinary_renderEntry (named setting member) character inEntry).1
  rw [Text.pieces_joined (by simpa using none) unbroken, entries, trimmed,
    List.filter_eq_self]
  exact List.forall_mem_map.mpr fun setting _ => decide_eq_true (renderEntry_ne_nil setting)

/-- Entries of gates with gate names set these gates, and none of them is skipped. -/
theorem settings_and_reports_renderEntry
    {given : List (String × Bool)}
    (named : ∀ setting ∈ given, isName setting.1.toList = true) :
    settings (given.map renderEntry) = given ∧ reports (given.map renderEntry) = [] := by
  induction given with
  | nil => exact ⟨rfl, rfl⟩
  | cons setting rest inductionHypothesis =>
      rw [List.forall_mem_cons] at named
      obtain ⟨areSet, noneSkipped⟩ := inductionHypothesis named.2
      have isRead := readEntry_eq_ok_iff.mpr (setsGate_renderEntry named.1)
      obtain ⟨isSet, notSkipped⟩ :=
        settings_and_reports_of_ok isRead (rest.map renderEntry)
      rw [List.map_cons, isSet, notSkipped, areSet]
      exact ⟨rfl, noneSkipped⟩

/-! ## Gate names -/

/-- The values of a state, put into the empty one, give the state. -/
theorem setAll_toList (state : State) : empty.setAll state.gates.toList = state := by
  have same : (empty.overriddenBy state).gates = state.gates :=
    NameMap.ext_get? fun name => (get?_overriddenBy empty state name).trans Option.or_none
  exact congrArg State.mk same

/-- The last value of a gate is that of one of its settings. -/
theorem mem_of_lastValue?
    {settings : List (String × Bool)}
    {name : String}
    {enabled : Bool}
    (isLast : lastValue? settings name = some enabled) :
    (name, enabled) ∈ settings :=
  List.mem_reverse.mp (Entries.mem_of_find?_fst isLast)

theorem isSome_lastValue?
    {settings : List (String × Bool)}
    {setting : String × Bool}
    (member : setting ∈ settings) :
    (lastValue? settings setting.1).isSome := by
  rw [lastValue?, Option.isSome_map, List.find?_isSome]
  exact ⟨setting, List.mem_reverse.mpr member, decide_eq_true rfl⟩

/-- Setting gates keeps names proper if and only if those of the settings are. -/
theorem isNamed_setAll_iff
    {state : State}
    {settings : List (String × Bool)}
    (named : state.IsNamed) :
    (state.setAll settings).IsNamed ↔
      ∀ setting ∈ settings, isName setting.1.toList = true := by
  unfold IsNamed
  simp only [get?_setAll, Option.or_eq_some_iff]
  constructor
  · intro namedAfter setting member
    obtain ⟨enabled, isLast⟩ := Option.isSome_iff_exists.mp (isSome_lastValue? member)
    exact namedAfter setting.1 enabled (.inl isLast)
  · rintro namedSettings name enabled (isLast | ⟨-, before⟩)
    · exact namedSettings _ (mem_of_lastValue? isLast)
    · exact named name enabled before

theorem isNamed_empty : empty.IsNamed :=
  fun _ _ found => nomatch found

/-- What is read from a configuration has gate names. -/
theorem isNamed_read (text : String) : (read text).1.IsNamed := by
  rw [read_eq]
  refine (isNamed_setAll_iff isNamed_empty).mpr fun setting member => ?_
  obtain ⟨entry, -, isSetting⟩ := List.mem_filterMap.mp member
  cases outcome : readEntry entry with
  | error reason =>
      rw [outcome] at isSetting
      cases isSetting
  | ok found =>
      rw [outcome] at isSetting
      cases isSetting
      exact (readEntry_eq_ok_iff.mp outcome).1

/-! ## Reading texts of states -/

/-- A state is read back from its text, with no entry skipped, if and only if it has gate names. -/
theorem read_render_iff (state : State) : read state.render = (state, []) ↔ state.IsNamed := by
  constructor
  · intro isRead
    have named := isNamed_read state.render
    rwa [isRead] at named
  · intro isNamed
    have named : ∀ setting ∈ state.gates.toList, isName setting.1.toList = true :=
      fun setting member => isNamed setting.1 setting.2 (NameMap.get?_eq_some_iff.mpr member)
    obtain ⟨areSet, noneSkipped⟩ := settings_and_reports_renderEntry named
    rw [read_eq, render, String.toList_ofList, entries_joined_renderEntry named, areSet,
      noneSkipped, setAll_toList]

/-- A state that is reached from a configuration by setting gates is read back from its text, with
no entry skipped, if and only if only gates with gate names were set. -/
theorem read_render_setAll_iff (config : String) (settings : List (String × Bool)) :
    read ((ofText config).setAll settings).render = ((ofText config).setAll settings, []) ↔
      ∀ setting ∈ settings, setting.1 ≠ "" ∧ ∀ character ∈ setting.1.toList,
        character.isAlphanum = true ∨ character = '_' ∨ character = '-' := by
  rw [read_render_iff, ofText, isNamed_setAll_iff (isNamed_read config)]
  exact forall₂_congr fun _ _ => isName_iff

/-- The gates are sorted by their names, and the last value of a gate counts. -/
example :
    ((ofText "zeta=true, b c=true, x=no").setAll
      [("alpha", true), ("zeta", false)]).render = "alpha=true,zeta=false" := by
  decide +kernel

end State
end Gate
end MarkerManifests
