import MarkerManifests.Proofs.Gate.Evaluation
import MarkerManifests.Proofs.Gate.Rendering
import MarkerManifests.Proofs.Gate.RoundTrip

/-!
# Names of gates

Expressions and configurations agree on what names a gate. The reader of expressions takes a text
for a name if it is a single name token. The reader of configurations cuts at commas and at the
first equals sign, and trims blanks. Whatever separators, blanks and parentheses a text contains, it
is read as the literal of itself if and only if it can stand before an equals sign to set the gate
of that name, because on both sides only gate names come out of the reader. So the gates that an
expression mentions can be given any values by a configuration.
-/

namespace MarkerManifests
namespace Gate

namespace Expr

/-- The names that are read as the literal of themselves are the gate names. -/
theorem ofText_eq_literal_iff {text : String} :
    ofText text = .ok (literal text) ↔ isName text.toList = true := by
  constructor
  · exact hasNames_of_read
  · intro named
    have isRead : read (literal text).render = .ok (literal text) := read_render named
    exact isRead

/-- The gates that an expression with names mentions have gate names. -/
theorem HasNames.isName_of_mem_gateNames
    {expr : Expr}
    (named : expr.HasNames) :
    ∀ name ∈ expr.gateNames, isName name.toList = true := by
  induction expr with
  | literal gate =>
      intro name mentioned
      rw [mem_gateNames_literal.mp mentioned]
      exact named
  | and left right leftHypothesis rightHypothesis =>
      intro name mentioned
      rcases mem_gateNames_and.mp mentioned with inLeft | inRight
      · exact leftHypothesis named.1 name inLeft
      · exact rightHypothesis named.2 name inRight
  | or left right leftHypothesis rightHypothesis =>
      intro name mentioned
      rcases mem_gateNames_or.mp mentioned with inLeft | inRight
      · exact leftHypothesis named.1 name inLeft
      · exact rightHypothesis named.2 name inRight

end Expr

namespace State

/-- A state with one gate is written as one entry. -/
theorem render_set_empty (name : String) (enabled : Bool) :
    (empty.set name enabled).render = String.ofList (renderEntry (name, enabled)) := rfl

/-- An entry sets the gate with the name before its equals sign, and no other one, if and only if
this is a gate name. -/
theorem read_renderEntry_iff {name : String} {enabled : Bool} :
    read (String.ofList (renderEntry (name, enabled))) = (empty.set name enabled, []) ↔
      isName name.toList = true := by
  rw [← render_set_empty, read_render_iff]
  have namedIff : (empty.setAll [(name, enabled)]).IsNamed ↔
      ∀ setting ∈ [(name, enabled)], isName setting.1.toList = true :=
    isNamed_setAll_iff isNamed_empty
  exact namedIff.trans List.forall_mem_singleton

theorem read_append_eq_true_iff {name : String} :
    read (name ++ "=true") = (empty.set name true, []) ↔ isName name.toList = true := by
  have isEntry : name ++ "=true" = String.ofList (renderEntry (name, true)) :=
    String.toList_injective (by simp [renderEntry])
  rw [isEntry, read_renderEntry_iff]

/-- Gates that are set once each have the values that they are set to. -/
theorem lastValue?_map (names : List String) (values : String → Bool) (name : String) :
    lastValue? (names.map fun gate => (gate, values gate)) name =
      if name ∈ names then some (values name) else none := by
  have isValue : ∀ enabled,
      lastValue? (names.map fun gate => (gate, values gate)) name = some enabled →
        name ∈ names ∧ values name = enabled := by
    intro enabled isLast
    obtain ⟨gate, isGate, same⟩ := List.mem_map.mp (mem_of_lastValue? isLast)
    cases same
    exact ⟨isGate, rfl⟩
  split
  · rename_i isGate
    have isSetting : (name, values name) ∈ names.map fun gate => (gate, values gate) :=
      List.mem_map_of_mem isGate
    obtain ⟨enabled, isLast⟩ := Option.isSome_iff_exists.mp (isSome_lastValue? isSetting)
    rw [isLast, (isValue enabled isLast).2]
  · rename_i isNoGate
    exact Option.eq_none_iff_forall_ne_some.mpr fun enabled isLast =>
      isNoGate (isValue enabled isLast).1

/-- A configuration can give all gates with gate names any values. -/
theorem exists_read_eq
    {names : List String}
    (named : ∀ name ∈ names, isName name.toList = true)
    (values : String → Bool) :
    ∃ config state, read config = (state, []) ∧
      ∀ name, state.gates.get? name = if name ∈ names then some (values name) else none := by
  let state := empty.setAll (names.map fun gate => (gate, values gate))
  have isNamed : state.IsNamed :=
    (isNamed_setAll_iff isNamed_empty).mpr (List.forall_mem_map.mpr named)
  refine ⟨state.render, state, (read_render_iff state).mpr isNamed, fun name => ?_⟩
  rw [get?_setAll, lastValue?_map]
  exact Option.or_none

end State

/-- A text is read as the literal of itself if and only if the text before an equals sign sets that
gate and no other one, with nothing skipped. This holds of all gates that an expression mentions, so
configurations can give these gates any values. -/
theorem ofText_eq_literal_iff_read_eq :
    (∀ text : String, Expr.ofText text = .ok (.literal text) ↔
        State.read (text ++ "=true") = (State.empty.set text true, [])) ∧
      ∀ (text : String) (expr : Expr), Expr.ofText text = .ok expr →
        (∀ name ∈ expr.gateNames, Expr.ofText name = .ok (.literal name) ∧
          State.read (name ++ "=true") = (State.empty.set name true, [])) ∧
          ∀ values : String → Bool, ∃ config state, State.read config = (state, []) ∧
            ∀ name, state.gates.get? name =
              if name ∈ expr.gateNames then some (values name) else none := by
  refine ⟨fun text => ?_, fun text expr isRead => ?_⟩
  · rw [Expr.ofText_eq_literal_iff, State.read_append_eq_true_iff]
  · have named := (Expr.hasNames_of_read isRead).isName_of_mem_gateNames
    refine ⟨fun name mentioned => ?_, State.exists_read_eq named⟩
    rw [Expr.ofText_eq_literal_iff, State.read_append_eq_true_iff]
    exact ⟨named name mentioned, named name mentioned⟩

/-- The gates of `(b&a)|c-1` can be configured. -/
theorem ofText_eq_literal_iff_read_eq_nested :
    Expr.ofText "(b&a)|c-1" =
        .ok (.or (.and (.literal "b") (.literal "a")) (.literal "c-1")) ∧
      Expr.ofText "c-1" = .ok (.literal "c-1") ∧
        State.read "c-1=true" = (State.empty.set "c-1" true, []) := by
  have isRead : Expr.ofText "(b&a)|c-1" =
      .ok (.or (.and (.literal "b") (.literal "a")) (.literal "c-1")) := rfl
  obtain ⟨agree, -⟩ := ofText_eq_literal_iff_read_eq.2 _ _ isRead
  exact ⟨isRead, agree "c-1" (by decide)⟩

/-- Before an equals sign, a text with a comma in it may set gates, but none of that name. -/
example :
    State.read ("x=true, a" ++ "=true") = ((State.empty.set "x" true).set "a" true, []) := by
  decide +kernel

end Gate
end MarkerManifests
