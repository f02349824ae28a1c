import MarkerManifests.Proofs.Marker.Canonical
import MarkerManifests.Proofs.Marker.Nesting
import Mathlib.Data.List.Nodup

/-!
# Decoding arguments with keys

Arguments with keys are decoded if and only if the text is split at its commas outside quotes and
brackets, every piece that is not empty has a key of its own that a parameter declares, with a value
of the parameter's kind or, for truth values, without one, and every parameter that is not optional
has a piece. The arguments then are those of the pieces, in their order.
-/

namespace MarkerManifests

namespace Definition

open Quoting

variable {definition : Definition} {given arguments : List (String × Argument)}
  {argument : String × Argument} {piece key : List Char} {value : Option (List Char)}
  {pieces : List (List Char)} {text : List Char}

/-! ## Single pieces -/

/-- The argument that a piece spells. -/
inductive Spells (definition : Definition) (piece : List Char) : String × Argument → Prop where
  | value
      {key value : List Char}
      {parameter : Parameter}
      {argument : Argument}
      (hasKey : HasKey piece key (some value))
      (isDeclared : definition.parameter? (String.ofList key) = some parameter)
      (isRead : Argument.read parameter.kind value = .ok argument) :
      Spells definition piece (String.ofList key, argument)
  | flag
      {key : List Char}
      {parameter : Parameter}
      (hasKey : HasKey piece key none)
      (isDeclared : definition.parameter? (String.ofList key) = some parameter)
      (isBoolean : parameter.kind = .boolean) :
      Spells definition piece (String.ofList key, .boolean true)

theorem pieceParts_of_hasKey (hasKey : HasKey piece key value) :
    pieceParts piece = (key, value) := by
  have cut := cutKey?_of_hasKey hasKey
  cases hasKey with
  | value _ _ value => rw [pieceParts, cut, Option.map_some]
  | alone _ => rw [pieceParts, cut, Option.map_none]

/-- The reader finds the key of a piece. -/
theorem hasKey_iff : HasKey piece key value ↔ pieceParts piece = (key, value) := by
  refine ⟨pieceParts_of_hasKey, fun same => ?_⟩
  obtain ⟨other, otherValue, hasKey⟩ := exists_hasKey piece
  cases (pieceParts_of_hasKey hasKey).symm.trans same
  exact hasKey

theorem exists_hasKey_iff : (∃ value, HasKey piece key value) ↔ (pieceParts piece).1 = key := by
  simp only [hasKey_iff, Prod.ext_iff, exists_and_left, exists_eq', and_true]

/-- A piece is read if and only if it spells an argument that is not given yet. -/
theorem readPiece_eq_ok_iff_spells :
    definition.readPiece given piece = .ok argument ↔
      isGiven given argument.1 = false ∧ definition.Spells piece argument := by
  obtain ⟨key, value, hasKey⟩ := exists_hasKey piece
  rw [readPiece_eq_ok_iff, pieceParts_of_hasKey hasKey]
  constructor
  · rintro ⟨rfl, isNew, parameter, isDeclared, isRead⟩
    refine ⟨isNew, ?_⟩
    rw [← String.ofList_toList (s := argument.1)] at isDeclared
    have spelled : definition.Spells piece (String.ofList argument.1.toList, argument.2) := by
      cases value with
      | some value => exact .value hasKey isDeclared isRead
      | none =>
          rw [readArgument] at isRead
          split at isRead
          · rename_i isBoolean
            rw [← Except.ok.inj isRead]
            exact .flag hasKey isDeclared isBoolean
          · cases isRead
    rwa [String.ofList_toList] at spelled
  · rintro ⟨isNew, spelled⟩
    have parts := pieceParts_of_hasKey hasKey
    cases spelled with
    | value otherKey isDeclared isRead =>
        cases parts.symm.trans (pieceParts_of_hasKey otherKey)
        exact ⟨String.toList_ofList.symm, isNew, _, isDeclared, isRead⟩
    | flag otherKey isDeclared isBoolean =>
        cases parts.symm.trans (pieceParts_of_hasKey otherKey)
        exact ⟨String.toList_ofList.symm, isNew, _, isDeclared, if_pos isBoolean⟩

theorem Spells.key_eq (spells : definition.Spells piece argument) :
    (pieceParts piece).1 = argument.1.toList := by
  cases spells with
  | value hasKey _ _ => rw [pieceParts_of_hasKey hasKey, String.toList_ofList]
  | flag hasKey _ _ => rw [pieceParts_of_hasKey hasKey, String.toList_ofList]

/-- The argument that a piece spells has the kind of the parameter. -/
theorem Spells.exists_kind_eq (spells : definition.Spells piece argument) :
    ∃ parameter, definition.parameter? argument.1 = some parameter ∧
      argument.2.kind = parameter.kind := by
  cases spells with
  | value _ isDeclared isRead =>
      exact ⟨_, isDeclared, (Argument.isReadable_of_read isRead).2⟩
  | flag _ isDeclared isBoolean => exact ⟨_, isDeclared, isBoolean.symm⟩

/-! ## All pieces -/

/-- Pieces give the arguments that they spell, if no key occurs twice. -/
theorem gives_iff :
    definition.Gives given pieces arguments ↔
      List.Forall₂ definition.Spells (pieces.filter (· ≠ [])) arguments ∧
        (arguments.map (·.1)).Nodup ∧ ∀ argument ∈ arguments, argument.1 ∉ given.map (·.1) := by
  induction pieces generalizing given arguments with
  | nil =>
      constructor
      · intro gives
        cases gives
        exact ⟨.nil, List.nodup_nil, fun _ member => nomatch member⟩
      · rintro ⟨spelled, -⟩
        cases spelled
        exact .done given
  | cons piece rest inductionHypothesis =>
      by_cases empty : piece = []
      · subst empty
        rw [List.filter_cons_of_neg (by simp), ← inductionHypothesis]
        constructor
        · intro gives
          cases gives with
          | skip later => exact later
          | take nonempty _ _ => exact absurd rfl nonempty
        · exact .skip
      · rw [List.filter_cons_of_pos (by simpa using empty)]
        constructor
        · intro gives
          cases gives with
          | skip later => exact absurd rfl empty
          | take _ isRead later =>
              obtain ⟨isNew, spells⟩ := readPiece_eq_ok_iff_spells.mp isRead
              obtain ⟨spelled, distinct, areNew⟩ := inductionHypothesis.mp later
              simp only [List.map_append, List.map_cons, List.map_nil, List.mem_append,
                List.mem_singleton, not_or] at areNew
              refine ⟨.cons spells spelled, List.nodup_cons.mpr ⟨?_, distinct⟩,
                List.forall_mem_cons.mpr ⟨isGiven_eq_false_iff.mp isNew, fun other member =>
                  (areNew other member).1⟩⟩
              intro again
              obtain ⟨other, member, same⟩ := List.mem_map.mp again
              exact (areNew other member).2 same
        · rintro ⟨spelled, distinct, areNew⟩
          cases spelled with
          | @cons _ argument _ arguments spells spelled =>
              obtain ⟨absent, distinct⟩ := List.nodup_cons.mp distinct
              rw [List.forall_mem_cons] at areNew
              have isNew := isGiven_eq_false_iff.mpr areNew.1
              refine .take empty (readPiece_eq_ok_iff_spells.mpr ⟨isNew, spells⟩)
                (inductionHypothesis.mpr ⟨spelled, distinct, fun other member => ?_⟩)
              rw [List.map_append, List.mem_append, not_or]
              refine ⟨areNew.2 other member, fun same => absent ?_⟩
              exact List.mem_singleton.mp same ▸ List.mem_map_of_mem member

theorem readNamed_eq_ok_iff_spells :
    definition.readNamed text = .ok arguments ↔
      ∃ pieces, Splits ',' text pieces ∧
        List.Forall₂ definition.Spells (pieces.filter (· ≠ [])) arguments ∧
          (arguments.map (·.1)).Nodup ∧ definition.IsComplete arguments := by
  have separates : ',' ∉ enclosing := by decide
  rw [readNamed_eq_ok_iff]
  simp only [gives_iff, missing?_eq_none_iff, ← split_eq_ok_iff separates]
  by_cases empty : text = []
  · -- without a text there is no piece rather than an empty one, which is ignored
    subst empty
    simp [split, splitFrom, and_assoc]
  · simp [empty, and_assoc]

/-- Pieces that are not empty, of which each one has a key of its own and spells an argument, and
among which no argument is missing that must be given. -/
structure Accepts (definition : Definition) (pieces : List (List Char)) : Prop where
  spelled : ∀ piece ∈ pieces, ∃ argument, definition.Spells piece argument
  distinct : pieces.Pairwise fun piece other =>
    ∀ key value otherValue, HasKey piece key value → ¬ HasKey other key otherValue
  complete : ∀ parameter ∈ definition.parameters, parameter.optional = false →
    ∃ piece ∈ pieces, ∃ value, HasKey piece parameter.name.toList value

/-- The keys of arguments are those of the pieces. -/
theorem map_key_eq_of_spells
    (spelled : List.Forall₂ definition.Spells pieces arguments) :
    pieces.map (fun piece => (pieceParts piece).1) = arguments.map (·.1.toList) := by
  induction spelled with
  | nil => rfl
  | cons spells _ inductionHypothesis =>
      rw [List.map_cons, List.map_cons, inductionHypothesis, spells.key_eq]

theorem pairwise_hasKey_iff :
    (pieces.Pairwise fun piece other =>
      ∀ key value otherValue, HasKey piece key value → ¬ HasKey other key otherValue) ↔
        (pieces.map fun piece => (pieceParts piece).1).Nodup := by
  rw [List.Nodup, List.pairwise_map]
  refine List.Pairwise.iff fun piece other => ?_
  constructor
  · intro apart same
    obtain ⟨value, hasKey⟩ := exists_hasKey_iff.mpr same
    obtain ⟨otherValue, otherKey⟩ := exists_hasKey_iff.mpr (rfl : (pieceParts other).1 = _)
    exact apart _ value otherValue hasKey otherKey
  · intro differ key value otherValue hasKey otherKey
    have isKey := exists_hasKey_iff.mp ⟨value, hasKey⟩
    exact differ (isKey.trans (exists_hasKey_iff.mp ⟨otherValue, otherKey⟩).symm)

/-- Pieces are accepted if and only if they spell arguments that are. -/
theorem accepts_iff :
    definition.Accepts pieces ↔
      ∃ arguments, List.Forall₂ definition.Spells pieces arguments ∧
        (arguments.map (·.1)).Nodup ∧ definition.IsComplete arguments := by
  have sameConditions : ∀ {arguments}, List.Forall₂ definition.Spells pieces arguments →
      ((pieces.map fun piece => (pieceParts piece).1).Nodup ↔ (arguments.map (·.1)).Nodup) ∧
        ∀ name : String, (∃ piece ∈ pieces, ∃ value, HasKey piece name.toList value) ↔
          name ∈ arguments.map (·.1) := by
    intro arguments spelled
    have sameKeys : pieces.map (fun piece => (pieceParts piece).1) =
        (arguments.map (·.1)).map String.toList := by
      rw [map_key_eq_of_spells spelled, List.map_map]
      rfl
    have injective : Function.Injective String.toList := fun _ _ same =>
      String.toList_injective same
    refine ⟨?_, fun name => ?_⟩
    · rw [sameKeys, List.nodup_map_iff injective]
    · rw [← List.mem_map_of_injective injective, ← sameKeys, List.mem_map]
      simp only [exists_hasKey_iff]
  constructor
  · rintro ⟨spelled, distinct, complete⟩
    obtain ⟨arguments, areSpelled⟩ := exists_forall₂_iff.mpr spelled
    obtain ⟨sameDistinct, sameNames⟩ := sameConditions areSpelled
    refine ⟨arguments, areSpelled, sameDistinct.mp (pairwise_hasKey_iff.mp distinct), ?_⟩
    exact fun parameter member required => (sameNames _).mp (complete parameter member required)
  · rintro ⟨arguments, areSpelled, distinct, complete⟩
    obtain ⟨sameDistinct, sameNames⟩ := sameConditions areSpelled
    refine ⟨exists_forall₂_iff.mp ⟨arguments, areSpelled⟩,
      pairwise_hasKey_iff.mpr (sameDistinct.mpr distinct), ?_⟩
    exact fun parameter member required => (sameNames _).mpr (complete parameter member required)

/-! ## Arguments -/

theorem takesValue_eq_false_iff :
    definition.takesValue = false ↔
      ∀ parameter, definition.parameters = [parameter] → parameter.name ≠ unnamed := by
  unfold takesValue
  split
  · rename_i only isOnly
    simp [isOnly]
  · rename_i notOne
    exact iff_of_true rfl fun parameter isOnly => absurd isOnly (notOne parameter)

/-- Arguments with keys are decoded if and only if the text is split into pieces that are accepted.
They are the arguments that the pieces spell, in their order and of the declared kinds. -/
theorem exists_readArguments_named_iff
    (takesSome : definition.parameters ≠ [])
    (noValue : ∀ parameter, definition.parameters = [parameter] → parameter.name ≠ unnamed)
    (text : List Char) :
    ((∃ arguments, definition.readArguments .named text = .ok arguments) ↔
        ∃ pieces, Splits ',' text pieces ∧ definition.Accepts (pieces.filter (· ≠ []))) ∧
      ∀ arguments, definition.readArguments .named text = .ok arguments →
        ∃ pieces, Splits ',' text pieces ∧
          List.Forall₂ definition.Spells (pieces.filter (· ≠ [])) arguments ∧
          ∀ argument ∈ arguments, ∃ parameter,
            definition.parameter? argument.1 = some parameter ∧
              argument.2.kind = parameter.kind := by
  have isNamed : definition.readArguments .named text = definition.readNamed text :=
    readArguments_named takesSome (takesValue_eq_false_iff.mpr noValue) (by decide) text
  rw [isNamed]
  constructor
  · simp only [readNamed_eq_ok_iff_spells, accepts_iff]
    constructor
    · rintro ⟨arguments, pieces, splits, accepted⟩
      exact ⟨pieces, splits, arguments, accepted⟩
    · rintro ⟨pieces, splits, arguments, accepted⟩
      exact ⟨arguments, pieces, splits, accepted⟩
  · intro arguments isRead
    obtain ⟨pieces, splits, spelled, -⟩ := readNamed_eq_ok_iff_spells.mp isRead
    refine ⟨pieces, splits, spelled, fun argument member => ?_⟩
    obtain ⟨piece, spells⟩ := exists_forall₂_iff.mp ⟨_, spelled.flip⟩ argument member
    exact Spells.exists_kind_eq spells

/-- A definition with a parameter that must be given and two that may be left out. -/
def access : Definition where
  name := "access"
  applicability := .package
  consumer := .rule
  parameters := [⟨"verbs", .list, false⟩, ⟨"group", .string, true⟩, ⟨"strict", .boolean, true⟩]

/-- Commas in braces and in quotes separate nothing, and empty pieces are ignored. -/
theorem exists_accepted_access :
    access.parameters ≠ [] ∧
      (∀ parameter, access.parameters = [parameter] → parameter.name ≠ unnamed) ∧
        ∃ pieces, Splits ',' "strict,,verbs={get,list},group=\"a,b=c\"".toList pieces ∧
          access.Accepts (pieces.filter (· ≠ [])) := by
  have takesSome : access.parameters ≠ [] := by decide
  have noValue : ∀ parameter, access.parameters = [parameter] → parameter.name ≠ unnamed := by
    simp [access]
  refine ⟨takesSome, noValue, (exists_readArguments_named_iff takesSome noValue _).1.mp ?_⟩
  refine ⟨[("strict", .boolean true), ("verbs", .list ["get", "list"]),
    ("group", .string "a,b=c")], ?_⟩
  decide +kernel

end Definition
end MarkerManifests
