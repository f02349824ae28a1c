import MarkerManifests.Proofs.Marker.Nesting
import MarkerManifests.Proofs.Text.Escaping

/-!
# Pieces of pieces

A text is split into pieces that are not split any further, and joining them gives the text back. It
is split unless it ends in quotes. Quotes are read from the left: a string ends at the first quote
that is not escaped, and a raw text at the first backtick.
-/

namespace MarkerManifests
namespace Quoting

open Text

variable {separator : Char} {text : List Char}

/-! ## Where texts end -/

/-- Where a text that is read from the left ends: outside quotes, or in quotes that are not closed,
which is a fault. -/
inductive Ends : List Char → Option Fault → Prop
  | outside : Ends [] none
  | plain
      {character : Char}
      {rest : List Char}
      {fault : Option Fault}
      (noQuote : character ≠ '"')
      (noRaw : character ≠ '\x60')
      (ends : Ends rest fault) :
      Ends (character :: rest) fault
  | string
      {content rest : List Char}
      {fault : Option Fault}
      (isContent : IsContent '"' content)
      (ends : Ends rest fault) :
      Ends ('"' :: content ++ '"' :: rest) fault
  | raw
      {content rest : List Char}
      {fault : Option Fault}
      (noRaw : '\x60' ∉ content)
      (ends : Ends rest fault) :
      Ends ('\x60' :: content ++ '\x60' :: rest) fault
  | inString
      {content : List Char}
      (all : EscapesAll '"' content) :
      Ends ('"' :: content) (some .unterminatedString)
  | inRaw
      {content : List Char}
      (noRaw : '\x60' ∉ content) :
      Ends ('\x60' :: content) (some .unterminatedRaw)

/-- Every text ends somewhere. The induction is on the length, as quotes are passed in one step. -/
theorem exists_ends (text : List Char) : ∃ fault, Ends text fault := by
  generalize counted : text.length = length
  induction length using Nat.strongRecOn generalizing text with
  | ind length inductionHypothesis =>
      cases text with
      | nil => exact ⟨none, .outside⟩
      | cons character rest =>
          have shorter : rest.length < length := counted ▸ Nat.lt_succ_self _
          by_cases isQuote : character = '"'
          · subst isQuote
            rcases escapesAll_or_exists_content '"' rest with
              all | ⟨content, after, rfl, isContent⟩
            · exact ⟨_, .inString all⟩
            · rw [List.length_append, List.length_cons] at shorter
              obtain ⟨fault, ends⟩ := inductionHypothesis after.length (by omega) after rfl
              exact ⟨fault, .string isContent ends⟩
          by_cases isRaw : character = '\x60'
          · subst isRaw
            by_cases closes : '\x60' ∈ rest
            · obtain ⟨content, after, rfl, noRaw⟩ := List.eq_append_cons_of_mem closes
              rw [List.length_append, List.length_cons] at shorter
              obtain ⟨fault, ends⟩ := inductionHypothesis after.length (by omega) after rfl
              exact ⟨fault, .raw noRaw ends⟩
            · exact ⟨_, .inRaw closes⟩
          · obtain ⟨fault, ends⟩ := inductionHypothesis rest.length shorter rest rfl
            exact ⟨fault, .plain isQuote isRaw ends⟩

/-! ## Spots in quotes -/

namespace Spot

theorem after_append (spot : Spot) (text rest : List Char) :
    spot.after (text ++ rest) = (spot.after text).after rest :=
  List.foldl_append

/-- While all quotes are escaped, a string goes on, and its last character may escape the next. -/
theorem after_inString
    {content : List Char}
    (all : EscapesAll '"' content)
    (depth : Nat) :
    after ⟨.inString, depth⟩ content =
      ⟨if Escapes content then .escaped else .inString, depth⟩ := by
  induction content using List.reverseRecOn with
  | nil => rfl
  | append_singleton content character inductionHypothesis =>
      obtain ⟨allBefore, ifQuote⟩ := escapesAll_concat_iff.mp all
      rw [after_append, inductionHypothesis allBefore, after, List.foldl_cons, List.foldl_nil]
      by_cases escapes : Escapes content
      · rw [if_pos escapes, if_neg (escapes.not_escapes_concat character)]
        rfl
      · have noQuote : character ≠ '"' := fun same => escapes (ifQuote same)
        simp only [escapes_concat_iff, escapes, next, Place.next, noQuote]
        simp

theorem after_inRaw
    {content : List Char}
    (noRaw : '\x60' ∉ content)
    (depth : Nat) :
    after ⟨.inRaw, depth⟩ content = ⟨.inRaw, depth⟩ := by
  induction content with
  | nil => rfl
  | cons character content inductionHypothesis =>
      obtain ⟨differs, absent⟩ := List.ne_and_not_mem_of_not_mem_cons noRaw
      rw [after_cons, next, Place.next]
      simp [Ne.symm differs, inductionHypothesis absent]

/-- The fault of a text that ends at a spot. -/
def fault? (spot : Spot) : Option Fault :=
  match spot.place with
  | .outside => none
  | .inString => some .unterminatedString
  | .escaped => some .unterminatedString
  | .inRaw => some .unterminatedRaw

/-- Only quotes, braces and brackets lead to another spot outside quotes. -/
theorem next_of_not_mem_enclosing
    {character : Char}
    (ordinary : character ∉ enclosing)
    (depth : Nat) :
    next ⟨.outside, depth⟩ character = ⟨.outside, depth⟩ := by
  simp only [enclosing, List.mem_cons, List.not_mem_nil, or_false, not_or] at ordinary
  simp [next, Place.next, nextDepth, ordinary]

end Spot

section

variable (depth : Nat)

theorem Spot.next_opensString : next ⟨.outside, depth⟩ '"' = ⟨.inString, depth⟩ := rfl

theorem Spot.next_closesString : next ⟨.inString, depth⟩ '"' = ⟨.outside, depth⟩ := rfl

theorem Spot.next_opensRaw : next ⟨.outside, depth⟩ '\x60' = ⟨.inRaw, depth⟩ := rfl

theorem Spot.next_closesRaw : next ⟨.inRaw, depth⟩ '\x60' = ⟨.outside, depth⟩ := rfl

end

/-- A text that is read from the left leads to a spot with the fault of the quotes that are open. -/
theorem Ends.fault?_after
    {fault : Option Fault}
    (ends : Ends text fault)
    (depth : Nat) :
    (Spot.after ⟨.outside, depth⟩ text).fault? = fault := by
  induction ends generalizing depth with
  | outside => rfl
  | plain noQuote noRaw _ inductionHypothesis =>
      rw [Spot.after_cons, Spot.next, Place.next, if_neg noQuote, if_neg noRaw, if_pos rfl]
      exact inductionHypothesis _
  | string isContent _ inductionHypothesis =>
      rw [List.cons_append, Spot.after_cons, Spot.next_opensString, Spot.after_append,
        Spot.after_inString isContent.1, if_neg isContent.2, Spot.after_cons,
        Spot.next_closesString]
      exact inductionHypothesis depth
  | raw noRaw _ inductionHypothesis =>
      rw [List.cons_append, Spot.after_cons, Spot.next_opensRaw, Spot.after_append,
        Spot.after_inRaw noRaw, Spot.after_cons, Spot.next_closesRaw]
      exact inductionHypothesis depth
  | inString all =>
      rw [Spot.after_cons, Spot.next_opensString, Spot.after_inString all]
      split <;> rfl
  | inRaw noRaw =>
      rw [Spot.after_cons, Spot.next_opensRaw, Spot.after_inRaw noRaw]
      rfl

/-! ## Faults of splitting -/

theorem splitFrom_eq_error_iff
    (separates : separator ∉ enclosing)
    (spot : Spot)
    {fault : Fault} :
    splitFrom separator spot.place spot.depth text = .error fault ↔
      (spot.after text).fault? = some fault := by
  induction text generalizing spot with
  | nil =>
      obtain ⟨place, depth⟩ := spot
      cases place <;> simp [splitFrom, Spot.after, Spot.fault?]
  | cons character rest inductionHypothesis =>
      by_cases counts : character = separator ∧ spot.IsTop
      · obtain ⟨rfl, isTop⟩ := counts
        rw [isTop.eq_start, Spot.after_cons, Spot.start,
          Spot.next_of_not_mem_enclosing separates, splitFrom_outside_separator separates,
          Except.map_eq_error_iff]
        exact inductionHypothesis ⟨.outside, 0⟩
      · rw [splitFrom_cons_next counts, Except.map_eq_error_iff, Spot.after_cons]
        exact inductionHypothesis _

/-- A text is not split exactly if it ends in quotes, and the fault says in which. -/
theorem split_eq_error_iff
    (separates : separator ∉ enclosing)
    {fault : Fault} :
    split separator text = .error fault ↔ Ends text (some fault) := by
  refine (splitFrom_eq_error_iff separates .start).trans ⟨fun isFault => ?_, fun ends => ?_⟩
  · obtain ⟨other, ends⟩ := exists_ends text
    have sameFault : other = some fault := (ends.fault?_after 0).symm.trans isFault
    exact sameFault ▸ ends
  · exact ends.fault?_after 0

/-! ## Pieces are not split -/

/-- Every piece is split into itself: it ends outside quotes, and it hides its separators. -/
theorem Splits.single
    {pieces : List (List Char)}
    (splits : Splits separator text pieces) :
    ∀ piece ∈ pieces, Splits separator piece [piece] := by
  induction splits with
  | last hidden ends =>
      intro piece member
      rw [List.mem_singleton.mp member]
      exact .last hidden ends
  | cut hidden ends _ inductionHypothesis =>
      exact List.forall_mem_cons.mpr ⟨.last hidden ends.1, inductionHypothesis⟩

/-- How a text is split at a separator. -/
structure SplitsStably (separator : Char) (text : List Char) : Prop where
  /-- Joining the pieces gives the text back. -/
  lossless : ∀ pieces, split separator text = .ok pieces → joined [separator] pieces = text
  /-- A piece is split into itself only. -/
  single : ∀ pieces, split separator text = .ok pieces →
    ∀ piece ∈ pieces, split separator piece = .ok [piece]
  /-- A text is split unless it ends in quotes, and the fault says in which. -/
  fault : ∀ fault, split separator text = .error fault ↔ Ends text (some fault)

/-- Splitting loses nothing and is stable. For every separator other than a double quote, a
backtick, a brace or a bracket, joining the pieces of a text with the separator gives the text back,
and splitting a piece gives this piece only. A text is not split if and only if it ends in a string
or in a raw text when it is read from the left. -/
theorem splitsStably_of_not_mem_enclosing
    (separates : separator ∉ enclosing)
    (text : List Char) :
    SplitsStably separator text where
  lossless := fun _ isSplit => joined_split isSplit
  single := fun _ isSplit piece member =>
    (split_eq_ok_iff separates).mpr
      (((split_eq_ok_iff separates).mp isSplit).single piece member)
  fault := fun _ => split_eq_error_iff separates

/-- A bracket that closes nothing, one that closes another one, and a string in which a quote is
escaped: the commas in the brackets and in the string do not count. -/
theorem splitsStably_of_mixed_brackets :
    let text := ['}', ',', '[', ',', '}', ',', '"', '\\', '"', ',', '"', ',', '{', '\x60', ',',
      '\x60', ',']
    let pieces := [['}'], ['[', ',', '}'], ['"', '\\', '"', ',', '"'],
      ['{', '\x60', ',', '\x60', ',']]
    ',' ∉ enclosing ∧ split ',' text = .ok pieces ∧ SplitsStably ',' text ∧
      ∀ piece ∈ pieces, split ',' piece = .ok [piece] := by
  intro text pieces
  have separates : ',' ∉ enclosing := by decide
  have isSplit : split ',' text = .ok pieces := rfl
  have stably := splitsStably_of_not_mem_enclosing separates text
  exact ⟨separates, isSplit, stably, stably.single pieces isSplit⟩

end Quoting
end MarkerManifests
