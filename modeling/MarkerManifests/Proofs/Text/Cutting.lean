import Mathlib.Data.List.TakeWhile
import MarkerManifests.Proofs.Outcomes
import MarkerManifests.Text.Blank
import MarkerManifests.Text.Pieces

/-!
# Cut and trimmed texts

Cutting a text at the first separator takes apart what the separator joins, and trimming leaves
texts alone that neither begin nor end with a blank.
-/

namespace MarkerManifests

/-- What can be computed for all elements of a list holds of every element. -/
theorem forall_mem_of_all
    {Element : Type}
    {list : List Element}
    {property : Element → Prop}
    [DecidablePred property]
    (all : list.all (fun element => decide (property element)) = true) :
    ∀ element ∈ list, property element :=
  fun element member => of_decide_eq_true (List.all_eq_true.mp all element member)

namespace Text

theorem cutFirst?_eq_some
    {separator : Char}
    {text before after : List Char}
    (cut : cutFirst? separator text = some (before, after)) :
    text = before ++ separator :: after ∧ separator ∉ before := by
  induction text generalizing before with
  | nil => cases cut
  | cons character rest inductionHypothesis =>
      rw [cutFirst?] at cut
      split at cut
      · rename_i same
        cases cut
        exact ⟨by rw [same, List.nil_append], List.not_mem_nil⟩
      · rename_i differs
        obtain ⟨⟨beforeRest, other⟩, found, same⟩ := Option.map_eq_some_iff.mp cut
        cases same
        obtain ⟨shape, absent⟩ := inductionHypothesis found
        refine ⟨by rw [shape, List.cons_append], ?_⟩
        exact List.not_mem_cons_of_ne_of_not_mem (Ne.symm differs) absent

theorem cutFirst?_append
    {separator : Char}
    {before : List Char}
    (absent : separator ∉ before)
    (after : List Char) :
    cutFirst? separator (before ++ separator :: after) = some (before, after) := by
  induction before with
  | nil => simp [cutFirst?]
  | cons character before inductionHypothesis =>
      rw [List.mem_cons, not_or] at absent
      rw [List.cons_append, cutFirst?, if_neg (Ne.symm absent.1), inductionHypothesis absent.2]
      rfl

theorem cutFirst?_of_not_mem
    {separator : Char}
    {text : List Char}
    (absent : separator ∉ text) :
    cutFirst? separator text = none := by
  cases cut : cutFirst? separator text with
  | none => rfl
  | some found =>
      obtain ⟨shape, -⟩ := cutFirst?_eq_some cut
      exact absurd (shape ▸ List.mem_append_right _ List.mem_cons_self) absent

theorem cutFirst?_eq_some_iff
    {separator : Char}
    {text before after : List Char} :
    cutFirst? separator text = some (before, after) ↔
      text = before ++ separator :: after ∧ separator ∉ before := by
  constructor
  · exact cutFirst?_eq_some
  · rintro ⟨rfl, absent⟩
    exact cutFirst?_append absent after

theorem cutFirst?_eq_none_iff
    {separator : Char}
    {text : List Char} :
    cutFirst? separator text = none ↔ separator ∉ text := by
  refine ⟨fun none member => ?_, cutFirst?_of_not_mem⟩
  obtain ⟨before, after, rfl, absent⟩ := List.eq_append_cons_of_mem member
  rw [cutFirst?_append absent] at none
  cases none

/-- A text is cut into the pieces before a separator and those after it. -/
theorem pieces_append
    (separator : Char)
    (before after : List Char) :
    pieces separator (before ++ separator :: after) =
      pieces separator before ++ pieces separator after := by
  induction before with
  | nil => exact pieces_cons_self separator after
  | cons character before inductionHypothesis =>
      rw [List.cons_append, pieces, pieces, inductionHypothesis]
      split
      · rfl
      · cases own : pieces separator before with
        | nil => exact absurd own (pieces_ne_nil separator before)
        | cons first others => rfl

/-- A text without the separator is its only piece. -/
theorem pieces_of_not_mem
    {separator : Char}
    {text : List Char}
    (absent : separator ∉ text) :
    pieces separator text = [text] := by
  induction text with
  | nil => rfl
  | cons character rest inductionHypothesis =>
      obtain ⟨differs, absentRest⟩ := List.ne_and_not_mem_of_not_mem_cons absent
      rw [pieces, if_neg (Ne.symm differs), inductionHypothesis absentRest]

/-- No piece contains the separator. -/
theorem not_mem_of_mem_pieces
    {separator : Char}
    {text piece : List Char}
    (member : piece ∈ pieces separator text) :
    separator ∉ piece := by
  induction text generalizing piece with
  | nil =>
      obtain rfl := List.mem_singleton.mp member
      exact List.not_mem_nil
  | cons character rest inductionHypothesis =>
      rw [pieces] at member
      split at member
      · rcases List.mem_cons.mp member with rfl | inRest
        · exact List.not_mem_nil
        · exact inductionHypothesis inRest
      · rename_i differs
        cases own : pieces separator rest with
        | nil => exact absurd own (pieces_ne_nil separator rest)
        | cons first others =>
            rw [own] at member inductionHypothesis
            rcases List.mem_cons.mp member with rfl | inOthers
            · exact List.not_mem_cons_of_ne_of_not_mem (Ne.symm differs)
                (inductionHypothesis List.mem_cons_self)
            · exact inductionHypothesis (List.mem_cons_of_mem first inOthers)

/-- Texts without the separator are the pieces of what they are joined to. -/
theorem pieces_joined
    {separator : Char}
    {texts : List (List Char)}
    (nonempty : texts ≠ [])
    (absent : ∀ text ∈ texts, separator ∉ text) :
    pieces separator (joined [separator] texts) = texts := by
  induction texts with
  | nil => exact absurd rfl nonempty
  | cons first others inductionHypothesis =>
      rw [List.forall_mem_cons] at absent
      cases others with
      | nil => exact pieces_of_not_mem absent.1
      | cons second more =>
          have rest := inductionHypothesis (List.cons_ne_nil second more) absent.2
          rw [joined_cons_cons, List.append_assoc, List.singleton_append, pieces_append,
            pieces_of_not_mem absent.1, rest, List.singleton_append]

/-- Two texts are joined to the same one if they are cut at the same separator or at two of them. -/
theorem append_cons_eq_iff
    (separator : Char)
    (first second rest otherRest : List Char) :
    first ++ separator :: rest = second ++ separator :: otherRest ↔
      (first = second ∧ rest = otherRest) ∨
        (∃ between, first = second ++ separator :: between ∧
          otherRest = between ++ separator :: rest) ∨
        ∃ between, second = first ++ separator :: between ∧
          rest = between ++ separator :: otherRest := by
  constructor
  · intro same
    rcases List.append_eq_append_iff.mp same with ⟨more, rfl, rest_eq⟩ | ⟨more, rfl, rest_eq⟩
    · cases more with
      | nil => exact .inl ⟨by simp, (List.cons.inj rest_eq).2⟩
      | cons character between =>
          obtain ⟨rfl, isRest⟩ := List.cons.inj rest_eq
          exact .inr (.inr ⟨between, rfl, isRest⟩)
    · cases more with
      | nil => exact .inl ⟨by simp, (List.cons.inj rest_eq).2.symm⟩
      | cons character between =>
          obtain ⟨rfl, isRest⟩ := List.cons.inj rest_eq
          exact .inr (.inl ⟨between, rfl, isRest⟩)
  · rintro (⟨rfl, rfl⟩ | ⟨between, rfl, rfl⟩ | ⟨between, rfl, rfl⟩) <;> simp

/-! ## Blanks at the ends -/

/-- The last character of the text, if there is one, is not blank. -/
def EndsVisibly (text : List Char) : Prop :=
  ∀ last ∈ text.getLast?, isBlank last = false

theorem EndsVisibly.append
    {text : List Char}
    (ends : EndsVisibly text)
    (nonempty : text ≠ [])
    (before : List Char) :
    EndsVisibly (before ++ text) := by
  intro last isLast
  rw [List.getLast?_append, List.getLast?_eq_some_getLast nonempty, Option.some_or,
    ← List.getLast?_eq_some_getLast nonempty] at isLast
  exact ends last isLast

theorem endsVisibly_of_forall
    {text : List Char}
    (visible : ∀ character ∈ text, isBlank character = false) :
    EndsVisibly text :=
  fun last isLast => visible last (List.mem_of_mem_getLast? isLast)

theorem EndsVisibly.cons
    {first : Char}
    {text : List Char}
    (visible : isBlank first = false)
    (ends : EndsVisibly text) :
    EndsVisibly (first :: text) := by
  cases text with
  | nil => exact endsVisibly_of_forall (by simpa using visible)
  | cons second more => exact ends.append (List.cons_ne_nil second more) [first]

/-- Joined texts end like the last of them, or with the separator if that one is empty. -/
theorem EndsVisibly.joined
    {separator : Char}
    {texts : List (List Char)}
    (visible : isBlank separator = false)
    (ends : ∀ text ∈ texts, EndsVisibly text) :
    EndsVisibly (joined [separator] texts) := by
  induction texts with
  | nil => exact fun last isLast => nomatch isLast
  | cons first others inductionHypothesis =>
      rw [List.forall_mem_cons] at ends
      cases others with
      | nil => exact ends.1
      | cons second more =>
          rw [joined_cons_cons, List.append_assoc]
          exact (EndsVisibly.cons visible (inductionHypothesis ends.2)).append
            (List.cons_ne_nil _ _) first

/-- A text that neither begins nor ends with a blank is not changed by trimming. -/
theorem trim_of_visible
    {first : Char}
    {rest : List Char}
    (begins : isBlank first = false)
    (ends : EndsVisibly (first :: rest)) :
    trim (first :: rest) = first :: rest := by
  rw [trim, trimStart, List.dropWhile_cons_of_neg (by simp [begins]), trimEnd]
  cases reversed : (first :: rest).reverse with
  | nil => simp at reversed
  | cons last others =>
      have isLast : last ∈ (first :: rest).getLast? := by
        rw [List.getLast?_eq_head?_reverse, reversed]
        rfl
      rw [List.dropWhile_cons_of_neg (by simp [ends last isLast]), ← reversed,
        List.reverse_reverse]

/-- A text without blanks is not changed by trimming. -/
theorem trim_of_forall
    {text : List Char}
    (visible : ∀ character ∈ text, isBlank character = false) :
    trim text = text := by
  cases text with
  | nil => rfl
  | cons first rest =>
      exact trim_of_visible (visible first List.mem_cons_self) (endsVisibly_of_forall visible)

/-- Only texts of blanks are empty when they are trimmed. -/
theorem trim_eq_nil_iff {text : List Char} :
    trim text = [] ↔ ∀ character ∈ text, isBlank character = true := by
  have trimmedEnd : ∀ {rest : List Char}, trimEnd rest = [] ↔
      ∀ character ∈ rest, isBlank character = true := by
    intro rest
    rw [trimEnd, List.reverse_eq_nil_iff, List.dropWhile_eq_nil_iff]
    simp
  rw [trim, trimmedEnd]
  constructor
  · intro allBlank
    rw [← List.takeWhile_append_dropWhile (p := isBlank) (l := text)]
    intro character member
    rcases List.mem_append.mp member with taken | dropped
    · exact List.mem_takeWhile_imp taken
    · exact allBlank character dropped
  · exact fun allBlank character member =>
      allBlank character (List.dropWhile_subset isBlank member)

end Text
end MarkerManifests
