import Mathlib.Data.List.Induction

/-!
# Escaped characters

A backslash escapes the character after it, unless it is escaped itself. So a character is escaped
if the number of backslashes right before it is odd. What stands between two equal quotes is content
if it ends at the first quote that is not escaped.
-/

namespace MarkerManifests
namespace Text

/-- The number of backslashes at the end of a text. -/
def backslashes (text : List Char) : Nat :=
  (text.reverse.takeWhile (· == '\\')).length

/-- A character that follows the text is escaped, because one of the backslashes before it has no
partner. -/
def Escapes (text : List Char) : Prop :=
  backslashes text % 2 = 1

instance : DecidablePred Escapes :=
  fun text => inferInstanceAs (Decidable (backslashes text % 2 = 1))

variable {quote character : Char} {text : List Char}

theorem escapes_concat_iff :
    Escapes (text ++ [character]) ↔ character = '\\' ∧ ¬ Escapes text := by
  unfold Escapes backslashes
  rw [List.reverse_append, List.reverse_singleton, List.singleton_append]
  by_cases isBackslash : character = '\\'
  · rw [List.takeWhile_cons_of_pos (by simp [isBackslash]), List.length_cons]
    refine ⟨fun odd => ⟨isBackslash, ?_⟩, fun even => ?_⟩ <;> omega
  · rw [List.takeWhile_cons_of_neg (by simp [isBackslash])]
    simp [isBackslash]

/-- An escaped character does not escape the next one. -/
theorem Escapes.not_escapes_concat (escapes : Escapes text) (character : Char) :
    ¬ Escapes (text ++ [character]) :=
  fun both => (escapes_concat_iff.mp both).2 escapes

/-- Every quote in the text is escaped. -/
def EscapesAll (quote : Char) (text : List Char) : Prop :=
  ∀ before after, text = before ++ quote :: after → Escapes before

/-- The text can stand between two quotes: all quotes in it are escaped, and one after it is not. -/
def IsContent (quote : Char) (text : List Char) : Prop :=
  EscapesAll quote text ∧ ¬ Escapes text

theorem escapesAll_nil (quote : Char) : EscapesAll quote [] :=
  fun before _ shape => absurd shape.symm (List.append_ne_nil_of_right_ne_nil before nofun)

theorem escapesAll_concat_iff :
    EscapesAll quote (text ++ [character]) ↔
      EscapesAll quote text ∧ (character = quote → Escapes text) := by
  constructor
  · intro all
    refine ⟨fun before after shape => ?_, ?_⟩
    · exact all before (after ++ [character]) (by rw [shape, List.append_assoc, List.cons_append])
    · rintro rfl
      exact all text [] rfl
  · rintro ⟨all, ifQuote⟩ before after shape
    rcases List.eq_nil_or_concat after with rfl | ⟨more, last, rfl⟩
    · obtain ⟨rfl, isLast⟩ := List.append_inj' shape rfl
      exact ifQuote (List.singleton_inj.mp isLast)
    · have earlier : text ++ [character] = (before ++ quote :: more) ++ [last] := by
        simpa using shape
      exact all before more (List.append_inj' earlier rfl).1

/-- Either all quotes in a text are escaped, or content ends at the first one that is not. -/
theorem escapesAll_or_exists_content (quote : Char) (text : List Char) :
    EscapesAll quote text ∨
      ∃ content rest, text = content ++ quote :: rest ∧ IsContent quote content := by
  induction text using List.reverseRecOn with
  | nil => exact .inl (escapesAll_nil quote)
  | append_singleton text character inductionHypothesis =>
      rcases inductionHypothesis with all | ⟨content, rest, rfl, isContent⟩
      · by_cases ends : character = quote ∧ ¬ Escapes text
        · exact .inr ⟨text, [], by rw [ends.1], all, ends.2⟩
        · refine .inl (escapesAll_concat_iff.mpr ⟨all, fun isQuote => ?_⟩)
          exact not_not.mp fun unescaped => ends ⟨isQuote, unescaped⟩
      · exact .inr ⟨content, rest ++ [character],
          by rw [List.append_assoc, List.cons_append], isContent⟩

end Text
end MarkerManifests
