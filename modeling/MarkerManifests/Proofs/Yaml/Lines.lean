import MarkerManifests.Proofs.Number.Reading
import MarkerManifests.Proofs.Text.Lines
import MarkerManifests.Yaml.Printer

/-!
# Lines of written documents

No line of a written object consists of dashes. A scalar that is not a literal block stays on its
line, the lines of a literal block are indented, and a dash that starts an item stands before a
space; so the mark between documents is no line of a document.
-/

namespace MarkerManifests
namespace Yaml

open Text (Undashed)

variable {text : List Char} {indent : Nat}

/-! ## Scalars -/

namespace Scalar

theorem newline_not_mem_of_style
    (otherwise : style text = .plain ∨ style text = .singleQuoted) :
    '\n' ∉ text := by
  intro member
  rw [style, if_pos (List.contains_iff_mem.mpr member)] at otherwise
  split at otherwise <;> simp at otherwise

theorem newline_mem_of_literal (literal : style text = .literal) : '\n' ∈ text := by
  rw [style] at literal
  split at literal
  · rename_i contained
    exact List.contains_iff_mem.mp contained
  · split at literal
    · cases literal
    · split at literal <;> cases literal

/-- The indentation of a line that may have started before. -/
theorem newline_not_mem_indentation
    (ended : Bool)
    (indent : Nat) :
    '\n' ∉ if ended then spaces indent else [] := by
  split <;> simp [spaces]

theorem newline_not_mem_singleQuotedFrom
    (absent : '\n' ∉ text)
    (ended : Bool) :
    '\n' ∉ singleQuotedFrom indent ended text := by
  induction text generalizing ended with
  | nil => exact newline_not_mem_indentation ended indent
  | cons character rest inductionHypothesis =>
      rw [List.mem_cons, not_or] at absent
      have quoted : '\n' ∉ if character = '\'' then ['\'', '\''] else [character] := by
        split <;> simp [absent.1]
      rw [singleQuotedFrom]
      split
      · rw [List.mem_cons, not_or]
        exact ⟨absent.1, inductionHypothesis absent.2 true⟩
      · simp only [List.mem_append, not_or]
        exact ⟨⟨newline_not_mem_indentation ended indent, quoted⟩,
          inductionHypothesis absent.2 false⟩

theorem newline_not_mem_hexDigits (value count : Nat) : '\n' ∉ hexDigits value count := by
  have digit : ∀ value : Fin 16, hexDigit value ≠ '\n' := by decide
  induction count generalizing value with
  | zero => exact List.not_mem_nil
  | succ count inductionHypothesis =>
      rw [hexDigits, List.mem_append, List.mem_singleton, not_or]
      exact ⟨inductionHypothesis _,
        Ne.symm (digit ⟨value % 16, Nat.mod_lt value (by decide)⟩)⟩

theorem newline_not_mem_escape (character : Char) : '\n' ∉ escape character := by
  unfold escape
  split
  · rename_i found
    have letters : ∀ pair ∈ shortEscapes, pair.2 ≠ '\n' := by decide
    have differs := letters _ (List.mem_of_find?_eq_some found)
    simp [Ne.symm differs]
  · dsimp only
    split
    · simp [newline_not_mem_hexDigits]
    · split <;> simp [newline_not_mem_hexDigits]

theorem newline_not_mem_doubleQuotedCharacter (character : Char) :
    '\n' ∉ doubleQuotedCharacter character := by
  rw [doubleQuotedCharacter]
  split
  · exact newline_not_mem_escape character
  · rename_i printed
    rw [List.mem_singleton]
    rintro rfl
    exact printed (by decide)

/-- Only a literal block has several lines. -/
theorem newline_not_mem_styled (single : style text ≠ .literal) :
    '\n' ∉ styled indent text (style text) := by
  cases isStyle : style text with
  | plain => exact newline_not_mem_of_style (.inl isStyle)
  | singleQuoted =>
      have absent := newline_not_mem_of_style (.inr isStyle)
      simp [styled, newline_not_mem_singleQuotedFrom absent]
  | doubleQuoted => simp [styled, newline_not_mem_doubleQuotedCharacter]
  | literal => exact absurd isStyle single

/-- The lines of a literal block, also after what stands on its first line. -/
theorem undashed_literalFrom
    (ended : Bool)
    (before : List Char)
    (absent : '\n' ∉ before)
    (visible : (ended = true ∧ before = []) ∨ ∃ character ∈ before, character ≠ '-') :
    Undashed (before ++ literalFrom (indent + step) ended text) := by
  induction text generalizing before ended with
  | nil =>
      rw [literalFrom, List.append_nil]
      exact Text.undashed_of_not_mem absent (visible.imp_left And.right)
  | cons character rest inductionHypothesis =>
      rw [literalFrom]
      split
      · by_cases newline : character = '\n'
        · rw [newline]
          exact Text.undashed_append_newline before absent (visible.imp_left And.right)
            (inductionHypothesis true [] List.not_mem_nil (.inl ⟨rfl, rfl⟩))
        · rename_i isBreak
          have noDash : character ≠ '-' := by
            rintro rfl
            exact absurd isBreak (by decide)
          rw [List.append_cons]
          exact inductionHypothesis true (before ++ [character]) (by simp [absent, Ne.symm newline])
            (.inr ⟨character, by simp, noDash⟩)
      · rename_i noBreak
        have newline : character ≠ '\n' := by
          rintro rfl
          exact noBreak (by decide)
        rw [List.append_cons, ← List.append_assoc, ← List.append_assoc]
        refine inductionHypothesis false _ ?_ (.inr ?_)
        · have indentation := newline_not_mem_indentation ended (indent + step)
          simp [absent, indentation, Ne.symm newline]
        · rcases visible with ⟨rfl, rfl⟩ | ⟨other, member, differs⟩
          · exact ⟨' ', by simp [spaces, step], by decide⟩
          · exact ⟨other, by simp [member], differs⟩

theorem newline_not_mem_indentHint (text : List Char) : '\n' ∉ indentHint text := by
  rw [indentHint]
  split
  · decide
  · exact List.not_mem_nil

theorem newline_not_mem_chompHint (text : List Char) : '\n' ∉ chompHint text := by
  unfold chompHint
  split
  · decide
  · split <;> decide
  · split
    · decide
    · split <;> decide

/-- A text after a space, in its style. -/
theorem undashed_styled : Undashed (' ' :: styled (indent + step) text (style text)) := by
  by_cases single : style text = .literal
  · rw [single, styled]
    have head : Undashed (' ' :: '|' :: indentHint text ++ chompHint text ++ '\n' ::
        literalFrom (indent + step) true text) := by
      refine Text.undashed_append_newline _ ?_ (.inr ⟨' ', by simp, by decide⟩)
        (undashed_literalFrom true [] List.not_mem_nil (.inl ⟨rfl, rfl⟩))
      simp [newline_not_mem_indentHint, newline_not_mem_chompHint]
    exact head
  · refine Text.undashed_of_not_mem ?_ (.inr ⟨' ', List.mem_cons_self, by decide⟩)
    rw [List.mem_cons, not_or]
    exact ⟨by decide, newline_not_mem_styled single⟩

theorem undashed_render : Undashed (' ' :: render (indent + step) text) := by
  rw [render, endLine]
  split
  · exact undashed_styled
  · rw [← List.cons_append]
    exact undashed_styled.append Text.undashed_newline

end Scalar

/-! ## Documents -/

theorem newline_not_mem_number (number : Number) : '\n' ∉ number.text doubleSpelling :=
  fun member => absurd (Number.text_subset_characters doubleSpelling number member) (by decide)

theorem undashed_leaf (document : Json) :
    Undashed (' ' :: leaf (indent + Scalar.step) document) := by
  have line : ∀ word : List Char, '\n' ∉ word → Undashed (' ' :: word ++ ['\n']) := by
    intro word absent
    refine Text.undashed_append_newline _ ?_ (.inr ⟨' ', List.mem_cons_self, by decide⟩)
      Text.undashed_nil
    rw [List.mem_cons, not_or]
    exact ⟨by decide, absent⟩
  cases document with
  | null => exact line ['n', 'u', 'l', 'l'] (by decide)
  | bool value =>
      cases value with
      | true => exact line ['t', 'r', 'u', 'e'] (by decide)
      | false => exact line ['f', 'a', 'l', 's', 'e'] (by decide)
  | number value => exact line _ (newline_not_mem_number value)
  | string value => exact Scalar.undashed_render
  | array items => exact line ['[', ']'] (by decide)
  | object entries => exact line ['{', '}'] (by decide)

/-- The lines of a document, which follow a space unless they start a block of their own. -/
def Clear (document : Json) : Prop :=
  ∀ indent, match document with
    | .array (_ :: _) | .object (_ :: _) => Undashed (block indent document)
    | _ => Undashed (' ' :: block (indent + Scalar.step) document)

namespace Clear

variable {document : Json}

theorem spaced
    (clear : Clear document)
    (indent : Nat) :
    Undashed (' ' :: block (indent + Scalar.step) document) := by
  have space : Undashed [' '] := Text.undashed_singleton (by decide)
  cases document with
  | array items =>
      cases items with
      | nil => exact clear indent
      | cons first rest => exact space.append (clear (indent + Scalar.step))
  | object entries =>
      cases entries with
      | nil => exact clear indent
      | cons first rest => exact space.append (clear (indent + Scalar.step))
  | _ => exact clear indent

theorem afterKey
    (clear : Clear document)
    (indent : Nat) :
    Undashed (':' :: Yaml.afterKey indent document fun depth => block depth document) := by
  have colon : Undashed [':'] := Text.undashed_singleton (by decide)
  have spaces (count : Nat) : Undashed (':' :: '\n' :: Scalar.spaces count) :=
    (colon.append Text.undashed_newline).append (Text.undashed_replicate_space count)
  cases document with
  | array items =>
      cases items with
      | nil => exact colon.append (clear.spaced indent)
      | cons first rest => exact (spaces indent).append (clear indent)
  | object entries =>
      cases entries with
      | nil => exact colon.append (clear.spaced indent)
      | cons first rest =>
          exact (spaces (indent + Scalar.step)).append (clear (indent + Scalar.step))
  | _ => exact colon.append (clear.spaced indent)

theorem entry
    (clear : Clear document)
    (indent : Nat)
    (key : String) :
    Undashed (Yaml.entry indent key document fun depth => block depth document) := by
  rw [Yaml.entry]
  split
  · rename_i isSimple
    have single : Scalar.style key.toList ≠ .literal := by
      intro literal
      have breaks : Scalar.hasBreak key.toList = true :=
        List.any_eq_true.mpr ⟨'\n', Scalar.newline_mem_of_literal literal, by decide⟩
      simp [Scalar.isSimpleKey, breaks] at isSimple
    exact (clear.afterKey indent).append_cons _ (Scalar.newline_not_mem_styled single)
      (by decide) (by decide)
  · have mark : Undashed ['?'] := Text.undashed_singleton (by decide)
    have colon : Undashed [':'] := Text.undashed_singleton (by decide)
    have question : Undashed ('?' :: ' ' :: Scalar.render (indent + Scalar.step) key.toList) :=
      mark.append Scalar.undashed_render
    exact (question.append (Text.undashed_replicate_space indent)).append
      (colon.append (clear.spaced indent))

end Clear

mutual

/-- No line of a document, whatever stands around it, consists of dashes. -/
theorem clear_document : (document : Json) → Clear document
  | .array (first :: rest) => fun indent => by
      have afterDash := ((clear_document first).spaced indent).append (undashed_items rest indent)
      exact afterDash.append_cons ['-'] (by decide) (by decide) (by decide)
  | .object ((key, value) :: rest) => fun indent =>
      ((clear_document value).entry indent key).append (undashed_entries rest indent)
  | .array [] => fun _ => undashed_leaf (.array [])
  | .object [] => fun _ => undashed_leaf (.object [])
  | .null => fun _ => undashed_leaf .null
  | .bool value => fun _ => undashed_leaf (.bool value)
  | .number value => fun _ => undashed_leaf (.number value)
  | .string value => fun _ => undashed_leaf (.string value)

theorem undashed_items : (list : List Json) → ∀ indent, Undashed (items indent list)
  | [], _ => Text.undashed_nil
  | item :: rest, indent => by
      have afterDash := ((clear_document item).spaced indent).append (undashed_items rest indent)
      have dashed := afterDash.append_cons ['-'] (by decide) (by decide) (by decide)
      rw [items, List.append_assoc]
      exact (Text.undashed_replicate_space indent).append dashed

theorem undashed_entries :
    (list : List (String × Json)) → ∀ indent, Undashed (entries indent list)
  | [], _ => Text.undashed_nil
  | (key, value) :: rest, indent =>
      ((Text.undashed_replicate_space indent).append
        ((clear_document value).entry indent key)).append (undashed_entries rest indent)

end

/-- No line of an object consists of dashes. -/
theorem undashed_render_object (entries : List (String × Json)) :
    Undashed (render (.object entries)) := by
  cases entries with
  | nil =>
      have opening : Undashed ['{'] := Text.undashed_singleton (by decide)
      have closing : Undashed ['}'] := Text.undashed_singleton (by decide)
      exact (opening.append closing).append Text.undashed_newline
  | cons first rest => exact clear_document (.object (first :: rest)) 0

theorem render_object_ne_nil (entries : List (String × Json)) : render (.object entries) ≠ [] := by
  cases entries with
  | nil => exact List.cons_ne_nil _ _
  | cons first rest =>
      rw [render, block, entry]
      split <;> simp

end Yaml
end MarkerManifests
