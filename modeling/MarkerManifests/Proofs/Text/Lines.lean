/-!
# Lines of a text

A text is taken apart into its lines, each with the line feed that ends it. What separates documents
is a line of dashes and nothing else. A text in which every line that is not empty has another
character stays such a text when more of them follow, whether or not its last line has ended.
-/

namespace MarkerManifests
namespace Text

/-- The lines of a text with their ends, which the last line may lack. -/
def lines : List Char → List (List Char)
  | [] => []
  | character :: rest =>
    if character = '\n' then
      ['\n'] :: lines rest
    else
      match lines rest with
      | [] => [[character]]
      | line :: others => (character :: line) :: others

@[simp] theorem lines_nil : lines [] = [] := rfl

@[simp] theorem lines_cons_newline (rest : List Char) :
    lines ('\n' :: rest) = ['\n'] :: lines rest := by
  simp [lines]

/-- The first line of a text starts with its first character. -/
theorem exists_lines_cons
    (character : Char)
    (rest : List Char) :
    ∃ line others, lines (character :: rest) = (character :: line) :: others := by
  rw [lines]
  split
  · rename_i same
    exact ⟨[], lines rest, by rw [same]⟩
  · split
    · exact ⟨[], [], rfl⟩
    · exact ⟨_, _, rfl⟩

theorem lines_of_not_mem
    {text : List Char}
    (absent : '\n' ∉ text)
    (nonempty : text ≠ []) :
    lines text = [text] := by
  induction text with
  | nil => exact absurd rfl nonempty
  | cons character rest inductionHypothesis =>
      rw [List.mem_cons, not_or] at absent
      rw [lines, if_neg (Ne.symm absent.1)]
      cases rest with
      | nil => rfl
      | cons second more => rw [inductionHypothesis absent.2 (List.cons_ne_nil second more)]

/-- What stands before a text on its line belongs to the first line. -/
theorem lines_append_of_not_mem
    {before text first : List Char}
    {others : List (List Char)}
    (absent : '\n' ∉ before)
    (taken : lines text = first :: others) :
    lines (before ++ text) = (before ++ first) :: others := by
  induction before with
  | nil => exact taken
  | cons character before inductionHypothesis =>
      rw [List.mem_cons, not_or] at absent
      rw [List.cons_append, lines, if_neg (Ne.symm absent.1), inductionHypothesis absent.2]
      rfl

theorem lines_append_newline
    {line : List Char}
    (absent : '\n' ∉ line)
    (rest : List Char) :
    lines (line ++ '\n' :: rest) = (line ++ ['\n']) :: lines rest :=
  lines_append_of_not_mem absent (lines_cons_newline rest)

/-- Induction over the lines of a text, of which the last one has not ended. -/
@[elab_as_elim]
theorem lines_induction
    {motive : List Char → Prop}
    (unended : ∀ line, '\n' ∉ line → motive line)
    (ended : ∀ line rest, '\n' ∉ line → motive rest → motive (line ++ '\n' :: rest))
    (text : List Char) :
    motive text := by
  suffices taken : ∀ line, '\n' ∉ line → motive (line ++ text) from taken [] List.not_mem_nil
  induction text with
  | nil =>
      intro line absent
      rw [List.append_nil]
      exact unended line absent
  | cons character rest inductionHypothesis =>
      intro line absent
      by_cases newline : character = '\n'
      · rw [newline]
        exact ended line rest absent (inductionHypothesis [] List.not_mem_nil)
      · rw [List.append_cons]
        exact inductionHypothesis (line ++ [character]) (by simp [absent, Ne.symm newline])

/-- The lines are the whole text. -/
theorem flatten_lines (text : List Char) : (lines text).flatten = text := by
  induction text using lines_induction with
  | unended line absent =>
      cases line with
      | nil => rfl
      | cons character rest =>
          rw [lines_of_not_mem absent (List.cons_ne_nil character rest), List.flatten_singleton]
  | ended line rest absent inductionHypothesis =>
      rw [lines_append_newline absent, List.flatten_cons, inductionHypothesis, List.append_assoc,
        List.singleton_append]

/-- The last line of a text has ended; an empty text has no line that could have. -/
def EndsLine (text : List Char) : Prop :=
  text.getLast? = some '\n'

instance (text : List Char) : Decidable (EndsLine text) :=
  inferInstanceAs (Decidable (text.getLast? = some '\n'))

theorem not_endsLine_of_not_mem
    {text : List Char}
    (absent : '\n' ∉ text) :
    ¬EndsLine text :=
  fun ends => absent (List.mem_of_getLast? ends)

/-- A text goes on after its first line as its other lines do. -/
theorem endsLine_append_newline
    {line rest : List Char} :
    EndsLine (line ++ '\n' :: rest) ↔ rest = [] ∨ EndsLine rest := by
  cases rest with
  | nil => simp [EndsLine]
  | cons character more => simp [EndsLine, List.getLast?_append]

/-- A new line starts after a line that has ended. -/
theorem EndsLine.lines_append
    {text : List Char}
    (ends : EndsLine text)
    (more : List Char) :
    lines (text ++ more) = lines text ++ lines more := by
  induction text using lines_induction with
  | unended line absent => exact absurd ends (not_endsLine_of_not_mem absent)
  | ended line rest absent inductionHypothesis =>
      rw [List.append_assoc, List.cons_append, lines_append_newline absent,
        lines_append_newline absent, List.cons_append]
      rcases endsLine_append_newline.mp ends with rfl | endsRest
      · rfl
      · rw [inductionHypothesis endsRest]

/-! ## Lines of dashes -/

/-- A line that is empty or has a character other than a dash. -/
def IsOrdinary (line : List Char) : Prop :=
  line = ['\n'] ∨ ∃ character ∈ line, character ≠ '-' ∧ character ≠ '\n'

/-- No line of the text consists of dashes. -/
def Undashed (text : List Char) : Prop :=
  ∀ line ∈ lines text, IsOrdinary line

@[simp] theorem undashed_nil : Undashed [] :=
  fun _ member => nomatch member

theorem undashed_of_not_mem
    {text : List Char}
    (absent : '\n' ∉ text)
    (visible : text = [] ∨ ∃ character ∈ text, character ≠ '-') :
    Undashed text := by
  rcases visible with rfl | ⟨character, member, differs⟩
  · exact undashed_nil
  · intro line isLine
    rw [lines_of_not_mem absent (List.ne_nil_of_mem member), List.mem_singleton] at isLine
    subst isLine
    exact .inr ⟨character, member, differs, fun newline => absent (newline ▸ member)⟩

theorem undashed_append_newline_iff
    {line rest : List Char}
    (absent : '\n' ∉ line) :
    Undashed (line ++ '\n' :: rest) ↔ IsOrdinary (line ++ ['\n']) ∧ Undashed rest := by
  rw [Undashed, lines_append_newline absent, List.forall_mem_cons, Undashed]

theorem undashed_append_newline
    (line : List Char)
    {rest : List Char}
    (absent : '\n' ∉ line)
    (visible : line = [] ∨ ∃ character ∈ line, character ≠ '-')
    (undashed : Undashed rest) :
    Undashed (line ++ '\n' :: rest) := by
  refine (undashed_append_newline_iff absent).mpr ⟨?_, undashed⟩
  rcases visible with rfl | ⟨character, member, differs⟩
  · exact .inl rfl
  · exact .inr ⟨character, List.mem_append_left _ member, differs,
      fun newline => absent (newline ▸ member)⟩

@[simp] theorem undashed_newline : Undashed ['\n'] :=
  undashed_append_newline [] List.not_mem_nil (.inl rfl) undashed_nil

theorem undashed_singleton
    {character : Char}
    (dash : character ≠ '-') :
    Undashed [character] := by
  by_cases newline : character = '\n'
  · rw [newline]
    exact undashed_newline
  · exact undashed_of_not_mem (by simpa using Ne.symm newline)
      (.inr ⟨character, List.mem_singleton_self character, dash⟩)

/-- What stands on the line of a character that is no dash has a line with such a character. -/
theorem Undashed.append_cons
    {rest : List Char}
    {character : Char}
    (undashed : Undashed (character :: rest))
    (before : List Char)
    (absent : '\n' ∉ before)
    (dash : character ≠ '-')
    (newline : character ≠ '\n') :
    Undashed (before ++ character :: rest) := by
  obtain ⟨line, others, taken⟩ := exists_lines_cons character rest
  rw [Undashed, taken, List.forall_mem_cons] at undashed
  rw [Undashed, lines_append_of_not_mem absent taken, List.forall_mem_cons]
  exact ⟨.inr ⟨character, by simp, dash, newline⟩, undashed.2⟩

theorem Undashed.append
    {text more : List Char}
    (undashed : Undashed text)
    (undashedMore : Undashed more) :
    Undashed (text ++ more) := by
  induction text using lines_induction with
  | unended line absent =>
      cases line with
      | nil => exact undashedMore
      | cons character rest =>
          cases more with
          | nil => rwa [List.append_nil]
          | cons next others =>
              obtain ⟨first, following, taken⟩ := exists_lines_cons next others
              rw [Undashed, taken, List.forall_mem_cons] at undashedMore
              rw [Undashed, lines_append_of_not_mem absent taken, List.forall_mem_cons]
              refine ⟨.inr ?_, undashedMore.2⟩
              rw [Undashed, lines_of_not_mem absent (List.cons_ne_nil character rest),
                List.forall_mem_singleton] at undashed
              rcases undashed with isNewline | ⟨visible, member, differs⟩
              · exact absurd (isNewline ▸ List.mem_singleton_self '\n') absent
              · exact ⟨visible, List.mem_append_left _ member, differs⟩
  | ended line rest absent inductionHypothesis =>
      rw [undashed_append_newline_iff absent] at undashed
      rw [List.append_assoc, List.cons_append, undashed_append_newline_iff absent]
      exact ⟨undashed.1, inductionHypothesis undashed.2⟩

theorem undashed_replicate_space (count : Nat) : Undashed (List.replicate count ' ') := by
  refine undashed_of_not_mem (by simp) ?_
  cases count with
  | zero => exact .inl rfl
  | succ count => exact .inr ⟨' ', by simp, by decide⟩

end Text
end MarkerManifests
