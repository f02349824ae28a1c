import MarkerManifests.Marker.Quoting
import MarkerManifests.Proofs.Text.Cutting

/-!
# Splitting and joining

Splitting loses nothing: joining the pieces gives the text back. In the other direction, joined
texts are split where they were joined if and only if each of them is a single piece and all but
the last one end outside quotes and brackets.
-/

namespace MarkerManifests

namespace Quoting

open Text

/-! ## Steps -/

/-- The characters that begin or end quotes, braces and brackets. -/
def enclosing : List Char :=
  ['"', '\x60', '{', '}', '[', ']']

/-- A character either ends a piece or belongs to the first piece of what follows. -/
theorem splitFrom_cons
    (separator : Char)
    (place : Place)
    (depth : Nat)
    (character : Char) :
    (∀ rest, splitFrom separator place depth (character :: rest) =
        (splitFrom separator .outside 0 rest).map ([] :: ·)) ∧ character = separator ∨
      ∃ next deeper, ∀ rest, splitFrom separator place depth (character :: rest) =
        (splitFrom separator next deeper rest).map (extend character) := by
  cases place with
  | inString => exact Or.inr ⟨_, _, fun rest => by rw [splitFrom]⟩
  | escaped => exact Or.inr ⟨_, _, fun rest => by rw [splitFrom]⟩
  | inRaw => exact Or.inr ⟨_, _, fun rest => by rw [splitFrom]⟩
  | outside =>
      by_cases quote : character = '"'
      · exact Or.inr ⟨_, _, fun rest => by rw [splitFrom, if_pos quote]⟩
      by_cases raw : character = '\x60'
      · exact Or.inr ⟨_, _, fun rest => by rw [splitFrom, if_neg quote, if_pos raw]⟩
      by_cases opens : character = '{' ∨ character = '['
      · exact Or.inr ⟨_, _, fun rest => by
          rw [splitFrom, if_neg quote, if_neg raw, if_pos opens]⟩
      by_cases closes : character = '}' ∨ character = ']'
      · exact Or.inr ⟨_, _, fun rest => by
          rw [splitFrom, if_neg quote, if_neg raw, if_neg opens, if_pos closes]⟩
      by_cases separates : character = separator ∧ depth = 0
      · refine Or.inl ⟨fun rest => ?_, separates.1⟩
        rw [splitFrom, if_neg quote, if_neg raw, if_neg opens, if_neg closes,
          if_pos separates, separates.2]
      · exact Or.inr ⟨_, _, fun rest => by
          rw [splitFrom, if_neg quote, if_neg raw, if_neg opens, if_neg closes,
            if_neg separates]⟩

/-- A character that is neither a separator nor encloses anything changes nothing. -/
theorem splitFrom_outside_cons
    {separator character : Char}
    (ordinary : character ∉ enclosing)
    (differs : character ≠ separator)
    (depth : Nat)
    (rest : List Char) :
    splitFrom separator .outside depth (character :: rest) =
      (splitFrom separator .outside depth rest).map (extend character) := by
  simp only [enclosing, List.mem_cons, List.not_mem_nil, or_false, not_or] at ordinary
  obtain ⟨quote, raw, openBrace, closeBrace, openBracket, closeBracket⟩ := ordinary
  rw [splitFrom, if_neg quote, if_neg raw, if_neg (not_or.mpr ⟨openBrace, openBracket⟩),
    if_neg (not_or.mpr ⟨closeBrace, closeBracket⟩), if_neg fun both => differs both.1]

/-- A separator outside brackets ends a piece. -/
theorem splitFrom_outside_separator
    {separator : Char}
    (separates : separator ∉ enclosing)
    (rest : List Char) :
    splitFrom separator .outside 0 (separator :: rest) =
      (splitFrom separator .outside 0 rest).map ([] :: ·) := by
  simp only [enclosing, List.mem_cons, List.not_mem_nil, or_false, not_or] at separates
  obtain ⟨quote, raw, openBrace, closeBrace, openBracket, closeBracket⟩ := separates
  rw [splitFrom, if_neg quote, if_neg raw, if_neg (not_or.mpr ⟨openBrace, openBracket⟩),
    if_neg (not_or.mpr ⟨closeBrace, closeBracket⟩), if_pos ⟨rfl, rfl⟩]

/-! ## Splitting loses nothing -/

theorem splitFrom_ne_nil
    {separator : Char}
    {place : Place}
    {depth : Nat}
    {text : List Char}
    {pieces : List (List Char)}
    (split : splitFrom separator place depth text = .ok pieces) :
    pieces ≠ [] := by
  cases text with
  | nil =>
      cases place with
      | outside =>
          cases split
          simp
      | inString => cases split
      | escaped => cases split
      | inRaw => cases split
  | cons character rest =>
      rcases splitFrom_cons separator place depth character with
        ⟨ends, -⟩ | ⟨next, deeper, continues⟩
      · rw [ends] at split
        obtain ⟨later, -, rfl⟩ := Except.exists_of_map_eq_ok split
        simp
      · rw [continues] at split
        obtain ⟨later, -, rfl⟩ := Except.exists_of_map_eq_ok split
        cases later <;> simp [extend]

theorem joined_extend
    (separator character : Char)
    {pieces : List (List Char)}
    (nonempty : pieces ≠ []) :
    joined [separator] (extend character pieces) =
      character :: joined [separator] pieces := by
  cases pieces with
  | nil => exact absurd rfl nonempty
  | cons first others => cases others <;> simp [extend]

theorem joined_nil_cons
    (separator : Char)
    {pieces : List (List Char)}
    (nonempty : pieces ≠ []) :
    joined [separator] ([] :: pieces) = separator :: joined [separator] pieces := by
  cases pieces with
  | nil => exact absurd rfl nonempty
  | cons first others => simp

theorem joined_splitFrom
    {separator : Char}
    {place : Place}
    {depth : Nat}
    {text : List Char}
    {pieces : List (List Char)}
    (split : splitFrom separator place depth text = .ok pieces) :
    joined [separator] pieces = text := by
  induction text generalizing place depth pieces with
  | nil =>
      cases place with
      | outside =>
          cases split
          rfl
      | inString => cases split
      | escaped => cases split
      | inRaw => cases split
  | cons character rest inductionHypothesis =>
      rcases splitFrom_cons separator place depth character with
        ⟨ends, isSeparator⟩ | ⟨next, deeper, continues⟩
      · rw [ends] at split
        obtain ⟨later, found, rfl⟩ := Except.exists_of_map_eq_ok split
        rw [joined_nil_cons _ (splitFrom_ne_nil found), inductionHypothesis found,
          isSeparator]
      · rw [continues] at split
        obtain ⟨later, found, rfl⟩ := Except.exists_of_map_eq_ok split
        rw [joined_extend _ _ (splitFrom_ne_nil found), inductionHypothesis found]

/-- Joining the pieces of a text gives the text back. -/
theorem joined_split
    {separator : Char}
    {text : List Char}
    {pieces : List (List Char)}
    (isSplit : split separator text = .ok pieces) :
    joined [separator] pieces = text :=
  joined_splitFrom isSplit

/-! ## Texts that are pieces -/

/-- The text is a single piece. -/
def Whole (separator : Char) (text : List Char) : Prop :=
  split separator text = .ok [text]

/-- The text is a piece that a following separator ends. -/
def Closed (separator : Char) (text : List Char) : Prop :=
  split separator (text ++ [separator]) = .ok [text, []]

theorem extend_eq_cons_iff
    {character : Char}
    {pieces others : List (List Char)}
    {text : List Char}
    (nonempty : pieces ≠ []) :
    extend character pieces = (character :: text) :: others ↔ pieces = text :: others := by
  cases pieces with
  | nil => exact absurd rfl nonempty
  | cons first rest => simp [extend]

/-- A closed text is split off at the separator after it. -/
theorem splitFrom_append_of_closed
    {separator : Char}
    {place : Place}
    {depth : Nat}
    {text : List Char}
    (closed : splitFrom separator place depth (text ++ [separator]) = .ok [text, []])
    (rest : List Char) :
    splitFrom separator place depth (text ++ separator :: rest) =
      (splitFrom separator .outside 0 rest).map (text :: ·) := by
  induction text generalizing place depth with
  | nil =>
      rcases splitFrom_cons separator place depth separator with
        ⟨ends, -⟩ | ⟨next, deeper, continues⟩
      · exact ends rest
      · rw [List.nil_append, continues] at closed
        obtain ⟨later, found, extended⟩ := Except.exists_of_map_eq_ok closed
        cases later <;> simp [extend] at extended
  | cons character text inductionHypothesis =>
      rcases splitFrom_cons separator place depth character with
        ⟨ends, -⟩ | ⟨next, deeper, continues⟩
      · rw [List.cons_append, ends] at closed
        obtain ⟨later, -, extended⟩ := Except.exists_of_map_eq_ok closed
        simp at extended
      · rw [List.cons_append, continues] at closed ⊢
        obtain ⟨later, found, extended⟩ := Except.exists_of_map_eq_ok closed
        rw [extend_eq_cons_iff (splitFrom_ne_nil found)] at extended
        rw [inductionHypothesis (found.trans (congrArg _ extended))]
        cases splitFrom separator .outside 0 rest <;> rfl

/-- If a text is split off at the separator after it, it is closed. -/
theorem closed_of_splitFrom_append
    {separator : Char}
    {place : Place}
    {depth : Nat}
    {text rest : List Char}
    {pieces : List (List Char)}
    (isSplit : splitFrom separator place depth (text ++ separator :: rest) =
      .ok (text :: pieces)) :
    splitFrom separator place depth (text ++ [separator]) = .ok [text, []] ∧
      splitFrom separator .outside 0 rest = .ok pieces := by
  induction text generalizing place depth with
  | nil =>
      rcases splitFrom_cons separator place depth separator with
        ⟨ends, -⟩ | ⟨next, deeper, continues⟩
      · rw [List.nil_append, ends] at isSplit ⊢
        obtain ⟨later, found, extended⟩ := Except.exists_of_map_eq_ok isSplit
        exact ⟨rfl, found.trans (congrArg _ (List.cons.inj extended).2)⟩
      · rw [List.nil_append, continues] at isSplit
        obtain ⟨later, found, extended⟩ := Except.exists_of_map_eq_ok isSplit
        cases later <;> simp [extend] at extended
  | cons character text inductionHypothesis =>
      rcases splitFrom_cons separator place depth character with
        ⟨ends, -⟩ | ⟨next, deeper, continues⟩
      · rw [List.cons_append, ends] at isSplit
        obtain ⟨later, -, extended⟩ := Except.exists_of_map_eq_ok isSplit
        simp at extended
      · rw [List.cons_append, continues] at isSplit ⊢
        obtain ⟨later, found, extended⟩ := Except.exists_of_map_eq_ok isSplit
        rw [extend_eq_cons_iff (splitFrom_ne_nil found)] at extended
        obtain ⟨closed, others⟩ := inductionHypothesis (found.trans (congrArg _ extended))
        rw [closed]
        exact ⟨rfl, others⟩

/-- A closed text and a separator are split off. -/
theorem Closed.split_append
    {separator : Char}
    {text : List Char}
    (closed : Closed separator text)
    (rest : List Char) :
    split separator (text ++ separator :: rest) =
      (split separator rest).map (text :: ·) :=
  splitFrom_append_of_closed closed rest

/-- Joined texts are split where they were joined if and only if the last one is a single piece
and the others are pieces that a separator ends. -/
theorem split_joined_iff
    (separator : Char)
    {texts : List (List Char)}
    (nonempty : texts ≠ []) :
    split separator (joined [separator] texts) = .ok texts ↔
      (∀ text ∈ texts.dropLast, Closed separator text) ∧
        ∀ text ∈ texts.getLast?, Whole separator text := by
  induction texts with
  | nil => exact absurd rfl nonempty
  | cons first others inductionHypothesis =>
      cases others with
      | nil => simp [Whole]
      | cons second more =>
          have remaining := inductionHypothesis (by simp)
          have shape : joined [separator] (first :: second :: more) =
              first ++ separator :: joined [separator] (second :: more) := by simp
          rw [shape, List.dropLast_cons_cons, List.forall_mem_cons, List.getLast?_cons_cons,
            and_assoc, ← remaining]
          constructor
          · intro isSplit
            exact closed_of_splitFrom_append isSplit
          · rintro ⟨closed, others⟩
            rw [closed.split_append, others]
            rfl

/-! ## Neutral texts -/

/-- Puts a text in front of the first piece. -/
def prepend (text : List Char) (pieces : List (List Char)) : List (List Char) :=
  text.foldr extend pieces

theorem prepend_cons
    (text first : List Char)
    (others : List (List Char)) :
    prepend text (first :: others) = (text ++ first) :: others := by
  induction text with
  | nil => rfl
  | cons character text inductionHypothesis =>
      rw [prepend, List.foldr_cons, ← prepend, inductionHypothesis]
      rfl

/-- Outside quotes the text separates nothing, and what follows it stands where it began. -/
def Neutral (separator : Char) (text : List Char) : Prop :=
  ∀ depth rest, splitFrom separator .outside depth (text ++ rest) =
    (splitFrom separator .outside depth rest).map (prepend text)

namespace Neutral

variable {separator : Char} {text others : List Char}

theorem nil (separator : Char) : Neutral separator [] := by
  intro depth rest
  rw [List.nil_append]
  cases splitFrom separator .outside depth rest <;> rfl

theorem append
    (first : Neutral separator text)
    (second : Neutral separator others) :
    Neutral separator (text ++ others) := by
  intro depth rest
  rw [List.append_assoc, first, second]
  cases splitFrom separator .outside depth rest with
  | error fault => rfl
  | ok pieces => simp [Except.map, prepend]

theorem cons
    {character : Char}
    (ordinary : character ∉ enclosing)
    (differs : character ≠ separator)
    (neutral : Neutral separator text) :
    Neutral separator (character :: text) := by
  intro depth rest
  rw [List.cons_append, splitFrom_outside_cons ordinary differs, neutral]
  cases splitFrom separator .outside depth rest <;> rfl

/-- Texts without quotes, brackets and separators are neutral. -/
theorem of_forall
    (ordinary : ∀ character ∈ text, character ∉ enclosing ∧ character ≠ separator) :
    Neutral separator text := by
  induction text with
  | nil => exact nil separator
  | cons character text inductionHypothesis =>
      rw [List.forall_mem_cons] at ordinary
      exact cons ordinary.1.1 ordinary.1.2 (inductionHypothesis ordinary.2)

theorem whole (neutral : Neutral separator text) : Whole separator text := by
  have split := neutral 0 []
  rw [List.append_nil] at split
  rw [Whole, Quoting.split, split, splitFrom, Except.map, prepend_cons, List.append_nil]

theorem closed
    (neutral : Neutral separator text)
    (separates : separator ∉ enclosing) :
    Closed separator text := by
  rw [Closed, Quoting.split, neutral, splitFrom_outside_separator separates, splitFrom,
    Except.map, Except.map, prepend_cons, List.append_nil]

/-- A neutral text in front only makes the first piece longer. -/
theorem split_append_iff
    (neutral : Neutral separator text)
    {rest first : List Char}
    {pieces : List (List Char)} :
    split separator (text ++ rest) = .ok ((text ++ first) :: pieces) ↔
      split separator rest = .ok (first :: pieces) := by
  rw [split, neutral]
  cases isSplit : splitFrom separator .outside 0 rest with
  | error fault => simp [Except.map, split, isSplit]
  | ok found =>
      obtain ⟨piece, others, rfl⟩ := List.exists_cons_of_ne_nil (splitFrom_ne_nil isSplit)
      simp [Except.map, split, isSplit, prepend_cons]

theorem whole_append_iff (neutral : Neutral separator text) :
    Whole separator (text ++ others) ↔ Whole separator others :=
  neutral.split_append_iff

theorem closed_append_iff (neutral : Neutral separator text) :
    Closed separator (text ++ others) ↔ Closed separator others := by
  rw [Closed, List.append_assoc]
  exact neutral.split_append_iff

end Neutral

/-- Joined neutral texts are neutral if what stands between them is. -/
theorem Neutral.joined
    {separator between : Char}
    {texts : List (List Char)}
    (ordinary : between ∉ enclosing)
    (differs : between ≠ separator)
    (neutral : ∀ text ∈ texts, Neutral separator text) :
    Neutral separator (joined [between] texts) := by
  induction texts with
  | nil => exact .nil separator
  | cons first others inductionHypothesis =>
      rw [List.forall_mem_cons] at neutral
      cases others with
      | nil => exact neutral.1
      | cons second more =>
          have step : Text.joined [between] (first :: second :: more) =
              first ++ between :: Text.joined [between] (second :: more) := by simp
          rw [step]
          exact neutral.1.append (.cons ordinary differs (inductionHypothesis neutral.2))

end Quoting
end MarkerManifests
