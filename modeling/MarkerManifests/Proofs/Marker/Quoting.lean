import MarkerManifests.Proofs.Marker.Splitting
import Mathlib.Data.List.Forall2
import Mathlib.Tactic.SplitIfs

/-!
# Quoted texts

A text that is quoted where it has to be reads back as itself, and quotes hide it from every
separator. Reading is not injective, because quotes may stand where they need not; but a text
that reads as some content and begins like the canonical text of the content is that text.
-/

namespace MarkerManifests
namespace Quoting

/-! ## Reading quoted texts -/

/-- A character is either escaped by a letter that stands for it or not escaped at all. -/
theorem escape_cases (character : Char) :
    (∃ letter, escape character = ['\\', letter] ∧ unescape letter = character) ∨
      escape character = [character] ∧ character ≠ '"' ∧ character ≠ '\\' := by
  unfold escape
  split_ifs with quote backslash newline tab
  · exact Or.inl ⟨_, rfl, quote.symm⟩
  · exact Or.inl ⟨_, rfl, backslash.symm⟩
  · exact Or.inl ⟨_, rfl, newline.symm⟩
  · exact Or.inl ⟨_, rfl, tab.symm⟩
  · exact Or.inr ⟨rfl, quote, backslash⟩

theorem unquoteString_cons_of_ne
    {character : Char}
    (noQuote : character ≠ '"')
    (noBackslash : character ≠ '\\')
    (rest : List Char) :
    unquoteString (character :: rest) = (unquoteString rest).map (character :: ·) := by
  rw [unquoteString.eq_4 _ _ (by simp [noBackslash]) noQuote, if_neg noBackslash]

theorem unquoteString_append_escape
    (character : Char)
    (rest : List Char) :
    unquoteString (escape character ++ rest) =
      (unquoteString rest).map (character :: ·) := by
  rcases escape_cases character with ⟨letter, escapes, stands⟩ | ⟨plain, noQuote, noBackslash⟩
  · rw [escapes, ← stands]
    rfl
  · rw [plain]
    exact unquoteString_cons_of_ne noQuote noBackslash rest

theorem unquoteString_escaped (content : List Char) :
    unquoteString (content.flatMap escape ++ ['"']) = .ok content := by
  induction content with
  | nil => rfl
  | cons character content inductionHypothesis =>
      rw [List.flatMap_cons, List.append_assoc, unquoteString_append_escape,
        inductionHypothesis]
      rfl

@[simp] theorem unquote_quote (content : List Char) :
    unquote (quote content) = .ok content :=
  unquoteString_escaped content

/-- A text that does not begin with a quote is its own content. -/
theorem unquote_of_head
    {text : List Char}
    (noQuote : text.head? ≠ some '"')
    (noRaw : text.head? ≠ some '\x60') :
    unquote text = .ok text := by
  unfold unquote
  split
  · exact absurd rfl noRaw
  · exact absurd rfl noQuote
  · rfl

/-- A text without quotes and brackets is its own content. -/
theorem unquote_of_forall
    {text : List Char}
    (ordinary : ∀ character ∈ text, character ∉ enclosing) :
    unquote text = .ok text := by
  apply unquote_of_head <;>
  · intro begins
    exact ordinary _ (List.mem_of_mem_head? begins) (by simp [enclosing])

theorem quoteIfNeeded_cases (delimiters content : List Char) :
    quoteIfNeeded delimiters content = quote content ∨
      quoteIfNeeded delimiters content = content ∧ content ≠ [] ∧
        ∀ character ∈ content, isSpecial delimiters character = false := by
  unfold quoteIfNeeded
  split
  · exact Or.inl rfl
  · rename_i unneeded
    refine Or.inr ⟨rfl, ?_, ?_⟩
    · rintro rfl
      simp at unneeded
    · intro character member
      rw [← Bool.not_eq_true]
      intro special
      exact unneeded (by simp [List.any_eq_true.mpr ⟨character, member, special⟩])

theorem not_mem_enclosing_of_isSpecial
    {delimiters : List Char}
    {character : Char}
    (ordinary : isSpecial delimiters character = false) :
    character ∉ enclosing ∧ Text.isBlank character = false ∧ character ∉ delimiters := by
  simp only [isSpecial, Bool.or_eq_false_iff, beq_eq_false_iff_ne] at ordinary
  obtain ⟨⟨⟨⟨⟨⟨⟨quote, raw⟩, openBrace⟩, closeBrace⟩, openBracket⟩, closeBracket⟩, blank⟩,
    delimiter⟩ := ordinary
  refine ⟨?_, blank, by simpa using delimiter⟩
  simp [enclosing, quote, raw, openBrace, closeBrace, openBracket, closeBracket]

/-- Unquoted content does not begin with a quote. -/
theorem head?_ne_of_isSpecial
    {delimiters content : List Char}
    (ordinary : ∀ character ∈ content, isSpecial delimiters character = false) :
    content.head? ≠ some '"' ∧ content.head? ≠ some '\x60' := by
  constructor <;>
  · intro begins
    have enclosed := (not_mem_enclosing_of_isSpecial
      (ordinary _ (List.mem_of_mem_head? begins))).1
    exact enclosed (by simp [enclosing])

/-- A text that is quoted where it has to be reads back as itself. -/
@[simp] theorem unquote_quoteIfNeeded (delimiters content : List Char) :
    unquote (quoteIfNeeded delimiters content) = .ok content := by
  rcases quoteIfNeeded_cases delimiters content with quoted | ⟨plain, -, ordinary⟩
  · rw [quoted, unquote_quote]
  · rw [plain]
    obtain ⟨noQuote, noRaw⟩ := head?_ne_of_isSpecial ordinary
    exact unquote_of_head noQuote noRaw

/-- Blanks are quoted, at the end, too. -/
theorem endsVisibly_quoteIfNeeded (delimiters content : List Char) :
    Text.EndsVisibly (quoteIfNeeded delimiters content) := by
  rcases quoteIfNeeded_cases delimiters content with quoted | ⟨plain, -, ordinary⟩
  · rw [quoted, quote]
    exact (Text.endsVisibly_of_forall (forall_mem_of_all (by decide))).append
      (List.cons_ne_nil '"' []) _
  · rw [plain]
    exact Text.endsVisibly_of_forall fun character member =>
      (not_mem_enclosing_of_isSpecial (ordinary character member)).2.1

/-! ## Quotes hide separators -/

theorem splitFrom_inString_escape
    (separator character : Char)
    (depth : Nat)
    (rest : List Char) :
    splitFrom separator .inString depth (escape character ++ rest) =
      (splitFrom separator .inString depth rest).map (prepend (escape character)) := by
  rcases escape_cases character with ⟨letter, escapes, -⟩ | ⟨plain, noQuote, noBackslash⟩
  · rw [escapes, List.cons_append, List.singleton_append, splitFrom, if_pos rfl, splitFrom]
    cases splitFrom separator .inString depth rest <;> rfl
  · rw [plain, List.singleton_append, splitFrom, if_neg noBackslash, if_neg noQuote]
    rfl

theorem splitFrom_inString_escaped
    (separator : Char)
    (content : List Char)
    (depth : Nat)
    (rest : List Char) :
    splitFrom separator .inString depth (content.flatMap escape ++ '"' :: rest) =
      (splitFrom separator .outside depth rest).map
        (prepend (content.flatMap escape ++ ['"'])) := by
  induction content with
  | nil => rfl
  | cons character content inductionHypothesis =>
      rw [List.flatMap_cons, List.append_assoc, splitFrom_inString_escape, inductionHypothesis]
      cases splitFrom separator .outside depth rest with
      | error fault => rfl
      | ok pieces => simp [Except.map, prepend]

theorem neutral_quote (separator : Char) (content : List Char) :
    Neutral separator (quote content) := by
  intro depth rest
  have shape : quote content ++ rest = '"' :: (content.flatMap escape ++ '"' :: rest) := by
    simp [quote]
  rw [shape, splitFrom, if_pos rfl, splitFrom_inString_escaped]
  cases splitFrom separator .outside depth rest with
  | error fault => rfl
  | ok pieces => simp [Except.map, prepend, quote]

/-- Texts that are quoted because of a delimiter are neutral for it. -/
theorem neutral_quoteIfNeeded
    {separator : Char}
    {delimiters : List Char}
    (delimits : separator ∈ delimiters)
    (content : List Char) :
    Neutral separator (quoteIfNeeded delimiters content) := by
  rcases quoteIfNeeded_cases delimiters content with quoted | ⟨plain, -, ordinary⟩
  · rw [quoted]
    exact neutral_quote separator content
  · rw [plain]
    refine .of_forall fun character member => ?_
    obtain ⟨notEnclosing, -, notDelimiter⟩ :=
      not_mem_enclosing_of_isSpecial (ordinary character member)
    exact ⟨notEnclosing, fun same => notDelimiter (same ▸ delimits)⟩

/-! ## Keys -/

theorem cutKeyFrom?_eq_some
    {place : Place}
    {text key value : List Char}
    (cut : cutKeyFrom? place text = some (key, value)) :
    text = key ++ '=' :: value := by
  induction text generalizing place key with
  | nil => cases place <;> cases cut
  | cons character rest inductionHypothesis =>
      have later : ∀ next, ((cutKeyFrom? next rest).map fun parts =>
          (character :: parts.1, parts.2)) = some (key, value) →
            character :: rest = key ++ '=' :: value := by
        intro next mapped
        obtain ⟨⟨keyRest, other⟩, found, same⟩ := Option.map_eq_some_iff.mp mapped
        cases same
        rw [inductionHypothesis found, List.cons_append]
      cases place with
      | inString => exact later _ cut
      | escaped => exact later _ cut
      | inRaw => exact later _ cut
      | outside =>
          rw [cutKeyFrom?] at cut
          split at cut
          · rename_i isEquals
            cases cut
            rw [isEquals, List.nil_append]
          · exact later _ cut

/-- The key and the value with the equals sign between them are the text. -/
theorem cutKey?_eq_some
    {text key value : List Char}
    (cut : cutKey? text = some (key, value)) :
    text = key ++ '=' :: value :=
  cutKeyFrom?_eq_some cut

/-- A key without quotes and equals signs ends at the first equals sign. -/
theorem cutKey?_of_forall
    {key : List Char}
    (ordinary : ∀ character ∈ key, character ∉ enclosing ∧ character ≠ '=')
    (value : List Char) :
    cutKey? (key ++ '=' :: value) = some (key, value) := by
  unfold cutKey?
  induction key with
  | nil => rfl
  | cons character key inductionHypothesis =>
      rw [List.forall_mem_cons] at ordinary
      obtain ⟨⟨notEnclosing, notEquals⟩, ordinaryRest⟩ := ordinary
      have noQuote : character ≠ '"' := fun same => notEnclosing (same ▸ by simp [enclosing])
      have noRaw : character ≠ '\x60' := fun same => notEnclosing (same ▸ by simp [enclosing])
      rw [List.cons_append, cutKeyFrom?, if_neg notEquals, if_neg noQuote, if_neg noRaw]
      dsimp only
      rw [inductionHypothesis ordinaryRest]
      rfl

theorem cutKeyFrom?_inString_escape
    (character : Char)
    (rest : List Char) :
    cutKeyFrom? .inString (escape character ++ rest) =
      (cutKeyFrom? .inString rest).map fun (key, value) =>
        (escape character ++ key, value) := by
  rcases escape_cases character with ⟨letter, escapes, -⟩ | ⟨plain, noQuote, noBackslash⟩
  · simp [escapes, cutKeyFrom?, Function.comp_def]
  · simp [plain, cutKeyFrom?, noQuote, noBackslash]

theorem cutKeyFrom?_inString_escaped
    (content value : List Char) :
    cutKeyFrom? .inString (content.flatMap escape ++ '"' :: '=' :: value) =
      some (content.flatMap escape ++ ['"'], value) := by
  induction content with
  | nil => rfl
  | cons character content inductionHypothesis =>
      rw [List.flatMap_cons, List.append_assoc, cutKeyFrom?_inString_escape,
        inductionHypothesis]
      simp

/-- A key that is quoted because of equals signs ends at the equals sign after it. -/
theorem cutKey?_quoteIfNeeded
    {delimiters : List Char}
    (delimits : '=' ∈ delimiters)
    (content value : List Char) :
    cutKey? (quoteIfNeeded delimiters content ++ '=' :: value) =
      some (quoteIfNeeded delimiters content, value) := by
  rcases quoteIfNeeded_cases delimiters content with quoted | ⟨plain, -, ordinary⟩
  · have shape : quote content ++ '=' :: value =
        '"' :: (content.flatMap escape ++ '"' :: '=' :: value) := by
      simp [quote]
    rw [quoted, shape, cutKey?, cutKeyFrom?, if_neg (by decide), if_pos rfl]
    dsimp only
    rw [cutKeyFrom?_inString_escaped]
    simp [quote]
  · rw [plain]
    refine cutKey?_of_forall (fun character member => ?_) value
    obtain ⟨notEnclosing, -, notDelimiter⟩ :=
      not_mem_enclosing_of_isSpecial (ordinary character member)
    exact ⟨notEnclosing, fun same => notDelimiter (same ▸ delimits)⟩

/-! ## Texts that begin like canonical ones -/

theorem eq_escaped_of_unquoteString
    {raw content after others : List Char}
    (isRead : unquoteString raw = .ok content)
    (sameText : raw ++ after = content.flatMap escape ++ '"' :: others) :
    raw = content.flatMap escape ++ ['"'] := by
  fun_induction unquoteString raw generalizing content with
  | case1 => cases isRead
  | case2 letter rest inductionHypothesis =>
      obtain ⟨later, found, rfl⟩ := Except.exists_of_map_eq_ok isRead
      -- both texts escape the character, so they escape it by the same letter
      rcases escape_cases (unescape letter) with
        ⟨other, escapes, -⟩ | ⟨plain, -, noBackslash⟩
      · rw [List.flatMap_cons, escapes] at sameText ⊢
        simp only [List.cons_append, List.nil_append, List.cons.injEq, true_and] at sameText ⊢
        exact ⟨sameText.1, inductionHypothesis found sameText.2⟩
      · rw [List.flatMap_cons, plain] at sameText
        simp only [List.cons_append, List.nil_append, List.cons.injEq] at sameText
        exact absurd sameText.1.symm noBackslash
  | case3 =>
      cases isRead
      rfl
  | case4 rest nonempty => cases isRead
  | case5 rest => cases isRead
  | case6 character rest noEscape noQuote noBackslash inductionHypothesis =>
      obtain ⟨later, found, rfl⟩ := Except.exists_of_map_eq_ok isRead
      rcases escape_cases character with ⟨letter, escapes, -⟩ | ⟨plain, -, -⟩
      · rw [List.flatMap_cons, escapes] at sameText
        simp only [List.cons_append, List.cons.injEq] at sameText
        exact absurd sameText.1 noBackslash
      · rw [List.flatMap_cons, plain] at sameText ⊢
        simp only [List.cons_append, List.nil_append, List.cons.injEq, true_and] at sameText ⊢
        exact inductionHypothesis found sameText

/-- A text that begins like a canonical text is that text, unless a quote follows it. -/
def Forced (raw canonical : List Char) : Prop :=
  ∀ after others, after.head? ≠ some '"' → raw ++ after = canonical ++ others →
    raw = canonical

/-- A text that reads as a content and begins like the canonical text of the content is that
text. -/
theorem forced_of_unquote
    {raw content : List Char}
    (delimiters : List Char)
    (isRead : unquote raw = .ok content) :
    Forced raw (quoteIfNeeded delimiters content) := by
  intro after others noQuoteAfter sameText
  have firstOfQuoted : (quote content ++ others).head? = some '"' := rfl
  unfold unquote at isRead
  split at isRead
  · rename_i rest
    have begins := congrArg List.head? sameText
    rcases quoteIfNeeded_cases delimiters content with quoted | ⟨plain, nonempty, ordinary⟩
    · rw [quoted, firstOfQuoted] at begins
      simp at begins
    · obtain ⟨first, others, rfl⟩ := List.exists_cons_of_ne_nil nonempty
      rw [plain] at begins
      exact absurd begins.symm (head?_ne_of_isSpecial ordinary).2
  · rename_i rest
    rcases quoteIfNeeded_cases delimiters content with quoted | ⟨plain, nonempty, ordinary⟩
    · rw [quoted] at sameText ⊢
      simp only [quote, List.cons_append, List.append_assoc, List.cons.injEq,
        true_and, List.nil_append] at sameText ⊢
      exact eq_escaped_of_unquoteString isRead sameText
    · obtain ⟨first, others, rfl⟩ := List.exists_cons_of_ne_nil nonempty
      have begins := congrArg List.head? sameText
      rw [plain] at begins
      exact absurd begins.symm (head?_ne_of_isSpecial ordinary).1
  · rename_i noRaw noQuote
    cases isRead
    rcases quoteIfNeeded_cases delimiters raw with quoted | ⟨plain, -, -⟩
    · have begins := congrArg List.head? sameText
      rw [quoted, show (quote raw ++ others).head? = some '"' from rfl] at begins
      cases raw with
      | nil => exact absurd begins noQuoteAfter
      | cons first rest =>
          cases begins
          exact absurd rfl (noQuote rest)
    · exact plain.symm

theorem Forced.append
    {raw canonical rest others : List Char}
    {between : Char}
    (noQuote : between ≠ '"')
    (first : Forced raw canonical)
    (second : Forced rest others) :
    Forced (raw ++ between :: rest) (canonical ++ between :: others) := by
  intro after more noQuoteAfter sameText
  rw [List.append_assoc, List.append_assoc] at sameText
  have sameFirst := first _ _ (by simpa using noQuote) sameText
  subst sameFirst
  have sameRest : rest ++ after = others ++ more := by simpa using sameText
  rw [second _ _ noQuoteAfter sameRest]

/-- Joined texts that begin like joined canonical ones are those, one by one. -/
theorem eq_of_joined_append
    {between : Char}
    {raws canonicals : List (List Char)}
    {after others : List Char}
    (noQuote : between ≠ '"')
    (forced : List.Forall₂ Forced raws canonicals)
    (noQuoteAfter : after.head? ≠ some '"')
    (sameText : Text.joined [between] raws ++ after =
      Text.joined [between] canonicals ++ others) :
    raws = canonicals := by
  induction forced with
  | nil => rfl
  | @cons raw canonical raws canonicals first rest inductionHypothesis =>
      cases rest with
      | nil => rw [first _ _ noQuoteAfter sameText]
      | @cons second other more others' secondForced moreForced =>
          rw [Text.joined_cons_cons, Text.joined_cons_cons, List.append_assoc, List.append_assoc,
            List.append_assoc, List.append_assoc] at sameText
          have sameFirst := first _ _ (by simpa using noQuote) sameText
          subst sameFirst
          rw [inductionHypothesis (by simpa using sameText)]

theorem Forced.joined
    {between : Char}
    {raws canonicals : List (List Char)}
    (noQuote : between ≠ '"')
    (forced : List.Forall₂ Forced raws canonicals) :
    Forced (Text.joined [between] raws) (Text.joined [between] canonicals) := by
  intro after others noQuoteAfter sameText
  rw [eq_of_joined_append noQuote forced noQuoteAfter sameText]

end Quoting
end MarkerManifests
