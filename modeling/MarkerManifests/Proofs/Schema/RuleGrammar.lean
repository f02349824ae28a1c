import MarkerManifests.Proofs.Text.Cutting
import MarkerManifests.Proofs.Text.Escaping
import MarkerManifests.Schema.Rule

/-!
# The grammar of validation rules

On its surface a rule consists of items: rules in brackets, literals between quotes, and single
characters that are neither brackets nor quotes. The check of a rule passes over items as if they
were not there. In the other direction, what the check accepts while brackets are open consists of
the rest of the rule in the innermost pair, the bracket that closes the pair, and what follows it in
the outer pairs.
-/

namespace MarkerManifests

namespace Rule

open Text

/-! ## The grammar -/

/-- The pairs of brackets. -/
def brackets : List (Char × Char) :=
  [('(', ')'), ('[', ']'), ('{', '}')]

/-- The quotes of literals. -/
def quotes : List Char :=
  ['\'', '"']

/-- The texts of items. -/
inductive IsItem : List Char → Prop
  /-- A rule in brackets. -/
  | group
      {opening closing : Char}
      {items : List (List Char)}
      (isPair : (opening, closing) ∈ brackets)
      (areItems : ∀ item ∈ items, IsItem item) :
      IsItem (opening :: items.flatten ++ [closing])
  /-- A literal, which ends at the first quote that is not escaped. -/
  | literal
      {quote : Char}
      {content : List Char}
      (isQuote : quote ∈ quotes)
      (isContent : IsContent quote content) :
      IsItem (quote :: content ++ [quote])
  | other
      {character : Char}
      (noBracket : ∀ pair ∈ brackets, character ≠ pair.1 ∧ character ≠ pair.2)
      (noQuote : character ∉ quotes) :
      IsItem [character]

/-- A rule is a text of any number of items. -/
def IsRule (text : List Char) : Prop :=
  ∃ items : List (List Char), (∀ item ∈ items, IsItem item) ∧ text = items.flatten

theorem isRule_nil : IsRule [] :=
  ⟨[], nofun, rfl⟩

theorem IsItem.isRule_append
    {item rest : List Char}
    (isItem : IsItem item)
    (isRule : IsRule rest) :
    IsRule (item ++ rest) := by
  obtain ⟨items, areItems, rfl⟩ := isRule
  exact ⟨item :: items, List.forall_mem_cons.mpr ⟨isItem, areItems⟩, rfl⟩

/-- A rule in brackets is an item. -/
theorem IsRule.isItem_group
    {inner : List Char}
    {opening closing : Char}
    (isRule : IsRule inner)
    (isPair : (opening, closing) ∈ brackets) :
    IsItem (opening :: inner ++ [closing]) := by
  obtain ⟨items, areItems, rfl⟩ := isRule
  exact .group isPair areItems

/-! ## Steps -/

variable {character opening closing quote : Char} {stack rest content : List Char}

theorem checkFrom_outside_cons (stack : List Char) (character : Char) (rest : List Char) :
    checkFrom .outside stack (character :: rest) =
      if isQuote character then checkFrom (.literal character) stack rest
      else if isOpening character then checkFrom .outside (character :: stack) rest
      else
        match opening? character with
        | none => checkFrom .outside stack rest
        | some opening =>
          match stack with
          | [] => .error (.unbalanced character)
          | innermost :: outer =>
            if innermost = opening then checkFrom .outside outer rest
            else .error (.unbalanced character) :=
  checkFrom.eq_7 stack character rest

theorem checkFrom_quote
    (isQuote : quote ∈ quotes)
    (stack rest : List Char) :
    checkFrom .outside stack (quote :: rest) = checkFrom (.literal quote) stack rest := by
  simp only [quotes, List.mem_cons, List.not_mem_nil, or_false] at isQuote
  rcases isQuote with rfl | rfl <;> exact checkFrom_outside_cons _ _ _

theorem checkFrom_opening
    (isPair : (opening, closing) ∈ brackets)
    (stack rest : List Char) :
    checkFrom .outside stack (opening :: rest) = checkFrom .outside (opening :: stack) rest := by
  simp only [brackets, List.mem_cons, Prod.mk.injEq, List.not_mem_nil, or_false] at isPair
  rcases isPair with ⟨rfl, rfl⟩ | ⟨rfl, rfl⟩ | ⟨rfl, rfl⟩ <;> exact checkFrom_outside_cons _ _ _

/-- A closing bracket has to close the innermost pair. -/
theorem checkFrom_closing
    (isPair : (opening, closing) ∈ brackets)
    (stack rest : List Char) :
    checkFrom .outside stack (closing :: rest) =
      match stack with
      | [] => .error (.unbalanced closing)
      | innermost :: outer =>
        if innermost = opening then checkFrom .outside outer rest
        else .error (.unbalanced closing) := by
  simp only [brackets, List.mem_cons, Prod.mk.injEq, List.not_mem_nil, or_false] at isPair
  rcases isPair with ⟨rfl, rfl⟩ | ⟨rfl, rfl⟩ | ⟨rfl, rfl⟩ <;> exact checkFrom_outside_cons _ _ _

theorem exists_of_checkFrom_closing
    (isPair : (opening, closing) ∈ brackets)
    (accepted : checkFrom .outside stack (closing :: rest) = .ok ()) :
    ∃ outer, stack = opening :: outer ∧ checkFrom .outside outer rest = .ok () := by
  rw [checkFrom_closing isPair] at accepted
  cases stack with
  | nil => cases accepted
  | cons innermost outer =>
      dsimp only at accepted
      split at accepted
      · rename_i isInnermost
        exact ⟨outer, by rw [isInnermost], accepted⟩
      · cases accepted

theorem checkFrom_other
    (noBracket : ∀ pair ∈ brackets, character ≠ pair.1 ∧ character ≠ pair.2)
    (noQuote : character ∉ quotes)
    (stack rest : List Char) :
    checkFrom .outside stack (character :: rest) = checkFrom .outside stack rest := by
  simp only [brackets, List.forall_mem_cons, List.not_mem_nil, false_implies, implies_true,
    and_true] at noBracket
  simp only [quotes, List.mem_cons, List.not_mem_nil, or_false] at noQuote
  simp [checkFrom, isQuote, isOpening, opening?, noBracket, noQuote]

/-- After a text in a literal that leaves it open, the next character is escaped or not. -/
def Place.inside (quote : Char) (content : List Char) : Place :=
  if Escapes content then .escaped quote else .literal quote

/-- While all quotes are escaped, a literal goes on. -/
theorem checkFrom_literal_append
    (all : EscapesAll quote content)
    (stack rest : List Char) :
    checkFrom (.literal quote) stack (content ++ rest) =
      checkFrom (.inside quote content) stack rest := by
  induction content using List.reverseRecOn generalizing rest with
  | nil => rfl
  | append_singleton content character inductionHypothesis =>
      obtain ⟨allBefore, ifQuote⟩ := escapesAll_concat_iff.mp all
      rw [List.append_assoc, List.singleton_append, inductionHypothesis allBefore]
      unfold Place.inside
      by_cases escapes : Escapes content
      · rw [if_pos escapes, if_neg (escapes.not_escapes_concat character), checkFrom]
      · have noQuote : character ≠ quote := fun same => escapes (ifQuote same)
        rw [if_neg escapes, checkFrom, afterLiteral, if_neg noQuote]
        simp only [escapes_concat_iff, escapes, not_false_eq_true, and_true]

/-- A literal ends at the first quote that is not escaped. -/
theorem checkFrom_literal_of_isContent
    (isQuote : quote ∈ quotes)
    (isContent : IsContent quote content)
    (stack rest : List Char) :
    checkFrom (.literal quote) stack (content ++ quote :: rest) =
      checkFrom .outside stack rest := by
  have noBackslash : quote ≠ '\\' := by
    rintro rfl
    exact absurd isQuote (by decide)
  rw [checkFrom_literal_append isContent.1, Place.inside, if_neg isContent.2, checkFrom,
    afterLiteral, if_neg noBackslash, if_pos rfl]

/-- A literal in which all quotes are escaped does not end. -/
theorem checkFrom_literal_of_escapesAll
    (all : EscapesAll quote content)
    (stack : List Char) :
    checkFrom (.literal quote) stack content = .error .unterminatedLiteral := by
  have ends := checkFrom_literal_append all stack []
  rw [List.append_nil] at ends
  rw [ends, Place.inside]
  split <;> rw [checkFrom]

/-! ## Items are passed over -/

theorem checkFrom_flatten_append
    {items : List (List Char)}
    (passed : ∀ item ∈ items, ∀ stack rest,
      checkFrom .outside stack (item ++ rest) = checkFrom .outside stack rest)
    (stack rest : List Char) :
    checkFrom .outside stack (items.flatten ++ rest) = checkFrom .outside stack rest := by
  induction items with
  | nil => rfl
  | cons item items inductionHypothesis =>
      rw [List.forall_mem_cons] at passed
      rw [List.flatten_cons, List.append_assoc, passed.1, inductionHypothesis passed.2]

/-- The check goes on after an item as it would without the item. -/
theorem IsItem.checkFrom_append
    {item : List Char}
    (isItem : IsItem item)
    (stack rest : List Char) :
    checkFrom .outside stack (item ++ rest) = checkFrom .outside stack rest := by
  induction isItem generalizing stack rest with
  | @group opening closing items isPair _ inductionHypothesis =>
      rw [List.append_assoc, List.cons_append, checkFrom_opening isPair,
        checkFrom_flatten_append inductionHypothesis, List.singleton_append,
        checkFrom_closing isPair]
      exact if_pos rfl
  | @literal quote content isQuote isContent =>
      rw [List.append_assoc, List.cons_append, checkFrom_quote isQuote, List.singleton_append,
        checkFrom_literal_of_isContent isQuote isContent]
  | other noBracket noQuote => exact checkFrom_other noBracket noQuote stack rest

/-! ## What is accepted consists of items -/

/-- The text closes the brackets that are open: it goes on with a rule in the innermost pair and the
bracket that closes the pair, and so on outwards. -/
def Closes : List Char → List Char → Prop
  | [], text => IsRule text
  | opening :: outer, text =>
    ∃ inner closing rest, IsRule inner ∧ (opening, closing) ∈ brackets ∧
      text = inner ++ closing :: rest ∧ Closes outer rest

/-- An item can be put before a text that closes the open brackets. -/
theorem IsItem.closes_append
    {item : List Char}
    (isItem : IsItem item)
    (closes : Closes stack rest) :
    Closes stack (item ++ rest) := by
  cases stack with
  | nil => exact isItem.isRule_append closes
  | cons opening outer =>
      obtain ⟨inner, closing, after, isRule, isPair, rfl, closesOuter⟩ := closes
      exact ⟨item ++ inner, closing, after, isItem.isRule_append isRule, isPair,
        by rw [List.append_assoc], closesOuter⟩

/-- The same for an item in brackets or quotes, in the form in which the check reads it. -/
theorem IsItem.closes_cons_append
    {first last : Char}
    {inner : List Char}
    (isItem : IsItem (first :: inner ++ [last]))
    (closes : Closes stack rest) :
    Closes stack (first :: (inner ++ last :: rest)) := by
  have closesAll := isItem.closes_append closes
  rwa [List.append_assoc, List.cons_append, List.singleton_append] at closesAll

/-- An accepted text closes the brackets that are open. The induction is on the length, as a literal
is passed in one step. -/
theorem closes_of_checkFrom
    {text : List Char}
    (accepted : checkFrom .outside stack text = .ok ()) :
    Closes stack text := by
  generalize counted : text.length = length
  induction length using Nat.strongRecOn generalizing stack text with
  | ind length inductionHypothesis =>
      cases text with
      | nil =>
          cases stack with
          | nil => exact isRule_nil
          | cons opening outer => simp [checkFrom] at accepted
      | cons character rest =>
          have shorter : rest.length < length := counted ▸ Nat.lt_succ_self _
          by_cases isQuote : character ∈ quotes
          · rw [checkFrom_quote isQuote] at accepted
            rcases escapesAll_or_exists_content character rest with
              all | ⟨content, after, rfl, isContent⟩
            · rw [checkFrom_literal_of_escapesAll all] at accepted
              cases accepted
            · rw [checkFrom_literal_of_isContent isQuote isContent] at accepted
              rw [List.length_append, List.length_cons] at shorter
              have closesAfter := inductionHypothesis after.length (by omega) accepted rfl
              exact (IsItem.literal isQuote isContent).closes_cons_append closesAfter
          by_cases isOpening : ∃ closing, (character, closing) ∈ brackets
          · obtain ⟨closing, isPair⟩ := isOpening
            rw [checkFrom_opening isPair] at accepted
            obtain ⟨inner, other, after, isRule, isOther, rfl, closesAfter⟩ :=
              inductionHypothesis rest.length shorter accepted rfl
            exact (isRule.isItem_group isOther).closes_cons_append closesAfter
          by_cases isClosing : ∃ opening, (opening, character) ∈ brackets
          · obtain ⟨opening, isPair⟩ := isClosing
            obtain ⟨outer, rfl, acceptedOuter⟩ := exists_of_checkFrom_closing isPair accepted
            exact ⟨[], character, rest, isRule_nil, isPair, rfl,
              inductionHypothesis rest.length shorter acceptedOuter rfl⟩
          · have noBracket : ∀ pair ∈ brackets, character ≠ pair.1 ∧ character ≠ pair.2 := by
              rintro ⟨opening, closing⟩ isPair
              exact ⟨fun same => isOpening ⟨closing, same ▸ isPair⟩,
                fun same => isClosing ⟨opening, same ▸ isPair⟩⟩
            rw [checkFrom_other noBracket isQuote] at accepted
            have closes := inductionHypothesis rest.length shorter accepted rfl
            exact (IsItem.other noBracket isQuote).closes_append closes

theorem checkFrom_eq_ok_iff_isRule
    {text : List Char} :
    checkFrom .outside [] text = .ok () ↔ IsRule text := by
  constructor
  · exact closes_of_checkFrom
  · rintro ⟨items, areItems, rfl⟩
    have passed := checkFrom_flatten_append
      (fun item isItem => (areItems item isItem).checkFrom_append) [] []
    rw [List.append_nil] at passed
    rw [passed, checkFrom]

/-- The check of rules accepts exactly the balanced ones: a rule is accepted if and only if it has a
character that is not blank and consists of items. -/
theorem check_eq_ok_iff_isRule (text : List Char) :
    check text = .ok () ↔
      (∃ character ∈ text, isBlank character = false) ∧ IsRule text := by
  have visible : trim text ≠ [] ↔ ∃ character ∈ text, isBlank character = false := by
    rw [Ne, trim_eq_nil_iff]
    simp
  rw [check, ← visible, ← checkFrom_eq_ok_iff_isRule]
  split
  · rename_i isBlank
    simp [isBlank]
  · rename_i isVisible
    simp [isVisible]

/-- Brackets and other quotes in a literal do not count, and an escaped quote does not end it. -/
example :
    check ['h', '(', '\'', ')', '"', '\\', '\'', '\\', '\\', '\'', ')'] = .ok () := by
  decide

end Rule
end MarkerManifests
