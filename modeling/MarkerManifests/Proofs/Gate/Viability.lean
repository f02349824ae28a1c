import MarkerManifests.Proofs.Gate.Acceptance

/-!
# Where gate expressions go wrong

An error that has a position points at the first character with which no expression goes on: what
stands before it is the beginning of an expression, and with the character it is not. Where only the
end of the text is wrong, the whole text is the beginning of an expression. Both hold because the
machine never gets stuck on the way: from every state that it reaches there is a text that ends all
open groups, and what it refuses depends on the next character alone.
-/

namespace MarkerManifests
namespace Gate

/-- The text is the beginning of the text of an expression. -/
def IsViable (text : String) : Prop :=
  ∃ (more : String) (expr : Expr), Expr.ofText (text ++ more) = .ok expr

/-- The character begins at the position of the text. Positions count the bytes before them. -/
def StandsAt (text : String) (position : Nat) (character : Char) : Prop :=
  ∃ before after : String, text = before.push character ++ after ∧ before.utf8ByteSize = position

/-- The character that begins at the position is the first one with which no expression goes on:
what stands before it is the beginning of an expression, and what ends with it is not. -/
def IsOffender (text : String) (position : Nat) (character : Char) : Prop :=
  ∃ before after : String, text = before.push character ++ after ∧ before.utf8ByteSize = position ∧
    IsViable before ∧ ¬ IsViable (before.push character)

/-! ## Texts between tokens -/

namespace Token

/-- The token is the first one of texts that begin with the character. -/
inductive BeginsWith : Token → Char → Prop where
  | name
      {first : Char}
      (isCharacter : isNameCharacter first = true)
      (rest : List Char) :
      BeginsWith (name first rest) first
  | single
      {character : Char}
      (noName : isNameCharacter character = false) :
      BeginsWith (single character) character

theorem BeginsWith.eq_single
    {token : Token}
    {character : Char}
    (begins : token.BeginsWith character)
    (noName : isNameCharacter character = false) :
    token = Token.single character := by
  cases begins with
  | name isCharacter =>
      rw [noName] at isCharacter
      cases isCharacter
  | single => rfl

end Token

theorem exists_tokens_cons (position : Nat) (character : Char) (rest : List Char) :
    ∃ token others, tokens position (character :: rest) = (position, token) :: others ∧
      token.BeginsWith character := by
  cases isCharacter : isNameCharacter character with
  | false => exact ⟨_, _, tokens_single isCharacter position rest, .single isCharacter⟩
  | true =>
      rw [tokens, if_pos isCharacter]
      split
      · exact ⟨_, _, rfl, .name isCharacter _⟩
      · exact ⟨_, _, rfl, .name isCharacter _⟩

/-- A text begins with a name only if its tokens do. -/
theorem endsName_of_tokens
    {position : Nat}
    {text : List Char}
    (noName : ∀ first rest others, tokens position text ≠ (position, .name first rest) :: others) :
    EndsName text := by
  intro first isFirst
  obtain ⟨rest, rfl⟩ := List.head?_eq_some_iff.mp isFirst
  obtain ⟨token, others, cut, begins⟩ := exists_tokens_cons position first rest
  cases begins with
  | name _ more => exact absurd cut (noName first more others)
  | single noCharacter => exact noCharacter

theorem Apart.cons
    {before after : List Char}
    (apart : Apart before after)
    {character : Char}
    (ends : before = [] → isNameCharacter character = true → EndsName after) :
    Apart (character :: before) after := by
  cases before with
  | nil =>
      intro last isLast
      cases isLast
      exact ends rfl
  | cons second more => exact fun last isLast => apart last (List.getLast?_cons_cons ▸ isLast)

/-- Where the tokens of a text are cut, the text is cut between them. -/
theorem exists_apart_of_tokens_eq_append
    {position : Nat}
    {text : List Char}
    {left right : List (Nat × Token)}
    (cut : tokens position text = left ++ right) :
    ∃ before after,
      text = before ++ after ∧ Apart before after ∧ tokens position before = left := by
  induction text generalizing position left with
  | nil =>
      obtain ⟨rfl, -⟩ := List.nil_eq_append_iff.mp cut
      exact ⟨[], [], rfl, apart_nil _, rfl⟩
  | cons character rest inductionHypothesis =>
      cases left with
      | nil => exact ⟨[], character :: rest, rfl, apart_nil _, rfl⟩
      | cons token left =>
          rw [tokens] at cut
          split at cut
          · rename_i isCharacter
            split at cut
            · -- the character goes on with the name after it
              rename_i later next more others isName
              obtain ⟨rfl, rfl⟩ := List.cons.inj cut
              have restCut : tokens (position + character.utf8Size) rest =
                  ((later, .name next more) :: left) ++ right := isName
              obtain ⟨before, after, rfl, apart, isLeft⟩ := inductionHypothesis restCut
              refine ⟨character :: before, after, rfl, apart.cons ?_, ?_⟩
              · rintro rfl
                cases isLeft
              · rw [tokens, if_pos isCharacter, isLeft]
            · rename_i noName
              obtain ⟨rfl, others_eq⟩ := List.cons.inj cut
              obtain ⟨before, after, rfl, apart, isLeft⟩ := inductionHypothesis others_eq
              refine ⟨character :: before, after, rfl, apart.cons ?_, ?_⟩
              · rintro rfl -
                exact endsName_of_tokens fun first more others => noName _ first more others
              · rw [tokens, if_pos isCharacter, isLeft]
                split
                · exact absurd others_eq (noName _ _ _ _)
                · rfl
          · rename_i noName
            obtain ⟨rfl, others_eq⟩ := List.cons.inj cut
            obtain ⟨before, after, rfl, apart, isLeft⟩ := inductionHypothesis others_eq
            refine ⟨character :: before, after, rfl, apart.cons ?_, ?_⟩
            · exact fun _ isCharacter => absurd isCharacter noName
            · rw [tokens, if_neg noName, isLeft]

/-- Before a token stands the text of the tokens before it. -/
theorem exists_before_token
    {position : Nat}
    {text : List Char}
    {token : Token}
    {left right : List (Nat × Token)}
    (cut : tokens 0 text = left ++ (position, token) :: right) :
    ∃ before character rest,
      text = before ++ character :: rest ∧ Apart before (character :: rest) ∧
        tokens 0 before = left ∧ (String.ofList before).utf8ByteSize = position ∧
          token.BeginsWith character := by
  obtain ⟨before, after, rfl, apart, rfl⟩ := exists_apart_of_tokens_eq_append cut
  rw [tokens_append_of_apart apart, Nat.zero_add] at cut
  have isAfter := List.append_cancel_left cut
  cases after with
  | nil => cases isAfter
  | cons character rest =>
      obtain ⟨first, others, isFirst, begins⟩ := exists_tokens_cons
        (String.ofList before).utf8ByteSize character rest
      cases isFirst.symm.trans isAfter
      exact ⟨before, character, rest, rfl, apart, rfl, rfl, begins⟩

/-- A single character of a text is found at its position. -/
theorem standsAt_of_mem_tokens
    {position : Nat}
    {text : String}
    {character : Char}
    (member : (position, .single character) ∈ tokens 0 text.toList) :
    StandsAt text position character := by
  obtain ⟨left, right, cut⟩ := List.append_of_mem member
  obtain ⟨before, _, rest, text_eq, -, -, isPosition, begins⟩ := exists_before_token cut
  cases begins
  refine ⟨String.ofList before, String.ofList rest, String.toList_injective ?_, isPosition⟩
  simp [text_eq]

/-! ## What a machine goes on with -/

namespace Machine

variable {machine next : Machine} {token : Token} {character : Char} {position : Nat}

/-- The machine goes on with the character. -/
def Awaits : Machine → Char → Prop
  | operand _ _, character => isNameCharacter character = true ∨ character = '('
  | following outer _ used, character =>
      (∃ operator : Operator, character = operator.symbol ∧ ∀ other ∈ used, other = operator) ∨
        character = ')' ∧ outer ≠ []

/-- The errors for a character at its position. -/
inductive Blames : ParseError → Nat → Char → Prop where
  | mixed (operator : Operator) (position : Nat) :
      Blames (.mixedOperators position) position operator.symbol
  | unexpected (position : Nat) (character : Char) :
      Blames (unexpected position character) position character

/-- Every step reads a token that begins with a character for which the machine waits. -/
theorem Steps.awaits
    (steps : Steps machine token next)
    (begins : token.BeginsWith character) :
    machine.Awaits character := by
  cases steps with
  | name =>
      cases begins with
      | name isCharacter => exact .inl isCharacter
  | opens =>
      cases begins
      exact .inr rfl
  | joins outer value operator notOther =>
      generalize isMark : Token.single operator.symbol = mark at begins
      cases begins with
      | name => cases isMark
      | single => exact .inl ⟨operator, (Token.single.inj isMark).symm, notOther⟩
  | closes =>
      cases begins
      exact .inr ⟨rfl, List.cons_ne_nil _ _⟩

/-- The machine goes on with every token that begins with a character for which it waits. -/
theorem exists_step_of_awaits
    (awaits : machine.Awaits character)
    (begins : token.BeginsWith character)
    (position : Nat) :
    ∃ next, machine.step (position, token) = .ok next := by
  cases machine with
  | operand outer group =>
      cases begins with
      | name => exact ⟨_, rfl⟩
      | single noName =>
          rcases awaits with isCharacter | rfl
          · rw [noName] at isCharacter
            cases isCharacter
          · exact ⟨_, rfl⟩
  | following outer value used =>
      rcases awaits with ⟨operator, rfl, notOther⟩ | ⟨rfl, isOpen⟩
      · rw [begins.eq_single (endsName_symbol operator [] _ rfl)]
        have continues := afterOperator_eq_ok notOther outer value position
        cases operator <;> exact ⟨_, continues⟩
      · obtain ⟨⟨opening, group⟩, outer, rfl⟩ := List.exists_cons_of_ne_nil isOpen
        rw [begins.eq_single (by decide)]
        exact ⟨_, rfl⟩

theorem eq_mixedOperators_of_afterOperator
    {outer : List (Nat × Group)}
    {value : Expr}
    {used : Option Operator}
    {operator : Operator}
    {error : ParseError}
    (failed : afterOperator outer value used operator position = .error error) :
    error = .mixedOperators position := by
  unfold afterOperator at failed
  split at failed
  · cases failed
  · split at failed <;> cases failed
    rfl

/-- A token is refused for the character with which it begins. -/
theorem blames_of_step_eq_error
    {error : ParseError}
    (failed : machine.step (position, token) = .error error)
    (begins : token.BeginsWith character) :
    Blames error position character := by
  cases machine with
  | operand outer group =>
      cases begins with
      | name => cases failed
      | single =>
          rw [step] at failed
          split at failed <;> cases failed
          exact .unexpected _ _
  | following outer value used =>
      cases begins with
      | name =>
          cases failed
          exact .unexpected _ _
      | single =>
          simp only [step] at failed
          split at failed
          · rename_i isAll
            rw [isAll, eq_mixedOperators_of_afterOperator failed]
            exact .mixed .all _
          split at failed
          · rename_i isAny
            rw [isAny, eq_mixedOperators_of_afterOperator failed]
            exact .mixed .any _
          split at failed
          · split at failed <;> cases failed
            exact .unexpected _ _
          · cases failed
            exact .unexpected _ _

theorem exists_failed_step
    {tokens : List (Nat × Token)}
    {error : ParseError}
    (failed : machine.run tokens = .error error) :
    ∃ left token right reached,
      tokens = left ++ token :: right ∧ machine.run left = .ok reached ∧
        reached.step token = .error error := by
  induction tokens generalizing machine with
  | nil => cases failed
  | cons token rest inductionHypothesis =>
      rw [run] at failed
      split at failed
      · rename_i next stepped
        obtain ⟨left, refused, right, reached, rfl, isReached, isError⟩ :=
          inductionHypothesis failed
        refine ⟨token :: left, refused, right, reached, rfl, ?_, isError⟩
        rw [run, stepped]
        exact isReached
      · rename_i stepped
        cases failed
        exact ⟨[], token, rest, machine, rfl, rfl, stepped⟩

/-- A run fails at the first character for which the machine does not wait. -/
theorem exists_refused_of_run_eq_error
    {text : List Char}
    {error : ParseError}
    (failed : machine.run (tokens 0 text) = .error error) :
    ∃ before character rest reached,
      text = before ++ character :: rest ∧ Apart before (character :: rest) ∧
        machine.run (tokens 0 before) = .ok reached ∧ ¬ reached.Awaits character ∧
          Blames error (String.ofList before).utf8ByteSize character := by
  obtain ⟨left, ⟨_, token⟩, right, reached, cut, isReached, isError⟩ := exists_failed_step failed
  obtain ⟨before, character, rest, text_eq, apart, rfl, rfl, begins⟩ := exists_before_token cut
  refine ⟨before, character, rest, reached, text_eq, apart, isReached, fun awaits => ?_, ?_⟩
  · obtain ⟨next, stepped⟩ := exists_step_of_awaits awaits begins _
    cases stepped.symm.trans isError
  · exact blames_of_step_eq_error isError begins

/-! ## Texts that can be completed -/

/-- After an operand, all open groups can be closed. -/
theorem exists_run_following (outer : List (Nat × Group)) (value : Expr) (used : Option Operator) :
    ∃ more result last, EndsName more ∧
      ∀ position, (following outer value used).run (tokens position more) =
        .ok (following [] result last) := by
  induction outer generalizing value used with
  | nil => exact ⟨[], value, used, (fun _ isFirst => nomatch isFirst), fun _ => rfl⟩
  | cons enclosing outer inductionHypothesis =>
      obtain ⟨opening, group⟩ := enclosing
      obtain ⟨more, result, last, -, closed⟩ :=
        inductionHypothesis (group.complete value) group.operator?
      refine ⟨')' :: more, result, last, ?_, fun position => ?_⟩
      · intro first isFirst
        cases isFirst
        decide
      · rw [tokens_single (by decide)]
        exact closed _

/-- Every state of the machine leads to the end of an expression. -/
theorem exists_run_to_end (machine : Machine) :
    ∃ more result last, EndsName more ∧
      ∀ position, machine.run (tokens position more) = .ok (following [] result last) := by
  cases machine with
  | following outer value used => exact exists_run_following outer value used
  | operand outer group =>
      -- a group in parentheses is an operand that does not go on with a name before it
      have derives : Derives .term ('(' :: ['x'] ++ [')']) (.literal (String.ofList ['x'])) :=
        .group (.chain (.first .all (.name rfl)))
      obtain ⟨more, result, last, ends, closed⟩ := exists_run_following outer
        (group.complete (.literal (String.ofList ['x']))) group.operator?
      refine ⟨'(' :: ['x'] ++ [')'] ++ more, result, last, ?_, fun position => ?_⟩
      · intro first isFirst
        cases isFirst
        decide
      · obtain ⟨later, taken⟩ := derives.takesPart outer group position more ends
        rw [taken]
        exact closed later

/-- The texts that take the machine to a state are beginnings of expressions. -/
theorem isViable_of_run
    {text : String}
    (reached : start.run (tokens 0 text.toList) = .ok machine) :
    IsViable text := by
  obtain ⟨more, result, last, ends, completed⟩ := exists_run_to_end machine
  obtain ⟨later, cut⟩ := tokens_append ends 0 text.toList
  refine ⟨String.ofList more, result, ?_⟩
  rw [Expr.ofText, String.toList_append, String.toList_ofList, read_eq_ok_iff_exists_run, cut]
  exact ⟨_, run_append_eq_ok_iff.mpr ⟨machine, reached, completed later⟩, rfl⟩

/-- A beginning of an expression goes on with a character for which the machine waits. -/
theorem awaits_of_isViable
    {before : List Char}
    {character : Char}
    (apart : Apart before [character])
    (reached : start.run (tokens 0 before) = .ok machine)
    (viable : IsViable ((String.ofList before).push character)) :
    machine.Awaits character := by
  obtain ⟨more, expr, isRead⟩ := viable
  have text_eq : ((String.ofList before).push character ++ more).toList =
      before ++ character :: more.toList := by
    simp
  have apartMore : Apart before (character :: more.toList) := apart
  rw [Expr.ofText, text_eq, read_eq_ok_iff_exists_run, tokens_append_of_apart apartMore] at isRead
  obtain ⟨ended, reachedEnd, -⟩ := isRead
  obtain ⟨middle, isMiddle, reachedEnd⟩ := run_append_eq_ok_iff.mp reachedEnd
  obtain rfl := Except.ok.inj (reached.symm.trans isMiddle)
  obtain ⟨token, others, isFirst, begins⟩ := exists_tokens_cons
    (0 + (String.ofList before).utf8ByteSize) character more.toList
  rw [isFirst, run] at reachedEnd
  split at reachedEnd
  · rename_i stepped
    exact (steps_of_step stepped).awaits begins
  · cases reachedEnd

/-! ## Open parentheses -/

/-- The positions of the parentheses that opened the enclosing groups. -/
def openings : Machine → List Nat
  | operand outer _ => outer.map (·.1)
  | following outer _ _ => outer.map (·.1)

theorem openings_afterOperator
    {outer : List (Nat × Group)}
    {value : Expr}
    {used : Option Operator}
    {operator : Operator}
    (continues : afterOperator outer value used operator position = .ok next) :
    next.openings = (following outer value used).openings := by
  unfold afterOperator at continues
  split at continues
  · cases continues
    rfl
  · split at continues <;> cases continues
    rfl

/-- A step opens a group only at a parenthesis. -/
theorem mem_openings_step
    {located : Nat × Token}
    (stepped : machine.step located = .ok next)
    {opening : Nat}
    (member : opening ∈ next.openings) :
    opening ∈ machine.openings ∨ located = (opening, .single '(') := by
  unfold step at stepped
  split at stepped
  · cases stepped
    exact .inl member
  · split at stepped
    · rename_i isParenthesis
      cases stepped
      rcases List.mem_cons.mp member with rfl | before
      · exact .inr (isParenthesis ▸ rfl)
      · exact .inl before
    · cases stepped
  · cases stepped
  · split at stepped
    · exact .inl (openings_afterOperator stepped ▸ member)
    split at stepped
    · exact .inl (openings_afterOperator stepped ▸ member)
    split at stepped
    · split at stepped
      · cases stepped
        exact .inl (List.mem_cons_of_mem _ member)
      · cases stepped
    · cases stepped

/-- The groups that are open after a run were open before it or opened at a parenthesis. -/
theorem mem_openings_run
    {tokens : List (Nat × Token)}
    (reached : machine.run tokens = .ok next)
    {opening : Nat}
    (member : opening ∈ next.openings) :
    opening ∈ machine.openings ∨ (opening, .single '(') ∈ tokens := by
  induction tokens generalizing machine with
  | nil =>
      cases reached
      exact .inl member
  | cons token rest inductionHypothesis =>
      rw [run] at reached
      split at reached
      · rename_i middle stepped
        rcases inductionHypothesis reached with isOpen | inRest
        · rcases mem_openings_step stepped isOpen with before | rfl
          · exact .inl before
          · exact .inr List.mem_cons_self
        · exact .inr (List.mem_cons_of_mem _ inRest)
      · cases reached

end Machine

/-! ## Errors -/

/-- What an error says about the text in which it was found. -/
def ParseError.Describes (text : String) : ParseError → Prop
  | empty => text = ""
  | mixedOperators position => ∃ operator : Operator, IsOffender text position operator.symbol
  | whitespace position =>
      ∃ character, Text.isBlank character = true ∧ IsOffender text position character
  | unexpectedCharacter character position => IsOffender text position character
  | unbalancedParen position =>
      IsOffender text position ')' ∨ StandsAt text position '(' ∧ IsViable text
  | unexpectedEnd => IsViable text

theorem Machine.Blames.describes
    {text : String}
    {error : ParseError}
    {position : Nat}
    {character : Char}
    (blames : Blames error position character)
    (offends : IsOffender text position character) :
    error.Describes text := by
  cases blames with
  | mixed operator => exact ⟨operator, offends⟩
  | unexpected =>
      unfold Machine.unexpected
      split
      · rename_i isBlank
        exact ⟨character, isBlank, offends⟩
      split
      · rename_i isParenthesis
        exact .inl (isParenthesis ▸ offends)
      · exact offends

theorem Machine.isOffender_of_not_awaits
    {before rest : List Char}
    {character : Char}
    {machine : Machine}
    (apart : Apart before (character :: rest))
    (reached : start.run (tokens 0 before) = .ok machine)
    (refuses : ¬ machine.Awaits character) :
    IsOffender (String.ofList (before ++ character :: rest))
      (String.ofList before).utf8ByteSize character := by
  refine ⟨String.ofList before, String.ofList rest, ?_, rfl, ?_, fun viable => ?_⟩
  · exact String.toList_injective (by simp)
  · exact isViable_of_run (by rwa [String.toList_ofList])
  · exact refuses (awaits_of_isViable apart reached viable)

/-- A machine with an open group has read the parenthesis that opened it. -/
theorem Machine.describes_of_finish
    {text : String}
    {machine : Machine}
    {error : ParseError}
    (reached : start.run (tokens 0 text.toList) = .ok machine)
    (failed : machine.finish = .error error) :
    error.Describes text := by
  have viable := isViable_of_run reached
  unfold finish at failed
  split at failed
  · cases failed
    exact viable
  · cases failed
  · cases failed
    refine .inr ⟨?_, viable⟩
    rcases mem_openings_run reached List.mem_cons_self with none | isRead
    · cases none
    · exact standsAt_of_mem_tokens isRead

/-- Every error about a text describes it: an error with a position points at the first character
with which no expression goes on or at a parenthesis that is still to be closed, and a text of which
only the end is missing is the beginning of an expression. -/
theorem describes_of_ofText
    {text : String}
    {error : ParseError}
    (failed : Expr.ofText text = .error error) :
    error.Describes text := by
  unfold Expr.ofText Expr.read at failed
  split at failed
  · rename_i isEmpty
    cases failed
    exact String.toList_eq_nil_iff.mp isEmpty
  split at failed
  · rename_i machine reached
    exact Machine.describes_of_finish reached failed
  · rename_i other stopped
    cases failed
    obtain ⟨before, character, rest, machine, text_eq, apart, reached, refuses, blames⟩ :=
      Machine.exists_refused_of_run_eq_error stopped
    have offends := Machine.isOffender_of_not_awaits apart reached refuses
    rw [← text_eq, String.ofList_toList] at offends
    exact blames.describes offends

theorem describes_mixed_group :
    Expr.ofText "a|(b&c|é)" = .error (.mixedOperators 6) ∧
      (ParseError.mixedOperators 6).Describes "a|(b&c|é)" :=
  ⟨by rfl, describes_of_ofText (by rfl)⟩

end Gate
end MarkerManifests
