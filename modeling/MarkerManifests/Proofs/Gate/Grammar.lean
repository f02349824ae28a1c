import MarkerManifests.Gate.Reader
import MarkerManifests.Proofs.Text.Cutting

/-!
# The grammar of gate expressions

An expression is a chain of terms with one operator between them, and a term is a name or an
expression in parentheses. The reader accepts exactly the texts of this grammar, and it gives the
tree that nests every chain to the left. In one direction the machine is followed over the text of
a derivation: it does the same whatever the enclosing groups are and whatever comes after the text.
In the other direction every state of the machine spells the text that was read.
-/

namespace MarkerManifests
namespace Gate

/-! ## The grammar -/

/-- The parts of the grammar. -/
inductive Nonterminal where
  /-- A name, or an expression in parentheses. -/
  | term
  /-- Terms with an operator between them. -/
  | chain (operator : Operator)
  | expr

/-- The texts that derive from a part of the grammar, with their trees. -/
inductive Derives : Nonterminal → List Char → Expr → Prop where
  | name
      {text : List Char}
      (named : isName text = true) :
      Derives .term text (.literal (String.ofList text))
  | group
      {text : List Char}
      {expr : Expr}
      (inner : Derives .expr text expr) :
      Derives .term ('(' :: text ++ [')']) expr
  | first
      {text : List Char}
      {expr : Expr}
      (operator : Operator)
      (only : Derives .term text expr) :
      Derives (.chain operator) text expr
  | next
      {text last : List Char}
      {operator : Operator}
      {left right : Expr}
      (before : Derives (.chain operator) text left)
      (operand : Derives .term last right) :
      Derives (.chain operator) (text ++ operator.symbol :: last) (.join operator left right)
  | chain
      {text : List Char}
      {operator : Operator}
      {expr : Expr}
      (whole : Derives (.chain operator) text expr) :
      Derives .expr text expr

/-! ## Tokens -/

/-- The text does not go on with a name. -/
def EndsName (text : List Char) : Prop :=
  ∀ first ∈ text.head?, isNameCharacter first = false

/-- The operator is not a name. -/
theorem endsName_symbol (operator : Operator) (text : List Char) :
    EndsName (operator.symbol :: text) := by
  intro first isFirst
  cases isFirst
  cases operator <;> decide

theorem tokens_single
    {character : Char}
    (noName : isNameCharacter character = false)
    (position : Nat)
    (rest : List Char) :
    tokens position (character :: rest) =
      (position, .single character) :: tokens (position + character.utf8Size) rest := by
  rw [tokens, if_neg (by simp [noName])]

/-- The tokens after a text that does not go on with a name do not begin with one. -/
theorem tokens_of_endsName
    {rest : List Char}
    (ends : EndsName rest)
    (position : Nat) :
    tokens position rest = [] ∨
      ∃ character others, tokens position rest = (position, .single character) :: others := by
  cases rest with
  | nil => exact Or.inl rfl
  | cons character others => exact Or.inr ⟨_, _, tokens_single (ends character rfl) _ _⟩

/-- A name is one token. -/
theorem tokens_name
    {first : Char}
    {more : List Char}
    (isName : ∀ character ∈ first :: more, isNameCharacter character = true)
    (position : Nat) :
    tokens position (first :: more) = [(position, .name first more)] := by
  induction more generalizing first position with
  | nil =>
      rw [tokens, if_pos (isName first List.mem_cons_self)]
      rfl
  | cons second others inductionHypothesis =>
      rw [List.forall_mem_cons] at isName
      rw [tokens, if_pos isName.1, inductionHypothesis isName.2]

namespace Token

/-- The text of a token. -/
def text : Token → List Char
  | name first rest => first :: rest
  | single character => [character]

/-- The characters of a name are name characters. -/
def IsProper : Token → Prop
  | name first rest => ∀ character ∈ first :: rest, isNameCharacter character = true
  | single _ => True

end Token

theorem isProper_of_mem_tokens
    {position : Nat}
    {text : List Char}
    {token : Nat × Token}
    (member : token ∈ tokens position text) :
    token.2.IsProper := by
  induction text generalizing position token with
  | nil => cases member
  | cons character rest inductionHypothesis =>
      rw [tokens] at member
      split at member
      · rename_i isCharacter
        split at member
        · rename_i later next more others isName
          rcases List.mem_cons.mp member with rfl | inRest
          · have proper := inductionHypothesis (isName ▸ List.mem_cons_self)
            exact List.forall_mem_cons.mpr ⟨isCharacter, proper⟩
          · exact inductionHypothesis (isName ▸ List.mem_cons_of_mem _ inRest)
        · rcases List.mem_cons.mp member with rfl | inRest
          · exact List.forall_mem_cons.mpr ⟨isCharacter, fun _ none => nomatch none⟩
          · exact inductionHypothesis inRest
      · rcases List.mem_cons.mp member with rfl | inRest
        · trivial
        · exact inductionHypothesis inRest

/-- No character is lost between tokens. -/
theorem flatMap_text_tokens (position : Nat) (text : List Char) :
    (tokens position text).flatMap (·.2.text) = text := by
  induction text generalizing position with
  | nil => rfl
  | cons character rest inductionHypothesis =>
      have following := inductionHypothesis (position + character.utf8Size)
      rw [tokens]
      split
      · split
        · rename_i isName
          rw [isName] at following
          rw [← following]
          rfl
        · exact congrArg (character :: ·) following
      · exact congrArg (character :: ·) following

theorem eq_nil_of_tokens_eq_nil
    {position : Nat}
    {text : List Char}
    (none : tokens position text = []) :
    text = [] := by
  rw [← flatMap_text_tokens position text, none, List.flatMap_nil]

/-- No name goes on from the first text into the second one. -/
def Apart (before after : List Char) : Prop :=
  ∀ last ∈ before.getLast?, isNameCharacter last = true → EndsName after

theorem apart_nil (after : List Char) : Apart [] after :=
  fun _ isLast => nomatch isLast

theorem Apart.tail
    {character : Char}
    {before after : List Char}
    (apart : Apart (character :: before) after) :
    Apart before after := by
  intro last isLast
  refine apart last ?_
  rw [List.getLast?_cons, Option.mem_def.mp isLast]
  rfl

/-- Texts are cut into tokens one after the other, if no name goes on from one into the next. -/
theorem tokens_append_of_apart
    {before after : List Char}
    (apart : Apart before after)
    (position : Nat) :
    tokens position (before ++ after) = tokens position before ++
      tokens (position + (String.ofList before).utf8ByteSize) after := by
  induction before generalizing position with
  | nil => rfl
  | cons character before inductionHypothesis =>
      rw [List.cons_append, tokens, tokens, inductionHypothesis apart.tail, String.ofList_cons,
        String.utf8ByteSize_append, String.utf8ByteSize_singleton, ← Nat.add_assoc]
      split
      · rename_i isCharacter
        cases own : tokens (position + character.utf8Size) before with
        | nil =>
            cases eq_nil_of_tokens_eq_nil own
            rcases tokens_of_endsName (apart character rfl isCharacter)
                (position + character.utf8Size + (String.ofList []).utf8ByteSize) with
              none | ⟨mark, others, single⟩
            · rw [none]
              rfl
            · rw [single]
              rfl
        | cons token others =>
            obtain ⟨place, token⟩ := token
            cases token <;> rfl
      · rfl

/-- A text that does not go on with a name is cut into tokens apart from what stands before it. -/
theorem tokens_append
    {rest : List Char}
    (ends : EndsName rest)
    (position : Nat)
    (text : List Char) :
    ∃ later, tokens position (text ++ rest) = tokens position text ++ tokens later rest :=
  ⟨_, tokens_append_of_apart (fun _ _ _ => ends) position⟩

/-- An expression is read where the machine takes the tokens and can finish after them. -/
theorem read_eq_ok_iff_exists_run
    {text : List Char}
    {expr : Expr} :
    Expr.read text = .ok expr ↔
      ∃ machine, Machine.start.run (tokens 0 text) = .ok machine ∧ machine.finish = .ok expr := by
  unfold Expr.read
  split
  · rename_i isEmpty
    rw [isEmpty]
    refine ⟨nofun, ?_⟩
    rintro ⟨machine, reached, finished⟩
    cases reached
    cases finished
  split
  · rename_i machine reached
    refine ⟨fun finished => ⟨machine, reached, finished⟩, ?_⟩
    rintro ⟨other, reachedOther, finished⟩
    cases reached.symm.trans reachedOther
    exact finished
  · rename_i error failed
    refine ⟨nofun, ?_⟩
    rintro ⟨machine, reached, -⟩
    cases failed.symm.trans reached

/-! ## From derivations to readings -/

namespace Machine

/-- A text takes a machine to another one, whatever follows the text, as long as it is no name. -/
def Takes (text : List Char) (machine next : Machine) : Prop :=
  ∀ position rest, EndsName rest →
    ∃ later, machine.run (tokens position (text ++ rest)) = next.run (tokens later rest)

variable {machine between next : Machine} {text others : List Char}

theorem Takes.append
    (first : Takes text machine between)
    (second : Takes others between next)
    (ends : EndsName others)
    (nonempty : others ≠ []) :
    Takes (text ++ others) machine next := by
  intro position rest endsRest
  have endsBoth : EndsName (others ++ rest) := by
    obtain ⟨character, more, rfl⟩ := List.exists_cons_of_ne_nil nonempty
    exact ends
  obtain ⟨middle, reached⟩ := first position (others ++ rest) endsBoth
  obtain ⟨later, taken⟩ := second middle rest endsRest
  exact ⟨later, by rw [List.append_assoc, reached, taken]⟩

theorem takes_single
    {character : Char}
    (noName : isNameCharacter character = false)
    (steps : ∀ position, ∃ middle,
      machine.step (position, .single character) = .ok middle ∧ Takes text middle next) :
    Takes (character :: text) machine next := by
  intro position rest ends
  obtain ⟨middle, stepped, taken⟩ := steps position
  obtain ⟨later, reached⟩ := taken (position + character.utf8Size) rest ends
  refine ⟨later, ?_⟩
  rw [List.cons_append, tokens_single noName, run, stepped]
  exact reached

theorem takes_nil (machine : Machine) : Takes [] machine machine :=
  fun position _ _ => ⟨position, rfl⟩

/-- A name is an operand of any group. -/
theorem takes_name
    (named : isName text = true)
    (outer : List (Nat × Group))
    (group : Group) :
    Takes text (operand outer group)
      (afterOperand outer group (.literal (String.ofList text))) := by
  intro position rest ends
  cases text with
  | nil => cases named
  | cons first more =>
      have characters := List.all_eq_true.mp (Bool.and_eq_true_iff.mp named).2
      obtain ⟨later, cut⟩ := tokens_append ends position (first :: more)
      refine ⟨later, ?_⟩
      rw [cut, tokens_name characters]
      rfl

/-- A group in parentheses is an operand of any group, if its text takes an empty group to the
expression. -/
theorem takes_group
    {expr : Expr}
    {used : Option Operator}
    (takes : ∀ outer, Takes text (operand outer {}) (following outer expr used))
    (outer : List (Nat × Group))
    (group : Group) :
    Takes ('(' :: text ++ [')']) (operand outer group) (afterOperand outer group expr) := by
  refine takes_single (by decide) fun position =>
    ⟨operand ((position, group) :: outer) {}, rfl, ?_⟩
  refine (takes ((position, group) :: outer)).append ?_ ?_ (by simp)
  · exact takes_single (by decide) fun _ => ⟨_, rfl, takes_nil _⟩
  · intro first isFirst
    cases isFirst
    decide

theorem afterOperator_eq_ok
    {used : Option Operator}
    {operator : Operator}
    (notOther : ∀ other ∈ used, other = operator)
    (outer : List (Nat × Group))
    (value : Expr)
    (position : Nat) :
    afterOperator outer value used operator position =
      .ok (operand outer ⟨some (operator, value)⟩) := by
  cases used with
  | none => rfl
  | some other => rw [afterOperator, if_pos (notOther other rfl)]

/-- After a member of a group, the operator and another operand extend the group. -/
theorem takes_next
    {left : Expr}
    {used : Option Operator}
    (operator : Operator)
    (notOther : ∀ other ∈ used, other = operator)
    (outer : List (Nat × Group))
    (takes : Takes text (operand outer ⟨some (operator, left)⟩) next) :
    Takes (operator.symbol :: text) (following outer left used) next := by
  have continues := afterOperator_eq_ok notOther outer left
  cases operator with
  | all => exact takes_single (by decide) fun position => ⟨_, continues position, takes⟩
  | any => exact takes_single (by decide) fun position => ⟨_, continues position, takes⟩

/-- What the text of a part of the grammar does: a term is an operand of any group, and a chain or
an expression fills an empty group. -/
def TakesPart (text : List Char) (expr : Expr) : Nonterminal → Prop
  | .term => ∀ outer group, Takes text (operand outer group) (afterOperand outer group expr)
  | .chain operator => ∃ used : Option Operator, (∀ other ∈ used, other = operator) ∧
      ∀ outer, Takes text (operand outer {}) (following outer expr used)
  | .expr => ∃ used, ∀ outer, Takes text (operand outer {}) (following outer expr used)

end Machine

theorem Derives.takesPart
    {nonterminal : Nonterminal}
    {text : List Char}
    {expr : Expr}
    (derives : Derives nonterminal text expr) :
    Machine.TakesPart text expr nonterminal := by
  induction derives with
  | name named => exact Machine.takes_name named
  | group _ inner =>
      obtain ⟨used, takes⟩ := inner
      exact Machine.takes_group takes
  | first operator _ only => exact ⟨none, fun _ none => (nomatch none), fun outer => only outer {}⟩
  | @next text last operator left right _ _ before operand =>
      obtain ⟨used, notOther, takes⟩ := before
      refine ⟨some operator, fun other isOperator => (Option.some.inj isOperator).symm, ?_⟩
      intro outer
      have continues := Machine.takes_next operator notOther outer
        (operand outer ⟨some (operator, left)⟩)
      exact (takes outer).append continues (endsName_symbol operator last) (List.cons_ne_nil _ _)
  | chain _ whole =>
      obtain ⟨used, -, takes⟩ := whole
      exact ⟨used, takes⟩

/-- The text of an expression is read as its tree. -/
theorem Derives.read_eq_ok
    {text : List Char}
    {expr : Expr}
    (derives : Derives .expr text expr) :
    Expr.read text = .ok expr := by
  obtain ⟨used, takes⟩ := derives.takesPart
  obtain ⟨later, reached⟩ := takes [] 0 [] fun _ isFirst => nomatch isFirst
  rw [List.append_nil] at reached
  exact read_eq_ok_iff_exists_run.mpr ⟨_, reached, rfl⟩

/-! ## From readings to derivations -/

namespace Machine

/-- What one token does to a machine. -/
inductive Steps : Machine → Token → Machine → Prop where
  | name (outer : List (Nat × Group)) (group : Group) (first : Char) (rest : List Char) :
      Steps (operand outer group) (.name first rest)
        (afterOperand outer group (.literal (String.ofList (first :: rest))))
  | opens (outer : List (Nat × Group)) (group : Group) (position : Nat) :
      Steps (operand outer group) (.single '(') (operand ((position, group) :: outer) {})
  | joins
      {used : Option Operator}
      (outer : List (Nat × Group))
      (value : Expr)
      (operator : Operator)
      (notOther : ∀ other ∈ used, other = operator) :
      Steps (following outer value used) (.single operator.symbol)
        (operand outer ⟨some (operator, value)⟩)
  | closes
      (position : Nat)
      (group : Group)
      (outer : List (Nat × Group))
      (value : Expr)
      (used : Option Operator) :
      Steps (following ((position, group) :: outer) value used) (.single ')')
        (afterOperand outer group value)

variable {machine next : Machine} {token : Nat × Token} {text : List Char}

theorem steps_of_afterOperator
    {outer : List (Nat × Group)}
    {value : Expr}
    {used : Option Operator}
    {operator : Operator}
    {position : Nat}
    (continues : afterOperator outer value used operator position = .ok next) :
    Steps (following outer value used) (.single operator.symbol) next := by
  unfold afterOperator at continues
  split at continues
  · cases continues
    exact .joins outer value operator fun _ none => nomatch none
  · rename_i other
    split at continues
    · rename_i same
      cases continues
      exact .joins outer value operator fun third isOther => (Option.some.inj isOther) ▸ same
    · cases continues

theorem steps_of_step (stepped : machine.step token = .ok next) :
    Steps machine token.2 next := by
  unfold step at stepped
  split at stepped
  · cases stepped
    exact .name _ _ _ _
  · split at stepped
    · rename_i isParenthesis
      cases stepped
      rw [isParenthesis]
      exact .opens _ _ _
    · cases stepped
  · cases stepped
  · split at stepped
    · rename_i isAll
      rw [isAll]
      exact steps_of_afterOperator stepped
    split at stepped
    · rename_i isAny
      rw [isAny]
      exact steps_of_afterOperator stepped
    split at stepped
    · rename_i isParenthesis
      split at stepped
      · cases stepped
        rw [isParenthesis]
        exact .closes _ _ _ _ _
      · cases stepped
    · cases stepped

/-- What every step keeps, a run keeps. -/
theorem run_preserves
    (property : Machine → List Char → Prop)
    (preserved : ∀ {machine next : Machine} {token : Token} {text : List Char},
      token.IsProper → Steps machine token next → property machine text →
        property next (text ++ token.text))
    {tokens : List (Nat × Token)}
    (proper : ∀ token ∈ tokens, token.2.IsProper)
    (reached : machine.run tokens = .ok next)
    (holds : property machine text) :
    property next (text ++ tokens.flatMap (·.2.text)) := by
  induction tokens generalizing machine text with
  | nil =>
      cases reached
      rwa [List.flatMap_nil, List.append_nil]
  | cons token rest inductionHypothesis =>
      rw [List.forall_mem_cons] at proper
      rw [run] at reached
      split at reached
      · rename_i middle stepped
        have holdsNext := preserved proper.1 (steps_of_step stepped) holds
        rw [List.flatMap_cons, ← List.append_assoc]
        exact inductionHypothesis proper.2 reached holdsNext
      · cases reached

end Machine

/-- The text of a group so far: a single term if no operator was used, and a chain if one was. -/
def DerivesUsing (used : Option Operator) (text : List Char) (expr : Expr) : Prop :=
  match used with
  | none => Derives .term text expr
  | some operator => Derives (.chain operator) text expr

theorem DerivesUsing.chain
    {used : Option Operator}
    {text : List Char}
    {expr : Expr}
    {operator : Operator}
    (derives : DerivesUsing used text expr)
    (notOther : ∀ other ∈ used, other = operator) :
    Derives (.chain operator) text expr := by
  cases used with
  | none => exact .first operator derives
  | some other =>
      rw [← notOther other rfl]
      exact derives

theorem DerivesUsing.expr
    {used : Option Operator}
    {text : List Char}
    {expr : Expr}
    (derives : DerivesUsing used text expr) :
    Derives .expr text expr := by
  cases used with
  | none => exact .chain (.first .all derives)
  | some operator => exact .chain derives

/-- The text of the members of a group before the next operand. -/
inductive Group.Spells : Group → List Char → Prop where
  | nothing : Spells {} []
  | members
      {text : List Char}
      {operator : Operator}
      {left : Expr}
      (before : Derives (.chain operator) text left) :
      Spells ⟨some (operator, left)⟩ (text ++ [operator.symbol])

theorem Group.Spells.complete
    {group : Group}
    {text last : List Char}
    {value : Expr}
    (spells : group.Spells text)
    (derives : Derives .term last value) :
    DerivesUsing group.operator? (text ++ last) (group.complete value) := by
  cases spells with
  | nothing => exact derives
  | members before =>
      rw [List.append_assoc, List.singleton_append]
      exact .next before derives

/-- The text of the open groups up to the parenthesis that opens the innermost one. -/
inductive OpenGroups : List (Nat × Group) → List Char → Prop where
  | nothing : OpenGroups [] []
  | opened
      {outer : List (Nat × Group)}
      {group : Group}
      {text members : List Char}
      (position : Nat)
      (enclosing : OpenGroups outer text)
      (before : group.Spells members) :
      OpenGroups ((position, group) :: outer) (text ++ members ++ ['('])

namespace Machine

/-- The text that takes the machine from the start to a state. -/
inductive Spells : Machine → List Char → Prop where
  | operand
      {outer : List (Nat × Group)}
      {group : Group}
      {text members : List Char}
      (enclosing : OpenGroups outer text)
      (before : group.Spells members) :
      Spells (operand outer group) (text ++ members)
  | following
      {outer : List (Nat × Group)}
      {value : Expr}
      {used : Option Operator}
      {text members : List Char}
      (enclosing : OpenGroups outer text)
      (derives : DerivesUsing used members value) :
      Spells (following outer value used) (text ++ members)

variable {machine next : Machine} {text : List Char}

theorem spells_afterOperand
    {outer : List (Nat × Group)}
    {group : Group}
    {members last : List Char}
    {value : Expr}
    (enclosing : OpenGroups outer text)
    (before : group.Spells members)
    (derives : Derives .term last value) :
    (afterOperand outer group value).Spells (text ++ members ++ last) := by
  rw [List.append_assoc]
  exact .following enclosing (before.complete derives)

/-- The machine spells one more token after each step. -/
theorem Steps.spells
    {token : Token}
    (steps : Steps machine token next)
    (proper : token.IsProper)
    (spells : machine.Spells text) :
    next.Spells (text ++ token.text) := by
  cases steps with
  | name outer group first rest =>
      obtain ⟨enclosing, before⟩ := spells
      refine spells_afterOperand enclosing before (.name ?_)
      rw [isName, Bool.and_eq_true, List.all_eq_true]
      exact ⟨rfl, proper⟩
  | opens outer group position =>
      obtain ⟨enclosing, before⟩ := spells
      have opened := Spells.operand (.opened position enclosing before) .nothing
      rwa [List.append_nil] at opened
  | joins outer value operator notOther =>
      cases spells with
      | following enclosing derives =>
          rw [List.append_assoc]
          exact .operand enclosing (.members (derives.chain notOther))
  | closes position group outer value used =>
      cases spells with
      | following enclosing derives =>
          cases enclosing with
          | opened _ enclosing before =>
              have closed := spells_afterOperand enclosing before (.group derives.expr)
              simpa [Token.text] using closed

end Machine

/-- Only texts of expressions are read. -/
theorem derives_of_read
    {text : List Char}
    {expr : Expr}
    (isRead : Expr.read text = .ok expr) :
    Derives .expr text expr := by
  obtain ⟨machine, reached, finished⟩ := read_eq_ok_iff_exists_run.mp isRead
  have spells : machine.Spells text := by
    have reachedText := Machine.run_preserves Machine.Spells
      (fun proper steps spells => steps.spells proper spells)
      (fun _ => isProper_of_mem_tokens) reached (.operand .nothing .nothing)
    simpa [flatMap_text_tokens] using reachedText
  unfold Machine.finish at finished
  split at finished
  · cases finished
  · cases finished
    cases spells with
    | following enclosing derives =>
        cases enclosing with
        | nothing => exact derives.expr
  · cases finished

/-- The reader accepts exactly the texts of the grammar and gives their trees. -/
theorem read_eq_ok_iff
    {text : List Char}
    {expr : Expr} :
    Expr.read text = .ok expr ↔ Derives .expr text expr :=
  ⟨derives_of_read, Derives.read_eq_ok⟩

/-! ## The characters of expressions -/

/-- A character of the text of an expression. -/
def IsTextCharacter (character : Char) : Prop :=
  isNameCharacter character = true ∨ character ∈ ['&', '|', '(', ')']

theorem range_of_isNameCharacter
    {character : Char}
    (isName : isNameCharacter character = true) :
    character.toNat = 45 ∨ character.toNat = 95 ∨
      48 ≤ character.toNat ∧ character.toNat ≤ 122 := by
  have between : ∀ {first last : Char}, 48 ≤ first.toNat → last.toNat ≤ 122 →
      first.val.toNat ≤ character.val.toNat → character.val.toNat ≤ last.val.toNat →
        48 ≤ character.toNat ∧ character.toNat ≤ 122 :=
    fun low high above below => ⟨Nat.le_trans low above, Nat.le_trans below high⟩
  delta isNameCharacter Char.isAlphanum Char.isAlpha Char.isUpper Char.isLower
    Char.isDigit at isName
  simp only [Bool.or_eq_true, Bool.and_eq_true, decide_eq_true_eq, beq_iff_eq, ge_iff_le,
    UInt32.le_iff_toNat_le] at isName
  rcases isName with (((⟨above, below⟩ | ⟨above, below⟩) | ⟨above, below⟩) | rfl) | rfl
  · exact Or.inr (Or.inr (between (by decide) (by decide) above below))
  · exact Or.inr (Or.inr (between (by decide) (by decide) above below))
  · exact Or.inr (Or.inr (between (by decide) (by decide) above below))
  · exact Or.inr (Or.inl rfl)
  · exact Or.inl rfl

theorem isBlank_of_isTextCharacter
    {character : Char}
    (proper : IsTextCharacter character) :
    Text.isBlank character = false := by
  rcases proper with isName | isMark
  · have range := range_of_isNameCharacter isName
    rw [← Bool.not_eq_true]
    intro blank
    simp only [Text.isBlank, Bool.or_eq_true, Bool.and_eq_true, decide_eq_true_eq,
      beq_iff_eq] at blank
    omega
  · have visible : ∀ mark ∈ ['&', '|', '(', ')'], Text.isBlank mark = false :=
      forall_mem_of_all (by decide)
    exact visible character isMark

/-- Texts of expressions consist of names, operators and parentheses. -/
theorem Derives.isTextCharacter
    {nonterminal : Nonterminal}
    {text : List Char}
    {expr : Expr}
    (derives : Derives nonterminal text expr) :
    ∀ character ∈ text, IsTextCharacter character := by
  induction derives with
  | name named =>
      rw [isName, Bool.and_eq_true, List.all_eq_true] at named
      exact fun character member => Or.inl (named.2 character member)
  | group _ inner =>
      refine List.forall_mem_cons.mpr ⟨Or.inr (by decide), List.forall_mem_append.mpr ⟨inner, ?_⟩⟩
      exact List.forall_mem_singleton.mpr (Or.inr (by decide))
  | first _ _ only => exact only
  | @next _ _ operator _ _ _ _ before operand =>
      refine List.forall_mem_append.mpr ⟨before, List.forall_mem_cons.mpr ⟨Or.inr ?_, operand⟩⟩
      cases operator <;> decide
  | chain _ whole => exact whole

end Gate
end MarkerManifests
