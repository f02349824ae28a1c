import MarkerManifests.Proofs.Gate.Grammar

/-!
# What the reader of gate expressions accepts

The reader accepts the texts of the grammar and no others. In particular it refuses both operators
in one parenthesis group, because an open group keeps the operator that it has used until its
parenthesis is closed, and it refuses blanks.
-/

namespace MarkerManifests
namespace Gate

/-- The depth of parentheses after a character; there is none if a parenthesis is closed that was
not opened. -/
def depthAfterCharacter? (depth : Nat) (character : Char) : Option Nat :=
  if character = '(' then some (depth + 1)
  else if character = ')' then if depth = 0 then none else some (depth - 1)
  else some depth

/-- The depth of parentheses after a text. -/
def depthAfter? (depth : Nat) (text : List Char) : Option Nat :=
  text.foldlM depthAfterCharacter? depth

/-- Both operators stand in one parenthesis group: the parentheses between them are balanced. -/
def MixesOperators (text : List Char) : Prop :=
  ∃ (before between after : List Char) (first second : Operator),
    text = before ++ first.symbol :: (between ++ second.symbol :: after) ∧
      first ≠ second ∧ depthAfter? 0 between = some 0

/-! ## Operators of one group -/

theorem depthAfter?_of_forall
    {text : List Char}
    (noParenthesis : ∀ character ∈ text, character ≠ '(' ∧ character ≠ ')')
    (depth : Nat) :
    depthAfter? depth text = some depth := by
  induction text with
  | nil => rfl
  | cons character text inductionHypothesis =>
      rw [List.forall_mem_cons] at noParenthesis
      rw [depthAfter?, List.foldlM_cons, depthAfterCharacter?, if_neg noParenthesis.1.1,
        if_neg noParenthesis.1.2]
      exact inductionHypothesis noParenthesis.2

theorem Operator.symbol_injective {first second : Operator}
    (same : first.symbol = second.symbol) :
    first = second := by
  cases first <;> cases second <;> first | rfl | exact absurd same (by decide)

namespace Machine

variable {machine next : Machine} {token : Token}

/-- The operators that the open groups have used, from the innermost group on. -/
def usedOperators : Machine → List (Option Operator)
  | operand outer group => group.operator? :: outer.map (·.2.operator?)
  | following outer _ used => used :: outer.map (·.2.operator?)

/-- A group that has used an operator is open, and so many groups are open inside of it. -/
def IsInside
    (operator : Operator)
    (enclosing : List (Option Operator))
    (depth : Nat)
    (machine : Machine) : Prop :=
  ∃ inner : List (Option Operator),
    machine.usedOperators = inner ++ some operator :: enclosing ∧ inner.length = depth

/-- Up to the parenthesis that closes it, a group keeps its operator. -/
theorem Steps.isInside
    {operator : Operator}
    {enclosing : List (Option Operator)}
    {depth deeper : Nat}
    (steps : Steps machine token next)
    (proper : token.IsProper)
    (inside : machine.IsInside operator enclosing depth)
    (after : depthAfter? depth token.text = some deeper) :
    next.IsInside operator enclosing deeper := by
  obtain ⟨inner, isUsed, rfl⟩ := inside
  cases steps with
  | name outer group first rest =>
      rw [depthAfter?_of_forall] at after
      · cases after
        exact ⟨inner, isUsed, rfl⟩
      · intro character member
        constructor <;>
        · rintro rfl
          exact absurd (proper _ member) (by decide)
  | opens outer group position =>
      cases after
      exact ⟨none :: inner, congrArg (none :: ·) isUsed, rfl⟩
  | joins outer value other notOther =>
      have same : depthAfter? inner.length [other.symbol] = some inner.length := by
        cases other <;> rfl
      cases same.symm.trans after
      cases inner with
      | nil =>
          obtain ⟨rfl, rfl⟩ := List.cons.inj isUsed
          rw [notOther operator rfl]
          exact ⟨[], rfl, rfl⟩
      | cons innermost inner =>
          obtain ⟨-, rest⟩ := List.cons.inj isUsed
          exact ⟨some other :: inner, congrArg (some other :: ·) rest, rfl⟩
  | closes position group outer value used =>
      cases inner with
      | nil => cases after
      | cons innermost inner =>
          cases after
          exact ⟨inner, (List.cons.inj isUsed).2, rfl⟩

/-- After a run, a group that had used its operator before is open at the depth of what was read. -/
theorem isInside_run
    {operator : Operator}
    {enclosing : List (Option Operator)}
    {depth : Nat}
    {tokens : List (Nat × Token)}
    (proper : ∀ token ∈ tokens, token.2.IsProper)
    (reached : machine.run tokens = .ok next)
    (used : machine.usedOperators = some operator :: enclosing)
    (after : depthAfter? 0 (tokens.flatMap (·.2.text)) = some depth) :
    next.IsInside operator enclosing depth := by
  have kept := run_preserves
    (fun machine text => ∀ depth, depthAfter? 0 text = some depth →
      machine.IsInside operator enclosing depth)
    (fun {machine next token text} tokenProper steps inside depth isDepth => by
      rw [depthAfter?, List.foldlM_append] at isDepth
      obtain ⟨middle, isMiddle, isDepth⟩ := Option.bind_eq_some_iff.mp isDepth
      exact steps.isInside tokenProper (inside middle isMiddle) isDepth)
    proper reached
    (show ∀ depth, depthAfter? 0 [] = some depth → machine.IsInside operator enclosing depth by
      intro depth isDepth
      cases isDepth
      exact ⟨[], used, rfl⟩)
  exact kept depth after

/-- An operator can be read only if its group has used no other one. -/
theorem Steps.usedOperators_symbol
    {operator : Operator}
    (steps : Steps machine (.single operator.symbol) next) :
    ∃ (used : Option Operator) (enclosing : List (Option Operator)),
      machine.usedOperators = used :: enclosing ∧ (∀ other ∈ used, other = operator) ∧
        next.usedOperators = some operator :: enclosing := by
  generalize isMark : Token.single operator.symbol = mark at steps
  cases steps with
  | name => cases isMark
  | opens => cases operator <;> cases isMark
  | joins outer value other notOther =>
      cases Operator.symbol_injective (Token.single.inj isMark)
      exact ⟨_, _, rfl, notOther, rfl⟩
  | closes => cases operator <;> cases isMark

theorem run_append_eq_ok_iff
    {tokens others : List (Nat × Token)} :
    machine.run (tokens ++ others) = .ok next ↔
      ∃ middle, machine.run tokens = .ok middle ∧ middle.run others = .ok next := by
  induction tokens generalizing machine with
  | nil => simp [run]
  | cons token tokens inductionHypothesis =>
      rw [List.cons_append, run, run]
      cases machine.step token with
      | ok middle => exact inductionHypothesis
      | error error => simp

/-- A run over a text with an operator in it reads what stands before it, the operator and what
stands after it. -/
theorem exists_steps_symbol
    {before after : List Char}
    {operator : Operator}
    {position : Nat}
    (reached : machine.run (tokens position (before ++ operator.symbol :: after)) = .ok next) :
    ∃ (left right : Machine) (later : Nat),
      machine.run (tokens position before) = .ok left ∧
        Steps left (.single operator.symbol) right ∧
          right.run (tokens later after) = .ok next := by
  have noName := endsName_symbol operator after operator.symbol rfl
  obtain ⟨later, cut⟩ := tokens_append (endsName_symbol operator after) position before
  rw [cut, tokens_single noName, run_append_eq_ok_iff] at reached
  obtain ⟨left, reachedLeft, reachedNext⟩ := reached
  rw [run] at reachedNext
  split at reachedNext
  · rename_i right stepped
    exact ⟨left, right, _, reachedLeft, steps_of_step stepped, reachedNext⟩
  · cases reachedNext

end Machine

/-- A text with both operators in one group is not read. -/
theorem not_mixesOperators_of_read
    {text : List Char}
    {expr : Expr}
    (isRead : Expr.read text = .ok expr) :
    ¬ MixesOperators text := by
  rintro ⟨before, between, after, first, second, rfl, differ, balanced⟩
  obtain ⟨machine, reached, -⟩ := read_eq_ok_iff_exists_run.mp isRead
  obtain ⟨_, start, _, -, firstSteps, reached⟩ := Machine.exists_steps_symbol reached
  obtain ⟨stop, _, _, reachedStop, secondSteps, -⟩ := Machine.exists_steps_symbol reached
  obtain ⟨_, enclosing, -, -, isStart⟩ := firstSteps.usedOperators_symbol
  -- the group of the first operator is the innermost one again where the second one stands
  have betweenBalanced := balanced
  rw [← flatMap_text_tokens _ between] at betweenBalanced
  obtain ⟨inner, isStop, isEmpty⟩ := Machine.isInside_run (fun _ => isProper_of_mem_tokens)
    reachedStop isStart betweenBalanced
  rw [List.length_eq_zero_iff.mp isEmpty] at isStop
  obtain ⟨used, _, isUsed, notOther, -⟩ := secondSteps.usedOperators_symbol
  obtain ⟨rfl, -⟩ := List.cons.inj (isUsed.symm.trans isStop)
  exact differ (notOther first rfl)

/-! ## Exactly the grammar -/

/-- What holds of the reading of a text. -/
structure ReadsGrammar (text : String) : Prop where
  /-- The text is read as an expression exactly if it derives with that tree. -/
  accepts : ∀ expr, Expr.ofText text = .ok expr ↔ Derives .expr text.toList expr
  /-- No text has two trees. -/
  unique : ∀ left right, Derives .expr text.toList left → Derives .expr text.toList right →
    left = right
  /-- Both operators in one group are refused. -/
  mixed : MixesOperators text.toList → ∃ error, Expr.ofText text = .error error
  /-- Blanks are refused wherever they stand. -/
  blank : (∃ character ∈ text.toList, Text.isBlank character = true) →
    ∃ error, Expr.ofText text = .error error

/-- The reader of expressions accepts exactly the grammar. -/
theorem readsGrammar_ofText (text : String) : ReadsGrammar text := by
  have refused : (∀ expr, Expr.ofText text ≠ .ok expr) →
      ∃ error, Expr.ofText text = .error error := by
    intro noExpr
    cases isRead : Expr.ofText text with
    | ok expr => exact absurd isRead (noExpr expr)
    | error error => exact ⟨error, rfl⟩
  refine ⟨fun expr => read_eq_ok_iff, fun left right isLeft isRight => ?_, fun mixes => ?_, ?_⟩
  · exact Except.ok.inj (isLeft.read_eq_ok.symm.trans isRight.read_eq_ok)
  · exact refused fun expr isRead => not_mixesOperators_of_read isRead mixes
  · rintro ⟨character, member, isBlank⟩
    refine refused fun expr isRead => ?_
    have visible := isBlank_of_isTextCharacter
      ((derives_of_read isRead).isTextCharacter character member)
    rw [isBlank] at visible
    cases visible

end Gate
end MarkerManifests
