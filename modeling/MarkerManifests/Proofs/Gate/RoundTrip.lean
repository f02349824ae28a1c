import MarkerManifests.Proofs.Gate.Grammar

/-!
# Reading written gate expressions

The text of an expression reads back as the expression, for every expression whose literals are
names, and the reader gives no others. Both follow from the grammar: a written text derives with its
expression, and the literals of a derived tree are names.
-/

namespace MarkerManifests
namespace Gate
namespace Expr

/-- All literals of the expression are names. -/
def HasNames : Expr → Prop
  | literal name => isName name.toList = true
  | and left right => left.HasNames ∧ right.HasNames
  | or left right => left.HasNames ∧ right.HasNames

/-! ## What is written -/

/-- A left operand is a chain of the operator after it, in parentheses if it needs them. -/
theorem derives_left
    {left : Expr}
    (operator : Operator)
    (derives : DerivesUsing left.operator? left.render left) :
    Derives (.chain operator) (grouped (needsGroup operator false left) left.render) left := by
  cases root : left.operator? with
  | none =>
      have ungrouped : needsGroup operator false left = false := by
        rw [needsGroup, root]
      rw [root] at derives
      rw [ungrouped]
      exact .first operator derives
  | some other =>
      by_cases same : other = operator
      · have ungrouped : needsGroup operator false left = false := by
          simp [needsGroup, root, same]
        rw [root, same] at derives
        rw [ungrouped]
        exact derives
      · have isGrouped : needsGroup operator false left = true := by
          simp [needsGroup, root, same]
        rw [isGrouped]
        exact .first operator (.group derives.expr)

/-- A right operand is a term, in parentheses if it needs them. -/
theorem derives_right
    {right : Expr}
    (operator : Operator)
    (derives : DerivesUsing right.operator? right.render right) :
    Derives .term (grouped (needsGroup operator true right) right.render) right := by
  cases right with
  | literal name => exact derives
  | and left other => exact .group derives.expr
  | or left other => exact .group derives.expr

/-- The text of an expression derives with it, using the operator at its root. -/
theorem derives_render
    {expr : Expr}
    (named : expr.HasNames) :
    DerivesUsing expr.operator? expr.render expr := by
  induction expr with
  | literal name =>
      have derives := Derives.name named
      rwa [String.ofList_toList] at derives
  | and left right leftHypothesis rightHypothesis =>
      exact .next (derives_left .all (leftHypothesis named.1))
        (derives_right .all (rightHypothesis named.2))
  | or left right leftHypothesis rightHypothesis =>
      exact .next (derives_left .any (leftHypothesis named.1))
        (derives_right .any (rightHypothesis named.2))

/-- The text of an expression whose literals are names reads back as the expression. -/
theorem read_render
    {expr : Expr}
    (named : expr.HasNames) :
    read expr.render = .ok expr :=
  (derives_render named).expr.read_eq_ok

/-- Texts of expressions consist of names, operators and parentheses. -/
theorem isTextCharacter_of_mem_render
    {expr : Expr}
    (named : expr.HasNames) :
    ∀ character ∈ expr.render, IsTextCharacter character :=
  (derives_render named).expr.isTextCharacter

end Expr

/-! ## What is read -/

theorem Expr.hasNames_join
    {left right : Expr}
    (operator : Operator)
    (leftNamed : left.HasNames)
    (rightNamed : right.HasNames) :
    (join operator left right).HasNames := by
  cases operator <;> exact ⟨leftNamed, rightNamed⟩

/-- The literals of a derived tree are names. -/
theorem Derives.hasNames
    {nonterminal : Nonterminal}
    {text : List Char}
    {expr : Expr}
    (derives : Derives nonterminal text expr) :
    expr.HasNames := by
  induction derives with
  | name named =>
      rw [Expr.HasNames, String.toList_ofList]
      exact named
  | group _ inner => exact inner
  | first _ _ only => exact only
  | next _ _ before operand => exact Expr.hasNames_join _ before operand
  | chain _ whole => exact whole

/-- The literals of an expression that was read are names. -/
theorem Expr.hasNames_of_read
    {text : List Char}
    {expr : Expr}
    (isRead : read text = .ok expr) :
    expr.HasNames :=
  (derives_of_read isRead).hasNames

/-- An expression is read from its own text, with its operands grouped as they were, exactly if its
literals are names. -/
theorem Expr.ofText_text_iff (expr : Expr) : ofText expr.text = .ok expr ↔ expr.HasNames := by
  rw [ofText, text, String.toList_ofList]
  exact ⟨hasNames_of_read, read_render⟩

end Gate
end MarkerManifests
