import MarkerManifests.Gate.State
import MarkerManifests.Ordered.NameSet

/-!
# Gate expressions

Conditions on feature gates: gate names joined with `&` and `|`. One group joins its members with
one of the two operators only; parentheses make a group a member of another one. A chain of one
operator leans to the left and is written without parentheses.
-/

namespace MarkerManifests
namespace Gate

/-- The operators that join the members of a group. -/
inductive Operator where
  | all
  | any
  deriving DecidableEq

/-- The character of an operator. -/
def Operator.symbol : Operator → Char
  | all => '&'
  | any => '|'

/-- A condition on feature gates. -/
inductive Expr where
  /-- The gate of that name is on. -/
  | literal (name : String)
  /-- Both conditions hold. -/
  | and (left right : Expr)
  /-- At least one of the conditions holds. -/
  | or (left right : Expr)
  deriving DecidableEq, Inhabited

namespace Expr

/-- Joins two conditions with an operator. -/
def join : Operator → Expr → Expr → Expr
  | .all => and
  | .any => or

/-- The operator at the root of a condition. -/
def operator? : Expr → Option Operator
  | literal _ => none
  | and _ _ => some .all
  | or _ _ => some .any

/-- Whether a condition holds in a state. -/
def eval (state : State) : Expr → Bool
  | literal name => state.isEnabled name
  | and left right => left.eval state && right.eval state
  | or left right => left.eval state || right.eval state

/-- The gates that a condition mentions. -/
def gateNames : Expr → NameSet
  | literal name => NameSet.empty.insert name
  | and left right => left.gateNames.union right.gateNames
  | or left right => left.gateNames.union right.gateNames

/-- Whether an operand needs parentheses: a left operand with another operator, and every right
operand that is not a name. -/
def needsGroup (parent : Operator) (right : Bool) (operand : Expr) : Bool :=
  match operand.operator? with
  | none => false
  | some operator => right || operator != parent

/-- The text of an operand, in parentheses if it needs them. -/
def grouped (needed : Bool) (text : List Char) : List Char :=
  if needed then '(' :: text ++ [')'] else text

/-- The text of a condition. -/
def render : Expr → List Char
  | literal name => name.toList
  | and left right =>
    grouped (needsGroup .all false left) left.render ++
      '&' :: grouped (needsGroup .all true right) right.render
  | or left right =>
    grouped (needsGroup .any false left) left.render ++
      '|' :: grouped (needsGroup .any true right) right.render

/-- The text of a condition as a string. -/
def text (expr : Expr) : String :=
  String.ofList expr.render

@[simp] theorem eval_literal (state : State) (name : String) :
    (literal name).eval state = state.isEnabled name := rfl

@[simp] theorem eval_and (state : State) (left right : Expr) :
    (and left right).eval state = (left.eval state && right.eval state) := rfl

@[simp] theorem eval_or (state : State) (left right : Expr) :
    (or left right).eval state = (left.eval state || right.eval state) := rfl

end Expr
end Gate
end MarkerManifests
