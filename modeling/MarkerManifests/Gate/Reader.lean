import MarkerManifests.Gate.Expr

/-!
# Reading gate expressions

A text is cut into tokens that know their position, counted in bytes. The tokens then drive a
machine with a stack of open groups: it waits either for an operand or for what may follow one.
Every step either moves on or stops at the token that cannot stand there.
-/

namespace MarkerManifests
namespace Gate

/-- Why a text is not a gate expression. Positions count bytes from the start of the text. -/
inductive ParseError where
  | empty
  /-- Both operators in one group. -/
  | mixedOperators (position : Nat)
  | whitespace (position : Nat)
  | unexpectedCharacter (character : Char) (position : Nat)
  /-- A parenthesis without its partner. -/
  | unbalancedParen (position : Nat)
  | unexpectedEnd
  deriving DecidableEq

/-- The wording of an error. -/
def ParseError.message : ParseError → String
  | empty => "gate expression is empty"
  | mixedOperators position =>
    s!"mixed '&' and '|' at position {position}; group with parentheses"
  | whitespace position =>
    s!"whitespace is not allowed in gate expressions (position {position})"
  | unexpectedCharacter character position =>
    s!"unexpected character '{character}' at position {position}"
  | unbalancedParen position => s!"unbalanced parenthesis at position {position}"
  | unexpectedEnd => "unexpected end of gate expression"

/-- A token of an expression. -/
inductive Token where
  /-- A longest run of name characters. -/
  | name (first : Char) (rest : List Char)
  /-- A single character that is not a name character. -/
  | single (character : Char)
  deriving DecidableEq

/-- The tokens of a text that starts at a position, each with its own position. -/
def tokens (position : Nat) : List Char → List (Nat × Token)
  | [] => []
  | character :: rest =>
    let following := tokens (position + character.utf8Size) rest
    if isNameCharacter character then
      match following with
      | (_, .name next more) :: others => (position, .name character (next :: more)) :: others
      | others => (position, .name character []) :: others
    else
      (position, .single character) :: following

/-- An open group that waits for an operand: the members before it, with their operator. -/
structure Group where
  before : Option (Operator × Expr) := none
  deriving DecidableEq

/-- The value of a group once its next operand is known. -/
def Group.complete (group : Group) (operand : Expr) : Expr :=
  match group.before with
  | none => operand
  | some (operator, left) => Expr.join operator left operand

/-- The operator that a group has used. -/
def Group.operator? (group : Group) : Option Operator :=
  group.before.map (·.1)

/-- What the machine waits for, and the enclosing groups with the positions of the parentheses
that opened them. -/
inductive Machine where
  /-- An operand of the innermost group. -/
  | operand (outer : List (Nat × Group)) (group : Group)
  /-- What follows an operand: the value of the innermost group so far and its operator. -/
  | following (outer : List (Nat × Group)) (value : Expr) (used : Option Operator)
  deriving DecidableEq

namespace Machine

/-- The machine before the first token. -/
def start : Machine :=
  operand [] {}

/-- The error for a character that cannot stand at its position. -/
def unexpected (position : Nat) (character : Char) : ParseError :=
  if Text.isBlank character then .whitespace position
  else if character = ')' then .unbalancedParen position
  else .unexpectedCharacter character position

/-- The machine after an operand of a group. -/
def afterOperand (outer : List (Nat × Group)) (group : Group) (value : Expr) : Machine :=
  following outer (group.complete value) group.operator?

/-- The machine after an operator. -/
def afterOperator (outer : List (Nat × Group)) (value : Expr) (used : Option Operator)
    (operator : Operator) (position : Nat) : Except ParseError Machine :=
  match used with
  | none => .ok (operand outer ⟨some (operator, value)⟩)
  | some other =>
    if other = operator then .ok (operand outer ⟨some (operator, value)⟩)
    else .error (.mixedOperators position)

/-- The machine after one token. -/
def step (machine : Machine) (token : Nat × Token) : Except ParseError Machine :=
  match machine, token with
  | operand outer group, (_, .name first rest) =>
    .ok (afterOperand outer group (.literal (String.ofList (first :: rest))))
  | operand outer group, (position, .single character) =>
    if character = '(' then .ok (operand ((position, group) :: outer) {})
    else .error (unexpected position character)
  | following _ _ _, (position, .name first _) => .error (unexpected position first)
  | following outer value used, (position, .single character) =>
    if character = '&' then afterOperator outer value used .all position
    else if character = '|' then afterOperator outer value used .any position
    else if character = ')' then
      match outer with
      | (_, group) :: outer => .ok (afterOperand outer group value)
      | [] => .error (unexpected position character)
    else .error (unexpected position character)

/-- The expression when the text ends here. -/
def finish : Machine → Except ParseError Expr
  | operand _ _ => .error .unexpectedEnd
  | following [] value _ => .ok value
  | following ((position, _) :: _) _ _ => .error (.unbalancedParen position)

/-- The machine after a list of tokens. -/
def run (machine : Machine) : List (Nat × Token) → Except ParseError Machine
  | [] => .ok machine
  | token :: rest =>
    match machine.step token with
    | .ok next => next.run rest
    | .error error => .error error

end Machine

namespace Expr

/-- The expression that a text spells. -/
def read (text : List Char) : Except ParseError Expr :=
  if text = [] then
    .error .empty
  else
    match Machine.start.run (tokens 0 text) with
    | .ok machine => machine.finish
    | .error error => .error error

/-- The expression that a string spells. -/
def ofText (text : String) : Except ParseError Expr :=
  read text.toList

/-- The value in a state of the condition that a string spells. -/
def evaluate (text : String) (state : State) : Except ParseError Bool :=
  (ofText text).map (eval state)

end Expr
end Gate
end MarkerManifests
