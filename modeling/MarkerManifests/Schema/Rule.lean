import MarkerManifests.Text.Blank

/-!
# The surface of validation rules

A rule has to hold something other than blanks, its brackets have to match and its literals have to
be closed. A literal stands between two equal quotes, and a backslash in it takes the next character
along.
-/

namespace MarkerManifests
namespace Rule

/-- What is wrong with a rule. -/
inductive Fault where
  | empty
  | unbalanced (closing : Char)
  | unterminatedLiteral
  | unclosed (opening : Char)
  deriving DecidableEq

/-- The wording of a fault. -/
def Fault.message : Fault → String
  | empty => "rule is empty"
  | unbalanced closing => s!"unbalanced '{closing}' in rule"
  | unterminatedLiteral => "unterminated string literal in rule"
  | unclosed opening => s!"unclosed '{opening}' in rule"

/-- Where a character of a rule stands. -/
inductive Place where
  | outside
  /-- In a literal between the given quotes. -/
  | literal (quote : Char)
  /-- After a backslash in a literal. -/
  | escaped (quote : Char)
  deriving DecidableEq

/-- The bracket that a closing bracket closes. -/
def opening? (closing : Char) : Option Char :=
  if closing = ')' then some '('
  else if closing = ']' then some '['
  else if closing = '}' then some '{'
  else none

/-- Whether a character is an opening bracket. -/
def isOpening (character : Char) : Bool :=
  character == '(' || character == '[' || character == '{'

/-- Whether a character is a quote. -/
def isQuote (character : Char) : Bool :=
  character == '\'' || character == '"'

/-- The place after a character of a literal. -/
def afterLiteral (quote character : Char) : Place :=
  if character = '\\' then .escaped quote
  else if character = quote then .outside
  else .literal quote

/-- Checks a rule from a place on, where the given brackets are open. -/
def checkFrom : Place → List Char → List Char → Except Fault Unit
  | .outside, [], [] => .ok ()
  | .outside, opening :: _, [] => .error (.unclosed opening)
  | .literal _, _, [] => .error .unterminatedLiteral
  | .escaped _, _, [] => .error .unterminatedLiteral
  | .literal quote, stack, character :: rest => checkFrom (afterLiteral quote character) stack rest
  | .escaped quote, stack, _ :: rest => checkFrom (.literal quote) stack rest
  | .outside, stack, character :: rest =>
    if isQuote character then
      checkFrom (.literal character) stack rest
    else if isOpening character then
      checkFrom .outside (character :: stack) rest
    else
      match opening? character with
      | none => checkFrom .outside stack rest
      | some opening =>
        match stack with
        | [] => .error (.unbalanced character)
        | innermost :: outer =>
          if innermost = opening then checkFrom .outside outer rest
          else .error (.unbalanced character)

/-- Checks the surface of a rule. -/
def check (rule : List Char) : Except Fault Unit :=
  if Text.trim rule = [] then .error .empty else checkFrom .outside [] rule

end Rule
end MarkerManifests
