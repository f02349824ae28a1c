import MarkerManifests.Text.Blank

/-!
# Quoting in marker arguments

Text may stand between double quotes, where a backslash escapes the next character, or between
backticks, where nothing is escaped. Separators count only outside quotes and outside braces and
brackets.
-/

namespace MarkerManifests
namespace Quoting

/-- What is wrong with quotes. -/
inductive Fault where
  | unterminatedString
  | unterminatedRaw
  | textAfterQuote
  deriving DecidableEq

/-- The wording of a fault. -/
def Fault.message : Fault → String
  | unterminatedString => "unterminated quoted string"
  | unterminatedRaw => "unterminated raw string"
  | textAfterQuote => "text after closing quote"

/-- Where a character of an argument stands. -/
inductive Place where
  | outside
  | inString
  /-- After a backslash between double quotes. -/
  | escaped
  | inRaw
  deriving DecidableEq

/-- Puts a character in front of the first piece. -/
def extend (character : Char) : List (List Char) → List (List Char)
  | [] => [[character]]
  | first :: others => (character :: first) :: others

/-- The pieces of a text between separators, from a place and a nesting depth on. -/
def splitFrom (separator : Char) : Place → Nat → List Char → Except Fault (List (List Char))
  | .outside, _, [] => .ok [[]]
  | .inString, _, [] => .error .unterminatedString
  | .escaped, _, [] => .error .unterminatedString
  | .inRaw, _, [] => .error .unterminatedRaw
  | .inString, depth, character :: rest =>
    let place := if character = '\\' then .escaped else if character = '"' then .outside else .inString
    (splitFrom separator place depth rest).map (extend character)
  | .escaped, depth, character :: rest =>
    (splitFrom separator .inString depth rest).map (extend character)
  | .inRaw, depth, character :: rest =>
    let place := if character = '\x60' then .outside else .inRaw
    (splitFrom separator place depth rest).map (extend character)
  | .outside, depth, character :: rest =>
    if character = '"' then
      (splitFrom separator .inString depth rest).map (extend character)
    else if character = '\x60' then
      (splitFrom separator .inRaw depth rest).map (extend character)
    else if character = '{' ∨ character = '[' then
      (splitFrom separator .outside (depth + 1) rest).map (extend character)
    else if character = '}' ∨ character = ']' then
      (splitFrom separator .outside (depth - 1) rest).map (extend character)
    else if character = separator ∧ depth = 0 then
      (splitFrom separator .outside depth rest).map ([] :: ·)
    else
      (splitFrom separator .outside depth rest).map (extend character)

/-- The pieces of a text between the separators outside quotes, braces and brackets. -/
def split (separator : Char) (text : List Char) : Except Fault (List (List Char)) :=
  splitFrom separator .outside 0 text

/-- The text before and after the first equals sign outside quotes, from a place on. -/
def cutKeyFrom? : Place → List Char → Option (List Char × List Char)
  | _, [] => none
  | .inString, character :: rest =>
    let place := if character = '\\' then .escaped else if character = '"' then .outside else .inString
    (cutKeyFrom? place rest).map fun (key, value) => (character :: key, value)
  | .escaped, character :: rest =>
    (cutKeyFrom? .inString rest).map fun (key, value) => (character :: key, value)
  | .inRaw, character :: rest =>
    let place := if character = '\x60' then .outside else .inRaw
    (cutKeyFrom? place rest).map fun (key, value) => (character :: key, value)
  | .outside, character :: rest =>
    if character = '=' then
      some ([], rest)
    else
      let place :=
        if character = '"' then .inString else if character = '\x60' then .inRaw else .outside
      (cutKeyFrom? place rest).map fun (key, value) => (character :: key, value)

/-- The key and the value of an argument: the text before and after the first equals sign outside
quotes. -/
def cutKey? (text : List Char) : Option (List Char × List Char) :=
  cutKeyFrom? .outside text

/-- The character that an escape stands for. -/
def unescape (character : Char) : Char :=
  if character = 'n' then '\n' else if character = 't' then '\t' else character

/-- The content up to the closing double quote, which has to be the last character. -/
def unquoteString : List Char → Except Fault (List Char)
  | [] => .error .unterminatedString
  | '\\' :: character :: rest => (unquoteString rest).map (unescape character :: ·)
  | '"' :: rest => if rest = [] then .ok [] else .error .textAfterQuote
  | character :: rest =>
    if character = '\\' then .error .unterminatedString
    else (unquoteString rest).map (character :: ·)

/-- The text without one layer of quotes; text without quotes stays as it is. -/
def unquote (text : List Char) : Except Fault (List Char) :=
  match text with
  | '\x60' :: rest =>
    if rest.getLast? = some '\x60' then .ok rest.dropLast else .error .unterminatedRaw
  | '"' :: rest => unquoteString rest
  | _ => .ok text

/-- A character between double quotes. -/
def escape (character : Char) : List Char :=
  if character = '"' then ['\\', '"']
  else if character = '\\' then ['\\', '\\']
  else if character = '\n' then ['\\', 'n']
  else if character = '\t' then ['\\', 't']
  else [character]

/-- Whether a character forces quotes: quotes, brackets, blanks and the given delimiters do. -/
def isSpecial (delimiters : List Char) (character : Char) : Bool :=
  character == '"' || character == '\x60' || character == '{' || character == '}' ||
    character == '[' || character == ']' || Text.isBlank character ||
    delimiters.contains character

/-- The text between double quotes. -/
def quote (text : List Char) : List Char :=
  '"' :: text.flatMap escape ++ ['"']

/-- The text, between double quotes if it would not be read back without them. -/
def quoteIfNeeded (delimiters : List Char) (text : List Char) : List Char :=
  if text.isEmpty || text.any (isSpecial delimiters) then quote text else text

end Quoting
end MarkerManifests
