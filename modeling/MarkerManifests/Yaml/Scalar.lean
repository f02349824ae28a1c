import MarkerManifests.Yaml.Character
import MarkerManifests.Yaml.Plain

/-!
# Writing scalars

A text is written in the first style that suits it: as it is, between single quotes, as a literal
block if it has several lines, and with escapes between double quotes if no other style keeps it.
-/

namespace MarkerManifests
namespace Yaml

/-- How a text is written. -/
inductive Style where
  | plain
  | singleQuoted
  | doubleQuoted
  | literal
  deriving DecidableEq

namespace Scalar

/-- The characters that are no start of a plain scalar. -/
def startIndicators : List Char :=
  [',', '[', ']', '{', '}', '#', '&', '*', '!', '|', '>', '\'', '"', '%', '@', '`']

/-- The characters that are no start of a plain scalar when white space follows. -/
def spacedIndicators : List Char :=
  ['-', '?', ':']

/-- Whether a text starts with the mark between or after documents. -/
def startsWithMark : List Char → Bool
  | '-' :: '-' :: '-' :: _ => true
  | '.' :: '.' :: '.' :: _ => true
  | _ => false

/-- Whether the start of a text is an indicator. -/
def startsWithIndicator : List Char → Bool
  | [] => false
  | first :: rest =>
    startIndicators.contains first || (spacedIndicators.contains first && startsWhite rest)

/-- Whether characters after a character hold an indicator: a colon before white space, or a number
sign after it. -/
def hasInnerIndicator (before : Char) : List Char → Bool
  | [] => false
  | character :: rest =>
    (character == ':' && startsWhite rest) || (character == '#' && isWhite before) ||
      hasInnerIndicator character rest

/-- Whether a text would not be read back as one plain scalar. -/
def hasIndicator (text : List Char) : Bool :=
  startsWithMark text || startsWithIndicator text ||
    match text with
    | [] => false
    | first :: rest => hasInnerIndicator first rest

/-- Whether two neighbouring characters fulfil a condition. -/
def hasNeighbours (holds : Char → Char → Bool) : List Char → Bool
  | first :: second :: rest => holds first second || hasNeighbours holds (second :: rest)
  | _ => false

/-- Whether a text has a space before the end of a line. -/
def hasSpaceBeforeBreak (text : List Char) : Bool :=
  hasNeighbours (fun first second => first == ' ' && isBreak second) text

/-- Whether a text has a space at the start of a later line. -/
def hasSpaceAfterBreak (text : List Char) : Bool :=
  hasNeighbours (fun first second => isBreak first && second == ' ') text

/-- Whether a text has several lines. -/
def hasBreak (text : List Char) : Bool :=
  text.any isBreak

/-- A space or a character that ends a line. -/
def isSpaceOrBreak (character : Char) : Bool :=
  character == ' ' || isBreak character

/-- Whether the first or the last character of a text is a space or ends a line. -/
def hasOuterSpace (text : List Char) : Bool :=
  text.head?.any isSpaceOrBreak || text.getLast?.any isSpaceOrBreak

/-- Whether a text needs escapes in every style on one line. -/
def needsEscapes (text : List Char) : Bool :=
  hasSpaceBeforeBreak text || !text.all isPrintable

/-- The style of a text. -/
def style (text : List Char) : Style :=
  if text.contains '\n' then
    if needsEscapes text || text.getLast? == some ' ' then .doubleQuoted else .literal
  else if needsEscapes text || hasSpaceAfterBreak text then
    .doubleQuoted
  else if Plain.isAmbiguous text || hasOuterSpace text || hasBreak text || hasIndicator text then
    .singleQuoted
  else
    .plain

/-- The spaces at the start of a line. -/
def spaces (indent : Nat) : List Char :=
  List.replicate indent ' '

/-- The lines of a text between single quotes, the later ones indented. The second argument tells
whether a line has just ended. -/
def singleQuotedFrom (indent : Nat) (ended : Bool) : List Char → List Char
  | [] => if ended then spaces indent else []
  | character :: rest =>
    if isBreak character then
      character :: singleQuotedFrom indent true rest
    else
      (if ended then spaces indent else []) ++
        (if character = '\'' then ['\'', '\''] else [character]) ++
        singleQuotedFrom indent false rest

/-- An upper-case hexadecimal digit. -/
def hexDigit (value : Nat) : Char :=
  (Nat.digitChar value).toUpper

/-- The last hexadecimal digits of a number, as many as given. -/
def hexDigits (value : Nat) : Nat → List Char
  | 0 => []
  | count + 1 => hexDigits (value / 16) count ++ [hexDigit (value % 16)]

/-- The escapes of one letter. -/
def shortEscapes : List (Char × Char) := [
  ('\x00', '0'), ('\x07', 'a'), ('\x08', 'b'), ('\t', 't'), ('\n', 'n'), ('\x0b', 'v'),
  ('\x0c', 'f'), ('\r', 'r'), ('\x1b', 'e'), ('"', '"'), ('\\', '\\'), ('\x85', 'N'),
  ('\u2028', 'L'), ('\u2029', 'P')]

/-- The escape of a character. -/
def escape (character : Char) : List Char :=
  match shortEscapes.find? (·.1 = character) with
  | some (_, letter) => ['\\', letter]
  | none =>
    let code := character.toNat
    if code ≤ 0xFF then '\\' :: 'x' :: hexDigits code 2
    else if code ≤ 0xFFFF then '\\' :: 'u' :: hexDigits code 4
    else '\\' :: 'U' :: hexDigits code 8

/-- A character between double quotes. -/
def doubleQuotedCharacter (character : Char) : List Char :=
  if !isPrintable character || isBreak character || character == '"' || character == '\\' then
    escape character
  else
    [character]

/-- The indented lines of a literal block. The second argument tells whether a line has just
ended. -/
def literalFrom (indent : Nat) (ended : Bool) : List Char → List Char
  | [] => []
  | character :: rest =>
    if isBreak character then
      character :: literalFrom indent true rest
    else
      (if ended then spaces indent else []) ++ character :: literalFrom indent false rest

/-- The number of spaces by which content is indented. -/
def step : Nat := 2

/-- The hint for the indentation of a literal block that starts with white space. -/
def indentHint (text : List Char) : List Char :=
  if text.head?.any isSpaceOrBreak then Decimal.digits step else []

/-- The hint for the line ends that close a literal block: none for exactly one, a minus sign for no
and a plus sign for more. -/
def chompHint (text : List Char) : List Char :=
  match text.reverse with
  | [] => ['-']
  | [last] => if isBreak last then ['+'] else ['-']
  | last :: before :: _ =>
    if !isBreak last then ['-'] else if isBreak before then ['+'] else []

/-- A text in a style, where later lines are indented. -/
def styled (indent : Nat) (text : List Char) : Style → List Char
  | .plain => text
  | .singleQuoted => '\'' :: singleQuotedFrom indent false text ++ ['\'']
  | .doubleQuoted => '"' :: text.flatMap doubleQuotedCharacter ++ ['"']
  | .literal => '|' :: indentHint text ++ chompHint text ++ '\n' :: literalFrom indent true text

/-- Ends the last line of a text, unless it has ended. -/
def endLine (text : List Char) : List Char :=
  if text.getLast?.any isBreak then text else text ++ ['\n']

/-- A text with the end of its last line. -/
def render (indent : Nat) (text : List Char) : List Char :=
  endLine (styled indent text (style text))

/-- The greatest number of bytes of a key that stands on one line with its value. -/
def longestKey : Nat := 128

/-- Whether a key stands on one line with its value. -/
def isSimpleKey (key : String) : Bool :=
  !hasBreak key.toList && key.utf8ByteSize ≤ longestKey

end Scalar
end Yaml
end MarkerManifests
