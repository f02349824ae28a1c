import MarkerManifests.Yaml.Character
import MarkerManifests.Yaml.Plain

/-!
# Reading quoted scalars

White space around the end of a line between quotes is folded: one line end becomes a space, and of
several line ends all but one remain. Between single quotes only the quote is escaped, by writing it
twice; between double quotes a backslash starts an escape.
-/

namespace MarkerManifests
namespace Yaml
namespace Quoted

/-- White space that was met and is not yet part of the scalar. -/
structure Gap where
  /-- The blanks on the line. -/
  blanks : List Char := []
  /-- The number of line ends. -/
  breaks : Nat := 0
  /-- Whether the first line end was escaped. -/
  escaped : Bool := false

namespace Gap

/-- The text that line ends are folded into. -/
def folded : Nat → List Char
  | 0 => []
  | 1 => [' ']
  | count + 2 => List.replicate (count + 1) '\n'

/-- The text that a gap becomes part of the scalar as. -/
def text (gap : Gap) : List Char :=
  if gap.escaped then List.replicate gap.breaks '\n'
  else if gap.breaks = 0 then gap.blanks
  else folded gap.breaks

/-- The gap with one more character of white space. -/
def extend (gap : Gap) (character : Char) : Gap :=
  if isBreak character then { gap with blanks := [], breaks := gap.breaks + 1 }
  else if gap.escaped || gap.breaks != 0 then gap
  else { gap with blanks := gap.blanks ++ [character] }

end Gap

/-- The scalar before the closing single quote, after a gap, and the text after the quote. -/
def readSingle (gap : Gap) : List Char → Option (List Char × List Char)
  | [] => none
  | '\'' :: '\'' :: rest =>
    (readSingle {} rest).map fun (text, after) => (gap.text ++ '\'' :: text, after)
  | '\'' :: rest => some (gap.text, rest)
  | character :: rest =>
    if isWhite character then
      readSingle (gap.extend character) rest
    else
      (readSingle {} rest).map fun (text, after) => (gap.text ++ character :: text, after)

/-- The characters of one-letter escapes. -/
def escapes : List (Char × Char) := [
  ('0', '\x00'), ('a', '\x07'), ('b', '\x08'), ('t', '\t'), ('\t', '\t'), ('n', '\n'),
  ('v', '\x0b'), ('f', '\x0c'), ('r', '\r'), ('e', '\x1b'), (' ', ' '), ('"', '"'), ('/', '/'),
  ('\\', '\\'), ('N', '\x85'), ('_', '\xa0'), ('L', '\u2028'), ('P', '\u2029')]

/-- The number of digits after the letter of an escape by number. -/
def digitCount? : Char → Option Nat
  | 'x' => some 2
  | 'u' => some 4
  | 'U' => some 8
  | _ => none

/-- The character that digits name. -/
def characterOf? (digits : List Char) : Option Char := do
  let code ← Plain.natural? 16 digits
  if code.isValidChar then some (Char.ofNat code) else none

/-- The scalar before the closing double quote, after a gap, and the text after the quote. The first
argument tells how many characters of an escape are left, and the second holds those before them. -/
def readDouble : Nat → List Char → Gap → List Char → Option (List Char × List Char)
  | _, _, _, [] => none
  | 0, _, gap, '"' :: rest => some (gap.text, rest)
  | 0, _, gap, '\\' :: letter :: rest =>
    if isBreak letter then
      (readDouble 0 [] { escaped := true } rest).map fun (text, after) => (gap.text ++ text, after)
    else
      match escapes.find? (·.1 = letter) with
      | some (_, character) =>
        (readDouble 0 [] {} rest).map fun (text, after) => (gap.text ++ character :: text, after)
      | none =>
        match digitCount? letter with
        | none => none
        | some count =>
          (readDouble count [] {} rest).map fun (text, after) => (gap.text ++ text, after)
  | 0, _, gap, character :: rest =>
    if isWhite character then
      readDouble 0 [] (gap.extend character) rest
    else
      (readDouble 0 [] {} rest).map fun (text, after) => (gap.text ++ character :: text, after)
  | 1, digits, _, digit :: rest =>
    match characterOf? (digits ++ [digit]) with
    | none => none
    | some character =>
      (readDouble 0 [] {} rest).map fun (text, after) => (character :: text, after)
  | count + 2, digits, gap, digit :: rest => readDouble (count + 1) (digits ++ [digit]) gap rest

/-- The scalar that a text starts with, if it starts with a quote, and the text after it. -/
def read? : List Char → Option (List Char × List Char)
  | '\'' :: rest => readSingle {} rest
  | '"' :: rest => readDouble 0 [] {} rest
  | _ => none

end Quoted
end Yaml
end MarkerManifests
