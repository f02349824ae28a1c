import MarkerManifests.Json.Basic

/-!
# Writing JSON

The compact form has no blanks. The indented form puts every item and entry on a line of its own,
two spaces deeper than the brackets, and keeps empty arrays and objects on one line.
-/

namespace MarkerManifests
namespace Json

/-- Doubles in JSON carry the sign of a positive exponent. -/
def doubleSpelling : Double.Spelling where
  plusSign := true

/-- A lower-case hexadecimal digit. -/
def hexDigit (value : Nat) : Char :=
  Nat.digitChar value

/-- A character between quotes: quotes, backslashes and control characters are escaped. -/
def escaped (character : Char) : List Char :=
  if character = '"' then ['\\', '"']
  else if character = '\\' then ['\\', '\\']
  else if character = '\n' then ['\\', 'n']
  else if character = '\r' then ['\\', 'r']
  else if character = '\t' then ['\\', 't']
  else if character = '\x08' then ['\\', 'b']
  else if character = '\x0c' then ['\\', 'f']
  else if character.toNat < 0x20 then
    ['\\', 'u', '0', '0', hexDigit (character.toNat / 16), hexDigit (character.toNat % 16)]
  else [character]

/-- A string between quotes. -/
def quoted (text : List Char) : List Char :=
  '"' :: text.flatMap escaped ++ ['"']

mutual

/-- The compact text of a document. -/
def compact : Json → List Char
  | null => ['n', 'u', 'l', 'l']
  | bool true => ['t', 'r', 'u', 'e']
  | bool false => ['f', 'a', 'l', 's', 'e']
  | number value => value.text doubleSpelling
  | string value => quoted value.toList
  | array items => '[' :: compactItems items ++ [']']
  | object entries => '{' :: compactEntries entries ++ ['}']

/-- The compact texts of items, with commas between them. -/
def compactItems : List Json → List Char
  | [] => []
  | [item] => compact item
  | item :: next :: rest => compact item ++ ',' :: compactItems (next :: rest)

/-- The compact texts of entries, with commas between them. -/
def compactEntries : List (String × Json) → List Char
  | [] => []
  | [(key, value)] => quoted key.toList ++ ':' :: compact value
  | (key, value) :: next :: rest =>
    quoted key.toList ++ ':' :: compact value ++ ',' :: compactEntries (next :: rest)

end

/-- A line break and the indentation of a depth. -/
def newLine (depth : Nat) : List Char :=
  '\n' :: List.replicate (2 * depth) ' '

mutual

/-- The indented text of a document whose brackets stand at a depth. -/
def indented (depth : Nat) : Json → List Char
  | array (item :: rest) =>
    '[' :: indentedItems (depth + 1) (item :: rest) ++ newLine depth ++ [']']
  | object (entry :: rest) =>
    '{' :: indentedEntries (depth + 1) (entry :: rest) ++ newLine depth ++ ['}']
  | array [] => ['[', ']']
  | object [] => ['{', '}']
  | null => compact null
  | bool value => compact (bool value)
  | number value => compact (number value)
  | string value => compact (string value)

/-- Items on lines of their own, with commas after all but the last. -/
def indentedItems (depth : Nat) : List Json → List Char
  | [] => []
  | [item] => newLine depth ++ indented depth item
  | item :: next :: rest =>
    newLine depth ++ indented depth item ++ ',' :: indentedItems depth (next :: rest)

/-- Entries on lines of their own, with commas after all but the last. -/
def indentedEntries (depth : Nat) : List (String × Json) → List Char
  | [] => []
  | [(key, value)] => newLine depth ++ quoted key.toList ++ ':' :: ' ' :: indented depth value
  | (key, value) :: next :: rest =>
    newLine depth ++ quoted key.toList ++ ':' :: ' ' :: indented depth value ++
      ',' :: indentedEntries depth (next :: rest)

end

/-- The compact text of a document. -/
def text (document : Json) : String :=
  String.ofList document.compact

/-- The indented text of a document. -/
def indentedText (document : Json) : String :=
  String.ofList (document.indented 0)

end Json
end MarkerManifests
