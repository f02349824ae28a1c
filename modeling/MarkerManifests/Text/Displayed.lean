import MarkerManifests.Text.Hidden

/-!
# Text shown between quotes

Messages show texts between double quotes. Quotes, backslashes and white space other than the
space are escaped, and characters that cannot be shown on their own are written as code points.
-/

namespace MarkerManifests
namespace Text

/-- The code point of a character in braces. -/
def codePoint (character : Char) : List Char :=
  ['\\', 'u', '\x7b'] ++ Nat.toDigits 16 character.toNat ++ ['\x7d']

/-- A character between quotes. -/
def displayedCharacter (character : Char) : List Char :=
  if character = '\x00' then ['\\', '0']
  else if character = '\t' then ['\\', 't']
  else if character = '\r' then ['\\', 'r']
  else if character = '\n' then ['\\', 'n']
  else if character = '"' then ['\\', '"']
  else if character = '\\' then ['\\', '\\']
  else if isHidden character then codePoint character
  else [character]

/-- A text between quotes. -/
def displayed (text : String) : String :=
  String.ofList ('"' :: text.toList.flatMap displayedCharacter ++ ['"'])

/-- Texts between quotes, as a list in brackets. -/
def displayedList (texts : List String) : String :=
  "[" ++ ", ".intercalate (texts.map displayed) ++ "]"

end Text
end MarkerManifests
