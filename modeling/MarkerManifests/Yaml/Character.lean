import MarkerManifests.Text.Ranges

/-!
# Characters of YAML

The classes of characters that decide how scalars are read and written.
-/

namespace MarkerManifests
namespace Yaml

/-- A character that ends a line. -/
def isBreak (character : Char) : Bool :=
  character == '\n' || character == '\r' || character == '\x85' || character == '\u2028' ||
    character == '\u2029'

/-- A space or a tab. -/
def isBlank (character : Char) : Bool :=
  character == ' ' || character == '\t'

/-- A blank or a character that ends a line. -/
def isWhite (character : Char) : Bool :=
  isBlank character || isBreak character

/-- Whether a text is empty or starts with white space. -/
def startsWhite : List Char → Bool
  | [] => true
  | character :: _ => isWhite character

/-- The ranges of characters that are written as they are. -/
def printableRanges : List (Nat × Nat) := [
  (0x0A, 0x0A), (0x20, 0x7E), (0xA0, 0xD7FF), (0xE000, 0xFEFE), (0xFF00, 0xFFFD),
  (0x10000, 0x10FFFF)]

/-- Whether a character is written as it is, other characters are escaped. -/
def isPrintable (character : Char) : Bool :=
  Text.isWithin printableRanges character

/-- The ranges of characters that a document may hold. -/
def readableRanges : List (Nat × Nat) := [
  (0x09, 0x0A), (0x0D, 0x0D), (0x20, 0x7E), (0x85, 0x85), (0xA0, 0xD7FF), (0xE000, 0xFEFE),
  (0xFF00, 0xFFFD), (0x10000, 0x10FFFF)]

/-- Whether a document may hold a character. -/
def isReadable (character : Char) : Bool :=
  Text.isWithin readableRanges character

end Yaml
end MarkerManifests
