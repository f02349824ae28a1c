import MarkerManifests.Text.Blank
import MarkerManifests.Text.Pieces

/-!
# Comments

A comment is a list of entries, and an entry may hold several lines. A marker line is a line whose
first character after the comment leader is a plus sign that a letter follows; all other lines are
prose and form the description.
-/

namespace MarkerManifests
namespace Comment

/-- The line without its comment leader and the blanks around the text. -/
def stripLeader (line : List Char) : List Char :=
  match Text.trim line with
  | '/' :: '/' :: rest => Text.trim (rest.dropWhile (· == '/'))
  | '#' :: rest => Text.trim rest
  | '*' :: rest => Text.trim rest
  | text => Text.trim text

/-- The marker of a line without its plus sign; prose has none. -/
def markerBody? (line : List Char) : Option (List Char) :=
  match stripLeader line with
  | '+' :: first :: rest => if first.isAlpha then some (first :: rest) else none
  | _ => none

/-- The line without the carriage return that ends it. -/
def stripReturn (line : List Char) : List Char :=
  if line.getLast? = some '\r' then line.dropLast else line

/-- The lines of a comment. Every entry has at least one line. -/
def lines (entries : List String) : List (List Char) :=
  entries.flatMap fun entry => (Text.pieces '\n' entry.toList).map stripReturn

/-- The markers of lines, with the indices of the lines. -/
def markersFrom (index : Nat) : List (List Char) → List (Nat × List Char)
  | [] => []
  | line :: rest =>
    match markerBody? line with
    | some body => (index, body) :: markersFrom (index + 1) rest
    | none => markersFrom (index + 1) rest

/-- The markers of a comment, with the indices of their lines. -/
def markers (entries : List String) : List (Nat × List Char) :=
  markersFrom 0 (lines entries)

/-- A paragraph of the given lines, unless there is none. -/
def closeParagraph (current : List (List Char)) : List (List Char) :=
  if current.isEmpty then [] else [Text.joined [' '] current]

/-- The paragraphs of lines, after the lines of a paragraph that was begun. Marker lines are left
out and empty lines end a paragraph. -/
def paragraphs (current : List (List Char)) : List (List Char) → List (List Char)
  | [] => closeParagraph current
  | line :: rest =>
    if (markerBody? line).isSome then
      paragraphs current rest
    else
      match stripLeader line with
      | [] => closeParagraph current ++ paragraphs [] rest
      | text => paragraphs (current ++ [text]) rest

/-- The prose of a comment: lines joined with spaces, paragraphs with line ends. -/
def description? (entries : List String) : Option String :=
  match paragraphs [] (lines entries) with
  | [] => none
  | found => some (String.ofList (Text.joined ['\n'] found))

end Comment
end MarkerManifests
