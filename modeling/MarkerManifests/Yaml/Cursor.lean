import MarkerManifests.Yaml.Scalar

/-!
# Places in a text

What is left of a text at a place, with the column of the place. Tokens stand between white space and
comments, which end their lines.
-/

namespace MarkerManifests
namespace Yaml

/-- A place in a text. -/
structure Cursor where
  /-- The text from the place on. -/
  rest : List Char
  column : Nat := 0
  /-- Whether only white space stands before the place on its line. -/
  fresh : Bool := true

namespace Cursor

/-- The place of the next token. Tabs do not indent a line of block style. The first arguments tell
whether tabs are skipped everywhere, and whether the place is inside a comment. -/
def skipFrom (flow comment : Bool) (column : Nat) (fresh : Bool) : List Char → Cursor
  | [] => ⟨[], column, fresh⟩
  | character :: rest =>
    if isBreak character then skipFrom flow false 0 true rest
    else if comment || character == ' ' || (character == '\t' && (flow || !fresh)) then
      skipFrom flow comment (column + 1) fresh rest
    else if character == '#' then skipFrom flow true (column + 1) fresh rest
    else ⟨character :: rest, column, fresh⟩

/-- The place of the next token in block style. -/
def skip (cursor : Cursor) : Cursor :=
  skipFrom false false cursor.column cursor.fresh cursor.rest

/-- The place after some characters, which are on one line. -/
def advance (cursor : Cursor) (count : Nat) : Cursor :=
  ⟨cursor.rest.drop count, cursor.column + count, false⟩

/-- The characters between a place and a later text. -/
def consumed (cursor : Cursor) (after : List Char) : List Char :=
  cursor.rest.take (cursor.rest.length - after.length)

/-- The greatest number of characters between the start of a key and its colon. -/
def longestKey : Nat := 1024

/-- Whether a key may stand between a text and a later text: on one line, and not too long. -/
def isKey (text colon : List Char) : Bool :=
  let key := text.take (text.length - colon.length)
  !key.any isBreak && decide (key.length ≤ longestKey)

/-- The place of a later text. -/
def moveTo (cursor : Cursor) (after : List Char) : Cursor :=
  ⟨after, cursor.column + (cursor.consumed after).length, false⟩

/-- The place after the blanks on the line. -/
def skipBlanks (cursor : Cursor) : Cursor :=
  let blanks := cursor.rest.takeWhile isBlank
  { cursor with
    rest := cursor.rest.drop blanks.length
    column := cursor.column + blanks.length }

/-- Whether the mark between or after documents stands at a place. -/
def isAtMark (cursor : Cursor) : Bool :=
  cursor.column == 0 && Scalar.startsWithMark cursor.rest && startsWhite (cursor.rest.drop 3)

/-- Whether nothing of the document is left. -/
def isAtEnd (cursor : Cursor) : Bool :=
  cursor.rest.isEmpty || cursor.isAtMark

/-- Whether the indicator of an item stands at a place. -/
def isAtDash (cursor : Cursor) : Bool :=
  match cursor.rest with
  | '-' :: rest => startsWhite rest
  | _ => false

/-- Whether the indicator of a value in block style stands at a place. -/
def isAtColon (cursor : Cursor) : Bool :=
  match cursor.rest with
  | ':' :: rest => startsWhite rest
  | _ => false

end Cursor
end Yaml
end MarkerManifests
