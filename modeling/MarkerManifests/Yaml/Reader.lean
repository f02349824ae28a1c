import MarkerManifests.Yaml.Flow

/-!
# Reading documents

Documents in block style: entries and items at the same column belong together, and what is deeper
belongs to the entry or item before it. The items of a list may stand as deep as the key of the
list. Anchors, tags and block scalars are not read.
-/

namespace MarkerManifests
namespace Yaml

/-- A scalar or a node of flow style at a place, and the place after it. -/
def readAtom (indent : Int) (cursor : Cursor) : Option (Tree × Cursor) :=
  match cursor.rest with
  | [] => none
  | first :: _ =>
    if ['[', '{', '"', '\''].contains first then do
      let (tree, after) ← readFlow (2 * cursor.rest.length + 2) cursor.rest
      return (tree, cursor.moveTo after)
    else if startsPlain false cursor.rest then do
      let (text, place) ← readPlain false indent (cursor.rest.length + 1) cursor
      return (.scalar true (String.ofList text), place)
    else
      none

/-- The key at a place, which is followed by a colon on its line, and the place of the colon. -/
def readKey (indent : Int) (cursor : Cursor) : Option (Tree × Cursor) := do
  let (key, after) ← readAtom indent cursor
  let colon := after.skipBlanks
  if colon.isAtColon && Cursor.isKey cursor.rest colon.rest then some (key, colon) else none

mutual

/-- The node after a place, deeper than an indentation, and a place after it. The flags tell whether
a mapping or a sequence may start on the line of the place, and whether a sequence may stand at the
indentation. -/
def readNode : Nat → Int → Bool → Bool → Cursor → Option (Tree × Cursor)
  | 0, _, _, _, _ => none
  | fuel + 1, indent, inLine, atIndent, before =>
    let cursor := before.skip
    let collections := inLine || cursor.fresh
    if cursor.isAtEnd then
      some (.absent, cursor)
    else if cursor.column ≤ indent then
      if atIndent && cursor.fresh && decide (cursor.column = indent) && cursor.isAtDash then
        readSequence fuel cursor.column [] cursor
      else
        some (.absent, cursor)
    else if cursor.isAtDash then
      if collections then readSequence fuel cursor.column [] cursor else none
    else do
      let (tree, after) ← readAtom indent cursor
      let colon := after.skipBlanks
      if colon.isAtColon then
        if collections && Cursor.isKey cursor.rest colon.rest then
          readMapping fuel cursor.column [] tree colon
        else
          none
      else
        return (tree, after)

/-- The sequence at a column, from the indicator of an item on, after the items before it. -/
def readSequence : Nat → Nat → List Tree → Cursor → Option (Tree × Cursor)
  | 0, _, _, _ => none
  | fuel + 1, column, before, dash => do
    let (item, after) ← readNode fuel column true false (dash.advance 1)
    let next := after.skip
    if next.isAtEnd then
      return (.sequence (before ++ [item]), next)
    else if next.fresh then
      if next.column = column && next.isAtDash then
        readSequence fuel column (before ++ [item]) next
      else if next.column ≤ column then
        return (.sequence (before ++ [item]), next)
      else
        none
    else
      none

/-- The mapping at a column, from the colon of a key on, after the entries before it. -/
def readMapping : Nat → Nat → List (Tree × Tree) → Tree → Cursor → Option (Tree × Cursor)
  | 0, _, _, _, _ => none
  | fuel + 1, column, before, key, colon => do
    let (value, after) ← readNode fuel column false true (colon.advance 1)
    let next := after.skip
    if next.isAtEnd then
      return (.mapping (before ++ [(key, value)]), next)
    else if next.fresh then
      if next.column = column then
        let (other, colon) ← readKey column next
        readMapping fuel column (before ++ [(key, value)]) other colon
      else if next.column < column then
        return (.mapping (before ++ [(key, value)]), next)
      else
        none
    else
      none

end

/-- Lines that end with a line feed: a carriage return, alone or before a line feed, ends a line as
well. -/
def unifyBreaks : List Char → List Char
  | [] => []
  | '\r' :: '\n' :: rest => '\n' :: unifyBreaks rest
  | '\r' :: rest => '\n' :: unifyBreaks rest
  | character :: rest => character :: unifyBreaks rest

/-- The place where a document starts: after the mark between documents, if it stands there. -/
def documentStart (text : List Char) : Cursor :=
  let cursor := Cursor.skip ⟨text, 0, true⟩
  if cursor.isAtMark && cursor.rest.head?.any (· == '-') then cursor.advance 3 else cursor

/-- Whether only the mark after a document is left. -/
def isFinished (cursor : Cursor) : Bool :=
  match cursor.rest with
  | [] => true
  | '.' :: _ => cursor.isAtMark && (cursor.advance 3).skip.rest.isEmpty
  | _ => false

/-- The text after a byte order mark. -/
def withoutMark : List Char → List Char
  | '\ufeff' :: rest => rest
  | text => text

/-- The greatest depth of a document. -/
def greatestDepth : Nat := 128

/-- The only document of a text. -/
def read? (text : List Char) : Option Tree := do
  let text := withoutMark text
  if text.all isReadable then
    let text := unifyBreaks text
    let (tree, after) ← readNode (2 * text.length + 4) (-1) false false (documentStart text)
    if isFinished after.skip && decide (tree.depth ≤ greatestDepth) then some tree else none
  else
    none

end Yaml
end MarkerManifests
