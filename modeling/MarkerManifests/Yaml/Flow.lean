import MarkerManifests.Yaml.Cursor
import MarkerManifests.Yaml.Quoted
import MarkerManifests.Yaml.Tree

/-!
# Reading plain scalars and flow style

A plain scalar goes on over lines that are deeper than its surroundings, with their ends folded. In
flow style, brackets hold items and braces hold entries between commas, and indentation means
nothing.
-/

namespace MarkerManifests
namespace Yaml

/-! ## Plain scalars -/

/-- The characters that end a plain scalar in flow style. -/
def flowIndicators : List Char :=
  [',', '[', ']', '{', '}']

/-- The leading word of a plain scalar and the text after it. In flow style, a colon before an
indicator is refused. -/
def plainWord? (flow : Bool) : List Char → Option (List Char × List Char)
  | [] => some ([], [])
  | character :: rest =>
    if isWhite character || (character == ':' && startsWhite rest) ||
        (flow && flowIndicators.contains character) then
      some ([], character :: rest)
    else if flow && character == ':' && rest.head?.any ('?' :: flowIndicators).contains then
      none
    else
      (plainWord? flow rest).map fun (word, after) => (character :: word, after)

/-- The place after blanks and line ends, and the number of line ends. -/
def skipWhite (column breaks : Nat) : List Char → Nat × Nat × List Char
  | [] => (column, breaks, [])
  | character :: rest =>
    if isBreak character then skipWhite 0 (breaks + 1) rest
    else if isBlank character then skipWhite (column + 1) breaks rest
    else (column, breaks, character :: rest)

/-- Whether a plain scalar goes on at a place after white space. -/
def continues (flow : Bool) (indent : Int) (breaks : Nat) (cursor : Cursor) : Bool :=
  !cursor.isAtEnd && !cursor.rest.head?.any (· == '#') &&
    (flow || breaks == 0 || decide (indent < cursor.column))

/-- A plain scalar from a place on, in surroundings with an indentation. -/
def readPlain (flow : Bool) (indent : Int) : Nat → Cursor → Option (List Char × Cursor)
  | 0, _ => none
  | fuel + 1, cursor => do
    let (word, after) ← plainWord? flow cursor.rest
    let ending : Cursor := ⟨after, cursor.column + word.length, false⟩
    let (column, breaks, next) := skipWhite ending.column 0 after
    let place : Cursor := ⟨next, column, false⟩
    if next.length < after.length && continues flow indent breaks place then
      match ← plainWord? flow next with
      | ([], _) => return (word, ending)
      | _ =>
        let (more, final) ← readPlain flow indent fuel place
        let between :=
          if breaks = 0 then after.take (after.length - next.length)
          else Quoted.Gap.folded breaks
        return (word ++ between ++ more, final)
    else
      return (word, ending)

/-- Whether a plain scalar starts with a text. -/
def startsPlain (flow : Bool) : List Char → Bool
  | [] => false
  | first :: rest =>
    if first == '-' then !startsWhite rest
    else if first == '?' || first == ':' then !flow && !startsWhite rest
    else !isWhite first && !Scalar.startIndicators.contains first

/-! ## Flow style -/

/-- The text from the next token of flow style on. -/
def skipFlow (text : List Char) : List Char :=
  (Cursor.skipFrom true false 0 false text).rest

mutual

/-- A node of flow style at the start of a text, and the text after it. -/
def readFlow : Nat → List Char → Option (Tree × List Char)
  | 0, _ => none
  | fuel + 1, text =>
    match text with
    | '[' :: rest => readFlowItems fuel [] (skipFlow rest)
    | '{' :: rest => readFlowEntries fuel [] (skipFlow rest)
    | first :: _ =>
      if first == '"' || first == '\'' then do
        let (scalar, rest) ← Quoted.read? text
        return (.scalar false (String.ofList scalar), rest)
      else if startsPlain true text then do
        let (scalar, place) ← readPlain true (-1) (text.length + 1) ⟨text, 0, false⟩
        return (.scalar true (String.ofList scalar), place.rest)
      else
        none
    | [] => none

/-- A value after a colon of flow style. -/
def readFlowValue : Nat → List Char → Option (Tree × List Char)
  | 0, _ => none
  | fuel + 1, text =>
    let text := skipFlow text
    if text.head?.any [',', ']', '}'].contains then some (.absent, text)
    else readFlow fuel text

/-- The items before a closing bracket, after the items before them. An item with a colon is a
mapping of one entry. -/
def readFlowItems : Nat → List Tree → List Char → Option (Tree × List Char)
  | 0, _, _ => none
  | fuel + 1, before, text =>
    match text with
    | ']' :: rest => some (.sequence before, rest)
    | _ => do
      let (node, rest) ← readFlow fuel text
      let (item, rest) ← match skipFlow rest with
        | ':' :: after =>
          if Cursor.isKey text (':' :: after) then do
            let (value, rest) ← readFlowValue fuel after
            pure (Tree.mapping [(node, value)], rest)
          else
            none
        | rest => pure (node, rest)
      match skipFlow rest with
      | ',' :: rest => readFlowItems fuel (before ++ [item]) (skipFlow rest)
      | ']' :: rest => return (.sequence (before ++ [item]), rest)
      | _ => none

/-- The entries before a closing brace, after the entries before them. A key without a colon has an
absent value. -/
def readFlowEntries : Nat → List (Tree × Tree) → List Char → Option (Tree × List Char)
  | 0, _, _ => none
  | fuel + 1, before, text =>
    match text with
    | '}' :: rest => some (.mapping before, rest)
    | _ => do
      let (key, rest) ← match text with
        | ':' :: _ => pure (Tree.absent, text)
        | _ => readFlow fuel text
      let (value, rest) ← match skipFlow rest with
        | ':' :: after =>
          if Cursor.isKey text (':' :: after) then readFlowValue fuel after else none
        | rest => pure (Tree.absent, rest)
      match skipFlow rest with
      | ',' :: rest => readFlowEntries fuel (before ++ [(key, value)]) (skipFlow rest)
      | '}' :: rest => return (.mapping (before ++ [(key, value)]), rest)
      | _ => none

end

end Yaml
end MarkerManifests
