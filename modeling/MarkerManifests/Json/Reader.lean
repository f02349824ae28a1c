import MarkerManifests.Json.Basic
import MarkerManifests.Number.Reader

/-!
# Reading JSON

A strict reader: one value with JSON blanks around it, no superfluous commas, no unescaped control
characters, no lone surrogates and at most 127 arrays and objects around a value. Repeated keys are
kept, in the order in which they were written.
-/

namespace MarkerManifests
namespace Json

/-- How many arrays and objects may stand around a value. -/
def greatestDepth : Nat := 127

/-- The text after its leading JSON blanks: spaces, tabs and line ends. -/
def skipBlanks (text : List Char) : List Char :=
  text.dropWhile fun c => c == ' ' || c == '\n' || c == '\t' || c == '\r'

/-- The value of a hexadecimal digit. -/
def hexValue? (digit : Char) : Option Nat :=
  if '0' ≤ digit ∧ digit ≤ '9' then some (digit.toNat - '0'.toNat)
  else if 'a' ≤ digit ∧ digit ≤ 'f' then some (digit.toNat - 'a'.toNat + 10)
  else if 'A' ≤ digit ∧ digit ≤ 'F' then some (digit.toNat - 'A'.toNat + 10)
  else none

/-- The value of four hexadecimal digits. -/
def unit? (first second third fourth : Char) : Option Nat := do
  let first ← hexValue? first
  let second ← hexValue? second
  let third ← hexValue? third
  let fourth ← hexValue? fourth
  return ((first * 16 + second) * 16 + third) * 16 + fourth

/-- The character of an escape of one letter. -/
def unescaped? : Char → Option Char
  | '"' => some '"'
  | '\\' => some '\\'
  | '/' => some '/'
  | 'b' => some '\x08'
  | 'f' => some '\x0c'
  | 'n' => some '\n'
  | 'r' => some '\r'
  | 't' => some '\t'
  | _ => none

/-- The characters up to the closing quote, and the text after it. -/
def readString : List Char → Option (List Char × List Char)
  | [] => none
  | '"' :: rest => some ([], rest)
  | '\\' :: 'u' :: first :: second :: third :: fourth :: rest =>
    match unit? first second third fourth with
    | none => none
    | some high =>
      if 0xD800 ≤ high ∧ high < 0xDC00 then
        match rest with
        | '\\' :: 'u' :: fifth :: sixth :: seventh :: eighth :: rest =>
          match unit? fifth sixth seventh eighth with
          | none => none
          | some low =>
            if 0xDC00 ≤ low ∧ low < 0xE000 then
              (readString rest).map fun (text, rest) =>
                (Char.ofNat (0x10000 + (high - 0xD800) * 0x400 + (low - 0xDC00)) :: text, rest)
            else
              none
        | _ => none
      else if 0xDC00 ≤ high ∧ high < 0xE000 then
        none
      else
        (readString rest).map fun (text, rest) => (Char.ofNat high :: text, rest)
  | '\\' :: letter :: rest =>
    match unescaped? letter with
    | none => none
    | some character => (readString rest).map fun (text, rest) => (character :: text, rest)
  | character :: rest =>
    if character = '\\' ∨ character.toNat < 0x20 then none
    else (readString rest).map fun (text, rest) => (character :: text, rest)

/-- Reads the items after an opening bracket, given a reader for one value. The first argument
bounds the number of items. -/
def readItems (readOne : List Char → Option (Json × List Char)) :
    Nat → List Char → Option (List Json × List Char)
  | 0, _ => none
  | bound + 1, text => do
    let (item, rest) ← readOne text
    match skipBlanks rest with
    | ',' :: rest =>
      let (items, rest) ← readItems readOne bound rest
      return (item :: items, rest)
    | ']' :: rest => return ([item], rest)
    | _ => none

/-- Reads the entries after an opening brace, given a reader for one value. The first argument
bounds the number of entries. -/
def readEntries (readOne : List Char → Option (Json × List Char)) :
    Nat → List Char → Option (List (String × Json) × List Char)
  | 0, _ => none
  | bound + 1, text => do
    match skipBlanks text with
    | '"' :: rest =>
      let (key, rest) ← readString rest
      match skipBlanks rest with
      | ':' :: rest =>
        let (value, rest) ← readOne rest
        match skipBlanks rest with
        | ',' :: rest =>
          let (entries, rest) ← readEntries readOne bound rest
          return ((String.ofList key, value) :: entries, rest)
        | '}' :: rest => return ([(String.ofList key, value)], rest)
        | _ => none
      | _ => none
    | _ => none

/-- Reads the value at the start of a text, in which arrays and objects may still be nested as
deep as the first argument says. -/
def readValue : Nat → List Char → Option (Json × List Char)
  | depth, text =>
    match skipBlanks text, depth with
    | 'n' :: 'u' :: 'l' :: 'l' :: rest, _ => some (null, rest)
    | 't' :: 'r' :: 'u' :: 'e' :: rest, _ => some (bool true, rest)
    | 'f' :: 'a' :: 'l' :: 's' :: 'e' :: rest, _ => some (bool false, rest)
    | '"' :: rest, _ => (readString rest).map fun (text, rest) => (string (String.ofList text), rest)
    | '[' :: rest, depth + 1 =>
      match skipBlanks rest with
      | ']' :: rest => some (array [], rest)
      | _ => (readItems (readValue depth) rest.length rest).map fun (items, rest) =>
        (array items, rest)
    | '{' :: rest, depth + 1 =>
      match skipBlanks rest with
      | '}' :: rest => some (object [], rest)
      | _ => (readEntries (readValue depth) rest.length rest).map fun (entries, rest) =>
        (object entries, rest)
    | '[' :: _, 0 => none
    | '{' :: _, 0 => none
    | text, _ =>
      match Number.readPrefix text with
      | .ok (value, rest) => some (number value, rest)
      | .error _ => none

/-- The document that a whole text spells, with repeated keys. -/
def readRaw? (text : List Char) : Option Json :=
  match readValue greatestDepth text with
  | some (document, rest) => if skipBlanks rest = [] then some document else none
  | none => none

/-- The document that a whole text spells; a repeated key has its last value. -/
def read? (text : List Char) : Option Json :=
  (readRaw? text).map normal

end Json
end MarkerManifests
