import MarkerManifests.Json.Basic
import MarkerManifests.Yaml.Scalar

/-!
# Writing documents

Documents in block style: every entry and every item stands on a line of its own, and the items of a
list that is the value of a key stand as deep as the key. Empty arrays and objects stay on their
line. A key that is long or has several lines follows a question mark.
-/

namespace MarkerManifests
namespace Yaml

/-- Doubles in YAML have no plus sign before a positive exponent. -/
def doubleSpelling : Double.Spelling where
  plusSign := false

/-- The text of a document that is neither an array nor an object with content, with the end of its
last line. -/
def leaf (indent : Nat) : Json → List Char
  | .null => ['n', 'u', 'l', 'l', '\n']
  | .bool true => ['t', 'r', 'u', 'e', '\n']
  | .bool false => ['f', 'a', 'l', 's', 'e', '\n']
  | .number value => value.text doubleSpelling ++ ['\n']
  | .string value => Scalar.render indent value.toList
  | .array _ => ['[', ']', '\n']
  | .object _ => ['{', '}', '\n']

/-- The text of a key on the line of its value. -/
def keyText (key : String) : List Char :=
  Scalar.styled Scalar.step key.toList (Scalar.style key.toList)

/-- A document after the colon of its key, given the lines of the document at an indentation. -/
def afterKey (indent : Nat) (document : Json) (block : Nat → List Char) : List Char :=
  match document with
  | .array (_ :: _) => '\n' :: Scalar.spaces indent ++ block indent
  | .object (_ :: _) =>
    '\n' :: Scalar.spaces (indent + Scalar.step) ++ block (indent + Scalar.step)
  | _ => ' ' :: block (indent + Scalar.step)

/-- An entry of an object, without the spaces before it, given the lines of its value at an
indentation. -/
def entry (indent : Nat) (key : String) (value : Json) (block : Nat → List Char) : List Char :=
  if Scalar.isSimpleKey key then
    keyText key ++ ':' :: afterKey indent value block
  else
    '?' :: ' ' :: Scalar.render (indent + Scalar.step) key.toList ++
      Scalar.spaces indent ++ ':' :: ' ' :: block (indent + Scalar.step)

mutual

/-- The lines of a document at an indentation, without the spaces before the first line. -/
def block (indent : Nat) : Json → List Char
  | .array (first :: rest) =>
    '-' :: ' ' :: block (indent + Scalar.step) first ++ items indent rest
  | .object ((key, value) :: rest) =>
    entry indent key value (fun depth => block depth value) ++ entries indent rest
  | document => leaf indent document

/-- The lines of items. -/
def items (indent : Nat) : List Json → List Char
  | [] => []
  | item :: rest =>
    Scalar.spaces indent ++ '-' :: ' ' :: block (indent + Scalar.step) item ++ items indent rest

/-- The lines of entries. -/
def entries (indent : Nat) : List (String × Json) → List Char
  | [] => []
  | (key, value) :: rest =>
    Scalar.spaces indent ++ entry indent key value (fun depth => block depth value) ++
      entries indent rest

end

/-- The text of a document. -/
def render : Json → List Char
  | .array (first :: rest) => block 0 (.array (first :: rest))
  | .object (first :: rest) => block 0 (.object (first :: rest))
  | document => leaf Scalar.step document

end Yaml
end MarkerManifests
