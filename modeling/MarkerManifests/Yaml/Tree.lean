import MarkerManifests.Json.Basic
import MarkerManifests.Yaml.Plain

/-!
# YAML trees

A document as it is written: scalars keep their text, and only the reader of a value decides what a
plain scalar means. Taken for itself, a plain scalar means what it spells.
-/

namespace MarkerManifests
namespace Yaml

/-- A node of a document. -/
inductive Tree where
  /-- A scalar and whether it is without quotes. -/
  | scalar (plain : Bool) (text : String)
  | sequence (items : List Tree)
  | mapping (entries : List (Tree × Tree))
  deriving Inhabited

namespace Tree

mutual

/-- The number of sequences and mappings around the deepest node. -/
def depth : Tree → Nat
  | scalar _ _ => 0
  | sequence items => depthOfItems items + 1
  | mapping entries => depthOfEntries entries + 1

/-- The depth of the deepest item. -/
def depthOfItems : List Tree → Nat
  | [] => 0
  | item :: rest => max item.depth (depthOfItems rest)

/-- The depth of the deepest key or value. -/
def depthOfEntries : List (Tree × Tree) → Nat
  | [] => 0
  | (key, value) :: rest => max (max key.depth value.depth) (depthOfEntries rest)

end

/-- The node that stands where nothing is written. -/
def absent : Tree :=
  scalar true ""

/-- Whether nothing is written. -/
def isAbsent : Tree → Bool
  | scalar true text => text == ""
  | _ => false

/-- Whether a node spells null. -/
def isNull : Tree → Bool
  | scalar true text => Plain.isNull text.toList
  | _ => false

/-- The text of a scalar in any style. -/
def text? : Tree → Option String
  | scalar _ text => some text
  | _ => none

/-- The truth value that a plain scalar spells. -/
def bool? : Tree → Option Bool
  | scalar true text => Plain.bool? text.toList
  | _ => none

/-- The integer that a plain scalar spells. -/
def integer? : Tree → Option Int
  | scalar true text => Plain.integer? text.toList
  | _ => none

/-- The items of a sequence; where nothing is written there are none. -/
def items? : Tree → Option (List Tree)
  | sequence items => some items
  | tree => if tree.isAbsent then some [] else none

/-- The entries of a mapping; where nothing is written there are none. -/
def entries? : Tree → Option (List (Tree × Tree))
  | mapping entries => some entries
  | tree => if tree.isAbsent then some [] else none

/-- The document that a plain scalar spells. Integers beyond 64 bits are refused, and what is no
finite number is null. -/
def plainToJson? (text : String) : Option Json :=
  match Plain.read text.toList with
  | .null => some .null
  | .bool value => some (.bool value)
  | .integer value =>
    if 0 ≤ value then
      if value < Nat.pow 2 64 then some (.number (.natural value.toNat.toUInt64)) else none
    else
      if -(Nat.pow 2 63 : Int) ≤ value then some (.number (.negative (Int64.ofInt value))) else none
  | .double value => some (.number (.double value))
  | .notFinite => some .null
  | .word => some (.string text)

mutual

/-- The document that a node spells; the keys of mappings must be texts. -/
def toJson? : Tree → Option Json
  | scalar true text => plainToJson? text
  | scalar false text => some (.string text)
  | sequence items => (itemsToJson? items).map Json.array
  | mapping entries => (entriesToJson? entries).map Json.object

/-- The documents that nodes spell. -/
def itemsToJson? : List Tree → Option (List Json)
  | [] => some []
  | item :: rest => do
    return (← item.toJson?) :: (← itemsToJson? rest)

/-- The entries that pairs of nodes spell. -/
def entriesToJson? : List (Tree × Tree) → Option (List (String × Json))
  | [] => some []
  | (key, value) :: rest => do
    match ← key.toJson? with
    | .string key => return (key, ← value.toJson?) :: (← entriesToJson? rest)
    | _ => none

end

end Tree
end Yaml
end MarkerManifests
