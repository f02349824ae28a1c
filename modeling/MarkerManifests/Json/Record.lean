import MarkerManifests.Json.Basic

/-!
# Records as documents

A record is an object in which none of its keys occurs twice and other keys are ignored, or an array
of the values in the order of the keys. Values that are absent are not written, where a record says
so.
-/

namespace MarkerManifests
namespace Json

/-- The only value of a key; a key that occurs twice is refused. -/
def single? (entries : List (String × Json)) (key : String) : Option (Option Json) :=
  match entries.filter (·.1 = key) with
  | [] => some none
  | [(_, value)] => some (some value)
  | _ => none

/-- The only values of keys. -/
def singles? (entries : List (String × Json)) (keys : List String) : Option (List (Option Json)) :=
  keys.mapM (single? entries)

/-- The values of the keys of a record, each missing or present. -/
def record? (keys : List String) : Json → Option (List (Option Json))
  | object entries => singles? entries keys
  | array items =>
    if items.length ≤ keys.length then
      some (items.map some ++ List.replicate (keys.length - items.length) none)
    else
      none
  | _ => none

/-- Reads a value, or takes the default if it is missing. -/
def readOr {Value : Type} (read? : Json → Option Value) (default : Value) :
    Option Json → Option Value
  | none => some default
  | some document => read? document

/-- The string of a key, or the empty one. -/
def textAt (document : Json) (key : String) : String :=
  ((document.field? key).bind string?).getD ""

/-- Whether the value of a key is true. -/
def flagAt (document : Json) (key : String) : Bool :=
  ((document.field? key).bind bool?).getD false

/-- An array of strings. -/
def strings? (document : Json) : Option (List String) :=
  document.array?.bind (·.mapM Json.string?)

/-- Reads every item of an array. -/
def arrayOf? {Value : Type} (read? : Json → Option Value) (document : Json) :
    Option (List Value) :=
  document.array?.bind (·.mapM read?)

/-- An entry for a value that may be absent. -/
def optionEntry {Value : Type} (key : String) (toJson : Value → Json) :
    Option Value → List (String × Json)
  | none => []
  | some value => [(key, toJson value)]

/-- An entry for a truth value, which is absent when it is false. -/
def flagEntry (key : String) (value : Bool) : List (String × Json) :=
  if value then [(key, bool true)] else []

/-- An entry for a list, which is absent when it is empty. -/
def listEntry (key : String) (items : List Json) : List (String × Json) :=
  if items.isEmpty then [] else [(key, array items)]

/-- A 64-bit natural number as a document. -/
def ofUInt64 (value : UInt64) : Json :=
  number (.natural value)

/-- The number of a document. -/
def number? : Json → Option Number
  | number value => some value
  | _ => none

/-- Reads a value where `null` means that it is absent. -/
def nullable? {Value : Type} (read? : Json → Option Value) : Json → Option (Option Value)
  | null => some none
  | document => (read? document).map some

/-- Reads a word, which may also be written as the only key of an object without a value. -/
def word? {Value : Type} (ofWord? : String → Option Value) : Json → Option Value
  | string word => ofWord? word
  | object [(word, null)] => ofWord? word
  | _ => none

end Json
end MarkerManifests
