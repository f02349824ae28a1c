import MarkerManifests.Number.Basic
import MarkerManifests.Ordered.Entries

/-!
# JSON documents

Documents as trees. The entries of an object keep their written order, and a document that was
read keeps repeated keys; `Json.normal` gives every key its first position and its last value.
-/

namespace MarkerManifests

/-- A JSON document. -/
inductive Json where
  | null
  | bool (value : Bool)
  | number (value : Number)
  | string (value : String)
  | array (items : List Json)
  | object (entries : List (String × Json))
  deriving Inhabited

namespace Json

mutual

/-- Equality of documents is decided by comparing the trees. -/
def decideEq : (left right : Json) → Decidable (left = right)
  | null, null => isTrue rfl
  | bool a, bool b => if h : a = b then isTrue (by rw [h]) else isFalse (by simp [h])
  | number a, number b => if h : a = b then isTrue (by rw [h]) else isFalse (by simp [h])
  | string a, string b => if h : a = b then isTrue (by rw [h]) else isFalse (by simp [h])
  | array as, array bs =>
    match decideEqItems as bs with
    | isTrue h => isTrue (by rw [h])
    | isFalse h => isFalse (by simp [h])
  | object as, object bs =>
    match decideEqEntries as bs with
    | isTrue h => isTrue (by rw [h])
    | isFalse h => isFalse (by simp [h])
  | null, bool _ | null, number _ | null, string _ | null, array _ | null, object _
  | bool _, null | bool _, number _ | bool _, string _ | bool _, array _ | bool _, object _
  | number _, null | number _, bool _ | number _, string _ | number _, array _
  | number _, object _
  | string _, null | string _, bool _ | string _, number _ | string _, array _
  | string _, object _
  | array _, null | array _, bool _ | array _, number _ | array _, string _ | array _, object _
  | object _, null | object _, bool _ | object _, number _ | object _, string _
  | object _, array _ => isFalse (by simp)

/-- Equality of lists of documents. -/
def decideEqItems : (left right : List Json) → Decidable (left = right)
  | [], [] => isTrue rfl
  | [], _ :: _ => isFalse (by simp)
  | _ :: _, [] => isFalse (by simp)
  | a :: as, b :: bs =>
    match decideEq a b, decideEqItems as bs with
    | isTrue h, isTrue k => isTrue (by rw [h, k])
    | isFalse h, _ => isFalse (by simp [h])
    | _, isFalse k => isFalse (by simp [k])

/-- Equality of the entries of objects. -/
def decideEqEntries : (left right : List (String × Json)) → Decidable (left = right)
  | [], [] => isTrue rfl
  | [], _ :: _ => isFalse (by simp)
  | _ :: _, [] => isFalse (by simp)
  | (key, a) :: as, (other, b) :: bs =>
    match decEq key other, decideEq a b, decideEqEntries as bs with
    | isTrue l, isTrue h, isTrue k => isTrue (by rw [l, h, k])
    | isFalse l, _, _ => isFalse (by simp [l])
    | _, isFalse h, _ => isFalse (by simp [h])
    | _, _, isFalse k => isFalse (by simp [k])

end

instance : DecidableEq Json := decideEq

mutual

/-- The document in which every key of an object stands once, at its first position and with its
last value. -/
def normal : Json → Json
  | array items => array (normalItems items)
  | object entries => object (normalEntries [] entries)
  | other => other

/-- Normalises every item of an array. -/
def normalItems : List Json → List Json
  | [] => []
  | item :: rest => normal item :: normalItems rest

/-- Normalises the entries of an object and puts them into the entries before them. -/
def normalEntries (before : List (String × Json)) : List (String × Json) → List (String × Json)
  | [] => before
  | (key, value) :: rest => normalEntries (Entries.put before key (normal value)) rest

end

/-- A field of an object; a missing field and `null` are the same. -/
def field? (document : Json) (key : String) : Option Json :=
  match document with
  | object entries =>
    match Entries.get? entries key with
    | some null => none
    | found => found
  | _ => none

/-- The text of a string. -/
def string? : Json → Option String
  | string value => some value
  | _ => none

/-- The truth value. -/
def bool? : Json → Option Bool
  | bool value => some value
  | _ => none

/-- The items of an array. -/
def array? : Json → Option (List Json)
  | array items => some items
  | _ => none

/-- The natural number. -/
def natural? : Json → Option UInt64
  | number value => value.natural?
  | _ => none

/-- An array of strings. -/
def strings (values : List String) : Json :=
  array (values.map string)

/-- A natural number as a document. -/
def ofNat (value : Nat) : Json :=
  number (.natural value.toUInt64)

end Json
end MarkerManifests
