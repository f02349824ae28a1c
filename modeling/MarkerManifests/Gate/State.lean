import MarkerManifests.Ordered.NameMap
import MarkerManifests.Text.Blank
import MarkerManifests.Text.Pieces

/-!
# Gate states

The feature gates that are switched on or off in one run. A state is read from entries
`name=true` and `name=false` between commas. Reading is lenient: blanks around entries, names and
values are dropped, blank entries are ignored and other malformed entries are skipped with a
reason. A gate that is not mentioned is off.
-/

namespace MarkerManifests
namespace Gate

/-- A character of a gate name. -/
def isNameCharacter (character : Char) : Bool :=
  character.isAlphanum || character == '_' || character == '-'

/-- A gate name is a non-empty text of name characters. -/
def isName (text : List Char) : Bool :=
  !text.isEmpty && text.all isNameCharacter

/-- Explicit values of gates. -/
structure State where
  gates : NameMap Bool := {}
  deriving DecidableEq

/-- Why an entry of a gate configuration was skipped. -/
inductive SkipReason where
  | missingEquals
  | invalidName
  | invalidValue
  deriving DecidableEq

/-- The wording of a reason. -/
def SkipReason.message : SkipReason → String
  | missingEquals => "missing '='"
  | invalidName => "invalid gate name"
  | invalidValue => "value is not true or false"

/-- An entry that could not be understood, without the blanks around it. -/
structure SkippedEntry where
  entry : String
  reason : SkipReason
  deriving DecidableEq

namespace State

/-- The state in which every gate is off. -/
def empty : State := {}

/-- The state with a gate set. -/
def set (state : State) (name : String) (enabled : Bool) : State :=
  ⟨state.gates.insert name enabled⟩

/-- Whether a gate is on; a gate without a value is off. -/
def isEnabled (state : State) (name : String) : Bool :=
  (state.gates.get? name).getD false

@[simp] theorem isEnabled_empty (name : String) : empty.isEnabled name = false := rfl

@[simp] theorem isEnabled_set (state : State) (name other : String) (enabled : Bool) :
    (state.set name enabled).isEnabled other =
      if name = other then enabled else state.isEnabled other := by
  unfold isEnabled set
  rw [NameMap.get?_insert]
  split <;> rfl

/-- The truth value that a text spells. -/
def readValue? (text : List Char) : Option Bool :=
  if text = ['t', 'r', 'u', 'e'] then some true
  else if text = ['f', 'a', 'l', 's', 'e'] then some false
  else none

/-- The gate and the value of an entry without blanks around it. -/
def readEntry (entry : List Char) : Except SkipReason (String × Bool) :=
  match Text.cutFirst? '=' entry with
  | none => .error .missingEquals
  | some (name, value) =>
    let name := Text.trim name
    if isName name then
      match readValue? (Text.trim value) with
      | some enabled => .ok (String.ofList name, enabled)
      | none => .error .invalidValue
    else
      .error .invalidName

/-- Reads entries into a state and collects those that are skipped. -/
def readEntries (state : State) (skipped : List SkippedEntry) :
    List (List Char) → State × List SkippedEntry
  | [] => (state, skipped)
  | piece :: rest =>
    let entry := Text.trim piece
    if entry = [] then
      readEntries state skipped rest
    else
      match readEntry entry with
      | .ok (name, enabled) => readEntries (state.set name enabled) skipped rest
      | .error reason =>
        readEntries state (skipped ++ [⟨String.ofList entry, reason⟩]) rest

/-- Reads a gate configuration. The last value of a gate counts; skipped entries are reported in
order. -/
def read (text : String) : State × List SkippedEntry :=
  readEntries empty [] (Text.pieces ',' text.toList)

/-- The state that a gate configuration describes. -/
def ofText (text : String) : State :=
  (read text).1

/-- A value of a gate, as an entry of a configuration. -/
def renderEntry (entry : String × Bool) : List Char :=
  entry.1.toList ++ '=' :: (if entry.2 then ['t', 'r', 'u', 'e'] else ['f', 'a', 'l', 's', 'e'])

/-- The configuration that lists the explicit values in order of their names. -/
def render (state : State) : String :=
  String.ofList (Text.joined [','] (state.gates.toList.map renderEntry))

end State
end Gate
end MarkerManifests
