import MarkerManifests.Json.Record
import MarkerManifests.Marker.SubRecord
import MarkerManifests.Ordered.Entries
import MarkerManifests.Text.Displayed

/-!
# Label selectors

A selector demands labels with values and sets of values of labels. It is made from the sections of
a sub-record: `matchLabels` sections list labels, and every `matchExpressions` section is one
requirement, whose values stand between vertical bars.
-/

namespace MarkerManifests

/-- How a requirement compares the value of a label. -/
inductive SelectorOperator where
  | isIn
  | notIn
  | present
  | absent
  deriving DecidableEq

namespace SelectorOperator

/-- The word for an operator. -/
def word : SelectorOperator → String
  | isIn => "In"
  | notIn => "NotIn"
  | present => "Exists"
  | absent => "DoesNotExist"

/-- The operator with a word. -/
def ofWord? (word : String) : Option SelectorOperator :=
  [isIn, notIn, present, absent].find? (SelectorOperator.word · = word)

/-- Whether an operator takes values. -/
def takesValues : SelectorOperator → Bool
  | isIn => true
  | notIn => true
  | present => false
  | absent => false

end SelectorOperator

/-- A requirement on a label. -/
structure SelectorRequirement where
  key : String
  operator : SelectorOperator
  values : List String
  deriving DecidableEq

/-- A selector of objects by their labels. -/
structure LabelSelector where
  /-- Demanded values of labels, in the order in which the labels were first written. -/
  labels : List (String × String) := []
  requirements : List SelectorRequirement := []
  deriving DecidableEq

/-- Why a text is not a selector. -/
inductive SelectorError where
  | malformed (fault : SubRecord.Fault)
  | unknownSection (name : String)
  | missingKey
  | missingOperator (key : String)
  | unknownOperator (word : String)
  | missingValues (key : String) (operator : SelectorOperator)
  | superfluousValues (key : String) (operator : SelectorOperator)
  | unknownEntry (key : String)
  deriving DecidableEq

/-- The wording of an error. -/
def SelectorError.message : SelectorError → String
  | malformed fault => s!"malformed selector: {fault.message}"
  | unknownSection name => "unknown selector section " ++ Text.displayed name
  | missingKey => "matchExpressions clause is missing key"
  | missingOperator key =>
    "matchExpressions clause for " ++ Text.displayed key ++ " is missing operator"
  | unknownOperator word => "unknown selector operator " ++ Text.displayed word
  | missingValues key operator =>
    s!"operator {operator.word} on " ++ Text.displayed key ++ " requires values"
  | superfluousValues key operator =>
    s!"operator {operator.word} on " ++ Text.displayed key ++ " takes no values"
  | unknownEntry key => "unknown matchExpressions entry " ++ Text.displayed key

namespace SelectorRequirement

/-- The keys of the entries of a requirement. -/
def entryKeys : List String :=
  ["key", "operator", "values"]

/-- The values between vertical bars, without the empty ones. -/
def readValues (text : String) : List String :=
  ((Text.pieces '|' text.toList).filter (· ≠ [])).map String.ofList

/-- Makes a requirement of a key, an operator and values that fit together. -/
def make (key : String) (operator : SelectorOperator) (values : List String) :
    Except SelectorError SelectorRequirement :=
  match operator.takesValues, values with
  | true, [] => .error (.missingValues key operator)
  | false, _ :: _ => .error (.superfluousValues key operator)
  | _, _ => .ok ⟨key, operator, values⟩

/-- The requirement that a section describes. -/
def ofSection (part : Section) : Except SelectorError SelectorRequirement :=
  match part.entries.find? fun (key, _) => !entryKeys.contains key with
  | some (key, _) => .error (.unknownEntry key)
  | none =>
    match part.get? "key" with
    | none => .error .missingKey
    | some key =>
      match part.get? "operator" with
      | none => .error (.missingOperator key)
      | some word =>
        match SelectorOperator.ofWord? word with
        | none => .error (.unknownOperator word)
        | some operator => make key operator (((part.get? "values").map readValues).getD [])

/-- Writes a requirement. -/
def toJson (requirement : SelectorRequirement) : Json :=
  .object ([
    ("key", .string requirement.key),
    ("operator", .string requirement.operator.word)] ++
    Json.listEntry "values" (requirement.values.map .string))

end SelectorRequirement

namespace LabelSelector

/-- Whether the selector demands nothing. -/
def isEmpty (selector : LabelSelector) : Bool :=
  selector.labels.isEmpty && selector.requirements.isEmpty

/-- The selector that demands labels as well. A label has the value that was demanded last. -/
def addLabels (selector : LabelSelector) (entries : List (String × String)) : LabelSelector :=
  { selector with
    labels := entries.foldl (fun labels (key, value) => Entries.put labels key value)
      selector.labels }

/-- The selector with what a section demands. -/
def addSection (selector : LabelSelector) (part : Section) :
    Except SelectorError LabelSelector :=
  if part.name = "matchLabels" then
    .ok (selector.addLabels part.entries)
  else if part.name = "matchExpressions" then
    (SelectorRequirement.ofSection part).map fun requirement =>
      { selector with requirements := selector.requirements ++ [requirement] }
  else
    .error (.unknownSection part.name)

/-- The selector with what sections demand. -/
def addSections (selector : LabelSelector) : List Section → Except SelectorError LabelSelector
  | [] => .ok selector
  | part :: rest =>
    match selector.addSection part with
    | .error error => .error error
    | .ok selector => selector.addSections rest

/-- The selector that a sub-record describes. -/
def ofRecord (record : SubRecord) : Except SelectorError LabelSelector :=
  addSections {} record.sections

/-- The selector that a text spells. -/
def read (text : List Char) : Except SelectorError LabelSelector :=
  match SubRecord.read text with
  | .error fault => .error (.malformed fault)
  | .ok record => ofRecord record

/-- Writes a selector. -/
def toJson (selector : LabelSelector) : Json :=
  .object (
    (if selector.labels.isEmpty then []
      else [("matchLabels", .object (selector.labels.map fun (key, value) =>
        (key, .string value)))]) ++
    Json.listEntry "matchExpressions" (selector.requirements.map SelectorRequirement.toJson))

end LabelSelector
end MarkerManifests
