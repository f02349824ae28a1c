import MarkerManifests.Gate.Expr
import MarkerManifests.Json.Printer
import MarkerManifests.Marker.Definition
import MarkerManifests.Marker.FieldPath
import MarkerManifests.Marker.SubRecord
import MarkerManifests.Number.Integer

/-!
# Markers

A marker that was read: its name, the comment it stands in, its consumer and its decoded
arguments. Every marker has a canonical text, which reads back as the same marker.
-/

namespace MarkerManifests

/-- A decoded argument. -/
inductive Argument where
  | string (text : String)
  | integer (value : Int64)
  | number (value : Number)
  | boolean (value : Bool)
  | list (items : List String)
  | path (segments : FieldPath)
  | record (sections : SubRecord)
  | gate (expr : Gate.Expr)
  | document (tree : Json)
  deriving DecidableEq

namespace Argument

/-- The kind of an argument. -/
def kind : Argument → ArgumentKind
  | string _ => .string
  | integer _ => .integer
  | number _ => .number
  | boolean _ => .boolean
  | list _ => .list
  | path _ => .path
  | record _ => .record
  | gate _ => .gate
  | document _ => .document

/-- The text of a string. -/
def string? : Argument → Option String
  | string text => some text
  | _ => none

/-- The value of an integer. -/
def integer? : Argument → Option Int64
  | integer value => some value
  | _ => none

/-- The value of a number; an integer is a number, too. -/
def number? : Argument → Option Number
  | number value => some value
  | integer value => some (.ofInt64 value)
  | _ => none

/-- The truth value. -/
def boolean? : Argument → Option Bool
  | boolean value => some value
  | _ => none

/-- The items of a list. -/
def list? : Argument → Option (List String)
  | list items => some items
  | _ => none

/-- The path. -/
def path? : Argument → Option FieldPath
  | path segments => some segments
  | _ => none

/-- The sub-record. -/
def record? : Argument → Option SubRecord
  | record sections => some sections
  | _ => none

/-- The gate expression. -/
def gate? : Argument → Option Gate.Expr
  | gate expr => some expr
  | _ => none

/-- The characters that force quotes around strings: those that structure arguments. -/
def delimiters : List Char :=
  [',', ';', '=', '&', '~']

/-- The text of a string argument or of an item of a list. -/
def renderString (text : String) : List Char :=
  Quoting.quoteIfNeeded delimiters text.toList

/-- The canonical text of an argument. -/
def render : Argument → List Char
  | string text => renderString text
  | integer value => Integer.render value
  | number value => value.text Json.doubleSpelling
  | boolean true => ['t', 'r', 'u', 'e']
  | boolean false => ['f', 'a', 'l', 's', 'e']
  | list items => Text.joined [';'] (items.map renderString)
  | path segments => segments.render
  | record sections => sections.render
  | gate expr => expr.render
  | document tree => tree.compact

end Argument

/-- A marker of a comment. -/
structure Marker where
  name : String
  location : Location
  consumer : Consumer
  /-- The arguments with their keys in written order. -/
  arguments : List (String × Argument)
  deriving DecidableEq

namespace Marker

/-- The argument with a key. -/
def argument? (marker : Marker) (key : String) : Option Argument :=
  (marker.arguments.find? (·.1 = key)).map (·.2)

/-- The single value of a marker written with an equals sign. -/
def value? (marker : Marker) : Option Argument :=
  marker.argument? Definition.unnamed

/-- The string argument with a key. -/
def string? (marker : Marker) (key : String) : Option String :=
  (marker.argument? key).bind Argument.string?

/-- The integer argument with a key. -/
def integer? (marker : Marker) (key : String) : Option Int64 :=
  (marker.argument? key).bind Argument.integer?

/-- The number argument with a key. -/
def number? (marker : Marker) (key : String) : Option Number :=
  (marker.argument? key).bind Argument.number?

/-- Whether the argument with a key is true; a missing one is not. -/
def flag (marker : Marker) (key : String) : Bool :=
  ((marker.argument? key).bind Argument.boolean?).getD false

/-- The items of the argument with a key; a missing one has none. -/
def list (marker : Marker) (key : String) : List String :=
  ((marker.argument? key).bind Argument.list?).getD []

/-- The path argument with a key. -/
def path? (marker : Marker) (key : String) : Option FieldPath :=
  (marker.argument? key).bind Argument.path?

/-- The sub-record argument with a key. -/
def record? (marker : Marker) (key : String) : Option SubRecord :=
  (marker.argument? key).bind Argument.record?

/-- The gate expression with a key. -/
def gate? (marker : Marker) (key : String) : Option Gate.Expr :=
  (marker.argument? key).bind Argument.gate?

/-- The text of an argument with its key. -/
def renderArgument (argument : String × Argument) : List Char :=
  argument.1.toList ++ '=' :: argument.2.render

/-- The canonical text of a marker, with its plus sign. -/
def render (marker : Marker) : List Char :=
  match marker.value?, marker.arguments with
  | some value, _ => '+' :: marker.name.toList ++ '=' :: value.render
  | none, [] => '+' :: marker.name.toList
  | none, arguments =>
    '+' :: marker.name.toList ++ ':' :: Text.joined [','] (arguments.map renderArgument)

/-- The canonical text of a marker as a string. -/
def text (marker : Marker) : String :=
  String.ofList marker.render

end Marker

/-- The markers of a comment, in source order. -/
abbrev Markers := List Marker

namespace Markers

/-- The first marker with a name. -/
def first? (markers : Markers) (name : String) : Option Marker :=
  markers.find? (·.name = name)

/-- The markers with a name. -/
def named (markers : Markers) (name : String) : Markers :=
  markers.filter (·.name = name)

/-- Whether a marker has a name. -/
def has (markers : Markers) (name : String) : Bool :=
  markers.any (·.name = name)

/-- The markers for one consumer. -/
def consumedBy (markers : Markers) (consumer : Consumer) : Markers :=
  markers.filter (·.consumer = consumer)

/-- Whether the gate expression of the marker with a name does not hold in a state. -/
def isGatedOff (markers : Markers) (name : String) (gates : Gate.State) : Bool :=
  match (markers.first? name).bind (·.gate? Definition.unnamed) with
  | some expr => !expr.eval gates
  | none => false

end Markers
end MarkerManifests
