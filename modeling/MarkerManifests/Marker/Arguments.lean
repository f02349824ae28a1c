import MarkerManifests.Gate.Reader
import MarkerManifests.Json.Reader
import MarkerManifests.Marker.Basic

/-!
# Reading arguments

The text after a marker's name is read by the marker's definition. A single value follows an
equals sign; other arguments are pieces `key=value` between commas, where a truth value may be
given by its key alone.
-/

namespace MarkerManifests

/-- Why a text is not a value of some kind. -/
inductive ValueFault where
  | quoting (fault : Quoting.Fault)
  | integer (fault : Integer.Fault)
  | number (fault : Number.Fault)
  | boolean
  | path (fault : FieldPath.Fault)
  | record (fault : SubRecord.Fault)
  | gate (fault : Gate.ParseError)
  /-- The key stands alone. -/
  | missingValue
  deriving DecidableEq

/-- The wording of a fault. -/
def ValueFault.message : ValueFault → String
  | quoting fault => fault.message
  | integer fault => fault.message
  | number fault => fault.message
  | boolean => "expected true or false"
  | path fault => fault.message
  | record fault => fault.message
  | gate fault => fault.message
  | missingValue => "missing '=value'"

namespace Argument

/-- Reads the text of a value without its quotes. -/
def readUnquoted {Value : Type} (text : List Char)
    (readText : List Char → Except ValueFault Value) : Except ValueFault Value :=
  match Quoting.unquote text with
  | .error fault => .error (.quoting fault)
  | .ok content => readText content

/-- The pieces of a list: between commas if the list stands in braces, and between semicolons if
not. -/
def listPieces (text : List Char) : Except Quoting.Fault (List (List Char)) :=
  match text with
  | [] => .ok []
  | '{' :: rest =>
    if rest.getLast? = some '}' then
      if rest.dropLast = [] then .ok [] else Quoting.split ',' rest.dropLast
    else
      Quoting.split ';' text
  | _ => Quoting.split ';' text

/-- The items of a list, without their quotes. -/
def readList (text : List Char) : Except Quoting.Fault (List String) :=
  match listPieces text with
  | .error fault => .error fault
  | .ok pieces => SubRecord.readAll (fun piece => (Quoting.unquote piece).map String.ofList) pieces

/-- The argument of a kind that a text spells. -/
def read (kind : ArgumentKind) (text : List Char) : Except ValueFault Argument :=
  match kind with
  | .string => readUnquoted text fun content => .ok (.string (String.ofList content))
  | .integer => readUnquoted text fun content =>
    match Integer.read content with
    | .ok value => .ok (.integer value)
    | .error fault => .error (.integer fault)
  | .number => readUnquoted text fun content =>
    match Number.read content with
    | .ok value => .ok (.number value)
    | .error fault => .error (.number fault)
  | .boolean =>
    if text = ['t', 'r', 'u', 'e'] then .ok (.boolean true)
    else if text = ['f', 'a', 'l', 's', 'e'] then .ok (.boolean false)
    else .error .boolean
  | .list =>
    match readList text with
    | .ok items => .ok (.list items)
    | .error fault => .error (.quoting fault)
  | .path => readUnquoted text fun content =>
    match FieldPath.read content with
    | .ok segments => .ok (.path segments)
    | .error fault => .error (.path fault)
  | .record =>
    match SubRecord.read text with
    | .ok sections => .ok (.record sections)
    | .error fault => .error (.record fault)
  | .gate => readUnquoted text fun content =>
    match Gate.Expr.read content with
    | .ok expr => .ok (.gate expr)
    | .error fault => .error (.gate fault)
  | .document =>
    match Json.read? text with
    | some tree => .ok (.document tree)
    | none => readUnquoted text fun content => .ok (.document (.string (String.ofList content)))

end Argument

/-- How the argument text is attached to the name of a marker. -/
inductive ArgumentForm where
  /-- Nothing follows the name. -/
  | bare
  /-- An equals sign follows the name. -/
  | value
  /-- A colon follows the name. -/
  | named
  deriving DecidableEq

/-- Why the arguments of a marker were not understood. -/
inductive ArgumentError where
  | unexpectedArguments (marker : String)
  | expectedValue (marker : String)
  | expectedNamedArguments (marker : String)
  | unknownArgument (marker argument : String)
  | missingArgument (marker argument : String)
  | duplicateArgument (marker argument : String)
  | invalidValue (marker argument : String) (kind : ArgumentKind) (value : String)
    (fault : ValueFault)
  | malformed (marker : String) (fault : Quoting.Fault)
  deriving DecidableEq

/-- The wording of an error. -/
def ArgumentError.message : ArgumentError → String
  | unexpectedArguments marker => s!"marker '{marker}' takes no arguments"
  | expectedValue marker =>
    s!"marker '{marker}' expects a single value written as '+{marker}=value'"
  | expectedNamedArguments marker =>
    s!"marker '{marker}' takes named arguments, written as '+{marker}:key=value'"
  | unknownArgument marker argument => s!"unknown argument '{argument}' for marker '{marker}'"
  | missingArgument marker argument =>
    s!"missing required argument '{argument}' for marker '{marker}'"
  | duplicateArgument marker argument =>
    s!"argument '{argument}' given more than once for marker '{marker}'"
  | invalidValue marker argument kind value fault =>
    s!"invalid {kind.words} value '{value}' for argument '{argument}' of marker '{marker}': " ++
      fault.message
  | malformed marker fault => s!"malformed arguments for marker '{marker}': {fault.message}"

namespace Definition

/-- Whether a key has a value already. -/
def isGiven (arguments : List (String × Argument)) (key : String) : Bool :=
  arguments.any (·.1 = key)

/-- The key of a piece, and its value if an equals sign stands between them. -/
def pieceParts (piece : List Char) : List Char × Option (List Char) :=
  match Quoting.cutKey? piece with
  | some (key, value) => (key, some value)
  | none => (piece, none)

/-- The argument that a value spells. A truth value without a text is true. -/
def readArgument (kind : ArgumentKind) : Option (List Char) → Except ValueFault Argument
  | some text => Argument.read kind text
  | none => if kind = .boolean then .ok (.boolean true) else .error .missingValue

/-- Reads a piece after the arguments before it. -/
def readPiece (definition : Definition) (given : List (String × Argument)) (piece : List Char) :
    Except ArgumentError (String × Argument) :=
  let (keyText, value) := pieceParts piece
  let key := String.ofList keyText
  match definition.parameter? key with
  | none => .error (.unknownArgument definition.name key)
  | some parameter =>
    if isGiven given key then
      .error (.duplicateArgument definition.name key)
    else
      match readArgument parameter.kind value with
      | .ok argument => .ok (key, argument)
      | .error fault =>
        .error (.invalidValue definition.name key parameter.kind
          (String.ofList (value.getD [])) fault)

/-- Reads pieces after the arguments before them. Empty pieces are ignored. -/
def readPieces (definition : Definition) (given : List (String × Argument)) :
    List (List Char) → Except ArgumentError (List (String × Argument))
  | [] => .ok given
  | piece :: rest =>
    if piece = [] then
      definition.readPieces given rest
    else
      match definition.readPiece given piece with
      | .error error => .error error
      | .ok argument => definition.readPieces (given ++ [argument]) rest

/-- The first argument that must be given and is not. -/
def missing? (definition : Definition) (given : List (String × Argument)) : Option Parameter :=
  definition.parameters.find? fun parameter =>
    !parameter.optional && !isGiven given parameter.name

/-- Reads arguments with keys. -/
def readNamed (definition : Definition) (text : List Char) :
    Except ArgumentError (List (String × Argument)) :=
  match (if text = [] then .ok [] else Quoting.split ',' text) with
  | .error fault => .error (.malformed definition.name fault)
  | .ok pieces =>
    match definition.readPieces [] pieces with
    | .error error => .error error
    | .ok given =>
      match definition.missing? given with
      | some parameter => .error (.missingArgument definition.name parameter.name)
      | none => .ok given

/-- Reads the value of a parameter without a key. -/
def readValue (definition : Definition) (parameter : Parameter) (form : ArgumentForm)
    (text : List Char) : Except ArgumentError (List (String × Argument)) :=
  match form with
  | .value =>
    match Argument.read parameter.kind text with
    | .ok argument => .ok [(unnamed, argument)]
    | .error fault =>
      .error (.invalidValue definition.name unnamed parameter.kind (String.ofList text) fault)
  | .bare => if parameter.optional then .ok [] else .error (.expectedValue definition.name)
  | .named => .error (.expectedValue definition.name)

/-- Reads the arguments of a marker. -/
def readArguments (definition : Definition) (form : ArgumentForm) (text : List Char) :
    Except ArgumentError (List (String × Argument)) :=
  match definition.parameters with
  | [] => if form = .bare then .ok [] else .error (.unexpectedArguments definition.name)
  | first :: _ =>
    if definition.takesValue then definition.readValue first form text
    else if form = .value then .error (.expectedNamedArguments definition.name)
    else definition.readNamed text

end Definition
end MarkerManifests
