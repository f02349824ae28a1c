import MarkerManifests.Generator.Command

/-!
# Invocations

What a command line asks for. An option and its value are two arguments, or one argument with an
equals sign; options may stand before and after the name of the command.
-/

namespace MarkerManifests

/-- The names of the commands. -/
inductive CommandName where
  | generate
  | check
  | markers
  deriving DecidableEq

/-- The command with a name. -/
def CommandName.ofWord? : String → Option CommandName
  | "generate" => some generate
  | "check" => some check
  | "markers" => some markers
  | _ => none

/-- What a command line asks for. -/
structure Invocation where
  command : Option CommandName := none
  options : CommonOptions := {}
  overrides : Overrides := {}
  /-- The category of markers to show. -/
  category : Option String := none
  /-- Whether markers are explained at length. -/
  details : Bool := false
  deriving DecidableEq

/-- Why a command line is refused. -/
inductive UsageError where
  | missingCommand
  | missingValue (option : String)
  | unknownFormat (word : String)
  | unexpected (argument : String)
  deriving DecidableEq

/-- The wording of a refusal. -/
def UsageError.message : UsageError → String
  | missingCommand => "a command is missing (expected generate, check or markers)"
  | missingValue option => "a value is missing after '" ++ option ++ "'"
  | unknownFormat word => "unknown format '" ++ word ++ "' (expected yaml or json)"
  | unexpected argument => "unexpected argument '" ++ argument ++ "'"

namespace Invocation

/-- Takes an argument that is not about an option: the name of the command, or the category of
markers. -/
def takeWord (invocation : Invocation) (word : String) : Except UsageError Invocation :=
  match invocation.command, invocation.category with
  | none, _ =>
    match CommandName.ofWord? word with
    | some command => .ok { invocation with command := some command }
    | none => .error (.unexpected word)
  | some .markers, none => .ok { invocation with category := some word }
  | _, _ => .error (.unexpected word)

/-- Takes an option without a value, if there is one with the name. -/
def takeFlag? (invocation : Invocation) : String → Option Invocation
  | "--strict" => some { invocation with options := { invocation.options with strict := true } }
  | "--details" => some { invocation with details := true }
  | _ => none

/-- Takes an option with its value, if there is one with the name. -/
def takeOption? (invocation : Invocation) (option value : String) :
    Option (Except UsageError Invocation) :=
  let overrides := invocation.overrides
  let override (overrides : Overrides) : Option (Except UsageError Invocation) :=
    some (.ok { invocation with overrides })
  match option with
  | "--config" =>
    some (.ok { invocation with options := { invocation.options with configuration := some value } })
  | "--input" => override { overrides with inputs := overrides.inputs ++ [value] }
  | "-i" => override { overrides with inputs := overrides.inputs ++ [value] }
  | "--feature-gates" => override { overrides with featureGates := some value }
  | "--output-dir" => override { overrides with directory := some value }
  | "--format" =>
    match OutputFormat.ofWord? value with
    | some format => override { overrides with format := some format }
    | none => some (.error (.unknownFormat value))
  | _ => none

/-- Takes an argument that has no value after it. -/
def takeSingle (invocation : Invocation) (argument : String) : Except UsageError Invocation :=
  match Text.cutFirst? '=' argument.toList with
  | some (option, value) =>
    (invocation.takeOption? (String.ofList option) (String.ofList value)).getD
      (.error (.unexpected argument))
  | none =>
    if (invocation.takeOption? argument "").isSome then .error (.missingValue argument)
    else if argument.toList.head? == some '-' then .error (.unexpected argument)
    else invocation.takeWord argument

/-- Takes all arguments. -/
def takeAll (invocation : Invocation) : List String → Except UsageError Invocation
  | [] => .ok invocation
  | [argument] =>
    match invocation.takeFlag? argument with
    | some invocation => .ok invocation
    | none => invocation.takeSingle argument
  | argument :: value :: rest =>
    match invocation.takeFlag? argument with
    | some invocation => invocation.takeAll (value :: rest)
    | none =>
      match invocation.takeOption? argument value with
      | some (.ok invocation) => invocation.takeAll rest
      | some (.error error) => .error error
      | none =>
        match invocation.takeSingle argument with
        | .ok invocation => invocation.takeAll (value :: rest)
        | .error error => .error error

/-- What the arguments of a command line ask for. -/
def ofArguments (arguments : List String) : Except UsageError Invocation :=
  ({} : Invocation).takeAll arguments

/-- Runs the command of an invocation on a host. -/
def run {Action : Type → Type} [Monad Action] (host : Host Action) (command : CommandName)
    (invocation : Invocation) : Action (Except CommandError Nat) :=
  match command with
  | .generate => host.generate invocation.options invocation.overrides
  | .check => host.check invocation.options invocation.overrides
  | .markers => host.showMarkers invocation.category invocation.details

end Invocation
end MarkerManifests
