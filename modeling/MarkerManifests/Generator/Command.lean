import MarkerManifests.Generator.Help
import MarkerManifests.Generator.Loader
import MarkerManifests.Generator.Pipeline

/-!
# Commands

Generating writes the artifacts of a run, checking prints its diagnostics, and a third command prints
the catalog of markers. A command ends with an exit code, or with an error that stopped it.
-/

namespace MarkerManifests

/-- What stops a command. -/
inductive CommandError where
  | load (error : LoadError)
  | graph (error : GraphError)
  | malformedConfiguration
  | unreadableConfiguration (path : String) (error : HostError)
  /-- The directory for results was not created. -/
  | directory (path : String) (error : HostError)
  /-- A result was not written. -/
  | write (error : HostError)
  | category (error : UnknownCategory)
  deriving DecidableEq

namespace CommandError

/-- The wording of what failed while a type graph was loaded. -/
def loadMessage (error : LoadError) : String :=
  "type graph load error: " ++ error.message

/-- The wording of a refusal of the host. -/
def hostMessage (error : HostError) : String :=
  "io error: " ++ error.message

/-- The wording of an error: what was done, what failed, and why. -/
def message : CommandError → String
  | load error => "loading type graph: " ++ loadMessage error
  | graph error => "loading type graph: " ++ error.message
  | malformedConfiguration => "configuration error: malformed document"
  | unreadableConfiguration path error =>
    "configuration error: " ++ path ++ ": " ++ error.message
  | directory path error =>
    "creating output directory " ++ path ++ ": " ++ hostMessage error ++ ": " ++ error.message
  | write error => hostMessage error ++ ": " ++ error.message
  | category error => error.message

end CommandError

/-- The options that all commands share. -/
structure CommonOptions where
  /-- The path of the configuration. -/
  configuration : Option String := none
  /-- Whether diagnostics make a run fail. -/
  strict : Bool := false
  deriving DecidableEq

/-- The exit code of strict runs with diagnostics. -/
def diagnosticsExitCode : Nat := 2

/-- The exit code of a run. -/
def CommonOptions.exitCode (options : CommonOptions) (diagnostics : Diagnostics) : Nat :=
  if options.strict && !diagnostics.isEmpty then diagnosticsExitCode else 0

namespace Host

variable {Action : Type → Type} [Monad Action]

/-- Writes files to a directory that is there. The results are their paths. -/
def writeFiles (host : Host Action) (directory : String) :
    List (String × String) → Action (Except HostError (List String))
  | [] => return .ok []
  | (name, text) :: rest => do
    let path := FilePath.join directory name
    match ← host.write path text with
    | .error error => return .error error
    | .ok () =>
      match ← host.writeFiles directory rest with
      | .error error => return .error error
      | .ok paths => return .ok (path :: paths)

/-- The configuration at a path. Its paths are taken from the directory of the configuration. -/
def readConfiguration (host : Host Action) (path : String) :
    Action (Except CommandError GeneratorConfiguration) := do
  match ← host.read path with
  | .error error => return .error (.unreadableConfiguration path error)
  | .ok text =>
    match GeneratorConfiguration.ofYaml? text with
    | none => return .error .malformedConfiguration
    | some configuration =>
      match FilePath.parent? path with
      | none => return .ok configuration
      | some base => return .ok (configuration.mapPaths (FilePath.join base))

/-- The configuration of a run: the one at the given path, if there is a file, with overrides. -/
def resolveConfiguration (host : Host Action) (options : CommonOptions) (overrides : Overrides) :
    Action (Except CommandError GeneratorConfiguration) := do
  let found ← match options.configuration with
    | none => pure (.ok {})
    | some path =>
      if ← host.isFile path then host.readConfiguration path else pure (.ok {})
  return found.map (·.override overrides)

/-- Loads the inputs of a configuration and runs the generators. -/
def loadAndRun (host : Host Action) (configuration : GeneratorConfiguration) :
    Action (Except CommandError Generated) := do
  match ← Package.loadInputs host configuration.inputs with
  | .error error => return .error (.load error)
  | .ok packages =>
    match TypeGraph.ofPackages packages with
    | .error error => return .error (.graph error)
    | .ok graph => return .ok (configuration.run graph)

/-- Publishes files in a directory, or prints them if there is none. The results are the paths of the
files in the directory. -/
def publish (host : Host Action) (directory : Option String) (files : List (String × String)) :
    Action (Except CommandError (List String)) := do
  match directory with
  | none => do
    host.print (Artifact.streamText files)
    return .ok []
  | some directory =>
    match ← host.createDirectories directory with
    | .error error => return .error (.directory directory error)
    | .ok () =>
      match ← host.writeFiles directory files with
      | .error error => return .error (.write error)
      | .ok paths => return .ok paths

/-- Runs the generators and publishes the artifacts. -/
def generate (host : Host Action) (options : CommonOptions) (overrides : Overrides) :
    Action (Except CommandError Nat) := do
  match ← host.resolveConfiguration options overrides with
  | .error error => return .error error
  | .ok configuration =>
    match ← host.loadAndRun configuration with
    | .error error => return .error error
    | .ok generated =>
      let output := configuration.output
      match ← host.publish output.directory
          (Artifact.files output.format generated.artifacts) with
      | .error error => return .error error
      | .ok _ => return .ok (options.exitCode generated.diagnostics)

/-- Runs the generators and prints the diagnostics. -/
def check (host : Host Action) (options : CommonOptions) (overrides : Overrides) :
    Action (Except CommandError Nat) := do
  match ← host.resolveConfiguration options overrides with
  | .error error => return .error error
  | .ok configuration =>
    match ← host.loadAndRun configuration with
    | .error error => return .error error
    | .ok generated => do
      host.print generated.diagnostics.report
      return .ok (options.exitCode generated.diagnostics)

/-- Prints the catalog of markers. -/
def showMarkers (host : Host Action) (category : Option String) (details : Bool) :
    Action (Except CommandError Nat) := do
  match Vocabulary.registry.help category details with
  | .error error => return .error (.category error)
  | .ok text => do
    host.print text
    return .ok 0

end Host
end MarkerManifests
