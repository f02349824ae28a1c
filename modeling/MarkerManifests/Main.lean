import MarkerManifests.Generator.Invocation

/-!
# The program

Runs the command of the command line on the files of the system.
-/

namespace MarkerManifests

/-- The refusal that an error of the system stands for. -/
def HostError.ofSystem : IO.Error → HostError
  | .noFileOrDirectory .. => .notFound
  | .alreadyExists .. => .alreadyExists
  | .inappropriateType _ 20 _ => .notADirectory
  | .inappropriateType _ 21 _ => .isADirectory
  | error => .other (toString error)

/-- Runs an action of the system. -/
def attemptOnSystem {Value : Type} (action : IO Value) : IO (Except HostError Value) := do
  match ← action.toBaseIO with
  | .ok value => return .ok value
  | .error error => return .error (HostError.ofSystem error)

/-- Reads a file of the system. -/
def readOnSystem (path : String) : IO (Except HostError String) := do
  match ← attemptOnSystem (IO.FS.readBinFile path) with
  | .error error => return .error error
  | .ok bytes =>
    match String.fromUTF8? bytes with
    | some text => return .ok text
    | none => return .error (.other "stream did not contain valid UTF-8")

/-- The file system and the standard output. -/
def systemHost : Host IO where
  isFile path := do
    match ← attemptOnSystem (IO.FS.readBinFile path) with
    | .ok _ => return true
    | .error _ => return false
  isDirectory path := do
    match ← attemptOnSystem (IO.FS.readBinFile path) with
    | .error .isADirectory => return true
    | _ => return false
  read := readOnSystem
  write path text := attemptOnSystem (IO.FS.writeFile path text)
  createDirectory path := attemptOnSystem (IO.FS.createDir path)
  print := IO.print

/-- The exit code of a command line that is refused. -/
def usageExitCode : UInt32 := 2

/-- The exit code of a command that an error stopped. -/
def failureExitCode : UInt32 := 1

/-- Runs the command of a command line and gives the exit code. -/
def runProgram (arguments : List String) : IO UInt32 := do
  match Invocation.ofArguments arguments with
  | .error error =>
    IO.eprintln error.message
    return usageExitCode
  | .ok invocation =>
    match invocation.command with
    | none =>
      IO.eprintln UsageError.missingCommand.message
      return usageExitCode
    | some command =>
      match ← invocation.run systemHost command with
      | .ok code => return code.toUInt32
      | .error error =>
        IO.eprintln error.message
        return failureExitCode

end MarkerManifests

/-- Runs the program. -/
def main (arguments : List String) : IO UInt32 :=
  MarkerManifests.runProgram arguments
