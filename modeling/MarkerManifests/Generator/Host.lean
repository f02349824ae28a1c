import MarkerManifests.Generator.FilePath

/-!
# Hosts

What the commands ask of their surroundings: files and a stream for results. Commands are written for
every host, so that they can run on a file system as well as on a tree of files.
-/

namespace MarkerManifests

/-- Why the host refuses something. -/
inductive HostError where
  | notFound
  | alreadyExists
  | notADirectory
  | isADirectory
  /-- Another reason, with its wording. -/
  | other (message : String)
  deriving DecidableEq

/-- The wording of a refusal. -/
def HostError.message : HostError → String
  | notFound => "No such file or directory (os error 2)"
  | alreadyExists => "File exists (os error 17)"
  | notADirectory => "Not a directory (os error 20)"
  | isADirectory => "Is a directory (os error 21)"
  | other message => message

/-- The surroundings of a command. -/
structure Host (Action : Type → Type) where
  /-- Whether a path leads to a file. -/
  isFile : String → Action Bool
  /-- Whether a path leads to a directory. -/
  isDirectory : String → Action Bool
  /-- The text of a file. -/
  read : String → Action (Except HostError String)
  /-- Replaces the text of a file or creates the file. -/
  write : String → String → Action (Except HostError Unit)
  /-- Creates one directory. -/
  createDirectory : String → Action (Except HostError Unit)
  /-- Appends a text to the stream for results. -/
  print : String → Action Unit

namespace Host

variable {Action : Type → Type} [Monad Action]

/-- Creates a directory, or accepts the one that is there. -/
def createOrAccept (host : Host Action) (path : String) : Action (Except HostError Unit) := do
  match ← host.createDirectory path with
  | .ok () => return .ok ()
  | .error error => return if ← host.isDirectory path then .ok () else .error error

/-- Creates a directory and those around it that are missing. The first argument bounds the number
of directories around it. -/
def createDirectoriesWithin (host : Host Action) :
    Nat → String → Action (Except HostError Unit)
  | 0, path => host.createOrAccept path
  | depth + 1, path => do
    match ← host.createDirectory path with
    | .ok () => return .ok ()
    | .error .notFound =>
      match FilePath.parent? path with
      | none => return .error (.other "failed to create whole tree")
      | some "" => host.createOrAccept path
      | some parent =>
        match ← host.createDirectoriesWithin depth parent with
        | .ok () => host.createOrAccept path
        | .error error => return .error error
    | .error error => return if ← host.isDirectory path then .ok () else .error error

/-- Creates a directory and those around it that are missing; the empty path asks for nothing. -/
def createDirectories (host : Host Action) (path : String) : Action (Except HostError Unit) :=
  if path == "" then return .ok () else host.createDirectoriesWithin path.length path

end Host
end MarkerManifests
