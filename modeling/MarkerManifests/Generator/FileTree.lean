import MarkerManifests.Generator.Host

/-!
# Trees of files

Files and directories as a value, with the text that was printed. A path is followed component by
component: each one must be a directory for the next one to be looked up in it.
-/

namespace MarkerManifests

/-- A file with its text, or a directory. -/
inductive FileEntry where
  | file (text : String)
  | directory
  deriving DecidableEq

/-- The files and directories below a current directory, and what was printed. -/
structure FileTree where
  /-- The entries under their components, the latest first. -/
  entries : List (List String × FileEntry) := []
  printed : String := ""

namespace FileTree

/-- The entry under components; no components lead to the current directory. -/
def entry? (tree : FileTree) (place : List String) : Option FileEntry :=
  match place with
  | [] => some .directory
  | _ => (tree.entries.find? (·.1 = place)).map (·.2)

/-- The place that components lead to from a place. Only the last component may be missing, and
nothing is found above the current directory. -/
def follow (tree : FileTree) (place : List String) :
    List (List Char) → Except HostError (List String)
  | [] => .ok place
  | component :: rest =>
    match tree.entry? place with
    | none => .error .notFound
    | some (.file _) => .error .notADirectory
    | some .directory =>
      if FilePath.isIdle component then tree.follow place rest
      else if component = ['.', '.'] then
        if place.isEmpty then .error .notFound else tree.follow place.dropLast rest
      else tree.follow (place ++ [String.ofList component]) rest

/-- The place that a path leads to, if it starts at the current directory. -/
def locate (tree : FileTree) (path : String) : Except HostError (List String) :=
  if path == "" || FilePath.isAbsolute path then .error .notFound
  else tree.follow [] (Text.pieces '/' path.toList)

/-- The entry that a path leads to. -/
def find (tree : FileTree) (path : String) : Except HostError FileEntry :=
  match tree.locate path with
  | .error error => .error error
  | .ok place =>
    match tree.entry? place with
    | none => .error .notFound
    | some entry => .ok entry

/-- Puts an entry under components. -/
def put (tree : FileTree) (place : List String) (entry : FileEntry) : FileTree :=
  { tree with entries := (place, entry) :: tree.entries.filter (·.1 ≠ place) }

/-- The text of the file that a path leads to. -/
def read (tree : FileTree) (path : String) : Except HostError String :=
  match tree.find path with
  | .error error => .error error
  | .ok .directory => .error .isADirectory
  | .ok (.file text) => .ok text

/-- The tree in which the file that a path leads to has a text. -/
def write (tree : FileTree) (path text : String) : Except HostError FileTree :=
  match tree.locate path with
  | .error error => .error error
  | .ok place =>
    match tree.entry? place with
    | some .directory => .error .isADirectory
    | _ => .ok (tree.put place (.file text))

/-- The tree with one more directory. -/
def createDirectory (tree : FileTree) (path : String) : Except HostError FileTree :=
  match tree.locate path with
  | .error error => .error error
  | .ok place =>
    match tree.entry? place with
    | some _ => .error .alreadyExists
    | none => .ok (tree.put place .directory)

/-- The files of a tree under their paths. -/
def files (tree : FileTree) : List (String × String) :=
  tree.entries.filterMap fun (place, entry) =>
    match entry with
    | .file text => some ("/".intercalate place, text)
    | .directory => none

/-- Changes the tree, unless this is refused. -/
def attempt (change : FileTree → Except HostError FileTree) :
    StateM FileTree (Except HostError Unit) := do
  match change (← get) with
  | .ok tree => do
    set tree
    return .ok ()
  | .error error => return .error error

/-- A tree of files as the surroundings of a command. -/
def host : Host (StateM FileTree) where
  isFile path := do
    match (← get).find path with
    | .ok (.file _) => return true
    | _ => return false
  isDirectory path := do
    match (← get).find path with
    | .ok .directory => return true
    | _ => return false
  read path := do return (← get).read path
  write path text := attempt (·.write path text)
  createDirectory path := attempt (·.createDirectory path)
  print text := modify fun tree => { tree with printed := tree.printed ++ text }

/-- The tree that holds files, with the directories around them. -/
def ofFiles : List (String × String) → StateM FileTree (Except HostError Unit)
  | [] => return .ok ()
  | (path, text) :: rest => do
    match ← host.createDirectories ((FilePath.parent? path).getD "") with
    | .error error => return .error error
    | .ok () =>
      match ← host.write path text with
      | .error error => return .error error
      | .ok () => ofFiles rest

end FileTree
end MarkerManifests
