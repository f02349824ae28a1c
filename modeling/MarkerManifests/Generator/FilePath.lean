import MarkerManifests.Text.Pieces

/-!
# File paths

A path is a text whose components stand between slashes. Empty components and single points, other
than a first point, name nothing and are passed over.
-/

namespace MarkerManifests
namespace FilePath

/-- Whether a path starts at the root. -/
def isAbsolute (path : String) : Bool :=
  path.toList.head? == some '/'

/-- Whether a component names nothing. -/
def isIdle (component : List Char) : Bool :=
  component.isEmpty || component == ['.']

/-- The components of a path, without idle ones at the end unless there is no other. -/
def components (path : String) : List (List Char) :=
  match Text.pieces '/' path.toList with
  | [] => []
  | first :: rest => first :: (rest.reverse.dropWhile isIdle).reverse

/-- The last component of a path, unless it is idle or leads upwards. -/
def fileName? (path : String) : Option (List Char) :=
  (components path).getLast?.filter fun component =>
    !isIdle component && component != ['.', '.']

/-- The text after the last point of the last component, unless the point is its start. -/
def extension? (path : String) : Option String := do
  match Text.cutLast? '.' (← fileName? path) with
  | some ([], _) => none
  | some (_, extension) => return String.ofList extension
  | none => none

/-- The path of components. -/
def ofComponents : List (List Char) → String
  | [[]] => "/"
  | components => String.ofList (Text.joined ['/'] components)

/-- The path around the last component; a root and an empty path have none. -/
def parent? (path : String) : Option String :=
  match components path with
  | [] => none
  | [only] => if only.isEmpty then none else some ""
  | first :: second :: rest =>
    let before := first :: (second :: rest).dropLast
    some (ofComponents (components (ofComponents before)))

/-- A path below another one. A path that starts at the root stays as it is. -/
def join (base path : String) : String :=
  if isAbsolute path || base == "" then path
  else if base.toList.getLast? == some '/' then base ++ path
  else base ++ "/" ++ path

end FilePath
end MarkerManifests
