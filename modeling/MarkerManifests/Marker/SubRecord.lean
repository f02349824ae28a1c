import MarkerManifests.Marker.Quoting
import MarkerManifests.Text.Pieces

/-!
# Sub-records

Arguments made of sections, such as `matchLabels~app=web.tier=front&matchExpressions~key=env`: a
section has a name and entries, and the same name or key may occur again.
-/

namespace MarkerManifests

/-- A named section with its entries in written order. -/
structure Section where
  name : String
  entries : List (String × String)
  deriving DecidableEq

/-- The first value of a key. -/
def Section.get? (part : Section) (key : String) : Option String :=
  (part.entries.find? (·.1 = key)).map (·.2)

/-- Sections in written order. -/
structure SubRecord where
  sections : List Section
  deriving DecidableEq

namespace SubRecord

/-- Why a text is not a sub-record. -/
inductive Fault where
  | empty
  | quoting (fault : Quoting.Fault)
  | missingTilde (part : String)
  | emptyName
  | missingEquals (entry : String) (name : String)
  deriving DecidableEq

/-- The wording of a fault. -/
def Fault.message : Fault → String
  | empty => "empty sub-record"
  | quoting fault => fault.message
  | missingTilde part => s!"section '{part}' is missing '~'"
  | emptyName => "section name is empty"
  | missingEquals entry name => s!"entry '{entry}' in section '{name}' is missing '='"

/-- Applies a reader to every element, from the first on. -/
def readAll {Input Output Error : Type} (readOne : Input → Except Error Output) :
    List Input → Except Error (List Output)
  | [] => .ok []
  | first :: rest =>
    match readOne first with
    | .error error => .error error
    | .ok output => (readAll readOne rest).map (output :: ·)

/-- The key and value of an entry of a section. -/
def readEntry (name : List Char) (entry : List Char) : Except Fault (String × String) :=
  match Quoting.cutKey? entry with
  | none => .error (.missingEquals (String.ofList entry) (String.ofList name))
  | some (key, value) =>
    match Quoting.unquote key with
    | .error fault => .error (.quoting fault)
    | .ok key =>
      match Quoting.unquote value with
      | .error fault => .error (.quoting fault)
      | .ok value => .ok (String.ofList key, String.ofList value)

/-- The section that a part of a text spells. -/
def readSection (part : List Char) : Except Fault Section :=
  match Text.cutFirst? '~' part with
  | none => .error (.missingTilde (String.ofList part))
  | some ([], _) => .error .emptyName
  | some (name, body) =>
    match Quoting.split '.' body with
    | .error fault => .error (.quoting fault)
    | .ok entries =>
      (readAll (readEntry name) entries).map fun entries => ⟨String.ofList name, entries⟩

/-- The sub-record that a text spells. -/
def read (text : List Char) : Except Fault SubRecord :=
  if text = [] then
    .error .empty
  else
    match Quoting.split '&' text with
    | .error fault => .error (.quoting fault)
    | .ok parts => (readAll readSection parts).map fun sections => ⟨sections⟩

/-- The sections with a name. -/
def sectionsNamed (record : SubRecord) (name : String) : List Section :=
  record.sections.filter (·.name = name)

/-- The text of an entry. Keys and values stand between quotes where they would not be read back
without them. -/
def renderEntry (entry : String × String) : List Char :=
  Quoting.quoteIfNeeded ['.', '=', '&', '~'] entry.1.toList ++
    '=' :: Quoting.quoteIfNeeded ['.', '=', '&', '~', ','] entry.2.toList

/-- The text of a section. -/
def renderSection (part : Section) : List Char :=
  part.name.toList ++ '~' :: Text.joined ['.'] (part.entries.map renderEntry)

/-- The text of a sub-record. -/
def render (record : SubRecord) : List Char :=
  Text.joined ['&'] (record.sections.map renderSection)

end SubRecord
end MarkerManifests
