import MarkerManifests.Diagnostic
import MarkerManifests.Marker.Arguments
import MarkerManifests.Marker.Comment
import MarkerManifests.Marker.Registry

/-!
# Reading markers

The name of a marker is the longest registered one among the text before the first equals sign and
what is left of it when parts are cut off at colons from the right. What was cut off are the named
arguments. A name that is registered for other kinds of comments only is an error, and text without
a registered name belongs to somebody else and is ignored.
-/

namespace MarkerManifests
namespace Registry

/-- What a marker line refers to. -/
inductive Resolution where
  | found (definition : Definition) (form : ArgumentForm) (text : List Char)
  /-- The name is registered for other kinds of comments only. -/
  | elsewhere (name : String) (allowed : List Applicability)
  | unknown

/-- The beginnings of a text that end before a separator, in ascending length. -/
def beginnings (separator : Char) : List Char → List (List Char)
  | [] => []
  | character :: rest =>
    let later := (beginnings separator rest).map (character :: ·)
    if character = separator then [] :: later else later

/-- The text before the first equals sign. -/
def head (body : List Char) : List Char :=
  body.takeWhile (· ≠ '=')

/-- The beginnings of the head that end before a colon, longest first. -/
def shorterNames (body : List Char) : List (List Char) :=
  (beginnings ':' (head body)).reverse

/-- The marker whose named arguments follow a name and a colon. -/
def named? (registry : Registry) (applicability : Applicability) (body name : List Char) :
    Option Resolution :=
  (registry.lookup? (String.ofList name) applicability).map fun definition =>
    .found definition .named (body.drop (name.length + 1))

/-- The name, if it is registered for any kind of comment. -/
def elsewhere? (registry : Registry) (name : List Char) : Option Resolution :=
  match registry.applicabilitiesOf (String.ofList name) with
  | [] => none
  | allowed => some (.elsewhere (String.ofList name) allowed)

/-- What the text after a plus sign refers to in a kind of comment. -/
def resolve (registry : Registry) (applicability : Applicability) (body : List Char) :
    Resolution :=
  match registry.lookup? (String.ofList (head body)) applicability with
  | some definition =>
    match Text.cutFirst? '=' body with
    | some (_, value) => .found definition .value value
    | none => .found definition .bare []
  | none =>
    match (shorterNames body).findSome? (registry.named? applicability body) with
    | some found => found
    | none =>
      ((head body :: shorterNames body).findSome? registry.elsewhere?).getD .unknown

/-- The diagnostic of a marker in a kind of comment that does not allow it. -/
def notAllowed (location : Location) (name : String) (allowed : List Applicability) :
    Diagnostic where
  kind := .applicability
  location := location
  message :=
    s!"marker '{name}' is not allowed on {location.applicability.word} comments (allowed: " ++
      ", ".intercalate (allowed.map Applicability.word) ++ ")"

/-- The diagnostic of a marker whose arguments were not understood. -/
def malformed (location : Location) (body : List Char) (error : ArgumentError) :
    Diagnostic where
  kind := .syntactic
  location := location
  message := s!"+{String.ofList body}: {error.message}"

/-- Reads the text after a plus sign; unregistered markers give nothing. -/
def readBody (registry : Registry) (location : Location) (body : List Char) :
    Except Diagnostic (Option Marker) :=
  match registry.resolve location.applicability body with
  | .unknown => .ok none
  | .elsewhere name allowed => .error (notAllowed location name allowed)
  | .found definition form text =>
    match definition.readArguments form text with
    | .error error => .error (malformed location body error)
    | .ok arguments => .ok (some ⟨definition.name, location, definition.consumer, arguments⟩)

/-- Reads one line of a comment; prose and unregistered markers give nothing. -/
def readLine (registry : Registry) (location : Location) (line : List Char) :
    Except Diagnostic (Option Marker) :=
  match Comment.markerBody? line with
  | none => .ok none
  | some body => registry.readBody location body

/-- Whether a marker may occur only once and has occurred. -/
def isRepeated (registry : Registry) (kept : Markers) (marker : Marker) : Bool :=
  match registry.lookup? marker.name marker.location.applicability with
  | some definition => !definition.repeatable && kept.has marker.name
  | none => false

/-- The diagnostic of a marker that may occur only once. The lines of a comment are counted from
one. -/
def repeated (location : Location) (name : String) (index : Nat) : Diagnostic where
  kind := .semantic
  location := location
  message := s!"marker '{name}' may appear only once; ignoring line {index + 1}"

/-- Reads marker lines after the markers that were kept before them. -/
def readMarkers (registry : Registry) (location : Location) (kept : Markers)
    (diagnostics : Diagnostics) : List (Nat × List Char) → Markers × Diagnostics
  | [] => (kept, diagnostics)
  | (index, body) :: rest =>
    match registry.readBody location body with
    | .error diagnostic =>
      registry.readMarkers location kept (diagnostics ++ [diagnostic]) rest
    | .ok none => registry.readMarkers location kept diagnostics rest
    | .ok (some marker) =>
      if registry.isRepeated kept marker then
        registry.readMarkers location kept
          (diagnostics ++ [repeated location marker.name index]) rest
      else
        registry.readMarkers location (kept ++ [marker]) diagnostics rest

/-- Reads the markers of a comment. The first occurrence of a marker that may occur only once
counts. -/
def readComment (registry : Registry) (location : Location) (entries : List String) :
    Markers × Diagnostics :=
  registry.readMarkers location [] [] (Comment.markers entries)

end Registry
end MarkerManifests
