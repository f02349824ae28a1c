import MarkerManifests.Text.Blank

/-!
# Field paths

A path into a document, such as `.status.conditions[0].type`: segments that each follow a point.
A segment may hold points and blanks inside balanced brackets.
-/

namespace MarkerManifests

/-- A path into a document. -/
structure FieldPath where
  /-- The segments, with their brackets. -/
  segments : List String
  deriving DecidableEq

namespace FieldPath

/-- Why a text is not a path. -/
inductive Fault where
  | missingPoint
  | unbalancedOpening
  | unbalancedClosing
  | emptySegment
  | whitespace
  deriving DecidableEq

/-- The wording of a fault. -/
def Fault.message : Fault → String
  | missingPoint => "path must start with '.'"
  | unbalancedOpening => "unbalanced '[' in path"
  | unbalancedClosing => "unbalanced ']' in path"
  | emptySegment => "empty path segment"
  | whitespace => "whitespace in path"

/-- Puts a character in front of the first segment. -/
def extend (character : Char) : List (List Char) → List (List Char)
  | [] => [[character]]
  | first :: others => (character :: first) :: others

/-- The segments of a text after its first point. The first two arguments are the depth of the
open brackets and whether the segment has a character already. -/
def readSegments : Nat → Bool → List Char → Except Fault (List (List Char))
  | 0, true, [] => .ok [[]]
  | 0, false, [] => .error .emptySegment
  | _ + 1, _, [] => .error .unbalancedOpening
  | depth, started, character :: rest =>
    if character = '[' then
      (readSegments (depth + 1) true rest).map (extend character)
    else if character = ']' then
      match depth with
      | 0 => .error .unbalancedClosing
      | depth + 1 => (readSegments depth true rest).map (extend character)
    else if character = '.' ∧ depth = 0 then
      if started then (readSegments 0 false rest).map ([] :: ·) else .error .emptySegment
    else if Text.isBlank character ∧ depth = 0 then
      .error .whitespace
    else
      (readSegments depth true rest).map (extend character)

/-- The path that a text spells. -/
def read (text : List Char) : Except Fault FieldPath :=
  match text with
  | '.' :: rest => (readSegments 0 false rest).map fun segments => ⟨segments.map String.ofList⟩
  | _ => .error .missingPoint

/-- The text of a path: a point before every segment. -/
def render (path : FieldPath) : List Char :=
  path.segments.flatMap fun segment => '.' :: segment.toList

end FieldPath
end MarkerManifests
