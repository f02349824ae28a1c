import MarkerManifests.Marker.Line
import MarkerManifests.Proofs.Text.Cutting
import Mathlib.Data.List.Basic

/-!
# Ignored entries of comments

An entry of one line is ignored if it is a marker line from which no marker is read: the marker
belongs to somebody else, or it is malformed. What is left of a comment without such entries has
the same description, and the same markers are kept.
-/

namespace MarkerManifests

/-! ## Lines that end in a carriage return -/

namespace Text

/-- A blank at the end of a text is trimmed. -/
theorem trim_append_blank
    (text : List Char)
    {character : Char}
    (blank : isBlank character = true) :
    trim (text ++ [character]) = trim text := by
  rw [trim, trim, trimStart, trimStart, List.dropWhile_append]
  split
  · rename_i allBlank
    rw [List.isEmpty_iff.mp allBlank, List.dropWhile_cons_of_pos blank]
    rfl
  · rw [trimEnd, List.reverse_append, List.reverse_singleton, List.singleton_append,
      List.dropWhile_cons_of_pos blank]
    rfl

end Text

namespace Comment

theorem trim_stripReturn (line : List Char) :
    Text.trim (stripReturn line) = Text.trim line := by
  unfold stripReturn
  split
  · rename_i returns
    obtain ⟨text, rfl⟩ := List.getLast?_eq_some_iff.mp returns
    rw [List.dropLast_concat, Text.trim_append_blank text (by decide)]
  · rfl

theorem markerBody?_stripReturn (line : List Char) :
    markerBody? (stripReturn line) = markerBody? line := by
  unfold markerBody? stripLeader
  rw [trim_stripReturn]

/-- The lines of a comment are those of its first entry and those of the others. -/
theorem lines_cons (entry : String) (rest : List String) :
    lines (entry :: rest) =
      (Text.pieces '\n' entry.toList).map stripReturn ++ lines rest := rfl

/-! ## What the description and the markers depend on -/

/-- A line of prose; marker lines are none. -/
def prose? (line : List Char) : Option (List Char) :=
  if (markerBody? line).isSome then none else some line

/-- Marker lines do not change the paragraphs. -/
theorem paragraphs_prose (current lines : List (List Char)) :
    paragraphs current (lines.filterMap prose?) = paragraphs current lines := by
  induction lines generalizing current with
  | nil => rfl
  | cons line rest inductionHypothesis =>
      by_cases isMarker : (markerBody? line).isSome
      · rw [List.filterMap_cons_none (by simp [prose?, isMarker]), inductionHypothesis]
        simp [paragraphs, isMarker]
      · rw [List.filterMap_cons_some (show prose? line = some line by simp [prose?, isMarker])]
        rw [paragraphs, paragraphs, if_neg isMarker, if_neg isMarker]
        split <;> rw [inductionHypothesis]

end Comment

namespace Registry

variable {registry : Registry} {location : Location}

/-- The marker of a line; malformed markers and lines without a marker have none. -/
def marker? (registry : Registry) (location : Location) (line : List Char) : Option Marker :=
  match registry.readLine location line with
  | .ok marker => marker
  | .error _ => none

/-- Keeps a marker after those that were kept before it, unless it must not be repeated. -/
def keepMarker (registry : Registry) (kept : Markers) (marker : Marker) : Markers :=
  if registry.isRepeated kept marker then kept else kept ++ [marker]

/-- The markers that are kept are chosen among those that were read, and neither the diagnostics
nor the numbers of the lines matter for them. -/
theorem readMarkers_markersFrom
    (registry : Registry)
    (location : Location)
    (kept : Markers)
    (diagnostics : Diagnostics)
    (index : Nat)
    (lines : List (List Char)) :
    (registry.readMarkers location kept diagnostics (Comment.markersFrom index lines)).1 =
      (lines.filterMap (registry.marker? location)).foldl registry.keepMarker kept := by
  induction lines generalizing kept diagnostics index with
  | nil => rfl
  | cons line rest inductionHypothesis =>
      unfold Comment.markersFrom
      cases body : Comment.markerBody? line with
      | none =>
          have isProse : registry.marker? location line = none := by
            simp [marker?, readLine, body]
          rw [List.filterMap_cons_none isProse]
          exact inductionHypothesis kept diagnostics (index + 1)
      | some text =>
          have sameMarker : registry.marker? location line =
              match registry.readBody location text with
              | .ok marker => marker
              | .error _ => none := by
            simp [marker?, readLine, body]
          unfold readMarkers
          cases read : registry.readBody location text with
          | error diagnostic =>
              rw [read] at sameMarker
              rw [List.filterMap_cons_none sameMarker]
              exact inductionHypothesis kept _ (index + 1)
          | ok found =>
              rw [read] at sameMarker
              cases found with
              | none =>
                  rw [List.filterMap_cons_none sameMarker]
                  exact inductionHypothesis kept diagnostics (index + 1)
              | some marker =>
                  rw [List.filterMap_cons_some sameMarker, List.foldl_cons, keepMarker]
                  dsimp only
                  split
                  · exact inductionHypothesis kept _ (index + 1)
                  · exact inductionHypothesis (kept ++ [marker]) diagnostics (index + 1)

/-! ## Comments without ignored entries -/

/-- An entry of one line that is a marker line from which no marker is read. -/
def isIgnored (registry : Registry) (location : Location) (entry : String) : Bool :=
  !entry.toList.contains '\n' && (Comment.markerBody? entry.toList).isSome &&
    (registry.marker? location entry.toList).isNone

/-- The entries of a comment that are not ignored. -/
def heeded (registry : Registry) (location : Location) (doc : List String) : List String :=
  doc.filter fun entry => !registry.isIgnored location entry

/-- An ignored entry may be left out before the others are. -/
theorem heeded_of_isIgnored
    {entry : String}
    (ignored : registry.isIgnored location entry = true)
    (earlier later : List String) :
    registry.heeded location (earlier ++ entry :: later) =
      registry.heeded location (earlier ++ later) := by
  simp [heeded, ignored]

theorem heeded_append (earlier later : List String) :
    registry.heeded location (earlier ++ later) =
      registry.heeded location earlier ++ registry.heeded location later :=
  List.filter_append earlier later

theorem isIgnored_iff {entry : String} :
    registry.isIgnored location entry = true ↔
      '\n' ∉ entry.toList ∧ (Comment.markerBody? entry.toList).isSome ∧
        ∀ marker, registry.readLine location entry.toList ≠ .ok (some marker) := by
  have unread : registry.marker? location entry.toList = none ↔
      ∀ marker, registry.readLine location entry.toList ≠ .ok (some marker) := by
    unfold marker?
    cases registry.readLine location entry.toList with
    | error diagnostic => simp
    | ok found => simp [Option.eq_none_iff_forall_ne_some]
  simp [isIgnored, unread, and_assoc]

/-- What is read from lines is read without the ignored entries, too, if nothing is read from
marker lines without a marker. -/
theorem filterMap_lines_heeded
    {Result : Type}
    (registry : Registry)
    (location : Location)
    (doc : List String)
    (read : List Char → Option Result)
    (skips : ∀ line, (Comment.markerBody? line).isSome →
      registry.marker? location line = none → read line = none) :
    (Comment.lines (registry.heeded location doc)).filterMap read =
      (Comment.lines doc).filterMap read := by
  induction doc with
  | nil => rfl
  | cons entry rest inductionHypothesis =>
      rw [Comment.lines_cons, List.filterMap_append, ← inductionHypothesis]
      by_cases ignored : registry.isIgnored location entry
      · have dropped : registry.heeded location (entry :: rest) = registry.heeded location rest :=
          List.filter_cons_of_neg (by simpa using ignored)
        simp only [isIgnored, Bool.and_eq_true, Bool.not_eq_true', Option.isNone_iff_eq_none]
          at ignored
        obtain ⟨⟨oneLine, isMarkerLine⟩, unread⟩ := ignored
        -- the entry is one line, from which nothing is read
        have noBreak : '\n' ∉ entry.toList := by simpa using oneLine
        have sameBody := Comment.markerBody?_stripReturn entry.toList
        have sameMarker : registry.marker? location (Comment.stripReturn entry.toList) =
            registry.marker? location entry.toList := by
          rw [marker?, marker?, readLine, readLine, sameBody]
        have skipped : read (Comment.stripReturn entry.toList) = none :=
          skips _ (by rw [sameBody]; exact isMarkerLine) (sameMarker.trans unread)
        rw [Text.pieces_of_not_mem noBreak, List.map_singleton,
          List.filterMap_cons_none skipped, dropped]
        rfl
      · have kept : registry.heeded location (entry :: rest) =
            entry :: registry.heeded location rest :=
          List.filter_cons_of_pos (by simpa using ignored)
        rw [kept, Comment.lines_cons, List.filterMap_append]

/-- Ignored entries do not change the description of a comment. -/
theorem description?_heeded
    (registry : Registry)
    (location : Location)
    (doc : List String) :
    Comment.description? (registry.heeded location doc) = Comment.description? doc := by
  have sameProse := registry.filterMap_lines_heeded location doc Comment.prose?
    fun line isMarkerLine _ => by simp [Comment.prose?, isMarkerLine]
  rw [Comment.description?, Comment.description?, ← Comment.paragraphs_prose, sameProse,
    Comment.paragraphs_prose]

/-- Ignored entries do not change which markers of a comment are kept. -/
theorem readComment_heeded
    (registry : Registry)
    (location : Location)
    (doc : List String) :
    (registry.readComment location (registry.heeded location doc)).1 =
      (registry.readComment location doc).1 := by
  have sameMarkers := registry.filterMap_lines_heeded location doc
    (registry.marker? location) fun _ _ unread => unread
  rw [readComment, readComment, Comment.markers, Comment.markers, readMarkers_markersFrom,
    readMarkers_markersFrom, sameMarkers]

end Registry
end MarkerManifests
