import MarkerManifests.Proofs.Marker.Resolution
import MarkerManifests.Proofs.Marker.Single

/-!
# Lines of comments

Every marker line of a comment adds the marker that is read from it, adds one diagnostic, or belongs
to somebody else and adds nothing. The markers and diagnostics of a comment are what its lines add,
in their order. So the kept markers stand in the order of their lines, and of the markers with one
name the first one is kept if the name may occur only once, and every one if not.
-/

namespace MarkerManifests
namespace Registry

variable {registry : Registry} {location : Location} {line : List Char} {marker : Marker}
  {definition : Definition} {kept markers : Markers} {diagnostics : Diagnostics} {index : Nat}
  {lines : List (List Char)} {name : String}

/-! ## One line -/

/-- What a line adds to the markers and diagnostics of a comment after the markers that were kept
before it. -/
inductive Adds
    (registry : Registry)
    (location : Location)
    (kept : Markers)
    (index : Nat)
    (line : List Char) : Markers → Diagnostics → Prop where
  | prose
      (isProse : Comment.markerBody? line = none) :
      Adds registry location kept index line [] []
  | foreign
      {body : List Char}
      (isMarker : Comment.markerBody? line = some body)
      (isForeign : registry.IsForeign body) :
      Adds registry location kept index line [] []
  | failure
      {diagnostic : Diagnostic}
      (failed : registry.readLine location line = .error diagnostic) :
      Adds registry location kept index line [] [diagnostic]
  | marker
      {marker : Marker}
      {definition : Definition}
      (isRead : registry.readLine location line = .ok (some marker))
      (isDefined : registry.lookup? marker.name location.applicability = some definition)
      (mayStand : definition.repeatable = true ∨ ∀ earlier ∈ kept, earlier.name ≠ marker.name) :
      Adds registry location kept index line [marker] []
  | repetition
      {marker : Marker}
      {definition : Definition}
      (isRead : registry.readLine location line = .ok (some marker))
      (isDefined : registry.lookup? marker.name location.applicability = some definition)
      (isSingle : definition.repeatable = false)
      (occurred : ∃ earlier ∈ kept, earlier.name = marker.name) :
      Adds registry location kept index line [] [repeated location marker.name index]

/-- What is read from a line with a result is read from its text after the plus sign. -/
theorem exists_readBody_of_readLine
    {outcome : Except Diagnostic (Option Marker)}
    (isRead : registry.readLine location line = outcome)
    (isResult : outcome ≠ .ok none) :
    ∃ body, Comment.markerBody? line = some body ∧ registry.readBody location body = outcome := by
  unfold readLine at isRead
  split at isRead
  · exact absurd isRead.symm isResult
  · rename_i body isMarker
    exact ⟨body, isMarker, isRead⟩

/-- A marker that is read has a definition in its kind of comment. -/
theorem exists_lookup?_of_readLine (isRead : registry.readLine location line = .ok (some marker)) :
    ∃ definition, registry.lookup? marker.name location.applicability = some definition := by
  obtain ⟨body, -, isRead⟩ := exists_readBody_of_readLine isRead (by simp)
  obtain ⟨definition, form, text, resolved, -, same⟩ := readBody_eq_some_iff.mp isRead
  have sameName : marker.name = definition.name := congrArg Marker.name same
  exact ⟨definition, sameName ▸ lookup?_of_resolve resolved⟩

theorem isRepeated_eq
    (isHere : marker.location = location)
    (isDefined : registry.lookup? marker.name location.applicability = some definition)
    (kept : Markers) :
    registry.isRepeated kept marker = (!definition.repeatable && kept.has marker.name) := by
  rw [isRepeated, isHere, isDefined]

/-- Every line adds something or nothing in one of these ways. -/
theorem exists_adds
    (registry : Registry)
    (location : Location)
    (kept : Markers)
    (index : Nat)
    (line : List Char) :
    ∃ markers diagnostics, Adds registry location kept index line markers diagnostics := by
  cases body : Comment.markerBody? line with
  | none => exact ⟨_, _, .prose body⟩
  | some text =>
      cases isRead : registry.readLine location line with
      | error diagnostic => exact ⟨_, _, .failure isRead⟩
      | ok found =>
          cases found with
          | none =>
              rw [readLine, body] at isRead
              cases readBody_eq_iff.mp isRead with
              | foreign isForeign => exact ⟨_, _, .foreign body isForeign⟩
          | some marker =>
              obtain ⟨definition, isDefined⟩ := exists_lookup?_of_readLine isRead
              by_cases mayStand :
                  definition.repeatable = true ∨ ∀ earlier ∈ kept, earlier.name ≠ marker.name
              · exact ⟨_, _, .marker isRead isDefined mayStand⟩
              · rw [not_or, Bool.not_eq_true] at mayStand
                refine ⟨_, _, .repetition isRead isDefined mayStand.1 ?_⟩
                simpa using mayStand.2

/-- The reader adds what the line adds, and goes on with the next line. -/
theorem Adds.readMarkers_eq
    {added : Markers}
    {reports : Diagnostics}
    (adds : Adds registry location kept index line added reports)
    (diagnostics : Diagnostics)
    (rest : List (List Char)) :
    registry.readMarkers location kept diagnostics (Comment.markersFrom index (line :: rest)) =
      registry.readMarkers location (kept ++ added) (diagnostics ++ reports)
        (Comment.markersFrom (index + 1) rest) := by
  cases adds with
  | prose isProse => simp [Comment.markersFrom, isProse]
  | foreign isMarker isForeign =>
      have unread : registry.readBody location _ = .ok none :=
        readBody_eq_iff.mpr (.foreign isForeign)
      simp [Comment.markersFrom, isMarker, readMarkers, unread]
  | failure failed =>
      obtain ⟨body, isMarker, failed⟩ := exists_readBody_of_readLine failed nofun
      simp [Comment.markersFrom, isMarker, readMarkers, failed]
  | marker isRead isDefined mayStand =>
      obtain ⟨body, isMarker, isRead⟩ := exists_readBody_of_readLine isRead (by simp)
      have notRepeated := isRepeated_eq (location_of_readBody isRead) isDefined kept
      rw [Bool.and_eq_false_iff.mpr (mayStand.imp (by simp) (by simp [Markers.has]))]
        at notRepeated
      simp [Comment.markersFrom, isMarker, readMarkers, isRead, notRepeated]
  | repetition isRead isDefined isSingle occurred =>
      obtain ⟨body, isMarker, isRead⟩ := exists_readBody_of_readLine isRead (by simp)
      have isRepeated := isRepeated_eq (location_of_readBody isRead) isDefined kept
      rw [isSingle, Bool.not_false, Bool.true_and,
        show kept.has _ = true by simpa [Markers.has] using occurred] at isRepeated
      simp [Comment.markersFrom, isMarker, readMarkers, isRead, isRepeated]

/-! ## All lines -/

/-- What lines add, one after the other, after the markers that were kept before them. -/
inductive Accounts (registry : Registry) (location : Location) :
    Markers → Nat → List (List Char) → Markers → Diagnostics → Prop where
  | done
      (kept : Markers)
      (index : Nat) :
      Accounts registry location kept index [] [] []
  | line
      {kept added markers : Markers}
      {reports diagnostics : Diagnostics}
      {index : Nat}
      {line : List Char}
      {lines : List (List Char)}
      (adds : Adds registry location kept index line added reports)
      (accounts : Accounts registry location (kept ++ added) (index + 1) lines markers diagnostics) :
      Accounts registry location kept index (line :: lines) (added ++ markers)
        (reports ++ diagnostics)

theorem exists_accounts
    (registry : Registry)
    (location : Location)
    (kept : Markers)
    (index : Nat)
    (lines : List (List Char)) :
    ∃ markers diagnostics, Accounts registry location kept index lines markers diagnostics := by
  induction lines generalizing kept index with
  | nil => exact ⟨_, _, .done kept index⟩
  | cons line rest inductionHypothesis =>
      obtain ⟨added, reports, adds⟩ := registry.exists_adds location kept index line
      obtain ⟨markers, diagnostics, accounts⟩ := inductionHypothesis (kept ++ added) (index + 1)
      exact ⟨_, _, .line adds accounts⟩

/-- The reader adds what the lines add. -/
theorem Accounts.readMarkers_eq
    (accounts : Accounts registry location kept index lines markers diagnostics)
    (earlier : Diagnostics) :
    registry.readMarkers location kept earlier (Comment.markersFrom index lines) =
      (kept ++ markers, earlier ++ diagnostics) := by
  induction accounts generalizing earlier with
  | done kept index => simp [Comment.markersFrom, readMarkers]
  | line adds _ inductionHypothesis =>
      rw [adds.readMarkers_eq, inductionHypothesis, List.append_assoc, List.append_assoc]

/-- The markers and diagnostics of a comment are what its lines add. -/
theorem readComment_eq_iff {entries : List String} :
    registry.readComment location entries = (markers, diagnostics) ↔
      Accounts registry location [] 0 (Comment.lines entries) markers diagnostics := by
  have ofAccounts : ∀ {markers diagnostics},
      Accounts registry location [] 0 (Comment.lines entries) markers diagnostics →
        registry.readComment location entries = (markers, diagnostics) := by
    intro markers diagnostics accounts
    exact accounts.readMarkers_eq []
  refine ⟨fun isRead => ?_, ofAccounts⟩
  obtain ⟨_, _, accounts⟩ := registry.exists_accounts location [] 0 (Comment.lines entries)
  cases isRead.symm.trans (ofAccounts accounts)
  exact accounts

/-! ## Kept markers -/

/-- The markers that are kept among those that are read. -/
structure KeptAmong
    (registry : Registry)
    (location : Location)
    (read markers : Markers) : Prop where
  inOrder : markers.Sublist read
  defined : ∀ marker ∈ markers, ∃ definition,
    registry.lookup? marker.name location.applicability = some definition
  single : ∀ name definition,
    registry.lookup? name location.applicability = some definition →
      definition.repeatable = false → markers.named name = (read.first? name).toList
  repeatable : ∀ name definition,
    registry.lookup? name location.applicability = some definition →
      definition.repeatable = true → markers.named name = read.named name

/-- Markers are kept in the order in which they are read. -/
theorem exists_foldl_keepMarker (kept markers : Markers) :
    ∃ added, markers.foldl registry.keepMarker kept = kept ++ added ∧ added.Sublist markers := by
  induction markers generalizing kept with
  | nil => exact ⟨[], (List.append_nil kept).symm, .slnil⟩
  | cons marker rest inductionHypothesis =>
      rw [List.foldl_cons, keepMarker]
      split
      · obtain ⟨added, same, sublist⟩ := inductionHypothesis kept
        exact ⟨added, same, sublist.cons marker⟩
      · obtain ⟨added, same, sublist⟩ := inductionHypothesis (kept ++ [marker])
        exact ⟨marker :: added, by simp [same], sublist.cons_cons marker⟩

/-- A marker that may occur more than once is always kept. -/
theorem named_foldl_keepMarker_of_repeatable
    (isDefined : registry.lookup? name location.applicability = some definition)
    (isRepeatable : definition.repeatable = true)
    (kept markers : Markers)
    (areHere : ∀ marker ∈ markers, marker.location = location) :
    (markers.foldl registry.keepMarker kept).named name = kept.named name ++ markers.named name := by
  induction markers generalizing kept with
  | nil => exact (List.append_nil _).symm
  | cons marker rest inductionHypothesis =>
      rw [List.forall_mem_cons] at areHere
      rw [List.foldl_cons, inductionHypothesis _ areHere.2, keepMarker]
      by_cases sameName : marker.name = name
      · subst sameName
        have notRepeated := isRepeated_eq areHere.1 isDefined kept
        rw [isRepeatable, Bool.not_true, Bool.false_and] at notRepeated
        rw [notRepeated, if_neg Bool.false_ne_true]
        simp [Markers.named]
      · split <;> simp [Markers.named, sameName]

theorem first?_toList (markers : Markers) (name : String) :
    (markers.first? name).toList = (markers.named name).take 1 := by
  rw [List.take_one, Markers.named, List.head?_filter, Markers.first?]

/-- What is kept of a comment. -/
theorem keptAmong_readComment
    (registry : Registry)
    (location : Location)
    (entries : List String) :
    registry.KeptAmong location
      ((Comment.lines entries).filterMap (registry.marker? location))
      (registry.readComment location entries).1 := by
  have areHere : ∀ marker ∈ (Comment.lines entries).filterMap (registry.marker? location),
      marker.location = location := by
    intro marker member
    obtain ⟨line, -, isMarker⟩ := List.mem_filterMap.mp member
    exact location_of_marker? isMarker
  have isFold : (registry.readComment location entries).1 =
      ((Comment.lines entries).filterMap (registry.marker? location)).foldl
        registry.keepMarker [] := by
    rw [readComment, Comment.markers, readMarkers_markersFrom]
  obtain ⟨added, same, sublist⟩ := registry.exists_foldl_keepMarker []
    ((Comment.lines entries).filterMap (registry.marker? location))
  rw [List.nil_append] at same
  refine ⟨?_, fun marker member => ?_, fun name definition isDefined isSingle => ?_,
    fun name definition isDefined isRepeatable => ?_⟩
  · rwa [isFold, same]
  · rw [isFold, same] at member
    obtain ⟨line, -, isMarker⟩ := List.mem_filterMap.mp (sublist.subset member)
    unfold marker? at isMarker
    split at isMarker
    · rename_i isRead
      subst isMarker
      exact exists_lookup?_of_readLine isRead
    · cases isMarker
  · rw [named_readComment isDefined isSingle, first?_toList]
  · rw [isFold, named_foldl_keepMarker_of_repeatable isDefined isRepeatable [] _ areHere]
    rfl

/-- The markers and diagnostics of a comment are exactly what its lines add, one after the other. So
markers are kept in the order of their lines: the first one that is read with a name that may occur
only once, and all of those with any other name. -/
theorem accounts_readComment (registry : Registry) (location : Location) (entries : List String) :
    (∀ markers diagnostics, registry.readComment location entries = (markers, diagnostics) ↔
        Accounts registry location [] 0 (Comment.lines entries) markers diagnostics) ∧
      registry.KeptAmong location
        ((Comment.lines entries).filterMap (registry.marker? location))
        (registry.readComment location entries).1 :=
  ⟨fun _ _ => readComment_eq_iff, registry.keptAmong_readComment location entries⟩

/-- A line that cannot be read does not count as the first occurrence. -/
example :
    (Vocabulary.registry.readComment (.field ⟨"p", "Name"⟩ "text")
      ["+validation:MaxLength=long", "+validation:MaxLength=8", "+validation:MaxLength=9"]).1.map
        Marker.text = ["+validation:MaxLength=8"] := by
  decide +kernel

end Registry
end MarkerManifests
