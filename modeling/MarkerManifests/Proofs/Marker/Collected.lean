import Mathlib.Data.List.Induction
import Mathlib.Data.List.Nodup
import MarkerManifests.Proofs.Marker.Indexed
import MarkerManifests.Proofs.Marker.Placed
import MarkerManifests.Proofs.Ordered.FirstOccurrences

/-!
# What an index collects

An index has one entry for every location that has a comment, in the order in which the locations
first occur, and the entry holds what is read from the comments at the location, one after the
other. So nothing that is read gets lost, and nothing gets to another location, also where several
comments share one. An index that is kept with the positions of its entries holds and finds the
same.
-/

namespace MarkerManifests

/-! ## Comments and their locations -/

/-- A marker that is read has the location of its comment. -/
theorem Registry.location_of_readBody
    {registry : Registry}
    {location : Location}
    {body : List Char}
    {marker : Marker}
    (isRead : registry.readBody location body = .ok (some marker)) :
    marker.location = location := by
  obtain ⟨definition, form, text, -, -, same⟩ := readBody_eq_some_iff.mp isRead
  exact congrArg Marker.location same

/-- The locations of the comments of a graph in source order: every package, followed by its
declarations, each of which is followed by its fields. -/
def TypeGraph.locations (graph : TypeGraph) : List Location :=
  graph.packages.flatMap fun package =>
    .package package.name :: package.types.flatMap fun declaration =>
      .declaration declaration.id ::
        declaration.fields.map fun field => .field declaration.id field.name

/-- The comment blocks of a declaration: its own, followed by those of the fields if it is a
record. -/
def Declaration.blocks (declaration : Declaration) : List (Location × List String) :=
  let id : TypeId := ⟨declaration.package, declaration.name⟩
  (.declaration id, declaration.doc) ::
    match declaration.shape with
    | .record fields => fields.map fun field => (.field id field.name, field.doc)
    | .synonym _ | .enumeration _ _ | .scalar _ => []

/-- The comment blocks of a graph in source order: that of every package, followed by those of its
declarations. -/
def TypeGraph.blocks (graph : TypeGraph) : List (Location × List String) :=
  graph.packages.flatMap fun package =>
    (.package package.name, package.doc) :: package.types.flatMap Declaration.blocks

theorem Declaration.comments_eq_blocks (declaration : Declaration) :
    declaration.comments = declaration.blocks := by
  obtain ⟨name, package, doc, shape⟩ := declaration
  cases shape <;> rfl

theorem TypeGraph.comments_eq_blocks (graph : TypeGraph) : graph.comments = graph.blocks := by
  rw [comments, blocks, funext Declaration.comments_eq_blocks]

theorem TypeGraph.map_fst_comments (graph : TypeGraph) :
    graph.comments.map (·.1) = graph.locations := by
  simp only [comments, locations, Declaration.comments, List.map_flatMap, List.map_cons,
    List.map_map, Function.comp_def]

namespace MarkerIndex

/-- What is read from the comments at a location, one after the other. -/
def readAt
    (registry : Registry)
    (comments : List (Location × List String))
    (location : Location) : Markers :=
  (comments.filter (·.1 = location)).flatMap fun comment =>
    (registry.readComment location comment.2).1

/-- What is reported while comments are read, one after the other. -/
def reportedIn (registry : Registry) (comments : List (Location × List String)) : Diagnostics :=
  comments.flatMap fun comment => (registry.readComment comment.1 comment.2).2

variable {registry : Registry} {location : Location}

theorem readAt_append
    (registry : Registry)
    (comments others : List (Location × List String))
    (location : Location) :
    readAt registry (comments ++ others) location =
      readAt registry comments location ++ readAt registry others location := by
  rw [readAt, List.filter_append, List.flatMap_append]
  rfl

theorem readAt_singleton (registry : Registry) (comment : Location × List String)
    (location : Location) :
    readAt registry [comment] location =
      if comment.1 = location then (registry.readComment comment.1 comment.2).1 else [] := by
  unfold readAt
  split
  · rename_i same
    simp [same]
  · rename_i differs
    simp [differs]

theorem readAt_eq_nil
    {comments : List (Location × List String)}
    (absent : location ∉ comments.map (·.1)) :
    readAt registry comments location = [] := by
  have noComment : comments.filter (·.1 = location) = [] := by
    refine List.filter_eq_nil_iff.mpr fun comment member same => absent ?_
    exact List.mem_map.mpr ⟨comment, member, of_decide_eq_true same⟩
  rw [readAt, noComment]
  rfl

/-! ## One more comment -/

theorem markersAt_cons
    (entry : Location × Markers)
    (rest : List (Location × Markers))
    (location : Location) :
    markersAt ⟨entry :: rest⟩ location =
      if entry.1 = location then entry.2 else markersAt ⟨rest⟩ location := by
  unfold markersAt
  by_cases same : entry.1 = location <;> simp [same]

/-- Markers are appended at their location, and nothing changes at another one. -/
theorem markersAt_addEntry
    (location : Location)
    (markers : Markers)
    (entries : List (Location × Markers))
    (other : Location) :
    markersAt ⟨addEntry location markers entries⟩ other =
      markersAt ⟨entries⟩ other ++ if location = other then markers else [] := by
  induction entries with
  | nil => exact markersAt_cons (location, markers) [] other
  | cons entry rest inductionHypothesis =>
      obtain ⟨place, held⟩ := entry
      unfold addEntry
      by_cases isLocation : place = location
      · subst isLocation
        by_cases same : place = other <;> simp [same, markersAt_cons]
      · by_cases isOther : place = other
        · subst isOther
          have differs : location ≠ place := Ne.symm isLocation
          simp [isLocation, differs, markersAt_cons]
        · simpa [isLocation, isOther, markersAt_cons] using inductionHypothesis

/-- A location that has no entry gets one behind the others. -/
theorem map_fst_addEntry
    (location : Location)
    (markers : Markers)
    (entries : List (Location × Markers)) :
    (addEntry location markers entries).map (·.1) =
      if location ∈ entries.map (·.1) then entries.map (·.1)
      else entries.map (·.1) ++ [location] := by
  induction entries with
  | nil => rfl
  | cons entry rest inductionHypothesis =>
      unfold addEntry
      by_cases isLocation : entry.1 = location
      · simp [isLocation]
      · have differs : ¬ location = entry.1 := fun same => isLocation same.symm
        by_cases occurred : location ∈ rest.map (·.1)
        · rw [if_pos occurred] at inductionHypothesis
          simp only [isLocation, if_false, List.map_cons, inductionHypothesis]
          rw [if_pos (List.mem_cons_of_mem _ occurred)]
        · rw [if_neg occurred] at inductionHypothesis
          simp only [isLocation, if_false, List.map_cons, inductionHypothesis, List.mem_cons,
            differs, occurred, or_self, List.cons_append]

/-- An index and diagnostics that hold what is read from comments. -/
structure Follows
    (registry : Registry)
    (comments : List (Location × List String))
    (index : MarkerIndex)
    (diagnostics : Diagnostics) : Prop where
  locations : index.entries.map (·.1) = (comments.map (·.1)).eraseDups
  markers : ∀ location, index.markersAt location = readAt registry comments location
  diagnostics : diagnostics = reportedIn registry comments

namespace Follows

variable {comments : List (Location × List String)} {index : MarkerIndex}
variable {diagnostics : Diagnostics}

theorem nothing (registry : Registry) : Follows registry [] {} [] where
  locations := by simp
  markers := fun _ => rfl
  diagnostics := rfl

/-- One more comment is read. -/
theorem add
    (follows : Follows registry comments index diagnostics)
    (comment : Location × List String) :
    Follows registry (comments ++ [comment])
      ⟨addEntry comment.1 (registry.readComment comment.1 comment.2).1 index.entries⟩
      (diagnostics ++ (registry.readComment comment.1 comment.2).2) where
  locations := by
    rw [map_fst_addEntry, follows.locations, List.map_append, List.map_singleton,
      eraseDups_append_singleton]
    simp only [List.mem_eraseDups]
  markers := by
    intro location
    rw [markersAt_addEntry, readAt_append, readAt_singleton, ← follows.markers location]
  diagnostics := by
    rw [reportedIn, List.flatMap_append, List.flatMap_singleton, follows.diagnostics]
    rfl

/-- Further comments are read. -/
theorem addComments
    (follows : Follows registry comments index diagnostics)
    (others : List (Location × List String)) :
    Follows registry (comments ++ others)
      (MarkerIndex.addComments registry index diagnostics others).1
      (MarkerIndex.addComments registry index diagnostics others).2 := by
  induction others generalizing comments index diagnostics with
  | nil => rwa [List.append_nil]
  | cons comment rest inductionHypothesis =>
      have extended := inductionHypothesis (follows.add comment)
      rwa [List.append_assoc] at extended

theorem distinct (follows : Follows registry comments index diagnostics) :
    (index.entries.map (·.1)).Nodup := by
  rw [follows.locations]
  exact nodup_eraseDups _

end Follows

/-- The index of a graph follows its comments. -/
theorem follows_ofGraph (registry : Registry) (graph : TypeGraph) :
    Follows registry graph.comments (ofGraph registry graph).1 (ofGraph registry graph).2 :=
  (Follows.nothing registry).addComments graph.comments

/-! ## The whole index -/

/-- What the index of a graph holds, and what is reported while it is made. -/
structure Collects
    (registry : Registry)
    (graph : TypeGraph)
    (index : MarkerIndex)
    (diagnostics : Diagnostics) : Prop where
  /-- No location has two entries. -/
  distinct : (index.entries.map (·.1)).Nodup
  /-- The entries are in the order in which their locations first occur. -/
  order : index.entries.map (·.1) = graph.locations.eraseDups
  /-- What is found at a location is what is read from the comments there, one after the other. -/
  found : ∀ location, index.markersAt location =
    (graph.blocks.filter (·.1 = location)).flatMap fun block =>
      (registry.readComment location block.2).1
  /-- What is found at the location of an entry is what the entry holds. -/
  entry : ∀ entry ∈ index.entries, index.markersAt entry.1 = entry.2
  /-- Nothing is found where no comment is. -/
  absent : ∀ location, location ∉ graph.locations → index.markersAt location = []
  /-- Every marker is found at its own location. -/
  located : ∀ location, ∀ marker ∈ index.markersAt location, marker.location = location
  /-- A consumer gets its markers of every entry, one entry after the other. -/
  consumed : ∀ consumer, index.consumedBy consumer =
    index.entries.flatMap fun entry => entry.2.filter (·.consumer = consumer)
  /-- The diagnostics are those of the comments, one after the other. -/
  reported : diagnostics =
    graph.blocks.flatMap fun block => (registry.readComment block.1 block.2).2
  /-- An index that is kept with positions has the same entries and diagnostics. Its position of a
  location is where the entry of the location stands, and what is found there is what is found. -/
  placed : ∃ kept, PlacedIndex.ofGraph registry graph = (kept, diagnostics) ∧
    kept.entries = index.entries ∧
    (∀ location position, kept.position? location = some position ↔
      (index.entries.map (·.1))[position]? = some location) ∧
    ∀ location, kept.markersAt location = index.markersAt location

/-- The index of a graph loses no marker and puts none in a wrong place. -/
theorem collects_ofGraph (registry : Registry) (graph : TypeGraph) :
    Collects registry graph (ofGraph registry graph).1 (ofGraph registry graph).2 := by
  have follows := follows_ofGraph registry graph
  have keeps := PlacedIndex.keeps_ofGraph registry graph
  refine ⟨follows.distinct, ?_, ?_, ?_, ?_, ?_, fun _ => rfl, ?_, ?_⟩
  · rw [follows.locations, graph.map_fst_comments]
  · rw [← graph.comments_eq_blocks]
    exact follows.markers
  · intro entry member
    rw [markersAt, Entries.find?_key_of_mem follows.distinct member]
  · intro location absent
    rw [← graph.map_fst_comments] at absent
    rw [follows.markers, readAt_eq_nil absent]
  · intro location marker member
    obtain ⟨body, isRead⟩ := (isReadBy_ofGraph registry graph).exists_readBody member
    exact Registry.location_of_readBody isRead
  · rw [← graph.comments_eq_blocks]
    exact follows.diagnostics
  · refine ⟨_, Prod.ext rfl keeps.diagnostics, keeps.entries, ?_, ?_⟩
    · rw [← keeps.entries]
      exact keeps.placed
    · intro location
      rw [keeps.placed.markersAt_eq, keeps.entries]

end MarkerIndex
end MarkerManifests
