import MarkerManifests.Marker.Index
import MarkerManifests.Ordered.Entries
import Mathlib.Data.List.Flatten

/-!
# Indexes with positions

An index can be kept with a table that has the position of the entry of every location. Then markers
are found and added at the position of their location, and no entry is searched. As long as the
table has exactly the positions of the entries, nothing else comes of it than of a search, so the
two ways of keeping an index give the same entries and find the same markers.
-/

namespace MarkerManifests

/-- Entries of an index, and a table of their positions. -/
structure PlacedIndex where
  entries : List (Location × Markers) := []
  position? : Location → Option Nat := fun _ => none

namespace PlacedIndex

/-- Adds markers at the position of their location, or as a new entry behind the others. -/
def insert (index : PlacedIndex) (location : Location) (markers : Markers) : PlacedIndex :=
  match index.position? location with
  | some position =>
    { index with
      entries := index.entries.modify position fun (place, held) => (place, held ++ markers) }
  | none =>
    { entries := index.entries ++ [(location, markers)]
      position? := fun other =>
        if other = location then some index.entries.length else index.position? other }

/-- The markers that stand at the position of a location. -/
def markersAt (index : PlacedIndex) (location : Location) : Markers :=
  match index.position? location with
  | some position => (index.entries[position]?.map (·.2)).getD []
  | none => []

/-- Reads a comment, adds its markers to an index and its diagnostics to others. -/
def read
    (registry : Registry)
    (state : PlacedIndex × Diagnostics)
    (comment : Location × List String) : PlacedIndex × Diagnostics :=
  let (markers, found) := registry.readComment comment.1 comment.2
  (state.1.insert comment.1 markers, state.2 ++ found)

/-- Reads the comments of a declaration: its own, and then those of its fields. -/
def readDeclaration
    (registry : Registry)
    (state : PlacedIndex × Diagnostics)
    (declaration : Declaration) : PlacedIndex × Diagnostics :=
  declaration.fields.foldl
    (fun state field => read registry state (.field declaration.id field.name, field.doc))
    (read registry state (.declaration declaration.id, declaration.doc))

/-- Reads the comments of a package: its own, and then those of its declarations. -/
def readPackage
    (registry : Registry)
    (state : PlacedIndex × Diagnostics)
    (package : Package) : PlacedIndex × Diagnostics :=
  package.types.foldl (readDeclaration registry)
    (read registry state (.package package.name, package.doc))

/-- The markers of a graph and the failures met while they were read. -/
def ofGraph (registry : Registry) (graph : TypeGraph) : PlacedIndex × Diagnostics :=
  graph.packages.foldl (readPackage registry) ({}, [])

/-- The comments of a graph are read one after the other. -/
theorem ofGraph_eq_foldl_comments (registry : Registry) (graph : TypeGraph) :
    ofGraph registry graph = graph.comments.foldl (read registry) ({}, []) := by
  have ofDeclaration (state : PlacedIndex × Diagnostics) (declaration : Declaration) :
      readDeclaration registry state declaration =
        declaration.comments.foldl (read registry) state := by
    rw [readDeclaration, Declaration.comments, List.foldl_cons, List.foldl_map]
  have ofPackage (state : PlacedIndex × Diagnostics) (package : Package) :
      readPackage registry state package =
        ((.package package.name, package.doc) ::
          package.types.flatMap Declaration.comments).foldl (read registry) state := by
    rw [readPackage, List.foldl_cons, List.foldl_flatMap]
    exact congrArg (fun step => package.types.foldl step _)
      (funext fun state => funext (ofDeclaration state))
  rw [ofGraph, TypeGraph.comments, List.foldl_flatMap]
  exact congrArg (fun step => graph.packages.foldl step _)
    (funext fun state => funext (ofPackage state))

/-! ## The table has the positions of the entries -/

/-- The table has exactly the positions of the entries. -/
def IsPlaced (index : PlacedIndex) : Prop :=
  ∀ location position, index.position? location = some position ↔
    (index.entries.map (·.1))[position]? = some location

/-- Behind the elements of a list stands the one that is appended. -/
theorem getElem?_append_singleton_eq_some_iff
    {Element : Type}
    {elements : List Element}
    {last element : Element}
    {position : Nat} :
    (elements ++ [last])[position]? = some element ↔
      elements[position]? = some element ∨ position = elements.length ∧ last = element := by
  rcases Nat.lt_trichotomy position elements.length with before | rfl | behind
  · simp [List.getElem?_append_left before, Nat.ne_of_lt before]
  · simp
  · have outside : (elements ++ [last]).length ≤ position := by
      rw [List.length_append]
      exact behind
    simp [List.getElem?_eq_none outside, List.getElem?_eq_none (Nat.le_of_lt behind),
      Nat.ne_of_gt behind]

/-- Adding markers to an entry changes no location. -/
theorem map_fst_modify (entries : List (Location × Markers)) (position : Nat) (markers : Markers) :
    (entries.modify position fun (place, held) => (place, held ++ markers)).map (·.1) =
      entries.map (·.1) := by
  induction entries generalizing position with
  | nil => cases position <;> rfl
  | cons entry rest inductionHypothesis =>
      cases position with
      | zero => rfl
      | succ position => exact congrArg (entry.1 :: ·) (inductionHypothesis position)

namespace IsPlaced

variable {index : PlacedIndex} {location : Location}

theorem empty : IsPlaced {} := by
  intro location position
  simp

/-- No location has two entries. -/
theorem nodup (placed : index.IsPlaced) : (index.entries.map (·.1)).Nodup := by
  rw [List.nodup_iff_pairwise_ne, List.pairwise_iff_getElem]
  intro first second inside alsoInside before same
  have isFirst := (placed _ first).mpr (List.getElem?_eq_getElem inside)
  have isSecond := (placed _ second).mpr (List.getElem?_eq_getElem alsoInside)
  rw [same, isSecond] at isFirst
  exact Nat.ne_of_lt before (Option.some.inj isFirst).symm

theorem not_mem_of_position?_eq_none
    (placed : index.IsPlaced)
    (unplaced : index.position? location = none) :
    location ∉ index.entries.map (·.1) := by
  intro member
  obtain ⟨position, isThere⟩ := List.mem_iff_getElem?.mp member
  rw [(placed location position).mpr isThere] at unplaced
  cases unplaced

/-- At the position of a location stands the entry of the location. -/
theorem exists_getElem?_of_position?
    (placed : index.IsPlaced)
    {position : Nat}
    (isPlaced : index.position? location = some position) :
    ∃ markers, index.entries[position]? = some (location, markers) := by
  have isThere := (placed location position).mp isPlaced
  rw [List.getElem?_map, Option.map_eq_some_iff] at isThere
  obtain ⟨⟨_, markers⟩, isEntry, rfl⟩ := isThere
  exact ⟨markers, isEntry⟩

/-- What stands at the position of a location is what a search for the location finds. -/
theorem markersAt_eq (placed : index.IsPlaced) (location : Location) :
    index.markersAt location = MarkerIndex.markersAt ⟨index.entries⟩ location := by
  unfold markersAt MarkerIndex.markersAt
  cases isPlaced : index.position? location with
  | none =>
      have absent := placed.not_mem_of_position?_eq_none isPlaced
      have noEntry : index.entries.find? (·.1 = location) = none := by
        refine List.find?_eq_none.mpr fun entry member same => absent ?_
        exact List.mem_map.mpr ⟨entry, member, of_decide_eq_true same⟩
      rw [noEntry]
  | some position =>
      obtain ⟨markers, isThere⟩ := placed.exists_getElem?_of_position? isPlaced
      have found : index.entries.find? (·.1 = location) = some (location, markers) :=
        Entries.find?_key_of_mem placed.nodup (List.mem_of_getElem? isThere)
      dsimp only
      rw [found, isThere]
      rfl

/-- Markers that are added keep the table. -/
theorem insert (placed : index.IsPlaced) (location : Location) (markers : Markers) :
    (index.insert location markers).IsPlaced := by
  intro other position
  unfold PlacedIndex.insert
  cases isPlaced : index.position? location with
  | none =>
      have absent := placed.not_mem_of_position?_eq_none isPlaced
      dsimp only
      rw [List.map_append, List.map_singleton, getElem?_append_singleton_eq_some_iff,
        ← placed other position, List.length_map]
      split
      · rename_i isNew
        rw [isNew, isPlaced]
        simp [eq_comm]
      · rename_i isOld
        simp [Ne.symm isOld]
  | some here =>
      dsimp only
      rw [placed other position, map_fst_modify]

end IsPlaced

/-! ## Both ways of keeping an index -/

/-- Where a location has no entry, it gets one behind the others. -/
theorem addEntry_of_not_mem
    {entries : List (Location × Markers)}
    {location : Location}
    (absent : location ∉ entries.map (·.1))
    (markers : Markers) :
    MarkerIndex.addEntry location markers entries = entries ++ [(location, markers)] := by
  induction entries with
  | nil => rfl
  | cons entry rest inductionHypothesis =>
      rw [List.map_cons, List.mem_cons, not_or] at absent
      obtain ⟨differs, absentLater⟩ := absent
      rw [MarkerIndex.addEntry, if_neg (Ne.symm differs), inductionHypothesis absentLater]
      rfl

/-- Where a location has an entry, its markers are appended there. -/
theorem addEntry_of_getElem?
    {entries : List (Location × Markers)}
    {location : Location}
    {position : Nat}
    (distinct : (entries.map (·.1)).Nodup)
    (isThere : (entries.map (·.1))[position]? = some location)
    (markers : Markers) :
    MarkerIndex.addEntry location markers entries =
      entries.modify position fun (place, held) => (place, held ++ markers) := by
  induction entries generalizing position with
  | nil => simp at isThere
  | cons entry rest inductionHypothesis =>
      rw [List.map_cons, List.nodup_cons] at distinct
      cases position with
      | zero =>
          have isFirst : entry.1 = location := by simpa using isThere
          rw [MarkerIndex.addEntry, if_pos isFirst]
          rfl
      | succ position =>
          rw [List.map_cons, List.getElem?_cons_succ] at isThere
          have differs : entry.1 ≠ location := fun same =>
            distinct.1 (same ▸ List.mem_of_getElem? isThere)
          rw [MarkerIndex.addEntry, if_neg differs, inductionHypothesis distinct.2 isThere]
          rfl

/-- Adding at a position adds what a search adds. -/
theorem IsPlaced.entries_insert
    {index : PlacedIndex}
    (placed : index.IsPlaced)
    (location : Location)
    (markers : Markers) :
    (index.insert location markers).entries =
      MarkerIndex.addEntry location markers index.entries := by
  unfold PlacedIndex.insert
  cases isPlaced : index.position? location with
  | none =>
      exact (addEntry_of_not_mem (placed.not_mem_of_position?_eq_none isPlaced) markers).symm
  | some position =>
      have isThere := (placed location position).mp isPlaced
      exact (addEntry_of_getElem? placed.nodup isThere markers).symm

/-- An index that is kept with positions beside one that is searched. -/
structure Keeps
    (kept : PlacedIndex × Diagnostics)
    (indexed : MarkerIndex × Diagnostics) : Prop where
  placed : kept.1.IsPlaced
  entries : kept.1.entries = indexed.1.entries
  diagnostics : kept.2 = indexed.2

/-- One comment after the other is read in both ways. -/
theorem Keeps.addComments
    {registry : Registry}
    {kept : PlacedIndex × Diagnostics}
    {index : MarkerIndex}
    {diagnostics : Diagnostics}
    (keeps : Keeps kept (index, diagnostics))
    (comments : List (Location × List String)) :
    Keeps (comments.foldl (read registry) kept)
      (MarkerIndex.addComments registry index diagnostics comments) := by
  induction comments generalizing kept index diagnostics with
  | nil => exact keeps
  | cons comment rest inductionHypothesis =>
      refine inductionHypothesis ⟨keeps.placed.insert _ _, ?_, ?_⟩
      · exact (keeps.placed.entries_insert _ _).trans (congrArg _ keeps.entries)
      · exact congrArg (· ++ _) keeps.diagnostics

/-- The index of a graph is the same in both ways. -/
theorem keeps_ofGraph (registry : Registry) (graph : TypeGraph) :
    Keeps (ofGraph registry graph) (MarkerIndex.ofGraph registry graph) := by
  rw [ofGraph_eq_foldl_comments]
  exact Keeps.addComments ⟨.empty, rfl, rfl⟩ graph.comments

end PlacedIndex
end MarkerManifests
