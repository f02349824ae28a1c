import MarkerManifests.Graph.TypeGraph
import MarkerManifests.Marker.Line

/-!
# Marker index

The markers of all comments of a type graph, in source order: the comment of a package, then every
declaration followed by its fields. Comments at the same location are indexed together.
-/

namespace MarkerManifests

namespace Declaration

/-- The comments of a declaration and its fields. -/
def comments (declaration : Declaration) : List (Location × List String) :=
  (.declaration declaration.id, declaration.doc) ::
    declaration.fields.map fun field => (.field declaration.id field.name, field.doc)

end Declaration

namespace TypeGraph

/-- The comments of a graph in source order. -/
def comments (graph : TypeGraph) : List (Location × List String) :=
  graph.packages.flatMap fun package =>
    (.package package.name, package.doc) :: package.types.flatMap Declaration.comments

end TypeGraph

/-- The markers of the comments of a graph. -/
structure MarkerIndex where
  /-- The locations in source order, with their markers. -/
  entries : List (Location × Markers) := []

namespace MarkerIndex

/-- Adds markers to the entry of a location, or as a new entry. -/
def addEntry (location : Location) (markers : Markers) :
    List (Location × Markers) → List (Location × Markers)
  | [] => [(location, markers)]
  | (other, old) :: rest =>
    if other = location then (other, old ++ markers) :: rest
    else (other, old) :: addEntry location markers rest

/-- Reads comments and adds them to an index. -/
def addComments (registry : Registry) (index : MarkerIndex) (diagnostics : Diagnostics) :
    List (Location × List String) → MarkerIndex × Diagnostics
  | [] => (index, diagnostics)
  | (location, doc) :: rest =>
    let (markers, found) := registry.readComment location doc
    addComments registry ⟨addEntry location markers index.entries⟩ (diagnostics ++ found) rest

/-- The markers of a graph and the failures met while they were read. -/
def ofGraph (registry : Registry) (graph : TypeGraph) : MarkerIndex × Diagnostics :=
  addComments registry {} [] graph.comments

/-- The markers at a location. -/
def markersAt (index : MarkerIndex) (location : Location) : Markers :=
  match index.entries.find? (·.1 = location) with
  | some (_, markers) => markers
  | none => []

/-- The markers of a package comment. -/
def package (index : MarkerIndex) (path : String) : Markers :=
  index.markersAt (.package path)

/-- The markers of a declaration. -/
def declaration (index : MarkerIndex) (id : TypeId) : Markers :=
  index.markersAt (.declaration id)

/-- The markers of a field. -/
def field (index : MarkerIndex) (id : TypeId) (name : String) : Markers :=
  index.markersAt (.field id name)

/-- The markers for one consumer, in source order. -/
def consumedBy (index : MarkerIndex) (consumer : Consumer) : Markers :=
  index.entries.flatMap fun (_, markers) => markers.consumedBy consumer

/-- The number of markers. -/
def size (index : MarkerIndex) : Nat :=
  (index.entries.map (·.2.length)).foldr (· + ·) 0

end MarkerIndex
end MarkerManifests
