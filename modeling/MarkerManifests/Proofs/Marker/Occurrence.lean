import MarkerManifests.Marker.Index

/-!
# Occurrences of markers

A marker may stand several times in an index, so what becomes of it is a matter of one
occurrence: what stands before it decides whether it counts, and it can be erased without
anything else.
-/

namespace MarkerManifests

/-- Whether the gate of a marker, if it has one, holds. -/
def Marker.IsUngated (marker : Marker) (gates : Gate.State) : Prop :=
  ∀ expr, marker.gate? "featureGate" = some expr → expr.eval gates = true

/-- One occurrence of a marker in an index, and what stands around it. -/
structure MarkerOccurrence where
  /-- The entries of the index before the one that holds the marker. -/
  before : List (Location × Markers)
  /-- The location of the entry. -/
  location : Location
  /-- The markers of the entry before the marker. -/
  earlier : Markers
  marker : Marker
  /-- The markers of the entry after the marker. -/
  later : Markers
  /-- The entries of the index after the one that holds the marker. -/
  after : List (Location × Markers)

namespace MarkerOccurrence

/-- The index in which the marker occurs. -/
def index (occurrence : MarkerOccurrence) : MarkerIndex where
  entries := occurrence.before ++
    (occurrence.location, occurrence.earlier ++ occurrence.marker :: occurrence.later) ::
      occurrence.after

/-- What the index holds before the occurrence. -/
def preceding (occurrence : MarkerOccurrence) : MarkerIndex where
  entries := occurrence.before ++ [(occurrence.location, occurrence.earlier)]

/-- The index without the occurrence. -/
def erased (occurrence : MarkerOccurrence) : MarkerIndex where
  entries := occurrence.before ++
    (occurrence.location, occurrence.earlier ++ occurrence.later) :: occurrence.after

end MarkerOccurrence

namespace MarkerIndex

/-- All markers of an index, in source order. -/
def markers (index : MarkerIndex) : Markers :=
  index.entries.flatMap (·.2)

theorem consumedBy_eq_filter (index : MarkerIndex) (consumer : Consumer) :
    index.consumedBy consumer = index.markers.filter (·.consumer = consumer) := by
  rw [consumedBy, markers, List.filter_flatMap]
  rfl

end MarkerIndex

namespace MarkerOccurrence

/-- What follows an occurrence in source order. -/
def following (occurrence : MarkerOccurrence) : Markers :=
  occurrence.later ++ occurrence.after.flatMap (·.2)

theorem markers_index (occurrence : MarkerOccurrence) :
    occurrence.index.markers =
      occurrence.preceding.markers ++ occurrence.marker :: occurrence.following := by
  simp [MarkerIndex.markers, index, preceding, following]

theorem markers_erased (occurrence : MarkerOccurrence) :
    occurrence.erased.markers = occurrence.preceding.markers ++ occurrence.following := by
  simp [MarkerIndex.markers, erased, preceding, following]

end MarkerOccurrence
end MarkerManifests
