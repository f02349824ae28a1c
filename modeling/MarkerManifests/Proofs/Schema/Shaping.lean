import MarkerManifests.Schema.Shaping

/-!
# Markers that change the type

Markers are applied in two passes over the same list. The first one heeds the markers that change
the type and the second one heeds the others, so a marker of the one kind may be written before or
after one of the other kind. Among markers of the same kind the order matters.
-/

namespace MarkerManifests

/-- Whether a marker changes the type of a schema. -/
def Marker.isShaping (marker : Marker) : Bool :=
  marker.name ∈ [Vocabulary.typeOverride, Vocabulary.format, Vocabulary.intOrString]

namespace Markers

/-- The markers that change the type of a schema. -/
def shaping (markers : Markers) : Markers :=
  markers.filter Marker.isShaping

/-- The markers that do not change the type of a schema. -/
def refining (markers : Markers) : Markers :=
  markers.filter (!·.isShaping)

theorem consumedBy_shaping (markers : Markers) (consumer : Consumer) :
    markers.shaping.consumedBy consumer = (markers.consumedBy consumer).shaping := by
  simp only [consumedBy, shaping, List.filter_filter, Bool.and_comm]

theorem consumedBy_refining (markers : Markers) (consumer : Consumer) :
    markers.refining.consumedBy consumer = (markers.consumedBy consumer).refining := by
  simp only [consumedBy, refining, List.filter_filter, Bool.and_comm]

end Markers

namespace SchemaNode

variable {location : Location} {node : SchemaNode} {marker : Marker} {markers : Markers}

/-! ## One marker -/

theorem shape_of_isShaping_eq_false (isOther : marker.isShaping = false) :
    shape location node marker = (node, []) := by
  simp only [Marker.isShaping, List.mem_cons, List.not_mem_nil, or_false, decide_eq_false_iff_not,
    not_or] at isOther
  obtain ⟨notType, notFormat, notIntOrString⟩ := isOther
  rw [shape, if_neg notType, if_neg notFormat, if_neg notIntOrString]

/-- The names of the markers that the second pass heeds in its own way; the other ones that it
heeds set bounds. -/
def refiningNames : List String := [
  Vocabulary.constraints, Vocabulary.nullable, Vocabulary.defaultValue, Vocabulary.enumeration,
  Vocabulary.rule, Vocabulary.preserveUnknownFields, Vocabulary.embeddedResource,
  Vocabulary.listType, Vocabulary.listMapKey, Vocabulary.mapType]

/-- The second pass heeds no marker without one of its names. -/
theorem refine_of_not_mem_refiningNames
    (notRefining : marker.name ∉ refiningNames)
    (noBound : Constraint.ofMarker? marker.name = none) :
    refine location node marker = (node, []) := by
  simp only [refiningNames, List.mem_cons, List.not_mem_nil, or_false, not_or] at notRefining
  simp only [refine, notRefining, if_false, noBound]

theorem refine_of_isShaping (isShaping : marker.isShaping = true) :
    refine location node marker = (node, []) := by
  have named : marker.name ∈ [Vocabulary.typeOverride, Vocabulary.format, Vocabulary.intOrString] :=
    of_decide_eq_true isShaping
  have unheeded : ∀ name ∈ [Vocabulary.typeOverride, Vocabulary.format, Vocabulary.intOrString],
      name ∉ refiningNames ∧ Constraint.ofMarker? name = none := by
    decide
  obtain ⟨notRefining, noBound⟩ := unheeded marker.name named
  exact refine_of_not_mem_refiningNames notRefining noBound

/-! ## Both passes -/

/-- Markers that are not heeded may be left out. -/
theorem applyEach_filter
    {apply : SchemaNode → Marker → SchemaNode × Diagnostics}
    {heeds : Marker → Bool}
    (unheeded : ∀ node marker, heeds marker = false → apply node marker = (node, []))
    (node : SchemaNode)
    (markers : Markers) :
    applyEach apply node (markers.filter heeds) = applyEach apply node markers := by
  induction markers generalizing node with
  | nil => rfl
  | cons marker rest inductionHypothesis =>
      cases heeded : heeds marker with
      | true =>
          rw [List.filter_cons_of_pos heeded, applyEach, applyEach]
          simp only [inductionHypothesis]
      | false =>
          rw [List.filter_cons_of_neg (by rw [heeded]; exact Bool.false_ne_true),
            inductionHypothesis, applyEach, unheeded node marker heeded]
          rfl

/-- Applies the markers for schemas without a look at the keys of lists. -/
def applyUnchecked (location : Location) (node : SchemaNode) (markers : Markers) :
    SchemaNode × Diagnostics :=
  let markers := markers.consumedBy .schema
  let (shaped, shaping) := applyEach (shape location) node markers
  let (refined, refining) := applyEach (refine location) shaped markers
  (refined, shaping ++ refining)

/-- Markers are applied before the keys of lists are checked. -/
theorem applyMarkers_eq_checkListKeys
    (location : Location)
    (node : SchemaNode)
    (markers : Markers) :
    applyMarkers location node markers =
      let unchecked := applyUnchecked location node markers
      let checked := checkListKeys location unchecked.1
      (checked.1, unchecked.2 ++ checked.2) := rfl

/-- The markers that change the type are applied first, wherever they are written, and then the
other ones. -/
theorem applyUnchecked_eq_of_partition
    (location : Location)
    (node : SchemaNode)
    (markers : Markers) :
    applyUnchecked location node markers =
      let shaped := applyEach (shape location) node (markers.shaping.consumedBy .schema)
      let refined := applyEach (refine location) shaped.1 (markers.refining.consumedBy .schema)
      (refined.1, shaped.2 ++ refined.2) := by
  have shapingOnly : ∀ (node : SchemaNode) (markers : Markers),
      applyEach (shape location) node markers.shaping = applyEach (shape location) node markers :=
    applyEach_filter fun _ _ => shape_of_isShaping_eq_false
  have refiningOnly : ∀ (node : SchemaNode) (markers : Markers),
      applyEach (refine location) node markers.refining =
        applyEach (refine location) node markers :=
    applyEach_filter fun _ _ isShaping => refine_of_isShaping (Bool.not_eq_false' _ ▸ isShaping)
  simp only [Markers.consumedBy_shaping, Markers.consumedBy_refining, shapingOnly, refiningOnly]
  rfl

/-- Markers may be moved past markers of the other kind: where those that change the type come in
the same order, and the other ones, too, the result is the same, and so are the node from which it
is made and the diagnostics. -/
theorem applyMarkers_eq_of_partition_eq
    (location : Location)
    (node : SchemaNode)
    {first second : Markers}
    (sameShaping : first.shaping = second.shaping)
    (sameRefining : first.refining = second.refining) :
    applyUnchecked location node first = applyUnchecked location node second ∧
      applyMarkers location node first = applyMarkers location node second := by
  have sameUnchecked :
      applyUnchecked location node first = applyUnchecked location node second := by
    rw [applyUnchecked_eq_of_partition, applyUnchecked_eq_of_partition, sameShaping, sameRefining]
  refine ⟨sameUnchecked, ?_⟩
  rw [applyMarkers_eq_checkListKeys, applyMarkers_eq_checkListKeys, sameUnchecked]

/-! ## A type that is written late -/

/-- The field whose markers are looked at. -/
def sizeLocation : Location :=
  .field ⟨"p", "Disk"⟩ "size"

/-- A marker of the field with a value. -/
def sizeMarker (name : String) (value : Argument) : Marker where
  name := name
  location := sizeLocation
  consumer := .schema
  arguments := [(Definition.unnamed, value)]

/-- Bounds of texts and numbers before the type, and a type that is unknown. -/
def lateType : Markers := [
  sizeMarker Vocabulary.maxLength (.integer 5),
  sizeMarker Vocabulary.typeOverride (.string "string"),
  sizeMarker Vocabulary.minItems (.integer 1),
  sizeMarker Vocabulary.typeOverride (.string "word")]

/-- The same markers with the types first. -/
def earlyType : Markers := [
  sizeMarker Vocabulary.typeOverride (.string "string"),
  sizeMarker Vocabulary.typeOverride (.string "word"),
  sizeMarker Vocabulary.maxLength (.integer 5),
  sizeMarker Vocabulary.minItems (.integer 1)]

/-- The bound of texts applies to an integer that becomes a text later, and the unknown type is
reported first in both cases. -/
theorem applyMarkers_lateType_eq :
    lateType.shaping = earlyType.shaping ∧ lateType.refining = earlyType.refining ∧
      applyUnchecked sizeLocation (ofScalar .int32) lateType =
        applyUnchecked sizeLocation (ofScalar .int32) earlyType ∧
      applyMarkers sizeLocation (ofScalar .int32) lateType =
        applyMarkers sizeLocation (ofScalar .int32) earlyType ∧
      (applyUnchecked sizeLocation (ofScalar .int32) lateType).1.maxLength = some 5 ∧
      (applyMarkers sizeLocation (ofScalar .int32) lateType).2 = [
        semantic sizeLocation
          (Vocabulary.typeOverride ++ ": " ++ SchemaType.unknownMessage "word"),
        mismatch sizeLocation "minItems" (some .string)] := by
  have sameShaping : lateType.shaping = earlyType.shaping := by decide +kernel
  have sameRefining : lateType.refining = earlyType.refining := by decide +kernel
  obtain ⟨sameUnchecked, same⟩ := applyMarkers_eq_of_partition_eq sizeLocation (ofScalar .int32)
    sameShaping sameRefining
  exact ⟨sameShaping, sameRefining, sameUnchecked, same, by decide +kernel, by decide +kernel⟩

end SchemaNode
end MarkerManifests
