import MarkerManifests.Proofs.Schema.Parts

/-!
# The keys of merged lists

A list is merged by keys of its items, and how it is merged may be said where its type is declared,
where the type gets another name, and where a field has it. All of this is checked together wherever
something is added, so the keys of every list in a schema agree with how it is merged and with the
properties of its items.
-/

namespace MarkerManifests
namespace SchemaNode

/-- The keys by which a node is merged agree with how it is merged and with its items. -/
structure ListKeysFit (node : SchemaNode) : Prop where
  keyed : node.listMapKeys ≠ [] ↔ node.listType = some .map
  distinct : node.listMapKeys.Nodup
  known : node.listType = some .map → ∀ items, node.items = some items →
    items.isReference = false → items.isOpaque = false →
      ∀ key ∈ node.listMapKeys, items.hasProperty key = true

variable {location : Location} {node marked : SchemaNode} {markers : Markers}

/-- Nodes that differ in other keywords agree in this. -/
theorem ListKeysFit.congr
    {other : SchemaNode}
    (fit : node.ListKeysFit)
    (listType : other.listType = node.listType)
    (listMapKeys : other.listMapKeys = node.listMapKeys)
    (items : other.items = node.items) :
    other.ListKeysFit := by
  obtain ⟨keyed, distinct, known⟩ := fit
  exact ⟨by rw [listType, listMapKeys]; exact keyed, by rw [listMapKeys]; exact distinct,
    by rw [listType, listMapKeys, items]; exact known⟩

theorem Blank.listKeysFit (blank : node.Blank) : node.ListKeysFit where
  keyed := by
    rw [blank.listType, blank.listMapKeys]
    exact ⟨fun nonempty => absurd rfl nonempty, nofun⟩
  distinct := blank.listMapKeys ▸ List.nodup_nil
  known isMap := by
    rw [blank.listType] at isMap
    cases isMap

/-- All keys are properties of the items, as far as anything is known about the items. -/
theorem hasProperty_of_unknownListKey?_eq_none
    {items : SchemaNode}
    {key : String}
    (allKnown : node.unknownListKey? = none)
    (areItems : node.items = some items)
    (isDescribed : items.isReference = false)
    (isClear : items.isOpaque = false)
    (isKey : key ∈ node.listMapKeys) :
    items.hasProperty key = true := by
  unfold unknownListKey? at allKnown
  rw [areItems] at allKnown
  simp only [isDescribed, isClear, Bool.or_self, Bool.false_eq_true, if_false] at allKnown
  simpa using List.find?_eq_none.mp allKnown key isKey

/-- Only nodes whose distinct keys fit pass the check, and keys that have no use are dropped. -/
theorem listKeysFit_of_checkListKeys
    {checked : SchemaNode}
    (distinct : node.listMapKeys.Nodup)
    (passed : (checkListKeys location node).1 = .ok checked) :
    checked.ListKeysFit := by
  unfold checkListKeys at passed
  split at passed
  · rename_i isMap
    split at passed
    · cases passed
    · rename_i nonempty
      split at passed
      · cases passed
      · rename_i allKnown
        cases passed
        exact ⟨⟨fun _ => isMap, fun _ => nonempty⟩, distinct,
          fun _ _ areItems isDescribed isClear _ isKey =>
            hasProperty_of_unknownListKey?_eq_none allKnown areItems isDescribed isClear isKey⟩
  · rename_i notMap
    split at passed
    · rename_i empty
      cases passed
      exact ⟨⟨fun nonempty => absurd empty nonempty, fun isMap => absurd isMap notMap⟩, distinct,
        fun isMap => absurd isMap notMap⟩
    · cases passed
      exact ⟨⟨fun nonempty => absurd rfl nonempty, fun isMap => absurd isMap notMap⟩,
        List.nodup_nil, fun isMap => absurd isMap notMap⟩

/-- Whatever the markers of earlier layers left, the keys fit once further markers are applied. -/
theorem listKeysFit_of_applyMarkers
    (distinct : node.listMapKeys.Nodup)
    (applied : (applyMarkers location node markers).1 = .ok marked) :
    marked.ListKeysFit :=
  listKeysFit_of_checkListKeys
    ((keepsFrame_applyUnchecked location node markers).distinctKeys distinct) applied

end SchemaNode

namespace SchemaSource

theorem stepsKeep_listKeysFit (source : SchemaSource) :
    source.StepsKeep SchemaNode.ListKeysFit where
  blank _ blank := blank.listKeysFit
  record schemaOf id fields node _ defined := by
    obtain ⟨withFields, added, addedUnions⟩ := Except.exists_of_bind_eq_ok defined
    obtain ⟨properties, required, -, rfl⟩ := exists_addedBy_of_foldlM_plainField added
    obtain ⟨unions, oneOf, anyOf, allOf, rfl⟩ := SchemaNode.exists_eq_of_addUnions addedUnions
    have object : (SchemaNode.ofType .object).ListKeysFit :=
      SchemaNode.Blank.listKeysFit ⟨rfl, rfl, rfl⟩
    exact object.congr rfl rfl rfl
  marked _ _ _ _ fit applied := SchemaNode.listKeysFit_of_applyMarkers fit.distinct applied
  described doc node fit := by
    unfold withDescription
    split
    · exact fit
    · exact fit.congr rfl rfl rfl

/-- Whatever was called before, the keys of all lists in an answer fit. -/
theorem listKeysFit_of_isPartOf
    (source : SchemaSource)
    (calls : List SchemaCall)
    (key : SchemaKey) :
    let answer := (source.synthesize key.id key.version).run (source.performedAll calls)
    ∀ part : SchemaNode, part.IsPartOf answer.1 → part.ListKeysFit :=
  source.stepsKeep_listKeysFit.everyPart_synthesize calls key

/-! ## Keys from several layers -/

/-- The markers at a location that say how its list is merged. -/
def mergeMarkers (location : Location) (values : List (String × String)) : Location × Markers :=
  (location, values.map fun (name, value) =>
    { name, location, consumer := .schema, arguments := [(Definition.unnamed, .string value)] })

/-- Lists of ports are merged by the names of the ports. A pod has one that is merged by their
protocols, too, and another one that is no map, for which the keys have no use. -/
def layeredPorts : SchemaSource where
  graph :=
    { packages := [{
        name := "p"
        types := [
          { name := "Port", package := "p"
            shape := .record [
              { name := "name", type := .scalar .string, key := "name" },
              { name := "protocol", type := .scalar .string, key := "protocol" }] },
          { name := "Ports", package := "p", shape := .synonym (.list (.named ⟨"p", "Port"⟩)) },
          { name := "Pod", package := "p"
            shape := .record [
              { name := "open", type := .pointer (.named ⟨"p", "Ports"⟩), key := "open" },
              { name := "closed", type := .named ⟨"p", "Ports"⟩, key := "closed" }] }] }] }
  index :=
    { entries := [
        mergeMarkers (.declaration ⟨"p", "Ports"⟩)
          [(Vocabulary.listType, "map"), (Vocabulary.listMapKey, "name")],
        mergeMarkers (.field ⟨"p", "Pod"⟩ "open") [(Vocabulary.listMapKey, "protocol")],
        mergeMarkers (.field ⟨"p", "Pod"⟩ "closed") [(Vocabulary.listType, "set")]] }
  gates := .empty

/-- The keys of two layers come together, and both are properties of the ports. -/
theorem listKeysFit_layeredPorts :
    let answer := (layeredPorts.synthesize ⟨"p", "Pod"⟩ "v1").run (layeredPorts.performedAll [])
    ∃ ports : SchemaNode, ports.IsPartOf answer.1 ∧ ports.listMapKeys = ["name", "protocol"] ∧
      ports.ListKeysFit := by
  intro answer
  have both : (answer.1.property? "open").map (·.listMapKeys) = some ["name", "protocol"] := by
    decide +kernel
  obtain ⟨ports, isProperty, keys⟩ := Option.map_eq_some_iff.mp both
  have isPart : ports.IsPartOf answer.1 := .of_property? isProperty
  exact ⟨ports, isPart, keys,
    listKeysFit_of_isPartOf layeredPorts [] ⟨⟨"p", "Pod"⟩, "v1"⟩ ports isPart⟩

end SchemaSource
end MarkerManifests
