import MarkerManifests.Proofs.Schema.Shaping
import MarkerManifests.Schema.Synthesis
import Mathlib.Data.List.Nodup

/-!
# What markers leave alone

Markers change keywords of a node. They touch neither what the node demands nor its unions, nor any
node below it but the alternatives of values that are integers or strings. Among the keywords that
they change are the keys by which items are merged, which stay distinct.
-/

namespace MarkerManifests
namespace SchemaNode

/-- A node without the keywords and the alternatives that markers change. -/
def frame (node : SchemaNode) : SchemaNode where
  reference := node.reference
  required := node.required
  unions := node.unions
  properties := node.properties
  items := node.items
  additionalProperties := node.additionalProperties
  oneOf := node.oneOf
  allOf := node.allOf

/-- What markers may make of a node. -/
structure KeepsFrame (before after : SchemaNode) : Prop where
  frame : after.frame = before.frame
  distinctKeys : before.listMapKeys.Nodup → after.listMapKeys.Nodup

namespace KeepsFrame

variable {before between after : SchemaNode}

/-- Keywords other than the list keys may change. -/
theorem of_same
    (frame : after.frame = before.frame)
    (listMapKeys : after.listMapKeys = before.listMapKeys) :
    KeepsFrame before after :=
  ⟨frame, fun distinct => listMapKeys ▸ distinct⟩

theorem refl (node : SchemaNode) : KeepsFrame node node :=
  of_same rfl rfl

theorem trans (first : KeepsFrame before between) (second : KeepsFrame between after) :
    KeepsFrame before after :=
  ⟨second.frame.trans first.frame,
    fun distinct => second.distinctKeys (first.distinctKeys distinct)⟩

/-- A choice between nodes that keep the frame. -/
theorem ite
    {condition : Prop}
    [Decidable condition]
    {first second : SchemaNode × Diagnostics}
    (keepsFirst : KeepsFrame before first.1)
    (keepsSecond : KeepsFrame before second.1) :
    KeepsFrame before (if condition then first else second).1 := by
  by_cases holds : condition
  · rwa [if_pos holds]
  · rwa [if_neg holds]

theorem properties (keeps : KeepsFrame before after) : after.properties = before.properties :=
  congrArg (·.properties) keeps.frame

theorem required (keeps : KeepsFrame before after) : after.required = before.required :=
  congrArg (·.required) keeps.frame

theorem unions (keeps : KeepsFrame before after) : after.unions = before.unions :=
  congrArg (·.unions) keeps.frame

theorem items (keeps : KeepsFrame before after) : after.items = before.items :=
  congrArg (·.items) keeps.frame

theorem additionalProperties (keeps : KeepsFrame before after) :
    after.additionalProperties = before.additionalProperties :=
  congrArg (·.additionalProperties) keeps.frame

end KeepsFrame

variable {location : Location} {node marked : SchemaNode} {markers : Markers}

/-! ## One marker -/

theorem keepsFrame_shape (location : Location) (node : SchemaNode) (marker : Marker) :
    KeepsFrame node (shape location node marker).1 := by
  unfold shape
  refine .ite ?_ (.ite (.of_same rfl rfl) (.ite (.of_same rfl rfl) (.refl node)))
  split
  · exact .refl node
  · split
    · exact .of_same rfl rfl
    · exact .refl node

theorem keepsFrame_constrain
    (location : Location)
    (node : SchemaNode)
    (constraint : Constraint)
    (argument : Argument) :
    KeepsFrame node (constrain location node constraint argument).1 := by
  have keeps : ∀ keywords, constraint.set? argument node.toKeywords = some keywords →
      KeepsFrame node { node with toKeywords := keywords } := by
    intro keywords set
    cases constraint <;>
      · obtain ⟨value, -, rfl⟩ := Option.map_eq_some_iff.mp set
        exact .of_same rfl rfl
  unfold constrain
  refine .ite ?_ (.refl node)
  split
  · rename_i keywords set
    exact keeps keywords set
  · exact .refl node

theorem keepsFrame_constrainAll
    (location : Location)
    (node : SchemaNode)
    (arguments : List (String × Argument)) :
    KeepsFrame node (constrainAll location node arguments).1 := by
  induction arguments generalizing node with
  | nil => exact .refl node
  | cons argument rest inductionHypothesis =>
      unfold constrainAll
      split
      · exact inductionHypothesis node
      · exact (keepsFrame_constrain _ _ _ _).trans (inductionHypothesis _)

theorem keepsFrame_addRule (location : Location) (node : SchemaNode) (marker : Marker) :
    KeepsFrame node (addRule location node marker).1 := by
  unfold addRule
  dsimp only
  split
  · exact .of_same rfl rfl
  · exact .refl node

theorem keepsFrame_mergeList (location : Location) (node : SchemaNode) (marker : Marker) :
    KeepsFrame node (mergeList location node marker).1 := by
  unfold mergeList
  refine .ite (.ite (.of_same rfl rfl) (.ite (.of_same rfl rfl) ?_)) (.refl node)
  exact .ite (.of_same rfl rfl) (.refl node)

theorem keepsFrame_mergeMap (location : Location) (node : SchemaNode) (marker : Marker) :
    KeepsFrame node (mergeMap location node marker).1 := by
  unfold mergeMap
  exact .ite (.ite (.of_same rfl rfl) (.ite (.of_same rfl rfl) (.refl node))) (.refl node)

/-- A key that is there already is not added again. -/
theorem keepsFrame_addListKey (node : SchemaNode) (marker : Marker) :
    KeepsFrame node (addListKey node marker) := by
  unfold addListKey
  split
  · exact .refl node
  · split
    · exact .refl node
    · rename_i isNew
      exact ⟨rfl, fun distinct =>
        List.nodup_append_comm.mpr (List.nodup_cons.mpr ⟨isNew, distinct⟩)⟩

theorem keepsFrame_refine (location : Location) (node : SchemaNode) (marker : Marker) :
    KeepsFrame node (refine location node marker).1 := by
  unfold refine
  refine .ite (keepsFrame_constrainAll location node marker.arguments) ?_
  refine .ite (.of_same rfl rfl) (.ite ?_ (.ite (.of_same rfl rfl) ?_))
  · split
    · exact .of_same rfl rfl
    · exact .refl node
  refine .ite (keepsFrame_addRule location node marker) (.ite (.of_same rfl rfl) ?_)
  refine .ite (.ite (.of_same rfl rfl) (.refl node)) ?_
  refine .ite (keepsFrame_mergeList location node marker) ?_
  refine .ite (keepsFrame_addListKey node marker) ?_
  refine .ite (keepsFrame_mergeMap location node marker) ?_
  split
  · exact keepsFrame_constrain _ _ _ _
  · exact .refl node

/-! ## All markers -/

theorem keepsFrame_applyEach
    {apply : SchemaNode → Marker → SchemaNode × Diagnostics}
    (keeps : ∀ node marker, KeepsFrame node (apply node marker).1)
    (node : SchemaNode)
    (markers : Markers) :
    KeepsFrame node (applyEach apply node markers).1 := by
  induction markers generalizing node with
  | nil => exact .refl node
  | cons marker rest inductionHypothesis =>
      exact (keeps node marker).trans (inductionHypothesis _)

theorem keepsFrame_applyUnchecked (location : Location) (node : SchemaNode) (markers : Markers) :
    KeepsFrame node (applyUnchecked location node markers).1 :=
  (keepsFrame_applyEach (keepsFrame_shape location) _ _).trans
    (keepsFrame_applyEach (keepsFrame_refine location) _ _)

theorem keepsFrame_checkListKeys
    {checked : SchemaNode}
    (passed : (checkListKeys location node).1 = .ok checked) :
    KeepsFrame node checked := by
  unfold checkListKeys at passed
  split at passed
  · split at passed
    · cases passed
    · split at passed
      · cases passed
      · cases passed
        exact .refl node
  · split at passed
    · cases passed
      exact .refl node
    · cases passed
      exact ⟨rfl, fun _ => List.nodup_nil⟩

theorem keepsFrame_applyMarkers
    (applied : (applyMarkers location node markers).1 = .ok marked) :
    KeepsFrame node marked :=
  (keepsFrame_applyUnchecked location node markers).trans (keepsFrame_checkListKeys applied)

end SchemaNode

theorem SchemaSource.keepsFrame_withDescription
    (source : SchemaSource)
    (doc : List String)
    (node : SchemaNode) :
    SchemaNode.KeepsFrame node (source.withDescription doc node) := by
  unfold withDescription
  split
  · exact .refl node
  · exact .of_same rfl rfl

end MarkerManifests
