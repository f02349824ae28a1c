import MarkerManifests.Proofs.Schema.Walk
import MarkerManifests.Schema.Shaping
import MarkerManifests.Schema.Union
import Mathlib.Tactic.Tauto

/-!
# What markers and unions do to a node

A marker changes keywords of a node. It keeps its properties, and at most it replaces alternatives
by bare ones. Markers that change the type are applied before all others, so a bound that is added
is one that some marker mentions and that applies to the final type. A bound that a node brings
along stays, whatever its type becomes. Unions add bare clauses and change nothing else.
-/

namespace MarkerManifests

/-! ## Bounds and overridden types -/

/-- Whether the keywords hold a bound. A bound that is set to false is no bound. -/
def Keywords.holds (keywords : Keywords) : Constraint → Bool
  | .maxLength => keywords.maxLength.isSome
  | .minLength => keywords.minLength.isSome
  | .maxItems => keywords.maxItems.isSome
  | .minItems => keywords.minItems.isSome
  | .maxProperties => keywords.maxProperties.isSome
  | .minProperties => keywords.minProperties.isSome
  | .minimum => keywords.minimum.isSome
  | .maximum => keywords.maximum.isSome
  | .multipleOf => keywords.multipleOf.isSome
  | .exclusiveMinimum => keywords.exclusiveMinimum
  | .exclusiveMaximum => keywords.exclusiveMaximum
  | .pattern => keywords.pattern.isSome

/-- Setting a bound changes no other bound, and neither the reference nor the type. -/
theorem Constraint.holds_of_set?
    {constraint : Constraint}
    {argument : Argument}
    {keywords changed : Keywords}
    (set : constraint.set? argument keywords = some changed) :
    changed.reference = keywords.reference ∧ changed.type = keywords.type ∧
      ∀ other, other ≠ constraint → changed.holds other = keywords.holds other := by
  cases constraint <;>
    · obtain ⟨value, -, rfl⟩ := Option.map_eq_some_iff.mp set
      refine ⟨rfl, rfl, fun other differs => ?_⟩
      cases other <;> first | rfl | exact absurd rfl differs

namespace Marker

/-- The type that a marker puts in place of another one; no type is demanded of values that are
integers or strings. -/
def override? (marker : Marker) : Option (Option SchemaType) :=
  if marker.name = Vocabulary.typeOverride then
    ((marker.string? Definition.unnamed).bind SchemaType.ofWord?).map some
  else if marker.name = Vocabulary.intOrString then some none
  else none

/-- The bounds that a marker mentions. -/
def bounds (marker : Marker) : List Constraint :=
  if marker.name = Vocabulary.constraints then
    marker.arguments.filterMap fun argument => Constraint.ofKey? argument.1
  else
    (Constraint.ofMarker? marker.name).toList

end Marker

namespace Markers

/-- The type that the markers for schemas put in place of another one: that of the last such
marker. -/
def override? (markers : Markers) : Option (Option SchemaType) :=
  (markers.consumedBy .schema).reverse.findSome? Marker.override?

/-- The bounds that the markers for schemas mention. -/
def bounds (markers : Markers) : List Constraint :=
  (markers.consumedBy .schema).flatMap Marker.bounds

end Markers

namespace SchemaNode

/-! ## Bare nodes -/

/-- A node that is no reference and has no bounds. -/
structure Bare (node : SchemaNode) : Prop where
  reference : node.reference = none
  bounds : ∀ constraint, node.holds constraint = false

/-- Keywords without bounds and without a reference, and no children. -/
theorem everywhere_bare_leaf
    {keywords : Keywords}
    (bare : Bare { toKeywords := keywords }) :
    Everywhere Bare { toKeywords := keywords } :=
  .intro bare fun _ isChild => absurd isChild List.not_mem_nil

theorem everywhere_bare_of_mem_integerOrString
    {node : SchemaNode}
    (member : node ∈ integerOrString) :
    node.Everywhere Bare := by
  rcases List.mem_cons.mp member with rfl | member
  · exact everywhere_bare_leaf ⟨rfl, fun constraint => by cases constraint <;> rfl⟩
  · rw [List.mem_singleton.mp member]
    exact everywhere_bare_leaf ⟨rfl, fun constraint => by cases constraint <;> rfl⟩

theorem everywhere_bare_ofScalar (kind : ScalarKind) : (ofScalar kind).Everywhere Bare := by
  cases kind with
  | intOrString =>
      refine .intro ⟨rfl, fun constraint => by cases constraint <;> rfl⟩ fun _ isChild =>
        everywhere_bare_of_mem_integerOrString ?_
      simpa [ofScalar, children] using isChild
  | _ => exact everywhere_bare_leaf ⟨rfl, fun constraint => by cases constraint <;> rfl⟩

theorem everywhere_bare_of_mem_clauses
    {members : List String}
    {clause : SchemaNode}
    (member : clause ∈ clauses members) :
    clause.Everywhere Bare := by
  obtain ⟨key, -, rfl⟩ := List.mem_map.mp member
  exact everywhere_bare_leaf ⟨rfl, fun constraint => by cases constraint <;> rfl⟩

theorem bare_array (items : SchemaNode) : (array items).Bare :=
  ⟨rfl, fun constraint => by cases constraint <;> rfl⟩

theorem bare_map (values : SchemaNode) : (map values).Bare :=
  ⟨rfl, fun constraint => by cases constraint <;> rfl⟩

/-! ## Decorated nodes -/

/-- What becomes of a node whose type is final. Properties, type and reference stay, new children
are bare everywhere, and new bounds are allowed ones that apply to the type. -/
structure Decorates
    (allowed : Constraint → Prop)
    (before after : SchemaNode) : Prop where
  properties : after.properties = before.properties
  reference : after.reference = before.reference
  type : after.type = before.type
  children : ∀ child ∈ after.children, child ∈ before.children ∨ child.Everywhere Bare
  bounds : ∀ constraint, after.holds constraint = true →
    before.holds constraint = true ∨ allowed constraint ∧ constraint.appliesTo after.type = true

namespace Decorates

variable {allowed wider : Constraint → Prop} {before between after node : SchemaNode}

/-- Other keywords may change. -/
theorem of_same
    (properties : after.properties = before.properties)
    (reference : after.reference = before.reference)
    (type : after.type = before.type)
    (children : after.children = before.children)
    (bounds : ∀ constraint, after.holds constraint = before.holds constraint) :
    Decorates allowed before after where
  properties := properties
  reference := reference
  type := type
  children := fun _ isChild => .inl (children ▸ isChild)
  bounds := fun constraint held => .inl ((bounds constraint).symm.trans held)

theorem refl (node : SchemaNode) : Decorates allowed node node :=
  of_same rfl rfl rfl rfl fun _ => rfl

theorem mono
    (decorates : Decorates allowed before after)
    (widens : ∀ constraint, allowed constraint → wider constraint) :
    Decorates wider before after :=
  { decorates with
    bounds := fun constraint held =>
      (decorates.bounds constraint held).imp_right (And.imp_left (widens constraint)) }

theorem trans
    (first : Decorates allowed before between)
    (second : Decorates allowed between after) :
    Decorates allowed before after where
  properties := second.properties.trans first.properties
  reference := second.reference.trans first.reference
  type := second.type.trans first.type
  children := fun child isChild =>
    (second.children child isChild).elim (first.children child) .inr
  bounds := by
    intro constraint held
    rcases second.bounds constraint held with earlier | new
    · rw [second.type]
      exact first.bounds constraint earlier
    · exact .inr new

/-- Where no bounds are added, the type may be changed before or after. -/
theorem overriding
    (decorates : Decorates (fun _ => False) before after)
    (type : Option SchemaType) :
    Decorates (fun _ => False) { before with type } { after with type } where
  properties := decorates.properties
  reference := decorates.reference
  type := rfl
  children := decorates.children
  bounds := fun constraint held =>
    (decorates.bounds constraint held).imp_right fun new => absurd new.1 not_false

/-- A choice between decorated nodes. -/
theorem ite
    {condition : Prop}
    [Decidable condition]
    {first second : SchemaNode × Diagnostics}
    (decoratesFirst : Decorates allowed before first.1)
    (decoratesSecond : Decorates allowed before second.1) :
    Decorates allowed before (if condition then first else second).1 := by
  by_cases holds : condition
  · rwa [if_pos holds]
  · rwa [if_neg holds]

/-- What holds everywhere remains, if it holds of the decorated node and of bare ones. -/
theorem everywhere
    {property : SchemaNode → Prop}
    (decorates : Decorates allowed before after)
    (below : ∀ child ∈ before.children, child.Everywhere property)
    (bare : ∀ node : SchemaNode, node.Bare → property node)
    (here : property after) :
    after.Everywhere property := by
  refine .intro here fun child isChild => ?_
  rcases decorates.children child isChild with old | new
  · exact below child old
  · exact new.mono bare

end Decorates

/-! ## Markers that change the type -/

theorem decorates_shape
    (location : Location)
    (node : SchemaNode)
    (marker : Marker) :
    Decorates (fun _ => False) { node with type := marker.override?.getD node.type }
      (shape location node marker).1 := by
  unfold shape Marker.override?
  by_cases isType : marker.name = Vocabulary.typeOverride
  · rw [if_pos isType, if_pos isType]
    cases marker.string? Definition.unnamed with
    | none => exact .of_same rfl rfl rfl rfl fun _ => rfl
    | some word =>
        dsimp only
        rw [Option.bind_some]
        cases SchemaType.ofWord? word with
        | none => exact .of_same rfl rfl rfl rfl fun _ => rfl
        | some type => exact .of_same rfl rfl rfl rfl fun _ => rfl
  rw [if_neg isType, if_neg isType]
  by_cases isIntOrString : marker.name = Vocabulary.intOrString
  · have notFormat : marker.name ≠ Vocabulary.format := by
      rw [isIntOrString]
      decide
    rw [if_neg notFormat, if_pos isIntOrString, if_pos isIntOrString]
    refine ⟨rfl, rfl, rfl, fun child isChild => ?_, fun _ held => .inl held⟩
    have alternative : child ∈ integerOrString → child.Everywhere Bare :=
      everywhere_bare_of_mem_integerOrString
    rw [mem_children_iff] at isChild ⊢
    tauto
  · rw [if_neg isIntOrString, if_neg isIntOrString]
    exact .ite (.of_same rfl rfl rfl rfl fun _ => rfl) (.of_same rfl rfl rfl rfl fun _ => rfl)

theorem decorates_applyEach_shape
    (location : Location)
    (node : SchemaNode)
    (markers : List Marker) :
    Decorates (fun _ => False)
      { node with type := (markers.reverse.findSome? Marker.override?).getD node.type }
      (applyEach (shape location) node markers).1 := by
  induction markers generalizing node with
  | nil => exact .of_same rfl rfl rfl rfl fun _ => rfl
  | cons marker rest inductionHypothesis =>
      have first := decorates_shape location node marker
      have later := inductionHypothesis (shape location node marker).1
      rw [first.type] at later
      have type : ((marker :: rest).reverse.findSome? Marker.override?).getD node.type =
          (rest.reverse.findSome? Marker.override?).getD
            (marker.override?.getD node.type) := by
        rw [List.reverse_cons, List.findSome?_append, List.findSome?_singleton]
        cases rest.reverse.findSome? Marker.override? <;> rfl
      rw [type]
      exact (first.overriding _).trans later

/-! ## Other markers -/

theorem decorates_constrain
    (location : Location)
    (node : SchemaNode)
    (constraint : Constraint)
    (argument : Argument) :
    Decorates (· = constraint) node (constrain location node constraint argument).1 := by
  unfold constrain
  split
  · rename_i applies
    split
    · rename_i keywords set
      obtain ⟨reference, type, others⟩ := Constraint.holds_of_set? set
      refine ⟨rfl, reference, type, fun _ isChild => .inl isChild, fun other held => ?_⟩
      by_cases same : other = constraint
      · subst same
        refine .inr ⟨rfl, ?_⟩
        change other.appliesTo keywords.type = true
        rw [type]
        exact applies
      · exact .inl ((others other same).symm.trans held)
    · exact .refl node
  · exact .refl node

theorem decorates_constrainAll
    (location : Location)
    (node : SchemaNode)
    (arguments : List (String × Argument)) :
    Decorates (· ∈ arguments.filterMap fun argument => Constraint.ofKey? argument.1) node
      (constrainAll location node arguments).1 := by
  induction arguments generalizing node with
  | nil => exact .refl node
  | cons argument rest inductionHypothesis =>
      unfold constrainAll
      split
      · rename_i unknown
        rw [List.filterMap_cons, unknown]
        exact inductionHypothesis node
      · rename_i constraint known
        rw [List.filterMap_cons, known]
        refine ((decorates_constrain location node constraint argument.2).mono ?_).trans
          ((inductionHypothesis _).mono fun _ => List.mem_cons_of_mem constraint)
        rintro _ rfl
        exact List.mem_cons_self

theorem decorates_addRule
    {allowed : Constraint → Prop}
    (location : Location)
    (node : SchemaNode)
    (marker : Marker) :
    Decorates allowed node (addRule location node marker).1 := by
  unfold addRule
  dsimp only
  split
  · exact .of_same rfl rfl rfl rfl fun _ => rfl
  · exact .refl node

theorem decorates_mergeList
    {allowed : Constraint → Prop}
    (location : Location)
    (node : SchemaNode)
    (marker : Marker) :
    Decorates allowed node (mergeList location node marker).1 := by
  unfold mergeList
  refine .ite ?_ (.refl node)
  refine .ite (.of_same rfl rfl rfl rfl fun _ => rfl) ?_
  refine .ite (.of_same rfl rfl rfl rfl fun _ => rfl) ?_
  exact .ite (.of_same rfl rfl rfl rfl fun _ => rfl) (.refl node)

theorem decorates_mergeMap
    {allowed : Constraint → Prop}
    (location : Location)
    (node : SchemaNode)
    (marker : Marker) :
    Decorates allowed node (mergeMap location node marker).1 := by
  unfold mergeMap
  refine .ite ?_ (.refl node)
  refine .ite (.of_same rfl rfl rfl rfl fun _ => rfl) ?_
  exact .ite (.of_same rfl rfl rfl rfl fun _ => rfl) (.refl node)

theorem decorates_addListKey
    {allowed : Constraint → Prop}
    (node : SchemaNode)
    (marker : Marker) :
    Decorates allowed node (addListKey node marker) := by
  unfold addListKey
  split
  · exact .refl node
  · split
    · exact .refl node
    · exact .of_same rfl rfl rfl rfl fun _ => rfl

/-- A marker that does not change the type changes keywords only. -/
theorem decorates_refine
    (location : Location)
    (node : SchemaNode)
    (marker : Marker) :
    Decorates (· ∈ marker.bounds) node (refine location node marker).1 := by
  unfold refine Marker.bounds
  by_cases several : marker.name = Vocabulary.constraints
  · rw [if_pos several, if_pos several]
    exact decorates_constrainAll location node marker.arguments
  rw [if_neg several, if_neg several]
  refine .ite (.of_same rfl rfl rfl rfl fun _ => rfl) ?_
  refine .ite ?_ ?_
  · split
    · exact .of_same rfl rfl rfl rfl fun _ => rfl
    · exact .refl node
  refine .ite (.of_same rfl rfl rfl rfl fun _ => rfl) ?_
  refine .ite (decorates_addRule location node marker) ?_
  refine .ite (.of_same rfl rfl rfl rfl fun _ => rfl) ?_
  refine .ite (.ite (.of_same rfl rfl rfl rfl fun _ => rfl) (.refl node)) ?_
  refine .ite (decorates_mergeList location node marker) ?_
  refine .ite (decorates_addListKey node marker) ?_
  refine .ite (decorates_mergeMap location node marker) ?_
  split
  · rename_i constraint argument single _
    refine (decorates_constrain location node constraint argument).mono ?_
    rintro _ rfl
    rw [single]
    exact List.mem_cons_self
  · exact .refl node

theorem decorates_applyEach_refine
    (location : Location)
    (node : SchemaNode)
    (markers : List Marker) :
    Decorates (· ∈ markers.flatMap Marker.bounds) node
      (applyEach (refine location) node markers).1 := by
  induction markers generalizing node with
  | nil => exact .refl node
  | cons marker rest inductionHypothesis =>
      rw [List.flatMap_cons]
      exact ((decorates_refine location node marker).mono fun _ =>
          List.mem_append_left (rest.flatMap Marker.bounds)).trans
        ((inductionHypothesis _).mono fun _ => List.mem_append_right marker.bounds)

theorem decorates_checkListKeys
    {allowed : Constraint → Prop}
    {location : Location}
    {node checked : SchemaNode}
    (passed : (checkListKeys location node).1 = .ok checked) :
    Decorates allowed node checked := by
  unfold checkListKeys at passed
  split at passed
  · split at passed
    · cases passed
    · split at passed
      · cases passed
      · cases passed
        exact .refl node
  · split at passed
    · cases passed
      exact .refl node
    · cases passed
      exact .of_same rfl rfl rfl rfl fun _ => rfl

/-- Markers override the type of a node, and then they decorate it with bounds that they mention.
-/
theorem decorates_applyMarkers
    {location : Location}
    {node marked : SchemaNode}
    {markers : Markers}
    (applied : (applyMarkers location node markers).1 = .ok marked) :
    Decorates (· ∈ markers.bounds) { node with type := markers.override?.getD node.type }
      marked := by
  have shaped : Decorates (· ∈ markers.bounds) { node with type := _ } _ :=
    (decorates_applyEach_shape location node (markers.consumedBy .schema)).mono fun _ => False.elim
  exact (shaped.trans (decorates_applyEach_refine location _ _)).trans
    (decorates_checkListKeys applied)

/-! ## Unions -/

theorem decorates_compose
    {allowed : Constraint → Prop}
    (node : SchemaNode)
    (policy : UnionPolicy)
    (members : List String) :
    Decorates allowed node (node.compose policy members) := by
  have clause : ∀ child ∈ clauses members, child.Everywhere Bare :=
    fun _ => everywhere_bare_of_mem_clauses
  have exactly : ({ oneOf := clauses members } : SchemaNode).Everywhere Bare :=
    .intro ⟨rfl, fun constraint => by cases constraint <;> rfl⟩ fun child isChild =>
      clause child (by simpa [children] using isChild)
  have atLeast : ({ anyOf := clauses members } : SchemaNode).Everywhere Bare :=
    .intro ⟨rfl, fun constraint => by cases constraint <;> rfl⟩ fun child isChild =>
      clause child (by simpa [children] using isChild)
  cases policy with
  | atMostOne => exact .refl node
  | exactlyOne =>
      unfold compose
      dsimp only
      split
      · refine ⟨rfl, rfl, rfl, fun child isChild => ?_, fun _ held => .inl held⟩
        have isClause := clause child
        rw [mem_children_iff] at isChild ⊢
        tauto
      · refine ⟨rfl, rfl, rfl, fun child isChild => ?_, fun _ held => .inl held⟩
        have isNew : child = { oneOf := clauses members } → child.Everywhere Bare :=
          fun same => same ▸ exactly
        rw [mem_children_iff] at isChild ⊢
        rw [List.mem_append, List.mem_singleton] at isChild
        tauto
  | atLeastOne =>
      unfold compose
      dsimp only
      split
      · refine ⟨rfl, rfl, rfl, fun child isChild => ?_, fun _ held => .inl held⟩
        have isClause := clause child
        rw [mem_children_iff] at isChild ⊢
        tauto
      · refine ⟨rfl, rfl, rfl, fun child isChild => ?_, fun _ held => .inl held⟩
        have isNew : child = { anyOf := clauses members } → child.Everywhere Bare :=
          fun same => same ▸ atLeast
        rw [mem_children_iff] at isChild ⊢
        rw [List.mem_append, List.mem_singleton] at isChild
        tauto

theorem decorates_addUnion
    {allowed : Constraint → Prop}
    {node extended : SchemaNode}
    {policy : UnionPolicy}
    {members : List String}
    (added : node.addUnion policy members = .ok extended) :
    Decorates allowed node extended := by
  unfold addUnion at added
  split at added
  · cases added
    exact .refl node
  · split at added
    · cases added
    · split at added
      · cases added
        exact .refl node
      · cases added
        exact (decorates_compose node policy members).trans
          (.of_same rfl rfl rfl rfl fun _ => rfl)

theorem decorates_addUnions
    {allowed : Constraint → Prop}
    {node extended : SchemaNode}
    {skipped : List String}
    {markers : Markers}
    (added : node.addUnions skipped markers = .ok extended) :
    Decorates allowed node extended := by
  induction markers generalizing node with
  | nil =>
      cases added
      exact .refl _
  | cons marker rest inductionHypothesis =>
      unfold addUnions at added
      split at added
      · cases added
      · rename_i next step
        refine Decorates.trans ?_ (inductionHypothesis added)
        unfold addUnionMarker at step
        split at step
        · cases step
          exact .refl _
        · split at step
          · cases step
          · exact decorates_addUnion step

end SchemaNode
end MarkerManifests
