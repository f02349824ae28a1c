import MarkerManifests.Schema.Node

/-!
# What holds at every node of a schema

A property holds everywhere in a schema if it holds at the root and everywhere below it. These are
the nodes that the walk through the schema meets.
-/

namespace MarkerManifests
namespace SchemaNode

/-- The children of a node stand in its properties, its items, its values and its alternatives. -/
theorem mem_children_iff {node child : SchemaNode} :
    child ∈ node.children ↔
      (∃ key, (key, child) ∈ node.properties) ∨ child ∈ node.items ∨
        child ∈ node.additionalProperties ∨ child ∈ node.oneOf ∨ child ∈ node.anyOf ∨
          child ∈ node.allOf := by
  simp [children]

/-- A property holds at a node and at all nodes below it. -/
inductive Everywhere (property : SchemaNode → Prop) : SchemaNode → Prop where
  | intro
      {node : SchemaNode}
      (here : property node)
      (below : ∀ child ∈ node.children, Everywhere property child) :
      Everywhere property node

namespace Everywhere

variable {property : SchemaNode → Prop} {node : SchemaNode}

theorem here : node.Everywhere property → property node
  | intro here _ => here

theorem of_mem_children :
    node.Everywhere property → ∀ child ∈ node.children, child.Everywhere property
  | intro _ below => below

theorem mono
    {weaker : SchemaNode → Prop}
    (everywhere : node.Everywhere property)
    (weaken : ∀ part, property part → weaker part) :
    node.Everywhere weaker := by
  induction everywhere with
  | intro here _ inductionHypothesis => exact .intro (weaken _ here) inductionHypothesis

theorem forall_mem_walkAll
    {nodes : List SchemaNode}
    (everywhere : ∀ node ∈ nodes, node.Everywhere property) :
    ∀ part ∈ walkAll nodes, property part := by
  induction nodes using walkAll.induct with
  | case1 => simp [walkAll]
  | case2 node rest inductionHypothesis =>
      rw [walkAll, List.forall_mem_cons]
      rw [List.forall_mem_cons] at everywhere
      refine ⟨everywhere.1.here, inductionHypothesis fun other member => ?_⟩
      rcases List.mem_append.mp member with inRest | isChild
      · exact everywhere.2 other inRest
      · exact everywhere.1.of_mem_children other isChild

/-- What holds everywhere holds at all nodes that the walk meets. -/
theorem forall_mem_walk
    (everywhere : node.Everywhere property) :
    ∀ part ∈ node.walk, property part :=
  forall_mem_walkAll (by simpa using everywhere)

theorem of_forall_mem_walkAll
    {nodes : List SchemaNode}
    (holds : ∀ part ∈ walkAll nodes, property part) :
    ∀ node ∈ nodes, node.Everywhere property := by
  induction nodes using walkAll.induct with
  | case1 => exact fun _ member => absurd member List.not_mem_nil
  | case2 node rest inductionHypothesis =>
      rw [walkAll, List.forall_mem_cons] at holds
      have later := inductionHypothesis holds.2
      rw [List.forall_mem_append] at later
      exact List.forall_mem_cons.mpr ⟨.intro holds.1 later.2, later.1⟩

/-- What holds at all nodes that the walk meets holds everywhere. -/
theorem of_forall_mem_walk
    (holds : ∀ part ∈ node.walk, property part) :
    node.Everywhere property :=
  of_forall_mem_walkAll holds node (List.mem_singleton.mpr rfl)

end Everywhere

theorem self_mem_walk (node : SchemaNode) : node ∈ node.walk := by
  rw [walk, walkAll]
  exact List.mem_cons_self

/-- The walk through a node meets everything that the walks through its children meet. -/
theorem mem_walk_of_mem_children
    {node child part : SchemaNode}
    (isChild : child ∈ node.children)
    (member : part ∈ child.walk) :
    part ∈ node.walk := by
  refine Classical.byContradiction fun missing => ?_
  have others : node.Everywhere (· ≠ part) :=
    .of_forall_mem_walk fun other isMet same => missing (same ▸ isMet)
  exact (others.of_mem_children child isChild).forall_mem_walk part member rfl

/-! ## Nodes without references -/

/-- No node of a schema is a reference. -/
def ReferenceFree (node : SchemaNode) : Prop :=
  node.Everywhere fun part => part.reference = none

theorem referenceFree_opaqueObject : opaqueObject.ReferenceFree :=
  .intro rfl fun _ isChild => absurd isChild List.not_mem_nil

theorem ReferenceFree.isReference_eq_false
    {node : SchemaNode}
    (free : node.ReferenceFree) :
    node.isReference = false := by
  rw [isReference, free.here]
  rfl

end SchemaNode
end MarkerManifests
