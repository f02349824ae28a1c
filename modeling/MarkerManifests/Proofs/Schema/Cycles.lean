import MarkerManifests.Proofs.Schema.Answers
import Mathlib.Data.List.Chain

/-!
# References and cycles

A request is answered by a reference only if its declaration is being built, and what is being built
leads to the declaration that is built last: every active declaration was requested in the build of
the one before it. So a reference closes a cycle. Schemas that hold references stay in the table and
become parts of other schemas later, and then the cycle can be reached from those as well.
-/

namespace MarkerManifests
namespace SchemaSource

variable {source : SchemaSource} {version : String} {id target : TypeId} {table : SchemaTable}

/-! ## What is being built -/

/-- Every active declaration is met in the one that became active before it. -/
def Nested (source : SchemaSource) (active : List SchemaKey) : Prop :=
  active.IsChain fun inner outer => source.References outer.id inner.id

/-- Whatever is active leads to the declaration that became active last. -/
theorem Nested.reaches
    {innermost : SchemaKey}
    {outer : List SchemaKey}
    (nested : source.Nested (innermost :: outer)) :
    ∀ key ∈ innermost :: outer, source.Reaches key.id innermost.id := by
  induction outer generalizing innermost with
  | nil =>
      intro key member
      rw [List.mem_singleton.mp member]
      exact .refl
  | cons next outer inductionHypothesis =>
      obtain ⟨refers, nestedOuter⟩ := List.isChain_cons_cons.mp nested
      intro key member
      rcases List.mem_cons.mp member with rfl | isOuter
      · exact .refl
      · exact (inductionHypothesis nestedOuter key isOuter).tail refers

/-! ## References to cycles -/

/-- A declaration of the graph that is met in itself, directly or through further ones. -/
def IsCyclic (source : SchemaSource) (id : TypeId) : Prop :=
  Relation.TransGen source.References id id

/-- All references in a schema of a declaration lead to cycles that can be reached from the
declaration. -/
def RefersToCycles (source : SchemaSource) (id : TypeId) (node : SchemaNode) : Prop :=
  node.Everywhere fun part => ∀ path ∈ part.reference, ∃ target,
    path = SchemaNode.referencePath target ∧ source.Reaches id target ∧ source.IsCyclic target

theorem refersToCycles_opaqueObject (id : TypeId) :
    source.RefersToCycles id SchemaNode.opaqueObject :=
  SchemaNode.referenceFree_opaqueObject.mono fun _ absent path isPath => by
    rw [absent] at isPath
    cases isPath

theorem refersToCycles_referenceTo
    (reached : source.Reaches id target)
    (isCyclic : source.IsCyclic target) :
    source.RefersToCycles id (SchemaNode.referenceTo target) := by
  refine .intro (fun path isPath => ?_) fun child isChild => absurd isChild List.not_mem_nil
  exact ⟨target, (Option.some.inj isPath).symm, reached, isCyclic⟩

/-- What can be reached from a declaration can be reached from those that refer to it. -/
theorem RefersToCycles.of_references
    {node : SchemaNode}
    (refersToCycles : source.RefersToCycles target node)
    (refers : source.References id target) :
    source.RefersToCycles id node :=
  refersToCycles.mono fun _ leads path isPath => by
    obtain ⟨cyclic, isReference, reached, isCyclic⟩ := leads path isPath
    exact ⟨cyclic, isReference, .head refers reached, isCyclic⟩

/-- The plain recursion makes no references of its own. -/
theorem refersToCycles_of_plainFrom
    {schemaOf : TypeId → SchemaNode}
    (answers : ∀ target, source.References id target →
      source.RefersToCycles id (schemaOf target))
    {node : SchemaNode}
    (defined : source.plainFrom schemaOf id = .ok node) :
    source.RefersToCycles id node :=
  everywhere_reference_plainFrom
    (fun reference => ∀ path ∈ reference, ∃ target,
      path = SchemaNode.referencePath target ∧ source.Reaches id target ∧ source.IsCyclic target)
    (fun _ isPath => by cases isPath) answers defined

/-! ## Tables -/

/-- A table in which what is being built is nested and all references lead to cycles. -/
structure ClosesCycles (source : SchemaSource) (table : SchemaTable) : Prop where
  nested : source.Nested table.active
  finished : ∀ key node, table.finished? key = some node → source.RefersToCycles key.id node

/-- The innermost active declaration, if there is one, refers to a declaration. -/
def RequestedFrom (source : SchemaSource) (active : List SchemaKey) (id : TypeId) : Prop :=
  ∀ key ∈ active.head?, source.References key.id id

namespace ClosesCycles

variable {outer : List SchemaKey}

theorem begin
    (closes : source.ClosesCycles table)
    (requested : source.RequestedFrom table.active id) :
    source.ClosesCycles (table.begin ⟨id, version⟩) where
  nested := List.isChain_cons.mpr ⟨requested, closes.nested⟩
  finished := closes.finished

/-- The answers to the requests of a build refer to cycles that can be reached from the declaration:
a declaration that is still active leads to the one that is built. -/
theorem answer
    (closes : source.ClosesCycles table)
    (building : table.active = ⟨id, version⟩ :: outer)
    (refers : source.References id target)
    (known : table.Knows ⟨target, version⟩) :
    source.RefersToCycles id (table.answer ⟨target, version⟩) := by
  unfold SchemaTable.answer
  cases finished : table.finished? ⟨target, version⟩ with
  | some node => exact (closes.finished _ node finished).of_references refers
  | none =>
      have active : ⟨target, version⟩ ∈ table.active := by
        simpa [SchemaTable.Knows, finished] using known
      have nested := closes.nested
      rw [building] at nested active
      exact refersToCycles_referenceTo (.single refers) (.tail' (nested.reaches _ active) refers)

/-- A build ends with a schema that refers to cycles. -/
theorem settled
    (closes : source.ClosesCycles table)
    (building : table.active = ⟨id, version⟩ :: outer)
    {outcome : Except SynthesisError SchemaNode}
    (built : ∀ node, outcome = .ok node → source.RefersToCycles id node) :
    source.ClosesCycles (table.settled ⟨id, version⟩ outcome) where
  nested := by
    have nested := closes.nested
    rw [building] at nested
    rw [SchemaTable.active_settled, building, List.erase_cons_head]
    exact List.IsChain.tail nested
  finished := by
    intro key node finished
    rw [SchemaTable.finished?_settled] at finished
    split at finished
    · rename_i sameKey
      cases sameKey
      cases Option.some.inj finished
      cases outcome with
      | ok node => exact built node rfl
      | error error => exact refersToCycles_opaqueObject id
    · exact closes.finished key node finished

/-- A request leaves a table whose references lead to cycles. -/
theorem synthesize
    (closes : source.ClosesCycles table)
    (activeAt : table.ActiveAt source version)
    (requested : source.RequestedFrom table.active id) :
    source.ClosesCycles ((source.synthesize id version).run table).2 := by
  revert closes requested
  refine request_induction (fun id table node finished closes _ => ?_)
    (fun id table unfinished active closes _ => ?_)
    (fun id table activeAt unfinished inactive answers closes requested => ?_) id table activeAt
  · rw [run_synthesize_of_finished finished]
    exact closes
  · rw [run_synthesize_of_active unfinished active]
    exact closes
  · rw [run_synthesize_of_new activeAt unfinished inactive]
    obtain ⟨building, closesBuilt⟩ := run_build_preserves source id (source.synthesize · version)
      (table.begin ⟨id, version⟩)
      (fun later => later.active = ⟨id, version⟩ :: table.active ∧ source.ClosesCycles later)
      (fun later diagnostics _ ⟨same, closes⟩ => ⟨same, closes.nested, closes.finished⟩)
      (fun target refers later ⟨same, closes⟩ => by
        refine ⟨by rw [active_run_synthesize, same], answers target refers later same closes ?_⟩
        rw [same]
        intro key isInnermost
        cases isInnermost
        exact refers)
      ⟨rfl, closes.begin requested⟩
    refine closesBuilt.settled building fun node succeeded => ?_
    cases resolved : source.graph.resolve? id with
    | none =>
        rw [build, resolved] at succeeded
        cases succeeded
    | some declaration =>
        have activeNow : (table.begin ⟨id, version⟩).ActiveAt source version :=
          ActiveAt_begin activeAt inactive (by rw [resolved]; rfl)
        obtain ⟨known, made⟩ := (yields_build resolved _ activeNow).2 node succeeded
        refine refersToCycles_of_plainFrom (fun target refers => ?_)
          (made fun target _ => rfl).plain
        have isKnown : target ∈ source.followed declaration := by
          obtain ⟨-, other, same, followed⟩ := refers
          cases resolved.symm.trans same
          exact followed
        exact closesBuilt.answer building refers (known target isKnown refers.1)

end ClosesCycles

/-- Calls leave a table whose references lead to cycles. -/
theorem closesCycles_performedAll (source : SchemaSource) (calls : List SchemaCall) :
    source.ClosesCycles (source.performedAll calls) := by
  have answers : ∀ id version (table : SchemaTable),
      table.active = [] ∧ source.ClosesCycles table →
        ((source.synthesize id version).run table).2.active = [] ∧
          source.ClosesCycles ((source.synthesize id version).run table).2 := by
    rintro id version table ⟨idle, closes⟩
    refine ⟨(active_run_synthesize id version table).trans idle,
      closes.synthesize (activeAt_of_idle source version idle) ?_⟩
    rw [RequestedFrom, idle]
    exact fun _ isInnermost => by cases isInnermost
  have start : ({} : SchemaTable).active = [] ∧ source.ClosesCycles {} :=
    ⟨rfl, .nil, fun _ _ found => by cases found⟩
  exact (foldl_performed_preserves answers calls start).2

/-- Whatever was called before, every reference in the schema of a declaration is to a declaration
of the graph that can be reached from it, and that can be reached from itself by at least one
step. -/
theorem exists_cycle_of_reference
    (source : SchemaSource)
    (calls : List SchemaCall)
    (id : TypeId)
    (version : String) :
    let schema := ((source.synthesize id version).run (source.performedAll calls)).1
    ∀ part ∈ schema.walk, ∀ path, part.reference = some path →
      ∃ target, (source.graph.resolve? target).isSome ∧
        path = SchemaNode.referencePath target ∧ source.Reaches id target ∧
          Relation.TransGen source.References target target := by
  intro schema part member path isPath
  have closes := source.closesCycles_performedAll (calls ++ [.synthesize id version])
  have finished := ((source.settled_performedAll calls).synthesize id version).2
  rw [performedAll, List.foldl_append] at closes
  obtain ⟨target, isReference, reached, isCyclic⟩ :=
    (closes.finished _ _ finished).forall_mem_walk part member path isPath
  obtain ⟨_, refers, -⟩ := Relation.TransGen.head'_iff.mp isCyclic
  exact ⟨target, refers.isSome_resolve?, isReference, reached, isCyclic⟩

/-- The outer record is not on the cycle of the other two, and its schema refers to the one of them
that was requested first. -/
theorem exists_cycle_of_outer_reference :
    let schema := ((recordsInACycle.synthesize ⟨"p", "Outer"⟩ "v1").run
      (recordsInACycle.performedAll [.synthesize ⟨"p", "First"⟩ "v1"])).1
    ∃ part ∈ schema.walk, part.reference = some "#/definitions/p.First" ∧
      ∃ target, (recordsInACycle.graph.resolve? target).isSome ∧
        "#/definitions/p.First" = SchemaNode.referencePath target ∧
          recordsInACycle.Reaches ⟨"p", "Outer"⟩ target ∧
            Relation.TransGen recordsInACycle.References target target := by
  intro schema
  have nested : ∃ first ∈ schema.children, ∃ second ∈ first.children,
      ∃ part ∈ second.children, part.reference = some "#/definitions/p.First" := by
    decide +kernel
  obtain ⟨first, isFirst, second, isSecond, part, isPart, isPath⟩ := nested
  have member : part ∈ schema.walk :=
    SchemaNode.mem_walk_of_mem_children isFirst (SchemaNode.mem_walk_of_mem_children isSecond
      (SchemaNode.mem_walk_of_mem_children isPart part.self_mem_walk))
  exact ⟨part, member, isPath, exists_cycle_of_reference recordsInACycle
    [.synthesize ⟨"p", "First"⟩ "v1"] ⟨"p", "Outer"⟩ "v1" part member _ isPath⟩

end SchemaSource
end MarkerManifests
