import MarkerManifests.Proofs.Graph.Resolving
import MarkerManifests.Proofs.Schema.Related

/-!
# Requests for schemas

What one request for a schema does to the table: a finished schema is returned, an active one is
answered by a reference, and any other one is made active, built and settled. Requests that are
nested inside a build are answered in the same way, so the number of levels that bounds the
nesting is never reached.
-/

namespace MarkerManifests

/-! ## The table -/

namespace SchemaTable

@[simp] theorem active_begin (table : SchemaTable) (key : SchemaKey) :
    (table.begin key).active = key :: table.active := rfl

@[simp] theorem finished?_begin (table : SchemaTable) (key other : SchemaKey) :
    (table.begin key).finished? other = table.finished? other := rfl

@[simp] theorem failed_begin (table : SchemaTable) (key : SchemaKey) :
    (table.begin key).failed = table.failed := rfl

@[simp] theorem active_report (table : SchemaTable) (diagnostics : Diagnostics) :
    (table.report diagnostics).active = table.active := rfl

@[simp] theorem finished?_report
    (table : SchemaTable)
    (diagnostics : Diagnostics)
    (key : SchemaKey) :
    (table.report diagnostics).finished? key = table.finished? key := rfl

@[simp] theorem failed_report (table : SchemaTable) (diagnostics : Diagnostics) :
    (table.report diagnostics).failed = table.failed := rfl

/-- The table after the attempt to build a schema has ended. -/
def settled
    (table : SchemaTable)
    (key : SchemaKey) : Except SynthesisError SchemaNode → SchemaTable
  | .ok node => table.keep key node
  | .error error => (table.fail key error).keep key SchemaNode.opaqueObject

@[simp] theorem active_settled
    (table : SchemaTable)
    (key : SchemaKey)
    (outcome : Except SynthesisError SchemaNode) :
    (table.settled key outcome).active = table.active.erase key := by
  cases outcome <;> rfl

end SchemaTable

/-- The schema that is kept for the outcome of an attempt. -/
def SchemaNode.ofOutcome : Except SynthesisError SchemaNode → SchemaNode
  | .ok node => node
  | .error _ => opaqueObject

theorem SchemaTable.finished?_settled
    (table : SchemaTable)
    (key other : SchemaKey)
    (outcome : Except SynthesisError SchemaNode) :
    (table.settled key outcome).finished? other =
      if key = other then some (SchemaNode.ofOutcome outcome)
      else table.finished? other := by
  cases outcome <;>
    by_cases same : key = other <;>
      simp [settled, keep, fail, finished?, SchemaNode.ofOutcome, same]

namespace SchemaSource

theorem run_settle
    (key : SchemaKey)
    (outcome : Except SynthesisError SchemaNode)
    (table : SchemaTable) :
    (settle key outcome).run table =
      (SchemaNode.ofOutcome outcome, table.settled key outcome) := by
  cases outcome <;> rfl

/-! ## One request -/

variable {source : SchemaSource} {version : String} {id : TypeId} {table : SchemaTable}

theorem run_synthesizeWithin_of_finished
    (levels : Nat)
    {node : SchemaNode}
    (finished : table.finished? ⟨id, version⟩ = some node) :
    (source.synthesizeWithin version (levels + 1) id).run table = (node, table) := by
  simp only [synthesizeWithin, StateT.run_bind, StateT.run_get, pure_bind, finished]
  rfl

theorem run_synthesizeWithin_of_active
    (levels : Nat)
    (unfinished : table.finished? ⟨id, version⟩ = none)
    (active : ⟨id, version⟩ ∈ table.active) :
    (source.synthesizeWithin version (levels + 1) id).run table =
      (SchemaNode.referenceTo id, table) := by
  simp only [synthesizeWithin, StateT.run_bind, StateT.run_get, pure_bind, unfinished,
    active, if_true]
  rfl

/-- What building a schema and settling its outcome gives. -/
def settledBuild
    (source : SchemaSource)
    (named : TypeId → Synthesis SchemaNode)
    (version : String)
    (id : TypeId)
    (table : SchemaTable) : SchemaNode × SchemaTable :=
  let built := (source.build named id).run.run (table.begin ⟨id, version⟩)
  (SchemaNode.ofOutcome built.1, built.2.settled ⟨id, version⟩ built.1)

theorem run_synthesizeWithin_of_new
    (levels : Nat)
    (unfinished : table.finished? ⟨id, version⟩ = none)
    (inactive : ⟨id, version⟩ ∉ table.active) :
    (source.synthesizeWithin version (levels + 1) id).run table =
      source.settledBuild (source.synthesizeWithin version levels) version id table := by
  simp only [synthesizeWithin, StateT.run_bind, StateT.run_get, pure_bind, unfinished,
    inactive, if_false]
  exact run_settle _ _ _

/-! ## What builds preserve -/

/-- Builds whose requests are answered alike on all tables with a property have the same
outcome, and the property remains. -/
theorem run_build_congr
    (source : SchemaSource)
    (id : TypeId)
    (first second : TypeId → Synthesis SchemaNode)
    (table : SchemaTable)
    (property : SchemaTable → Prop)
    (survives : ∀ table diagnostics, source.MarkersReport id diagnostics → property table →
      property (table.report diagnostics))
    (answers : ∀ target, source.References id target → ∀ table, property table →
      (first target).run table = (second target).run table ∧
        property ((second target).run table).2)
    (holds : property table) :
    (source.build first id).run.run table = (source.build second id).run.run table ∧
      property ((source.build second id).run.run table).2 := by
  let relation : SchemaTable → SchemaTable → Prop := fun left right =>
    left = right ∧ property right
  have related : Synthesis.Related relation (source.build first id).run
      (source.build second id).run := by
    refine related_build id ?_ fun target refers => ?_
    · rintro diagnostics reports left right ⟨rfl, holds⟩
      exact ⟨rfl, survives _ _ reports holds⟩
    · rintro left right ⟨rfl, holds⟩
      obtain ⟨same, kept⟩ := answers target refers left holds
      exact ⟨congrArg Prod.fst same, congrArg Prod.snd same, kept⟩
  obtain ⟨sameOutcome, sameTable, kept⟩ := related ⟨rfl, holds⟩
  exact ⟨Prod.ext sameOutcome sameTable, kept⟩

/-- What the requests of a build preserve, the build preserves. -/
theorem run_build_preserves
    (source : SchemaSource)
    (id : TypeId)
    (named : TypeId → Synthesis SchemaNode)
    (table : SchemaTable)
    (property : SchemaTable → Prop)
    (survives : ∀ table diagnostics, source.MarkersReport id diagnostics → property table →
      property (table.report diagnostics))
    (answers : ∀ target, source.References id target → ∀ table, property table →
      property ((named target).run table).2)
    (holds : property table) :
    property ((source.build named id).run.run table).2 :=
  (run_build_congr source id named named table property survives
    (fun target refers table holds => ⟨rfl, answers target refers table holds⟩) holds).2

/-- After a request the same schemas are active as before it. -/
theorem active_run_synthesizeWithin
    (levels : Nat)
    (id : TypeId)
    (table : SchemaTable) :
    ((source.synthesizeWithin version levels id).run table).2.active = table.active := by
  induction levels generalizing id table with
  | zero => rfl
  | succ levels inductionHypothesis =>
      cases finished : table.finished? ⟨id, version⟩ with
      | some node => rw [run_synthesizeWithin_of_finished levels finished]
      | none =>
          by_cases active : ⟨id, version⟩ ∈ table.active
          · rw [run_synthesizeWithin_of_active levels finished active]
          · rw [run_synthesizeWithin_of_new levels finished active]
            have built := run_build_preserves source id
              (source.synthesizeWithin version levels) (table.begin ⟨id, version⟩)
              (fun later => later.active = ⟨id, version⟩ :: table.active)
              (fun later diagnostics _ same => same)
              (fun target _ later same => by rw [inductionHypothesis target later, same])
              rfl
            simp [settledBuild, built]

/-! ## Levels -/

end SchemaSource

/-- The active schemas are those of different declarations of the graph at one version. -/
structure SchemaTable.ActiveAt
    (source : SchemaSource)
    (version : String)
    (table : SchemaTable) : Prop where
  distinct : table.active.Nodup
  sameVersion : ∀ key ∈ table.active, key.version = version
  declared : ∀ key ∈ table.active, (source.graph.resolve? key.id).isSome

namespace SchemaSource

variable {source : SchemaSource} {version : String}

/-- There are at most as many active schemas as declarations. -/
theorem length_active_le_size
    {table : SchemaTable}
    (activeAt : table.ActiveAt source version) :
    table.active.length ≤ source.graph.size := by
  have distinctIds : (table.active.map (·.id)).Nodup := by
    refine List.Nodup.map_on (fun left inLeft right inRight sameId => ?_)
      activeAt.distinct
    have sameVersion : left.version = right.version :=
      (activeAt.sameVersion left inLeft).trans (activeAt.sameVersion right inRight).symm
    cases left
    cases right
    simp_all
  have declared : ∀ id ∈ table.active.map (·.id), (source.graph.resolve? id).isSome := by
    intro id member
    obtain ⟨key, active, rfl⟩ := List.mem_map.mp member
    exact activeAt.declared key active
  simpa using TypeGraph.length_le_size distinctIds declared

theorem ActiveAt_begin
    {table : SchemaTable}
    {id : TypeId}
    (activeAt : table.ActiveAt source version)
    (inactive : ⟨id, version⟩ ∉ table.active)
    (declared : (source.graph.resolve? id).isSome) :
    (table.begin ⟨id, version⟩).ActiveAt source version where
  distinct := List.nodup_cons.mpr ⟨inactive, activeAt.distinct⟩
  sameVersion := by
    intro key member
    rcases List.mem_cons.mp member with rfl | member
    · rfl
    · exact activeAt.sameVersion key member
  declared := by
    intro key member
    rcases List.mem_cons.mp member with rfl | member
    · exact declared
    · exact activeAt.declared key member

theorem ActiveAt_congr
    {left right : SchemaTable}
    (same : left.active = right.active)
    (activeAt : right.ActiveAt source version) :
    left.ActiveAt source version where
  distinct := same ▸ activeAt.distinct
  sameVersion := same ▸ activeAt.sameVersion
  declared := same ▸ activeAt.declared

/-- Any number of levels that leaves one for every declaration that is not active, and one more,
gives the same answer. -/
theorem run_synthesizeWithin_congr
    {levels others : Nat}
    (id : TypeId)
    (table : SchemaTable)
    (activeAt : table.ActiveAt source version)
    (enough : source.graph.size + 1 ≤ levels + table.active.length)
    (enoughOthers : source.graph.size + 1 ≤ others + table.active.length) :
    (source.synthesizeWithin version levels id).run table =
      (source.synthesizeWithin version others id).run table := by
  induction levels generalizing others id table with
  | zero =>
      have bound := length_active_le_size activeAt
      omega
  | succ levels inductionHypothesis =>
      obtain ⟨others, rfl⟩ : ∃ fewer, others = fewer + 1 := by
        refine ⟨others - 1, ?_⟩
        have bound := length_active_le_size activeAt
        omega
      cases finished : table.finished? ⟨id, version⟩ with
      | some node =>
          rw [run_synthesizeWithin_of_finished levels finished,
            run_synthesizeWithin_of_finished others finished]
      | none =>
          by_cases active : ⟨id, version⟩ ∈ table.active
          · rw [run_synthesizeWithin_of_active levels finished active,
              run_synthesizeWithin_of_active others finished active]
          · rw [run_synthesizeWithin_of_new levels finished active,
              run_synthesizeWithin_of_new others finished active]
            have built := run_build_congr source id
              (source.synthesizeWithin version levels)
              (source.synthesizeWithin version others) (table.begin ⟨id, version⟩)
              (fun later => later.active = ⟨id, version⟩ :: table.active)
              (fun later diagnostics _ same => same) ?_ rfl
            · rw [settledBuild, built.1, settledBuild]
            · intro target refers later same
              refine ⟨?_, by rw [active_run_synthesizeWithin, same]⟩
              have declared : (source.graph.resolve? id).isSome := refers.isSome_resolve?
              have activeLater : later.ActiveAt source version :=
                ActiveAt_congr same (ActiveAt_begin activeAt active declared)
              have longer : later.active.length = table.active.length + 1 := by
                rw [same, List.length_cons]
              exact inductionHypothesis target later activeLater (by omega) (by omega)

/-! ## Requests without levels -/

variable {id : TypeId} {table : SchemaTable}

theorem run_synthesize_of_finished
    {node : SchemaNode}
    (finished : table.finished? ⟨id, version⟩ = some node) :
    (source.synthesize id version).run table = (node, table) :=
  run_synthesizeWithin_of_finished source.graph.size finished

theorem run_synthesize_of_active
    (unfinished : table.finished? ⟨id, version⟩ = none)
    (active : ⟨id, version⟩ ∈ table.active) :
    (source.synthesize id version).run table = (SchemaNode.referenceTo id, table) :=
  run_synthesizeWithin_of_active source.graph.size unfinished active

/-- A schema that is neither finished nor active is built from answers to further requests. -/
theorem run_synthesize_of_new
    (activeAt : table.ActiveAt source version)
    (unfinished : table.finished? ⟨id, version⟩ = none)
    (inactive : ⟨id, version⟩ ∉ table.active) :
    (source.synthesize id version).run table =
      source.settledBuild (source.synthesize · version) version id table := by
  have built := run_build_congr source id
    (source.synthesizeWithin version source.graph.size)
    (source.synthesize · version) (table.begin ⟨id, version⟩)
    (fun later => later.active = ⟨id, version⟩ :: table.active)
    (fun later diagnostics _ same => same) ?_ rfl
  · rw [synthesize, run_synthesizeWithin_of_new source.graph.size unfinished inactive,
      settledBuild, built.1, settledBuild]
  · intro target refers later same
    refine ⟨?_, by rw [synthesize, active_run_synthesizeWithin, same]⟩
    have declared : (source.graph.resolve? id).isSome := refers.isSome_resolve?
    have activeLater : later.ActiveAt source version :=
      ActiveAt_congr same (ActiveAt_begin activeAt inactive declared)
    have longer : later.active.length = table.active.length + 1 := by
      rw [same, List.length_cons]
    exact run_synthesizeWithin_congr target later activeLater (by omega) (by omega)

/-- After a request the same schemas are active as before it. -/
theorem active_run_synthesize
    (id : TypeId)
    (version : String)
    (table : SchemaTable) :
    ((source.synthesize id version).run table).2.active = table.active :=
  active_run_synthesizeWithin _ id table

/-- Induction on requests. A request for a schema that is neither finished nor active is answered by
a build, whose own requests meet one more active declaration; so the induction is on the number of
declarations that are not active. -/
@[elab_as_elim]
theorem request_induction
    {motive : TypeId → SchemaTable → Prop}
    (finished : ∀ id table node, table.finished? ⟨id, version⟩ = some node → motive id table)
    (active : ∀ id table, table.finished? ⟨id, version⟩ = none →
      ⟨id, version⟩ ∈ table.active → motive id table)
    (new : ∀ id table, table.ActiveAt source version → table.finished? ⟨id, version⟩ = none →
      ⟨id, version⟩ ∉ table.active →
        (∀ target, source.References id target → ∀ later : SchemaTable,
          later.active = ⟨id, version⟩ :: table.active → motive target later) →
        motive id table)
    (id : TypeId)
    (table : SchemaTable)
    (activeAt : table.ActiveAt source version) :
    motive id table := by
  generalize inactiveCount : source.graph.size - table.active.length = count
  induction count using Nat.strongRecOn generalizing id table with
  | ind count inductionHypothesis =>
      cases isFinished : table.finished? ⟨id, version⟩ with
      | some node => exact finished id table node isFinished
      | none =>
          by_cases isActive : ⟨id, version⟩ ∈ table.active
          · exact active id table isFinished isActive
          · refine new id table activeAt isFinished isActive fun target refers later same => ?_
            have activeLater : later.ActiveAt source version :=
              ActiveAt_congr same (ActiveAt_begin activeAt isActive refers.isSome_resolve?)
            have fewer : source.graph.size - later.active.length < count := by
              have bound := length_active_le_size activeLater
              rw [same, List.length_cons] at bound ⊢
              omega
            exact inductionHypothesis _ fewer target later activeLater rfl

end SchemaSource
end MarkerManifests
