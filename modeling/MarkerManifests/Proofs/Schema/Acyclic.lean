import MarkerManifests.Proofs.Schema.Plain

/-!
# Requests in acyclic graphs

In an acyclic graph requests are answered by the schemas that the plain recursion defines,
whatever was requested before. So the table cannot be seen in the answers, and no answer has a
reference in it.
-/

namespace MarkerManifests
namespace SchemaSource

variable {source : SchemaSource} {version : String} {id : TypeId} {table : SchemaTable}

/-- A table that holds schemas of the plain recursion, and the failures of those only. -/
structure HoldsPlain
    (source : SchemaSource)
    (acyclic : source.graph.IsAcyclic)
    (table : SchemaTable) : Prop where
  finished : ∀ key node, table.finished? key = some node →
    node = SchemaNode.ofOutcome (source.plain acyclic key.id)
  failed : ∀ key, table.hasFailed key =
    ((table.finished? key).isSome && !(source.plain acyclic key.id).isOk)

variable {acyclic : source.graph.IsAcyclic}

theorem holdsPlain_empty (acyclic : source.graph.IsAcyclic) :
    source.HoldsPlain acyclic {} where
  finished := fun _ _ found => by cases found
  failed := fun _ => rfl

theorem HoldsPlain.settled
    (holds : source.HoldsPlain acyclic table)
    (key : SchemaKey) :
    source.HoldsPlain acyclic (table.settled key (source.plain acyclic key.id)) where
  finished := by
    intro other node found
    rw [SchemaTable.finished?_settled] at found
    split at found
    · rename_i same
      exact same ▸ (Option.some.inj found).symm
    · exact holds.finished other node found
  failed := by
    intro other
    rw [SchemaTable.hasFailed_settled, SchemaTable.finished?_settled, holds.failed other]
    by_cases same : key = other
    · subst same
      cases (table.finished? key).isSome <;> simp
    · simp [same]

/-- No declaration that is met in a request is active. -/
theorem idleOn_of_references
    (acyclic : source.graph.IsAcyclic)
    {later : SchemaTable}
    {target : TypeId}
    (refers : source.References id target)
    (sameActive : later.active = ⟨id, version⟩ :: table.active)
    (idle : IdleOn version (source.Reaches id) table) :
    IdleOn version (source.Reaches target) later := by
  intro other reached active
  rw [sameActive] at active
  rcases List.mem_cons.mp active with sameKey | active
  · have sameId : other = id := congrArg SchemaKey.id sameKey
    exact not_reaches_of_references acyclic refers (sameId ▸ reached)
  · exact idle other (.head refers reached) active

/-- A request that has the answer of the plain recursion. -/
def AnswersPlainly
    (source : SchemaSource)
    (acyclic : source.graph.IsAcyclic)
    (version : String)
    (id : TypeId)
    (table : SchemaTable) : Prop :=
  ((source.synthesize id version).run table).1 =
      SchemaNode.ofOutcome (source.plain acyclic id) ∧
    source.HoldsPlain acyclic ((source.synthesize id version).run table).2 ∧
    (((source.synthesize id version).run table).2.finished? ⟨id, version⟩).isSome

/-- If the requests of a build are answered by the plain recursion, it has the outcome of the
plain recursion. -/
theorem run_build_of_answersPlainly
    (acyclic : source.graph.IsAcyclic)
    (holds : source.HoldsPlain acyclic table)
    (answers : ∀ target, source.References id target → ∀ later : SchemaTable,
      later.active = ⟨id, version⟩ :: table.active → source.HoldsPlain acyclic later →
        source.AnswersPlainly acyclic version target later) :
    let built := (source.build (source.synthesize · version) id).run.run
      (table.begin ⟨id, version⟩)
    built.1 = source.plain acyclic id ∧ source.HoldsPlain acyclic built.2 := by
  intro built
  -- the build from given schemas does not read its table, so nothing is said about it
  have related : Synthesis.Related
      (fun later _ => source.HoldsPlain acyclic later ∧
        later.active = ⟨id, version⟩ :: table.active)
      (source.build (source.synthesize · version) id).run
      (source.build
        (fun target => pure (SchemaNode.ofOutcome (source.plain acyclic target))) id).run := by
    apply related_build
    · rintro diagnostics - later _ ⟨holdsLater, sameActive⟩
      exact ⟨⟨holdsLater.finished, holdsLater.failed⟩, sameActive⟩
    · rintro target refers later _ ⟨holdsLater, sameActive⟩
      obtain ⟨answer, holdsAfter, -⟩ := answers target refers later sameActive holdsLater
      exact ⟨answer, holdsAfter, (active_run_synthesize _ _ _).trans sameActive⟩
  obtain ⟨outcome, holdsBuilt, -⟩ := @related (table.begin ⟨id, version⟩) {}
    ⟨⟨holds.finished, holds.failed⟩, rfl⟩
  exact ⟨outcome.trans (gives_build_plain acyclic id {}), holdsBuilt⟩

/-- A request is answered by the plain recursion. The induction is on the number of declarations
that are met in the request: a build asks for declarations that meet fewer. -/
theorem answersPlainly
    (acyclic : source.graph.IsAcyclic)
    (activeAt : table.ActiveAt source version)
    (idle : IdleOn version (source.Reaches id) table)
    (holds : source.HoldsPlain acyclic table) :
    source.AnswersPlainly acyclic version id table := by
  generalize count : (source.reachedDeclarations id).card = below
  induction below using Nat.strongRecOn generalizing id table with
  | ind below inductionHypothesis =>
      unfold AnswersPlainly
      cases finished : table.finished? ⟨id, version⟩ with
      | some node =>
          rw [run_synthesize_of_finished finished]
          exact ⟨holds.finished _ _ finished, holds, by simp [finished]⟩
      | none =>
          -- what is active leads to the requested declaration, so nothing below that is active
          have inactive : ⟨id, version⟩ ∉ table.active := idle id .refl
          have answers : ∀ target, source.References id target → ∀ later : SchemaTable,
              later.active = ⟨id, version⟩ :: table.active → source.HoldsPlain acyclic later →
                source.AnswersPlainly acyclic version target later := by
            intro target refers later sameActive holdsLater
            have fewer := card_reachedDeclarations_lt (.single refers)
              (not_reaches_of_references acyclic refers)
            rw [count] at fewer
            exact inductionHypothesis _ fewer
              (ActiveAt_congr sameActive
                (ActiveAt_begin activeAt inactive refers.isSome_resolve?))
              (idleOn_of_references acyclic refers sameActive idle) holdsLater rfl
          obtain ⟨outcome, holdsBuilt⟩ := run_build_of_answersPlainly acyclic holds answers
          rw [run_synthesize_of_new activeAt finished inactive, settledBuild]
          dsimp only
          rw [outcome]
          refine ⟨rfl, holdsBuilt.settled ⟨id, version⟩, ?_⟩
          rw [SchemaTable.finished?_settled, if_pos rfl]
          rfl

/-- Calls leave a table of plain schemas. -/
theorem holdsPlain_performedAll
    (acyclic : source.graph.IsAcyclic)
    (calls : List SchemaCall) :
    source.HoldsPlain acyclic (source.performedAll calls) := by
  let property (table : SchemaTable) : Prop :=
    table.active = [] ∧ source.HoldsPlain acyclic table
  have answers : ∀ id version table, property table →
      property ((source.synthesize id version).run table).2 := by
    rintro id version table ⟨idle, holds⟩
    exact ⟨(active_run_synthesize id version table).trans idle,
      (answersPlainly acyclic (activeAt_of_idle source version idle) (idleOn_of_idle idle)
        holds).2.1⟩
  have start : property {} := ⟨rfl, holdsPlain_empty acyclic⟩
  have preserved : property (source.performedAll calls) :=
    foldl_performed_preserves answers calls start
  exact preserved.2

/-- Requests leave a table of plain schemas. -/
theorem holdsPlain_requestAll
    (acyclic : source.graph.IsAcyclic)
    (history : List SchemaKey) :
    source.HoldsPlain acyclic (source.requestAll history) :=
  holdsPlain_performedAll acyclic _

/-- In an acyclic graph a request has the answer of the plain recursion, and fails if the plain
recursion does, whatever was requested before. There are no references in the answer. -/
theorem request_eq_plain_of_isAcyclic
    (source : SchemaSource)
    (acyclic : source.graph.IsAcyclic)
    (history : List SchemaKey)
    (key : SchemaKey) :
    let answer := (source.synthesize key.id key.version).run (source.requestAll history)
    answer.1 = SchemaNode.ofOutcome (source.plain acyclic key.id) ∧
      answer.2.hasFailed key = !(source.plain acyclic key.id).isOk ∧
      ∀ part ∈ answer.1.walk, part.reference = none := by
  intro answer
  have idle := source.active_requestAll history
  obtain ⟨isPlain, holds, finished⟩ := answersPlainly acyclic
    (activeAt_of_idle source key.version idle) (idleOn_of_idle idle)
    (holdsPlain_requestAll acyclic history)
  refine ⟨isPlain, ?_, ?_⟩
  · rw [holds.failed key, show (answer.2.finished? key).isSome = true from finished,
      Bool.true_and]
  · rw [isPlain]
    exact (referenceFree_plain acyclic key.id).forall_mem_walk

/-! ## A record with a shared part -/

/-- A record that embeds a second one and has fields of an alias for an unknown declaration and of
a third record, which the second one shares. -/
def recordsInATree : SchemaSource where
  graph :=
    { packages := [{
        name := "p"
        types := [
          { name := "Outer", package := "p"
            shape := .record [
              { name := "base", type := .pointer (.named ⟨"p", "Base"⟩), key := "", inline := true },
              { name := "parts", type := .list (.named ⟨"p", "Part"⟩), key := "parts" },
              { name := "lost", type := .named ⟨"p", "Lost"⟩, key := "lost" }] },
          { name := "Base", package := "p"
            shape := .record
              [{ name := "part", type := .named ⟨"p", "Part"⟩, key := "part" }] },
          { name := "Part", package := "p"
            shape := .record
              [{ name := "name", type := .scalar .string, key := "name" }] },
          { name := "Lost", package := "p"
            shape := .synonym (.named ⟨"q", "Unknown"⟩) }] }] }
  index := {}
  gates := .empty

theorem isAcyclic_recordsInATree : recordsInATree.graph.IsAcyclic :=
  TypeGraph.isAcyclic_of_rank
    (fun id => if id.name = "Outer" then 3 else if id.name = "Base" then 2
      else if id.package = "p" then 1 else 0)
    (by decide +kernel)

/-- The alias fails and the third record is finished before the outer record is requested. -/
theorem outer_request_eq_plain :
    ∃ acyclic : recordsInATree.graph.IsAcyclic,
      let answer := (recordsInATree.synthesize ⟨"p", "Outer"⟩ "v1").run
        (recordsInATree.requestAll [⟨⟨"p", "Lost"⟩, "v1"⟩, ⟨⟨"p", "Part"⟩, "v1"⟩])
      answer.1 = SchemaNode.ofOutcome (recordsInATree.plain acyclic ⟨"p", "Outer"⟩) ∧
        answer.2.hasFailed ⟨⟨"p", "Outer"⟩, "v1"⟩ =
          !(recordsInATree.plain acyclic ⟨"p", "Outer"⟩).isOk ∧
        (∀ part ∈ answer.1.walk, part.reference = none) ∧
        answer.1.properties.map (·.1) = ["part", "parts", "lost"] ∧
        answer.2.hasFailed ⟨⟨"p", "Lost"⟩, "v1"⟩ = true := by
  refine ⟨isAcyclic_recordsInATree, ?_⟩
  intro answer
  obtain ⟨isPlain, fails, free⟩ := request_eq_plain_of_isAcyclic recordsInATree
    isAcyclic_recordsInATree [⟨⟨"p", "Lost"⟩, "v1"⟩, ⟨⟨"p", "Part"⟩, "v1"⟩]
    ⟨⟨"p", "Outer"⟩, "v1"⟩
  exact ⟨isPlain, fails, free, by decide +kernel, by decide +kernel⟩

end SchemaSource
end MarkerManifests
