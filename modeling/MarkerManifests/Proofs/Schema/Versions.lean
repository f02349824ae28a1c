import MarkerManifests.Proofs.Schema.Request

/-!
# Requests at different versions

A request at a version reads nothing in the table but what the table holds for that version, and
it changes nothing that the table holds for other versions. So requests at other versions may be
left out: the answers at the version are the same without them, and so is what the table holds for
it in the end.
-/

namespace MarkerManifests

/-! ## What tables hold for a version -/

namespace SchemaTable

/-- Two tables that hold the same for a version. Their diagnostics may differ, since these do not
tell the version in which they were found. -/
structure AlikeAt (version : String) (left right : SchemaTable) : Prop where
  active : left.active.filter (·.version = version) = right.active.filter (·.version = version)
  finished :
    left.finished.filter (·.1.version = version) = right.finished.filter (·.1.version = version)
  begun : left.begun.filter (·.version = version) = right.begun.filter (·.version = version)
  failed : left.failed.filter (·.version = version) = right.failed.filter (·.version = version)

variable {version : String} {left right table : SchemaTable} {key : SchemaKey}

namespace AlikeAt

theorem refl (version : String) (table : SchemaTable) : AlikeAt version table table :=
  ⟨rfl, rfl, rfl, rfl⟩

theorem trans
    (first : AlikeAt version left table)
    (second : AlikeAt version table right) :
    AlikeAt version left right where
  active := first.active.trans second.active
  finished := first.finished.trans second.finished
  begun := first.begun.trans second.begun
  failed := first.failed.trans second.failed

theorem mem_active_iff (alike : AlikeAt version left right) (isHere : key.version = version) :
    key ∈ left.active ↔ key ∈ right.active := by
  have restricted : ∀ table : SchemaTable,
      key ∈ table.active.filter (·.version = version) ↔ key ∈ table.active := by
    simp [isHere]
  rw [← restricted left, alike.active, restricted right]

theorem finished?_eq (alike : AlikeAt version left right) (isHere : key.version = version) :
    left.finished? key = right.finished? key := by
  have restricted : ∀ table : SchemaTable, table.finished? key =
      ((table.finished.filter (·.1.version = version)).find? (·.1 = key)).map (·.2) := by
    intro table
    rw [finished?, List.find?_filter]
    congr
    funext entry
    by_cases isKey : entry.1 = key <;> simp [isKey, isHere]
  rw [restricted left, alike.finished, restricted right]

theorem visits_eq (alike : AlikeAt version left right) (isHere : key.version = version) :
    left.visits key = right.visits key := by
  have restricted : ∀ table : SchemaTable,
      (table.begun.filter (·.version = version)).count key = table.visits key :=
    fun _ => List.count_filter (by simpa using isHere)
  rw [← restricted left, alike.begun, restricted right]

theorem hasFailed_eq (alike : AlikeAt version left right) (isHere : key.version = version) :
    left.hasFailed key = right.hasFailed key := by
  have restricted : ∀ table : SchemaTable,
      key ∈ table.failed.filter (·.version = version) ↔ key ∈ table.failed := by
    simp [isHere]
  rw [hasFailed, hasFailed, decide_eq_decide, ← restricted left, alike.failed, restricted right]

theorem survivesReport (version : String) (diagnostics : Diagnostics) :
    SurvivesReport (AlikeAt version) diagnostics :=
  fun _ _ alike => ⟨alike.active, alike.finished, alike.begun, alike.failed⟩

/-- A schema becomes active in both tables. -/
theorem begin (alike : AlikeAt version left right) (key : SchemaKey) :
    AlikeAt version (left.begin key) (right.begin key) where
  active := by simp only [SchemaTable.begin, List.filter_cons, alike.active]
  finished := alike.finished
  begun := by simp only [SchemaTable.begin, List.filter_append, alike.begun]
  failed := alike.failed

/-- An attempt ends in both tables with the same outcome. -/
theorem settled
    (alike : AlikeAt version left right)
    (key : SchemaKey)
    (outcome : Except SynthesisError SchemaNode) :
    AlikeAt version (left.settled key outcome) (right.settled key outcome) where
  active := by
    rw [active_settled, active_settled, ← List.erase_filter, alike.active, List.erase_filter]
  finished := by
    cases outcome <;> simp only [SchemaTable.settled, keep, fail, List.filter_cons, alike.finished]
  begun := by
    cases outcome <;> exact alike.begun
  failed := by
    cases outcome with
    | ok node => exact alike.failed
    | error error => simp only [SchemaTable.settled, keep, fail, List.filter_append, alike.failed]

end AlikeAt

/-- Nothing changes at a version when a schema becomes active at another one. -/
theorem alikeAt_begin_of_ne (table : SchemaTable) (differs : key.version ≠ version) :
    AlikeAt version (table.begin key) table where
  active := List.filter_cons_of_neg (by simpa using differs)
  finished := rfl
  begun := by simp [begin, differs]
  failed := rfl

/-- Nothing changes at a version when an attempt ends at another one. -/
theorem alikeAt_settled_of_ne
    (table : SchemaTable)
    (outcome : Except SynthesisError SchemaNode)
    (differs : key.version ≠ version) :
    AlikeAt version (table.settled key outcome) table where
  active := by
    have absent : key ∉ table.active.filter (·.version = version) := by simp [differs]
    rw [active_settled, ← List.erase_filter, List.erase_of_not_mem absent]
  finished := by cases outcome <;> simp [settled, keep, fail, differs]
  begun := by cases outcome <;> rfl
  failed := by cases outcome <;> simp [settled, keep, fail, differs]

end SchemaTable

namespace SchemaSource

open SchemaTable

variable {version : String} {left right : SchemaTable}

/-! ## One request -/

/-- A relation that requests at a version keep: related tables look the same to such a request,
and remain related when the same happens to both. -/
structure KeptAt
    (version : String)
    (relation : SchemaTable → SchemaTable → Prop) : Prop where
  sameFinished : ∀ ⦃left right⦄, relation left right →
    ∀ id, left.finished? ⟨id, version⟩ = right.finished? ⟨id, version⟩
  sameActive : ∀ ⦃left right⦄, relation left right →
    ∀ id, ⟨id, version⟩ ∈ left.active ↔ ⟨id, version⟩ ∈ right.active
  begins : ∀ ⦃left right⦄, relation left right →
    ∀ id, relation (left.begin ⟨id, version⟩) (right.begin ⟨id, version⟩)
  settles : ∀ ⦃left right⦄, relation left right → ∀ id outcome,
    relation (left.settled ⟨id, version⟩ outcome) (right.settled ⟨id, version⟩ outcome)
  survives : ∀ diagnostics, SurvivesReport relation diagnostics

/-- A request has the same answer in related tables, and they remain related. -/
theorem KeptAt.related_synthesizeWithin
    {relation : SchemaTable → SchemaTable → Prop}
    (kept : KeptAt version relation)
    (source : SchemaSource)
    (levels : Nat)
    (id : TypeId) :
    Synthesis.Related relation
      (source.synthesizeWithin version levels id) (source.synthesizeWithin version levels id) := by
  induction levels generalizing id with
  | zero => exact Synthesis.related_pure _
  | succ levels inductionHypothesis =>
      intro left right related
      have sameFinished := kept.sameFinished related id
      cases finished : right.finished? ⟨id, version⟩ with
      | some node =>
          rw [run_synthesizeWithin_of_finished levels finished,
            run_synthesizeWithin_of_finished levels (sameFinished.trans finished)]
          exact ⟨rfl, related⟩
      | none =>
          have sameActive := kept.sameActive related id
          by_cases active : ⟨id, version⟩ ∈ right.active
          · rw [run_synthesizeWithin_of_active levels finished active,
              run_synthesizeWithin_of_active levels (sameFinished.trans finished)
                (sameActive.mpr active)]
            exact ⟨rfl, related⟩
          · rw [run_synthesizeWithin_of_new levels finished active,
              run_synthesizeWithin_of_new levels (sameFinished.trans finished)
                (active ∘ sameActive.mp)]
            have builds : Synthesis.Related relation
                (source.build (source.synthesizeWithin version levels) id).run
                (source.build (source.synthesizeWithin version levels) id).run :=
              related_build id (fun diagnostics _ => kept.survives diagnostics)
                fun target _ => inductionHypothesis target
            obtain ⟨sameOutcome, relatedBuilt⟩ := builds (kept.begins related id)
            unfold settledBuild
            dsimp only
            rw [sameOutcome]
            exact ⟨rfl, kept.settles relatedBuilt id _⟩

theorem KeptAt.related_synthesize
    {relation : SchemaTable → SchemaTable → Prop}
    (kept : KeptAt version relation)
    (source : SchemaSource)
    (id : TypeId) :
    Synthesis.Related relation (source.synthesize id version) (source.synthesize id version) :=
  kept.related_synthesizeWithin source _ id

/-- Tables that are alike at a version remain so when the version is requested. -/
theorem keptAt_alikeAt (version : String) : KeptAt version (AlikeAt version) where
  sameFinished := fun _ _ alike _ => alike.finished?_eq rfl
  sameActive := fun _ _ alike _ => alike.mem_active_iff rfl
  begins := fun _ _ alike id => alike.begin ⟨id, version⟩
  settles := fun _ _ alike id outcome => alike.settled ⟨id, version⟩ outcome
  survives := AlikeAt.survivesReport version

/-- What a table holds for a version remains when another version is requested. There is one run
only, so the two tables are the same one. -/
theorem keptAt_eq_and_alikeAt
    {other : String}
    (differs : other ≠ version)
    (first : SchemaTable) :
    KeptAt other (fun left right => left = right ∧ AlikeAt version right first) where
  sameFinished := by
    rintro left right ⟨rfl, -⟩ id
    rfl
  sameActive := by
    rintro left right ⟨rfl, -⟩ id
    rfl
  begins := by
    rintro left right ⟨rfl, alike⟩ id
    exact ⟨rfl, (alikeAt_begin_of_ne left differs).trans alike⟩
  settles := by
    rintro left right ⟨rfl, alike⟩ id outcome
    exact ⟨rfl, (alikeAt_settled_of_ne left outcome differs).trans alike⟩
  survives := by
    rintro diagnostics left right ⟨rfl, alike⟩
    exact ⟨rfl, alike.active, alike.finished, alike.begun, alike.failed⟩

/-- A request changes nothing at other versions. -/
theorem alikeAt_run_synthesize_of_ne
    (source : SchemaSource)
    {other : String}
    (differs : other ≠ version)
    (id : TypeId)
    (table : SchemaTable) :
    AlikeAt version ((source.synthesize id other).run table).2 table := by
  have kept := keptAt_eq_and_alikeAt differs table
  exact (kept.related_synthesize source id ⟨rfl, .refl version table⟩).2.2

/-! ## Requests one after the other -/

/-- The answers to requests that are made one after the other. -/
def requestEach (source : SchemaSource) :
    List SchemaKey → Synthesis (List (SchemaKey × SchemaNode))
  | [] => pure []
  | key :: rest => do
    let node ← source.synthesize key.id key.version
    let others ← source.requestEach rest
    return (key, node) :: others

theorem run_requestEach_cons
    (source : SchemaSource)
    (key : SchemaKey)
    (rest : List SchemaKey)
    (table : SchemaTable) :
    (source.requestEach (key :: rest)).run table =
      let first := (source.synthesize key.id key.version).run table
      let others := (source.requestEach rest).run first.2
      ((key, first.1) :: others.1, others.2) := rfl

/-- In alike tables, requests at a version are answered alike also if requests at other versions
come between them in one of the tables. -/
theorem requestEach_of_alikeAt
    (source : SchemaSource)
    (history : List SchemaKey)
    (alike : AlikeAt version left right) :
    ((source.requestEach history).run left).1.filter (·.1.version = version) =
        ((source.requestEach (history.filter (·.version = version))).run right).1 ∧
      AlikeAt version ((source.requestEach history).run left).2
        ((source.requestEach (history.filter (·.version = version))).run right).2 := by
  induction history generalizing left right with
  | nil => exact ⟨rfl, alike⟩
  | cons key rest inductionHypothesis =>
      rw [run_requestEach_cons]
      dsimp only
      by_cases isHere : key.version = version
      · -- both tables get the request
        subst isHere
        obtain ⟨sameNode, alikeAfter⟩ :=
          (keptAt_alikeAt key.version).related_synthesize source key.id alike
        obtain ⟨sameRest, alikeInTheEnd⟩ := inductionHypothesis alikeAfter
        rw [List.filter_cons_of_pos (by simp), List.filter_cons_of_pos (by simp),
          run_requestEach_cons]
        exact ⟨by rw [sameNode, sameRest], alikeInTheEnd⟩
      · -- only the left table gets the request, which is at another version
        have unchanged := source.alikeAt_run_synthesize_of_ne isHere key.id left
        rw [List.filter_cons_of_neg (by simpa using isHere),
          List.filter_cons_of_neg (by simpa using isHere)]
        exact inductionHypothesis (unchanged.trans alike)

/-- Versions do not interfere: without the requests at other versions, the answers at a version are
the same, and the same schemas of the version failed and were begun as often. -/
theorem requestEach_filter_version
    (source : SchemaSource)
    (history : List SchemaKey)
    (version : String)
    (table : SchemaTable) :
    let whole := (source.requestEach history).run table
    let alone := (source.requestEach (history.filter (·.version = version))).run table
    whole.1.filter (·.1.version = version) = alone.1 ∧
      ∀ id, whole.2.hasFailed ⟨id, version⟩ = alone.2.hasFailed ⟨id, version⟩ ∧
        whole.2.visits ⟨id, version⟩ = alone.2.visits ⟨id, version⟩ := by
  intro whole alone
  obtain ⟨sameAnswers, alike⟩ := source.requestEach_of_alikeAt history (.refl version table)
  exact ⟨sameAnswers, fun id => ⟨alike.hasFailed_eq rfl, alike.visits_eq rfl⟩⟩

end SchemaSource
end MarkerManifests
