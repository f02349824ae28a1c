import MarkerManifests.Ordered.Entries
import MarkerManifests.Proofs.Schema.Request
import MarkerManifests.Schema.Resource

/-!
# The ledger of the schema table

Everything that happens to the table in a run is one of two kinds of events: markers report
failures, or the synthesis of a schema ends. The events of a run account for the whole table:
what is finished, what failed, how often every schema was begun and every diagnostic. From this
it follows what holds between any two calls, whatever the graph is and wherever errors arise.
-/

namespace MarkerManifests

/-- What happens to the table in a run. -/
inductive SchemaEvent where
  /-- Markers reported failures. -/
  | reported (diagnostics : Diagnostics)
  /-- The synthesis of a schema ended. -/
  | ended (key : SchemaKey) (outcome : Except SynthesisError SchemaNode)

namespace SchemaEvent

/-- The diagnostics of an event. A failed synthesis has exactly one, for its declaration. -/
def diagnostics : SchemaEvent → Diagnostics
  | reported diagnostics => diagnostics
  | ended _ (.ok _) => []
  | ended key (.error error) => [error.diagnostic key.id]

/-- The schema whose synthesis ended. -/
def key? : SchemaEvent → Option SchemaKey
  | reported _ => none
  | ended key _ => some key

/-- The schema whose synthesis ended, and the node that is kept for it. -/
def entry? : SchemaEvent → Option (SchemaKey × SchemaNode)
  | reported _ => none
  | ended key outcome => some (key, SchemaNode.ofOutcome outcome)

/-- The schema whose synthesis failed. -/
def failure? : SchemaEvent → Option SchemaKey
  | ended key (.error _) => some key
  | _ => none

end SchemaEvent

/-- The runs from one table to another, with their events. What is reported is reported by markers
of the declaration whose schema is being built. The synthesis of a schema begins when it is neither
finished nor active, and its event carries the outcome of the build, inside which all other events
of the synthesis happen. -/
inductive SchemaSource.Trace (source : SchemaSource) :
    SchemaTable → List SchemaEvent → SchemaTable → Prop where
  | nothing (table : SchemaTable) : Trace source table [] table
  | report
      {table : SchemaTable}
      {key : SchemaKey}
      {diagnostics : Diagnostics}
      (innermost : table.active.head? = some key)
      (reports : source.MarkersReport key.id diagnostics) :
      Trace source table [.reported diagnostics] (table.report diagnostics)
  | synthesis
      {table built : SchemaTable}
      {key : SchemaKey}
      {events : List SchemaEvent}
      {outcome : Except SynthesisError SchemaNode}
      (unfinished : table.finished? key = none)
      (inactive : key ∉ table.active)
      (inside : Trace source (table.begin key) events built)
      (ends : (source.build (source.synthesize · key.version) key.id).run.run
        (table.begin key) = (outcome, built)) :
      Trace source table (events ++ [.ended key outcome]) (built.settled key outcome)
  | append
      {table between later : SchemaTable}
      {events others : List SchemaEvent}
      (first : Trace source table events between)
      (second : Trace source between others later) :
      Trace source table (events ++ others) later

/-! ## What the events account for -/

/-- What the events of a run say about the tables before and after it. -/
structure SchemaTable.Accounts
    (table : SchemaTable)
    (events : List SchemaEvent)
    (later : SchemaTable) : Prop where
  active : later.active = table.active
  finished : later.finished =
    (events.filterMap SchemaEvent.entry?).reverse ++ table.finished
  failed : later.failed = table.failed ++ events.filterMap SchemaEvent.failure?
  diagnostics : later.diagnostics =
    table.diagnostics ++ events.flatMap SchemaEvent.diagnostics
  visits : ∀ key, later.visits key =
    table.visits key + (events.filterMap SchemaEvent.key?).count key
  /-- No synthesis ends twice. -/
  distinct : (events.filterMap SchemaEvent.key?).Nodup
  /-- No synthesis begins while the schema is finished or active. -/
  new : ∀ key ∈ events.filterMap SchemaEvent.key?,
    table.finished? key = none ∧ key ∉ table.active

theorem SchemaTable.finished?_eq_none_iff
    {table : SchemaTable}
    {key : SchemaKey} :
    table.finished? key = none ↔ key ∉ table.finished.map (·.1) := by
  unfold finished?
  rw [Option.map_eq_none_iff, List.find?_eq_none]
  constructor
  · intro absent member
    obtain ⟨entry, listed, rfl⟩ := List.mem_map.mp member
    exact absent entry listed (by simp)
  · intro absent entry listed same
    have equal : entry.1 = key := by simpa using same
    exact absent (equal ▸ List.mem_map_of_mem listed)

theorem SchemaEvent.map_fst_entries (events : List SchemaEvent) :
    (events.filterMap entry?).map (·.1) = events.filterMap key? := by
  rw [List.map_filterMap]
  congr 1
  funext event
  cases event <;> rfl

namespace SchemaTable.Accounts

variable {table between later : SchemaTable} {events others : List SchemaEvent}

theorem nothing (table : SchemaTable) : table.Accounts [] table where
  active := rfl
  finished := rfl
  failed := by simp
  diagnostics := by simp
  visits := by simp
  distinct := by simp
  new := by simp

theorem report (table : SchemaTable) (diagnostics : Diagnostics) :
    table.Accounts [.reported diagnostics] (table.report diagnostics) where
  active := rfl
  finished := rfl
  failed := by simp [SchemaEvent.failure?]
  diagnostics := by simp [SchemaTable.report, SchemaEvent.diagnostics]
  visits := fun _ => rfl
  distinct := List.nodup_nil
  new := fun _ member => absurd member List.not_mem_nil

theorem finishedKeys
    (accounts : table.Accounts events later) :
    later.finished.map (·.1) =
      (events.filterMap SchemaEvent.key?).reverse ++ table.finished.map (·.1) := by
  rw [accounts.finished, List.map_append, List.map_reverse,
    SchemaEvent.map_fst_entries]

/-- A schema that is not finished after a run was not finished before it, and its synthesis did
not end in between. -/
theorem unfinished_iff
    (accounts : table.Accounts events later)
    (key : SchemaKey) :
    later.finished? key = none ↔
      key ∉ events.filterMap SchemaEvent.key? ∧ table.finished? key = none := by
  rw [finished?_eq_none_iff, finished?_eq_none_iff, accounts.finishedKeys,
    List.mem_append, List.mem_reverse, not_or]

theorem append
    (first : table.Accounts events between)
    (second : between.Accounts others later) :
    table.Accounts (events ++ others) later where
  active := second.active.trans first.active
  finished := by
    rw [second.finished, first.finished, List.filterMap_append, List.reverse_append,
      List.append_assoc]
  failed := by
    rw [second.failed, first.failed, List.filterMap_append, List.append_assoc]
  diagnostics := by
    rw [second.diagnostics, first.diagnostics, List.flatMap_append, List.append_assoc]
  visits := by
    intro key
    rw [second.visits, first.visits, List.filterMap_append, List.count_append,
      Nat.add_assoc]
  distinct := by
    rw [List.filterMap_append, List.nodup_append]
    refine ⟨first.distinct, second.distinct, fun key early other late same => ?_⟩
    subst same
    exact ((first.unfinished_iff key).mp (second.new key late).1).1 early
  new := by
    intro key member
    rw [List.filterMap_append, List.mem_append] at member
    rcases member with early | late
    · exact first.new key early
    · have newBetween := second.new key late
      exact ⟨((first.unfinished_iff key).mp newBetween.1).2,
        first.active ▸ newBetween.2⟩

theorem synthesis
    {built : SchemaTable}
    {key : SchemaKey}
    (outcome : Except SynthesisError SchemaNode)
    (unfinished : table.finished? key = none)
    (inactive : key ∉ table.active)
    (inside : (table.begin key).Accounts events built) :
    table.Accounts (events ++ [.ended key outcome]) (built.settled key outcome) where
  active := by
    rw [active_settled, inside.active, active_begin, List.erase_cons_head]
  finished := by
    have finishedInside := inside.finished
    cases outcome <;>
      simp [settled, keep, fail, finishedInside, SchemaEvent.entry?, begin,
        SchemaNode.ofOutcome]
  failed := by
    have failedInside := inside.failed
    cases outcome <;>
      simp [settled, keep, fail, failedInside, SchemaEvent.failure?]
  diagnostics := by
    have diagnosticsInside := inside.diagnostics
    cases outcome <;>
      simp [settled, keep, fail, diagnosticsInside, SchemaEvent.diagnostics, begin]
  visits := by
    intro other
    have visitsInside := inside.visits other
    have begun : (table.begin key).visits other =
        table.visits other + [key].count other :=
      List.count_append
    have kept : (built.settled key outcome).visits other = built.visits other := by
      cases outcome <;> rfl
    rw [kept, visitsInside, begun, List.filterMap_append, List.count_append]
    simp only [List.filterMap_cons, List.filterMap_nil, SchemaEvent.key?]
    omega
  distinct := by
    rw [List.filterMap_append, List.nodup_append]
    refine ⟨inside.distinct, by simp [SchemaEvent.key?], fun early old other new same => ?_⟩
    have isKey : other = key := by simpa [SchemaEvent.key?] using new
    subst same
    subst isKey
    exact (inside.new early old).2 (by simp)
  new := by
    intro other member
    rw [List.filterMap_append, List.mem_append] at member
    rcases member with early | late
    · have newInside := inside.new other early
      exact ⟨newInside.1, fun active => newInside.2 (List.mem_cons_of_mem _ active)⟩
    · have isKey : other = key := by simpa [SchemaEvent.key?] using late
      subst isKey
      exact ⟨unfinished, inactive⟩

end SchemaTable.Accounts

/-- The events of a run account for the table after it. -/
theorem SchemaSource.Trace.accounts
    {source : SchemaSource}
    {table later : SchemaTable}
    {events : List SchemaEvent}
    (trace : source.Trace table events later) :
    table.Accounts events later := by
  induction trace with
  | nothing table => exact .nothing table
  | @report table _ diagnostics _ _ => exact .report table diagnostics
  | synthesis unfinished inactive _ _ accountsInside =>
      exact .synthesis _ unfinished inactive accountsInside
  | append _ _ first second => exact first.append second

/-- What is reported in a run is reported by markers of a declaration whose schema was being built
before the run, or whose synthesis ended in it. -/
theorem SchemaSource.Trace.markersReport
    {source : SchemaSource}
    {table later : SchemaTable}
    {events : List SchemaEvent}
    (trace : source.Trace table events later)
    {diagnostics : Diagnostics}
    (reported : .reported diagnostics ∈ events) :
    ∃ key : SchemaKey, source.MarkersReport key.id diagnostics ∧
      (key ∈ table.active ∨ key ∈ events.filterMap SchemaEvent.key?) := by
  induction trace with
  | nothing table => cases reported
  | report innermost reports =>
      cases List.mem_singleton.mp reported
      exact ⟨_, reports, .inl (List.mem_of_mem_head? innermost)⟩
  | @synthesis _ _ key events outcome _ _ _ _ inductionHypothesis =>
      have inEvents : .reported diagnostics ∈ events := by
        refine (List.mem_append.mp reported).resolve_right fun last => ?_
        cases List.mem_singleton.mp last
      rw [List.filterMap_append]
      obtain ⟨other, reports, active | ended⟩ := inductionHypothesis inEvents
      · rcases List.mem_cons.mp active with rfl | before
        · exact ⟨_, reports, .inr (List.mem_append_right _ List.mem_cons_self)⟩
        · exact ⟨_, reports, .inl before⟩
      · exact ⟨_, reports, .inr (List.mem_append_left _ ended)⟩
  | append first _ firstHypothesis secondHypothesis =>
      rw [List.filterMap_append]
      rcases List.mem_append.mp reported with inFirst | inSecond
      · obtain ⟨key, reports, active | ended⟩ := firstHypothesis inFirst
        · exact ⟨key, reports, .inl active⟩
        · exact ⟨key, reports, .inr (List.mem_append_left _ ended)⟩
      · obtain ⟨key, reports, active | ended⟩ := secondHypothesis inSecond
        · exact ⟨key, reports, .inl (first.accounts.active ▸ active)⟩
        · exact ⟨key, reports, .inr (List.mem_append_right _ ended)⟩

/-! ## Every request is a run -/

namespace SchemaSource

/-- A table in which nothing is active may be asked for schemas at every version. -/
theorem activeAt_of_idle
    (source : SchemaSource)
    (version : String)
    {table : SchemaTable}
    (idle : table.active = []) :
    table.ActiveAt source version where
  distinct := by simp [idle]
  sameVersion := by simp [idle]
  declared := by simp [idle]

/-- A build is a run if its requests are. -/
theorem exists_trace_build
    {source : SchemaSource}
    {version : String}
    {id : TypeId}
    {table : SchemaTable}
    (answers : ∀ target, source.References id target → ∀ later : SchemaTable,
      later.active = ⟨id, version⟩ :: table.active →
        ∃ events, source.Trace later events ((source.synthesize target version).run later).2) :
    ∃ events, source.Trace (table.begin ⟨id, version⟩) events
      ((source.build (source.synthesize · version) id).run.run (table.begin ⟨id, version⟩)).2 := by
  obtain ⟨-, events, inside⟩ := run_build_preserves source id
    (source.synthesize · version) (table.begin ⟨id, version⟩)
    (fun later => later.active = ⟨id, version⟩ :: table.active ∧
      ∃ events, source.Trace (table.begin ⟨id, version⟩) events later)
    (fun later diagnostics reports ⟨same, events, trace⟩ => by
      have innermost : later.active.head? = some ⟨id, version⟩ := by rw [same, List.head?_cons]
      exact ⟨same, _, trace.append (.report innermost reports)⟩)
    (fun target refers later ⟨same, events, trace⟩ => by
      refine ⟨by rw [active_run_synthesize, same], ?_⟩
      obtain ⟨others, more⟩ := answers target refers later same
      exact ⟨events ++ others, trace.append more⟩)
    ⟨rfl, [], .nothing _⟩
  exact ⟨events, inside⟩

/-- A request is a run. The induction is on the number of declarations that are not active. -/
theorem exists_trace_of_activeAt
    {source : SchemaSource}
    {version : String}
    (id : TypeId)
    (table : SchemaTable)
    (activeAt : table.ActiveAt source version) :
    ∃ events, source.Trace table events ((source.synthesize id version).run table).2 := by
  refine request_induction (fun id table node finished => ?_) (fun id table unfinished active => ?_)
    (fun id table activeAt unfinished inactive answers => ?_) id table activeAt
  · rw [run_synthesize_of_finished finished]
    exact ⟨[], .nothing table⟩
  · rw [run_synthesize_of_active unfinished active]
    exact ⟨[], .nothing table⟩
  · rw [run_synthesize_of_new activeAt unfinished inactive]
    obtain ⟨events, inside⟩ := exists_trace_build answers
    exact ⟨_, .synthesis unfinished inactive inside rfl⟩

/-- A request for a schema that is neither finished nor active ends with the outcome of its
build. -/
theorem exists_trace_of_new
    {source : SchemaSource}
    {version : String}
    (id : TypeId)
    {table : SchemaTable}
    (activeAt : table.ActiveAt source version)
    (unfinished : table.finished? ⟨id, version⟩ = none)
    (inactive : ⟨id, version⟩ ∉ table.active) :
    ∃ events, source.Trace table
      (events ++ [.ended ⟨id, version⟩ ((source.build (source.synthesize · version) id).run.run
        (table.begin ⟨id, version⟩)).1])
      ((source.synthesize id version).run table).2 := by
  rw [run_synthesize_of_new activeAt unfinished inactive]
  obtain ⟨events, inside⟩ := exists_trace_build fun target refers later same =>
    exists_trace_of_activeAt target later
      (ActiveAt_congr same (ActiveAt_begin activeAt inactive refers.isSome_resolve?))
  exact ⟨events, .synthesis unfinished inactive inside rfl⟩

end SchemaSource

/-! ## Calls -/

/-- A call from outside. -/
inductive SchemaCall where
  /-- Asks for the schema of a declaration. -/
  | synthesize (id : TypeId) (version : String)
  /-- Asks for the schemas of all declarations. -/
  | synthesizeAll (version : String)
  /-- Asks for the resource definitions. -/
  | defineResources

namespace SchemaSource

/-- The table after a call. -/
def performed (source : SchemaSource) (table : SchemaTable) : SchemaCall → SchemaTable
  | .synthesize id version => ((source.synthesize id version).run table).2
  | .synthesizeAll version => ((source.synthesizeAll version).run table).2
  | .defineResources => (source.defineResources.run table).2

/-- The table after calls that start from an empty table. -/
def performedAll (source : SchemaSource) (calls : List SchemaCall) : SchemaTable :=
  calls.foldl source.performed {}

/-- What requests preserve, requests for lists of schemas preserve. -/
theorem run_synthesizeEach_preserves
    {source : SchemaSource}
    {property : SchemaTable → Prop}
    (answers : ∀ id version table, property table →
      property ((source.synthesize id version).run table).2)
    (version : String)
    (ids : List TypeId)
    {table : SchemaTable}
    (holds : property table) :
    property ((source.synthesizeEach version ids).run table).2 := by
  induction ids generalizing table with
  | nil => exact holds
  | cons id rest inductionHypothesis =>
      exact inductionHypothesis (answers id version table holds)

/-- What requests preserve, the collection of resources preserves. -/
theorem run_collectRoots_preserves
    {source : SchemaSource}
    {property : SchemaTable → Prop}
    (answers : ∀ id version table, property table →
      property ((source.synthesize id version).run table).2)
    (declarations : List (Package × Declaration))
    (families : List ResourceFamily)
    (diagnostics : Diagnostics)
    {table : SchemaTable}
    (holds : property table) :
    property ((source.collectRoots families diagnostics declarations).run table).2 := by
  induction declarations generalizing families diagnostics table with
  | nil => exact holds
  | cons entry rest inductionHypothesis =>
      obtain ⟨package, declaration⟩ := entry
      unfold collectRoots
      split
      · cases source.index.groupVersion? package with
        | none => exact inductionHypothesis _ _ holds
        | some groupVersion =>
            exact inductionHypothesis _ _ (answers _ _ table holds)
      · exact inductionHypothesis _ _ holds

/-- What requests preserve, every call preserves. -/
theorem performed_preserves
    {source : SchemaSource}
    {property : SchemaTable → Prop}
    (answers : ∀ id version table, property table →
      property ((source.synthesize id version).run table).2)
    (call : SchemaCall)
    {table : SchemaTable}
    (holds : property table) :
    property (source.performed table call) := by
  cases call with
  | synthesize id version => exact answers id version table holds
  | synthesizeAll version => exact run_synthesizeEach_preserves answers version _ holds
  | defineResources => exact run_collectRoots_preserves answers _ [] [] holds

theorem foldl_performed_preserves
    {source : SchemaSource}
    {property : SchemaTable → Prop}
    (answers : ∀ id version table, property table →
      property ((source.synthesize id version).run table).2)
    (calls : List SchemaCall)
    {table : SchemaTable}
    (holds : property table) :
    property (calls.foldl source.performed table) := by
  induction calls generalizing table with
  | nil => exact holds
  | cons call rest inductionHypothesis =>
      exact inductionHypothesis (performed_preserves answers call holds)

/-- A run that starts where nothing is active ends where nothing is active. -/
def RunsFrom (source : SchemaSource) (table later : SchemaTable) : Prop :=
  later.active = [] ∧ ∃ events, source.Trace table events later

theorem RunsFrom.synthesize
    {source : SchemaSource}
    {start table : SchemaTable}
    (runs : source.RunsFrom start table)
    (id : TypeId)
    (version : String) :
    source.RunsFrom start ((source.synthesize id version).run table).2 := by
  obtain ⟨idle, events, trace⟩ := runs
  obtain ⟨others, more⟩ :=
    exists_trace_of_activeAt id table (activeAt_of_idle source version idle)
  exact ⟨by rw [active_run_synthesize, idle], events ++ others, trace.append more⟩

/-- Calls are runs. -/
theorem RunsFrom.calls
    {source : SchemaSource}
    {start table : SchemaTable}
    (runs : source.RunsFrom start table)
    (calls : List SchemaCall) :
    source.RunsFrom start (calls.foldl source.performed table) :=
  foldl_performed_preserves (fun id version _ holds => holds.synthesize id version) calls runs

end SchemaSource

/-! ## Between calls -/

/-- The events of a run from the empty table account for what the table says between two calls.
-/
structure SchemaSource.Ledger
    (source : SchemaSource)
    (events : List SchemaEvent)
    (table : SchemaTable) : Prop where
  trace : source.Trace {} events table
  /-- Nothing is in progress. -/
  idle : table.active = []
  /-- Exactly the finished schemas were begun, each once. -/
  visits : ∀ key, table.visits key = if (table.finished? key).isSome then 1 else 0
  /-- The finished schemas are those whose synthesis ended, with the node of the outcome. -/
  finished : ∀ key node, table.finished? key = some node ↔
    ∃ outcome, .ended key outcome ∈ events ∧ node = SchemaNode.ofOutcome outcome
  /-- Every synthesis ended once. -/
  once : (events.filterMap SchemaEvent.key?).Nodup
  /-- The failed schemas are those whose synthesis ended with an error. -/
  failed : ∀ key, table.hasFailed key = true ↔ ∃ error, .ended key (.error error) ∈ events
  /-- Failed schemas are finished, and nothing is known about their objects. -/
  opaqueNode : ∀ key, table.hasFailed key = true →
    table.finished? key = some SchemaNode.opaqueObject
  /-- The diagnostics are those of the events: one for each synthesis that failed, and what
  markers reported. -/
  diagnostics : table.diagnostics = events.flatMap SchemaEvent.diagnostics
  /-- What markers reported was reported by markers of a declaration whose synthesis ended. -/
  reported : ∀ diagnostics, .reported diagnostics ∈ events →
    ∃ key outcome, .ended key outcome ∈ events ∧ source.MarkersReport key.id diagnostics

theorem SchemaTable.mem_finished_of_finished?
    {table : SchemaTable}
    {key : SchemaKey}
    {node : SchemaNode}
    (found : table.finished? key = some node) :
    (key, node) ∈ table.finished :=
  Entries.mem_of_find?_fst found

theorem SchemaTable.finished?_eq_some_iff
    {table : SchemaTable}
    {key : SchemaKey}
    {node : SchemaNode}
    (distinct : (table.finished.map (·.1)).Nodup) :
    table.finished? key = some node ↔ (key, node) ∈ table.finished :=
  Entries.find?_fst_eq_some_iff distinct

namespace SchemaEvent

variable {events : List SchemaEvent} {key : SchemaKey}

theorem mem_entries_iff
    {node : SchemaNode} :
    (key, node) ∈ events.filterMap entry? ↔
      ∃ outcome, .ended key outcome ∈ events ∧ node = SchemaNode.ofOutcome outcome := by
  rw [List.mem_filterMap]
  constructor
  · rintro ⟨event, member, isEntry⟩
    cases event with
    | reported diagnostics => cases isEntry
    | ended other outcome =>
        cases isEntry
        exact ⟨outcome, member, rfl⟩
  · rintro ⟨outcome, member, rfl⟩
    exact ⟨_, member, rfl⟩

theorem mem_keys_iff :
    key ∈ events.filterMap key? ↔ ∃ outcome, .ended key outcome ∈ events := by
  rw [List.mem_filterMap]
  constructor
  · rintro ⟨event, member, isKey⟩
    cases event with
    | reported diagnostics => cases isKey
    | ended other outcome =>
        cases isKey
        exact ⟨outcome, member⟩
  · rintro ⟨outcome, member⟩
    exact ⟨_, member, rfl⟩

theorem mem_failures_iff :
    key ∈ events.filterMap failure? ↔ ∃ error, .ended key (.error error) ∈ events := by
  rw [List.mem_filterMap]
  constructor
  · rintro ⟨event, member, isFailure⟩
    cases event with
    | reported diagnostics => cases isFailure
    | ended other outcome =>
        cases outcome with
        | ok node => cases isFailure
        | error error =>
            cases isFailure
            exact ⟨error, member⟩
  · rintro ⟨error, member⟩
    exact ⟨_, member, rfl⟩

end SchemaEvent

/-- Every run from the empty table to a table in which nothing is active keeps the ledger. -/
theorem SchemaSource.Trace.ledger
    {source : SchemaSource}
    {events : List SchemaEvent}
    {table : SchemaTable}
    (trace : source.Trace {} events table)
    (idle : table.active = []) :
    source.Ledger events table := by
  have accounts := trace.accounts
  have keys : table.finished.map (·.1) = (events.filterMap SchemaEvent.key?).reverse := by
    rw [accounts.finishedKeys]
    exact List.append_nil _
  have finished : ∀ key node, table.finished? key = some node ↔
      ∃ outcome, .ended key outcome ∈ events ∧ node = SchemaNode.ofOutcome outcome := by
    intro key node
    have distinct : (table.finished.map (·.1)).Nodup :=
      keys ▸ List.nodup_reverse.mpr accounts.distinct
    rw [SchemaTable.finished?_eq_some_iff distinct, accounts.finished,
      List.mem_append, List.mem_reverse, SchemaEvent.mem_entries_iff]
    exact or_iff_left List.not_mem_nil
  have failed : ∀ key, table.hasFailed key = true ↔
      ∃ error, .ended key (.error error) ∈ events := by
    intro key
    rw [SchemaTable.hasFailed, decide_eq_true_iff, accounts.failed,
      ← SchemaEvent.mem_failures_iff]
    exact Iff.rfl
  refine ⟨trace, idle, ?_, finished, accounts.distinct, failed, ?_, accounts.diagnostics, ?_⟩
  · intro key
    rw [accounts.visits key, accounts.distinct.count]
    have isFinished : (table.finished? key).isSome ↔
        key ∈ events.filterMap SchemaEvent.key? := by
      rw [← Option.ne_none_iff_isSome, ne_eq, SchemaTable.finished?_eq_none_iff, not_not,
        keys, List.mem_reverse]
    simp only [isFinished]
    exact Nat.zero_add _
  · intro key hasFailed
    obtain ⟨error, ended⟩ := (failed key).mp hasFailed
    exact (finished key _).mpr ⟨.error error, ended, rfl⟩
  · intro diagnostics reported
    obtain ⟨key, reports, active | ended⟩ := trace.markersReport reported
    · cases active
    · obtain ⟨outcome, ended⟩ := SchemaEvent.mem_keys_iff.mp ended
      exact ⟨key, outcome, ended, reports⟩

/-- A run keeps what was finished before it. -/
theorem SchemaSource.Trace.finished?_of_finished
    {source : SchemaSource}
    {events : List SchemaEvent}
    {table later : SchemaTable}
    {key : SchemaKey}
    {node : SchemaNode}
    (trace : source.Trace table events later)
    (finished : table.finished? key = some node) :
    later.finished? key = some node := by
  have accounts := trace.accounts
  have notEnded : key ∉ (events.filterMap SchemaEvent.entry?).reverse.map (·.1) := by
    rw [List.map_reverse, List.mem_reverse, SchemaEvent.map_fst_entries]
    intro ended
    rw [(accounts.new key ended).1] at finished
    cases finished
  rw [SchemaTable.finished?, accounts.finished, List.find?_append,
    List.find?_eq_none.mpr, Option.none_or]
  · exact finished
  · intro entry member same
    have isKey : entry.1 = key := by simpa using same
    exact notEnded (isKey ▸ List.mem_map_of_mem member)

/-- A run does not change whether a finished schema failed. -/
theorem SchemaSource.Trace.hasFailed_of_finished
    {source : SchemaSource}
    {events : List SchemaEvent}
    {table later : SchemaTable}
    {key : SchemaKey}
    {node : SchemaNode}
    (trace : source.Trace table events later)
    (finished : table.finished? key = some node) :
    later.hasFailed key = table.hasFailed key := by
  have accounts := trace.accounts
  have notEnded : key ∉ events.filterMap SchemaEvent.failure? := by
    rw [SchemaEvent.mem_failures_iff]
    rintro ⟨error, ended⟩
    have isNew := accounts.new key (List.mem_filterMap.mpr ⟨_, ended, rfl⟩)
    rw [isNew.1] at finished
    cases finished
  rw [Bool.eq_iff_iff, SchemaTable.hasFailed, SchemaTable.hasFailed, decide_eq_true_iff,
    decide_eq_true_iff, accounts.failed, List.mem_append]
  exact or_iff_left notEnded

end MarkerManifests
