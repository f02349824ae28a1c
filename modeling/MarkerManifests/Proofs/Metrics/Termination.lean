import Mathlib.Data.Finset.Basic
import MarkerManifests.Proofs.Metrics.Accounts

/-!
# Termination of the collection of metrics

The collection as a machine that bounds nothing: it follows a reference through one alias after the
other, and it keeps a set of the records that are being walked, into which a record is put when it
is entered and from which it is taken when it is left. In a graph in which no chain of aliases
returns to where it began, the machine comes to an end, with what is collected. No record is entered
again while it is being walked, whatever the aliases do.
-/

namespace MarkerManifests

namespace MetricsSource

variable {source : MetricsSource} {type : TypeRef} {record root : TypeId} {path : List String}

/-! ## The machine -/

/-- A record that is being walked, at a path, with the fields that were not met yet. -/
structure OpenRecord where
  record : TypeId
  path : List String
  pending : List Field

/-- The state of a walk. -/
structure WalkState where
  /-- The records that are being walked, the innermost one first. -/
  opened : List OpenRecord
  /-- The reference that is being followed, with the path of its field. -/
  followed : Option (List String × TypeRef)
  /-- The records that are not entered. -/
  visiting : Finset TypeId
  met : List MetricOccurrence

/-- The walk of a record begins. -/
def start (source : MetricsSource) (root : TypeId) : WalkState where
  opened := [⟨root, [], source.activeFields root⟩]
  followed := none
  visiting := {root}
  met := []

/-- The reference at a path leads to a record, which is entered unless it is being walked, or to
none. -/
def arrive (source : MetricsSource) (state : WalkState) (path : List String) :
    Option TypeId → WalkState
  | none => { state with followed := none }
  | some target =>
    if target ∈ state.visiting then
      { state with followed := none }
    else
      { state with
        opened := ⟨target, path, source.activeFields target⟩ :: state.opened
        followed := none
        visiting := insert target state.visiting }

/-- A reference is followed to the declaration that it names. An alias is followed further. -/
def follow (source : MetricsSource) (state : WalkState) (path : List String) (type : TypeRef) :
    WalkState :=
  match type.stripPointers with
  | .named target =>
    match (source.graph.resolve? target).map Declaration.shape with
    | some (.record _) => source.arrive state path (some target)
    | some (.synonym next) => { state with followed := some (path, next) }
    | _ => source.arrive state path none
  | _ => source.arrive state path none

/-- The next state of a walk. A field is met, with its markers, before its reference is followed,
and a record without further fields is left. The walk ends when all records were left. -/
def next? (source : MetricsSource) (state : WalkState) : Option WalkState :=
  match state.followed with
  | some (path, type) => some (source.follow state path type)
  | none =>
    match state.opened with
    | [] => none
    | ⟨record, _, []⟩ :: outer =>
      some { state with opened := outer, visiting := state.visiting.erase record }
    | ⟨record, path, field :: rest⟩ :: outer =>
      some { state with
        opened := ⟨record, path, rest⟩ :: outer
        followed := some (fieldPath path field, field.type)
        met := state.met ++ source.fieldOccurrences record (fieldPath path field) field }

/-- The walk takes some steps from one state to another. -/
def Reaches (source : MetricsSource) : WalkState → WalkState → Prop :=
  Relation.ReflTransGen fun state after => source.next? state = some after

/-- The walk of a record ends, and the given markers were met in it. -/
def WalkEnds (source : MetricsSource) (root : TypeId) (met : List MetricOccurrence) : Prop :=
  ∃ final, source.Reaches (source.start root) final ∧ source.next? final = none ∧
    final.met = met

/-- A walk ends in one way only. -/
theorem WalkEnds.unique
    {met other : List MetricOccurrence}
    (ends : source.WalkEnds root met)
    (endsOther : source.WalkEnds root other) :
    met = other := by
  obtain ⟨final, reaches, isFinal, rfl⟩ := ends
  obtain ⟨finalOther, reachesOther, isFinalOther, rfl⟩ := endsOther
  have stays : ∀ {state after}, source.next? state = none → source.Reaches state after →
      after = state := by
    intro state after isLast reachesAfter
    rcases reachesAfter.cases_head with same | ⟨between, moves, -⟩
    · exact same.symm
    · cases isLast.symm.trans moves
  have deterministic : Relator.RightUnique
      fun state after => source.next? state = some after := by
    intro state after another moves movesOther
    exact Option.some.inj (moves.symm.trans movesOther)
  rcases Relation.ReflTransGen.total_of_right_unique deterministic reaches reachesOther with
    further | further
  · rw [stays isFinal further]
  · rw [stays isFinalOther further]

/-! ## The machine meets what the rules say -/

/-- A reference is followed to its end. -/
theorem LeadsTo.reaches
    {way : List TypeId}
    {reached : Option TypeId}
    (leads : source.LeadsTo type way reached)
    (state : WalkState)
    (path : List String) :
    source.Reaches { state with followed := some (path, type) }
      (source.arrive state path reached) := by
  induction leads with
  | @unnamed type noName =>
      refine .single (congrArg some ?_)
      unfold follow
      split
      · rename_i target isNamed
        exact absurd isNamed (noName target)
      · rfl
  | undeclared isNamed missing =>
      refine .single (congrArg some ?_)
      simp only [follow, isNamed, missing]
      rfl
  | other isNamed resolved noRecord noSynonym =>
      refine .single (congrArg some ?_)
      simp only [follow, isNamed, resolved, Option.map_some]
      split
      · rename_i fields isRecord
        exact absurd (Option.some.inj isRecord) (noRecord fields)
      · rename_i next isSynonym
        exact absurd (Option.some.inj isSynonym) (noSynonym next)
      · rfl
  | record isNamed resolved isRecord =>
      refine .single (congrArg some ?_)
      simp only [follow, isNamed, resolved, Option.map_some, isRecord]
      rfl
  | @synonym type next _ _ _ _ isNamed resolved isSynonym _ inductionHypothesis =>
      have further : source.next? { state with followed := some (path, type) } =
          some { state with followed := some (path, next) } := by
        refine congrArg some ?_
        simp only [follow, isNamed, resolved, Option.map_some, isSynonym]
      exact .head further inductionHypothesis

/-- A field is met, and its reference is followed to its end. -/
theorem LeadsTo.reaches_of_field
    {field : Field}
    {way : List TypeId}
    {reached : Option TypeId}
    (leads : source.LeadsTo field.type way reached)
    (record : TypeId)
    (path : List String)
    (rest : List Field)
    (outer : List OpenRecord)
    (visiting : Finset TypeId)
    (before : List MetricOccurrence) :
    source.Reaches ⟨⟨record, path, field :: rest⟩ :: outer, none, visiting, before⟩
      (source.arrive
        ⟨⟨record, path, rest⟩ :: outer, none, visiting,
          before ++ source.fieldOccurrences record (fieldPath path field) field⟩
        (fieldPath path field) reached) := by
  have followed := leads.reaches
    ⟨⟨record, path, rest⟩ :: outer, none, visiting,
      before ++ source.fieldOccurrences record (fieldPath path field) field⟩
    (fieldPath path field)
  exact .head rfl followed

/-- The fields of a record are met one after the other. Afterwards the records that were entered on
the way have been left. -/
theorem MeetsIn.reaches
    {walked : List TypeId}
    {fields : List Field}
    {met : List MetricOccurrence}
    (meets : source.MeetsIn walked path record fields met)
    (outer : List OpenRecord)
    {visiting : Finset TypeId}
    (areWalked : ∀ id, id ∈ visiting ↔ id ∈ walked)
    (before : List MetricOccurrence) :
    source.Reaches
      ⟨⟨record, path, fields.filter (source.isVisited record)⟩ :: outer, none, visiting, before⟩
      ⟨⟨record, path, []⟩ :: outer, none, visiting, before ++ met⟩ := by
  induction meets generalizing outer visiting before with
  | nothing =>
      rw [List.append_nil]
      exact .refl
  | skipped skips _ inductionHypothesis =>
      rw [List.filter_cons_of_neg fun isVisited => isVisited_iff.mp isVisited skips]
      exact inductionHypothesis outer areWalked before
  | @passed walked _ path below record field rest reached here later visits leads isWalked _
      inductionHypothesis =>
      obtain ⟨isVisited, rfl, rfl⟩ := visits_iff.mp visits
      rw [List.filter_cons_of_pos isVisited, ← List.append_assoc]
      have passed := leads.reaches_of_field record path
        (rest.filter (source.isVisited record)) outer visiting before
      have notEntered : ∀ state : WalkState, state.visiting = visiting → state.followed = none →
          source.arrive state (fieldPath path field) reached = state := by
        rintro ⟨opened, _, _, met⟩ rfl rfl
        cases reached with
        | none => rfl
        | some target => exact if_pos ((areWalked target).mpr (isWalked target rfl))
      rw [notEntered _ rfl rfl] at passed
      exact passed.trans (inductionHypothesis outer areWalked _)
  | @entered walked _ path below record target field rest declaration here inside later visits leads
      isNew resolved _ _ insideHypothesis laterHypothesis =>
      obtain ⟨isVisited, rfl, rfl⟩ := visits_iff.mp visits
      rw [List.filter_cons_of_pos isVisited]
      have notVisiting : target ∉ visiting := fun member => isNew ((areWalked target).mp member)
      have entered := leads.reaches_of_field record path
        (rest.filter (source.isVisited record)) outer visiting before
      rw [arrive, if_neg notVisiting, activeFields_eq resolved] at entered
      have walkedInside : ∀ id, id ∈ insert target visiting ↔ id ∈ target :: walked := fun id => by
        rw [Finset.mem_insert, List.mem_cons, areWalked]
      have walks := insideHypothesis
        (⟨record, path, rest.filter (source.isVisited record)⟩ :: outer) walkedInside
        (before ++ source.fieldOccurrences record (fieldPath path field) field)
      -- what was put into the set is taken out again, so the set is the one before
      have left : source.Reaches
          ⟨⟨target, fieldPath path field, []⟩ ::
              ⟨record, path, rest.filter (source.isVisited record)⟩ :: outer, none,
            insert target visiting,
            before ++ source.fieldOccurrences record (fieldPath path field) field ++ inside⟩
          ⟨⟨record, path, rest.filter (source.isVisited record)⟩ :: outer, none, visiting,
            before ++ source.fieldOccurrences record (fieldPath path field) field ++ inside⟩ := by
        refine .single (congrArg some ?_)
        rw [Finset.erase_insert notVisiting]
      have goesOn := laterHypothesis outer areWalked
        (before ++ source.fieldOccurrences record (fieldPath path field) field ++ inside)
      simp only [← List.append_assoc]
      exact entered.trans (walks.trans (left.trans goesOn))

/-- The walk of a declared record ends with what is collected for it. -/
theorem walkEnds_iff_eq_walk
    (noReturn : source.graph.NoAliasReturns)
    (isDeclared : (source.graph.resolve? root).isSome)
    {met : List MetricOccurrence} :
    source.WalkEnds root met ↔ met = source.walk source.graph.size [root] [] root := by
  obtain ⟨declaration, resolved⟩ := Option.isSome_iff_exists.mp isDeclared
  obtain ⟨walked, meets⟩ := exists_meetsIn noReturn (.singleton isDeclared) [] root
    declaration.fields
  have areWalked : ∀ id, id ∈ ({root} : Finset TypeId) ↔ id ∈ [root] := fun id => by
    rw [Finset.mem_singleton, List.mem_singleton]
  have reaches := meets.reaches [] areWalked []
  rw [← activeFields_eq resolved] at reaches
  have ends : source.WalkEnds root walked := ⟨_, reaches.tail rfl, rfl, rfl⟩
  rw [meets.eq_walk resolved]
  exact ⟨fun endsToo => endsToo.unique ends, fun same => same ▸ ends⟩

/-! ## Records are nested -/

/-- The records that are being walked differ, and they are the ones that are not entered. -/
structure WalkState.IsNested (state : WalkState) : Prop where
  distinct : (state.opened.map OpenRecord.record).Nodup
  visiting : ∀ id, id ∈ state.visiting ↔ id ∈ state.opened.map OpenRecord.record

theorem isNested_start (root : TypeId) : (source.start root).IsNested where
  distinct := List.nodup_singleton root
  visiting := fun id => by simp [start]

theorem WalkState.IsNested.arrive
    {state : WalkState}
    (nested : state.IsNested)
    (path : List String)
    (reached : Option TypeId) :
    (source.arrive state path reached).IsNested := by
  unfold MetricsSource.arrive
  split
  · exact ⟨nested.distinct, nested.visiting⟩
  · rename_i target
    split
    · exact ⟨nested.distinct, nested.visiting⟩
    · rename_i isNew
      refine ⟨?_, fun id => ?_⟩
      · exact List.nodup_cons.mpr ⟨fun isOpen => isNew ((nested.visiting target).mpr isOpen),
          nested.distinct⟩
      · rw [Finset.mem_insert, nested.visiting, List.map_cons, List.mem_cons]

theorem WalkState.IsNested.follow
    {state : WalkState}
    (nested : state.IsNested)
    (path : List String)
    (type : TypeRef) :
    (source.follow state path type).IsNested := by
  unfold MetricsSource.follow
  split
  · split
    · exact nested.arrive path _
    · exact ⟨nested.distinct, nested.visiting⟩
    · exact nested.arrive path none
  · exact nested.arrive path none

/-- A step keeps the records nested. -/
theorem WalkState.IsNested.next
    {state after : WalkState}
    (nested : state.IsNested)
    (moves : source.next? state = some after) :
    after.IsNested := by
  obtain ⟨opened, followed, visiting, met⟩ := state
  unfold next? at moves
  split at moves
  · cases moves
    exact nested.follow _ _
  · split at moves
    · cases moves
    · rename_i record path outer isOpened
      cases moves
      cases isOpened
      obtain ⟨isClosed, distinct⟩ := List.nodup_cons.mp nested.distinct
      refine ⟨distinct, fun id => ?_⟩
      -- the record that is left is not walked any more, as it was entered only once
      rw [Finset.mem_erase, nested.visiting, List.map_cons, List.mem_cons]
      constructor
      · rintro ⟨differs, same | isOuter⟩
        · exact absurd same differs
        · exact isOuter
      · exact fun isOuter => ⟨fun same => isClosed (same ▸ isOuter), .inr isOuter⟩
    · rename_i isOpened
      cases moves
      cases isOpened
      exact ⟨nested.distinct, nested.visiting⟩

theorem Reaches.isNested
    {state : WalkState}
    (reaches : source.Reaches (source.start root) state) :
    state.IsNested := by
  induction reaches with
  | refl => exact isNested_start root
  | tail _ moves inductionHypothesis => exact inductionHypothesis.next moves

/-! ## The collection ends -/

/-- The marker by which a declaration asks for metrics. Nothing switches it off. -/
structure AsksBy (source : MetricsSource) (declaration : Declaration) (marker : Marker) : Prop where
  isFirst : (source.index.declaration declaration.id).first? Vocabulary.metricsResource =
    some marker
  isOn : source.isGatedOff marker = false
  declarationIsOn : ((source.index.declaration declaration.id).first? Vocabulary.featureGate).any
    source.isGatedOff = false

/-- The collection ends for a declaration of a package, by rules that do not bound the walk. The
walk of a resource with metrics has to end, and nothing else is walked. -/
inductive Reports (source : MetricsSource) (package : Package) (declaration : Declaration) :
    Option ResourceMetrics × Diagnostics → Prop
  | unasked
      (asksNot : ∀ marker, ¬ source.AsksBy declaration marker) :
      Reports source package declaration (none, [])
  | unmarked
      {marker : Marker}
      (asks : source.AsksBy declaration marker)
      (isUnmarked : (source.index.declaration declaration.id).has Vocabulary.resource = false) :
      Reports source package declaration
        (none, [⟨.semantic, marker.location, (MetricError.notAResource declaration.name).message⟩])
  | unplaced
      {marker : Marker}
      (asks : source.AsksBy declaration marker)
      (isMarked : (source.index.declaration declaration.id).has Vocabulary.resource = true)
      (missing : source.index.groupVersion? package = none) :
      Reports source package declaration (none, [])
  | walked
      {marker : Marker}
      {group version : String}
      {below : List MetricOccurrence}
      {metrics : List Metric}
      {diagnostics : Diagnostics}
      (asks : source.AsksBy declaration marker)
      (isMarked : (source.index.declaration declaration.id).has Vocabulary.resource = true)
      (placed : source.index.groupVersion? package = some (group, version))
      (ends : source.WalkEnds declaration.id below)
      (given : MetricOccurrence.metricsAfter declaration.name []
        (source.declared declaration.id ++ below) = (metrics, diagnostics)) :
      Reports source package declaration
        (some ⟨group, version, declaration.name, marker.string? "namePrefix", metrics⟩, diagnostics)

variable {package : Package} {declaration : Declaration} {marker : Marker}

theorem resource_of_asksNot (asksNot : ∀ marker, ¬ source.AsksBy declaration marker) :
    source.resource package declaration = (none, []) := by
  unfold resource
  dsimp only
  split
  · rfl
  · rename_i marker isFirst
    refine if_pos ?_
    by_contra isOn
    rw [Bool.or_eq_true, not_or, Bool.not_eq_true, Bool.not_eq_true] at isOn
    exact asksNot marker ⟨isFirst, isOn.1, isOn.2⟩

theorem AsksBy.resource_eq (asks : source.AsksBy declaration marker) :
    source.resource package declaration = source.markedResource package declaration marker := by
  simp [resource, asks.isFirst, asks.isOn, asks.declarationIsOn]

theorem reports_iff_eq_resource
    (noReturn : source.graph.NoAliasReturns)
    (package : Package)
    (isDeclared : (source.graph.resolve? declaration.id).isSome)
    {report : Option ResourceMetrics × Diagnostics} :
    source.Reports package declaration report ↔
      report = source.resource package declaration := by
  constructor
  · intro reports
    cases reports with
    | unasked asksNot => rw [resource_of_asksNot asksNot]
    | unmarked asks isUnmarked => simp [asks.resource_eq, markedResource, isUnmarked]
    | unplaced asks isMarked missing => simp [asks.resource_eq, markedResource, isMarked, missing]
    | walked asks isMarked placed ends given =>
        rw [(walkEnds_iff_eq_walk noReturn isDeclared).mp ends] at given
        have sameMarkers : source.occurrences declaration.id = source.declared declaration.id ++
            source.walk source.graph.size [declaration.id] [] declaration.id := rfl
        simp [asks.resource_eq, markedResource, isMarked, placed, sameMarkers, given]
  · rintro rfl
    by_cases asked : ∃ marker, source.AsksBy declaration marker
    · obtain ⟨marker, asks⟩ := asked
      rw [asks.resource_eq, markedResource]
      cases isMarked : (source.index.declaration declaration.id).has Vocabulary.resource with
      | false => exact .unmarked asks isMarked
      | true =>
          rw [if_pos rfl]
          cases placed : source.index.groupVersion? package with
          | none => exact .unplaced asks isMarked placed
          | some groupVersion =>
              exact .walked asks isMarked placed
                ((walkEnds_iff_eq_walk noReturn isDeclared).mpr rfl) rfl
    · have asksNot := not_exists.mp asked
      rw [resource_of_asksNot asksNot]
      exact .unasked asksNot

/-- The collection ends with a result: it ends for every declaration, one after the other. -/
def Collects (source : MetricsSource) (result : MetricsConfiguration × Diagnostics) : Prop :=
  ∃ reports, List.Forall₂ (fun entry report => source.Reports entry.1 entry.2 report)
      (SchemaSource.declarationsInPackages source.graph) reports ∧
    result = (⟨reports.filterMap (·.1)⟩, reports.flatMap (·.2))

/-- The declarations of packages are found by their identities. -/
theorem isSome_resolve?_of_mem
    {graph : TypeGraph}
    {entry : Package × Declaration}
    (isEntry : entry ∈ SchemaSource.declarationsInPackages graph) :
    (graph.resolve? entry.2.id).isSome := by
  obtain ⟨package, inGraph, inPackage⟩ := List.mem_flatMap.mp isEntry
  obtain ⟨declaration, isListed, rfl⟩ := List.mem_map.mp inPackage
  have isDeclared : declaration ∈ graph.declarations :=
    List.mem_flatMap.mpr ⟨package, inGraph, isListed⟩
  exact Option.isSome_of_mem (TypeGraph.resolve?_eq_some_iff.mpr ⟨isDeclared, rfl⟩)

theorem collects_iff_eq_collect
    (noReturn : source.graph.NoAliasReturns)
    {result : MetricsConfiguration × Diagnostics} :
    source.Collects result ↔ result = source.collect := by
  have isOnly : ∀ reports, List.Forall₂ (fun entry report => source.Reports entry.1 entry.2 report)
        (SchemaSource.declarationsInPackages source.graph) reports ↔
      reports = (SchemaSource.declarationsInPackages source.graph).map fun entry =>
        source.resource entry.1 entry.2 := fun reports =>
    forall₂_iff_eq_map fun entry isEntry _ =>
      reports_iff_eq_resource noReturn entry.1 (isSome_resolve?_of_mem isEntry)
  unfold Collects
  simp only [isOnly, exists_eq_left, collect_eq, reports, List.filterMap_map, List.flatMap_map]
  rfl

/-- The collection of metrics terminates on recursive records. In every graph in which no chain of
aliases returns to where it began, for all markers and every state of the gates, the collection ends
by rules that bound neither the chains of aliases nor the nesting of records, and what is collected
is its only result. Whatever state the walk of a record reaches, the records that are being walked
are different ones, so none of them was entered again. -/
theorem collects_iff_eq_collect_of_noAliasReturns
    (source : MetricsSource)
    (noReturn : source.graph.NoAliasReturns) :
    (∀ result, source.Collects result ↔ result = source.collect) ∧
      ∀ root state, source.Reaches (source.start root) state →
        (state.opened.map OpenRecord.record).Nodup :=
  ⟨fun _ => collects_iff_eq_collect noReturn, fun _ _ reaches => reaches.isNested.distinct⟩

/-! ## A recursive record -/

/-- A record that refers to itself through an alias. -/
def forest : TypeGraph where
  packages := [{
    name := "p"
    doc := ["+groupName=forest.example.com", "+versionName=v1"]
    types := [
      { name := "Tree", package := "p"
        doc := ["+resource", "+metrics:resource"]
        shape := .record [
          { name := "Child", type := .named ⟨"p", "Branch"⟩, key := "child" },
          { name := "Size", type := .scalar .int64, key := "size"
            doc := ["+metrics:gauge:name=size"] }] },
      { name := "Branch", package := "p", shape := .synonym (.pointer (.named ⟨"p", "Tree"⟩)) }] }]

/-- The only alias names a record. -/
theorem noAliasReturns_forest : forest.NoAliasReturns := by
  have only : ∀ {id target}, forest.Aliases id target →
      id.name = "Branch" ∧ target.name = "Tree" := by
    rintro id target ⟨declaration, type, resolved, isSynonym, isNamed⟩
    obtain ⟨isDeclared, rfl⟩ := TypeGraph.resolve?_eq_some_iff.mp resolved
    rcases List.mem_cons.mp isDeclared with rfl | isBranch
    · cases isSynonym
    · cases List.mem_singleton.mp isBranch
      cases isSynonym
      cases isNamed
      exact ⟨rfl, rfl⟩
  intro id returns
  obtain ⟨_, first, -⟩ := Relation.TransGen.head'_iff.mp returns
  obtain ⟨_, -, last⟩ := Relation.TransGen.tail'_iff.mp returns
  exact absurd ((only first).1.symm.trans (only last).2) (by decide)

/-- The tree is not entered again for its child, and its size is collected once. -/
theorem collects_iff_eq_collect_forest :
    let source : MetricsSource :=
      ⟨forest, (MarkerIndex.ofGraph Vocabulary.registry forest).1, .empty⟩
    source.graph.NoAliasReturns ∧
      source.Collects (⟨[⟨"forest.example.com", "v1", "Tree", none,
        [⟨"size", "", ⟨["size"]⟩, .gauge false⟩]⟩]⟩, []) ∧
      ∀ root state, source.Reaches (source.start root) state →
        (state.opened.map OpenRecord.record).Nodup := by
  intro source
  obtain ⟨ends, distinct⟩ :=
    collects_iff_eq_collect_of_noAliasReturns source noAliasReturns_forest
  refine ⟨noAliasReturns_forest, (ends _).mpr ?_, distinct⟩
  decide +kernel

end MetricsSource
end MarkerManifests
