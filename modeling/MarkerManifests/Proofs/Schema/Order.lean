import MarkerManifests.Proofs.Schema.Ledger
import Mathlib.Data.Finset.Card
import Mathlib.Data.Finset.Filter

/-!
# Requests in different orders

A request is answered from the table, so an earlier request may change the answer to a later one:
while a declaration is being built, the declarations of its cycle refer to it by a reference, and
they keep that reference. This happens only if a group of mutually recursive declarations is
entered at two different declarations. Where all requests enter a group at the same one, the
table holds for the group either nothing or what the first request for that declaration leaves
in an empty table, and the answers do not depend on what was asked before.
-/

namespace MarkerManifests

/-! ## Tables that agree on a schema -/

namespace SchemaTable

/-- Two tables have the same schema for a key, and it failed in both or in neither. -/
def SameAt (left right : SchemaTable) (key : SchemaKey) : Prop :=
  left.finished? key = right.finished? key ∧ left.hasFailed key = right.hasFailed key

variable {left right table : SchemaTable} {key other : SchemaKey}

theorem SameAt.refl (table : SchemaTable) (key : SchemaKey) : table.SameAt table key :=
  ⟨rfl, rfl⟩

theorem SameAt.symm (same : left.SameAt right key) : right.SameAt left key :=
  ⟨same.1.symm, same.2.symm⟩

theorem SameAt.trans
    (first : left.SameAt table key)
    (second : table.SameAt right key) :
    left.SameAt right key :=
  ⟨first.1.trans second.1, first.2.trans second.2⟩

theorem hasFailed_eq_true_iff : table.hasFailed key = true ↔ key ∈ table.failed :=
  decide_eq_true_iff

theorem hasFailed_settled
    (table : SchemaTable)
    (key other : SchemaKey)
    (outcome : Except SynthesisError SchemaNode) :
    (table.settled key outcome).hasFailed other =
      (table.hasFailed other || (decide (key = other) && !outcome.isOk)) := by
  cases outcome with
  | ok node =>
      rw [Except.isOk, Except.toBool, Bool.not_true, Bool.and_false, Bool.or_false]
      rfl
  | error error =>
      rw [Bool.eq_iff_iff, Bool.or_eq_true, hasFailed_eq_true_iff, hasFailed_eq_true_iff,
        settled, keep, fail, List.mem_append, List.mem_singleton]
      simp [Except.isOk, Except.toBool, @eq_comm _ key]

theorem SameAt.settled
    (same : left.SameAt right other)
    (key : SchemaKey)
    (outcome : Except SynthesisError SchemaNode) :
    (left.settled key outcome).SameAt (right.settled key outcome) other := by
  refine ⟨?_, ?_⟩
  · rw [finished?_settled, finished?_settled, same.1]
  · rw [hasFailed_settled, hasFailed_settled, same.2]

theorem sameAt_settled_of_ne
    (table : SchemaTable)
    (outcome : Except SynthesisError SchemaNode)
    (differs : key ≠ other) :
    (table.settled key outcome).SameAt table other := by
  refine ⟨?_, ?_⟩
  · rw [finished?_settled, if_neg differs]
  · rw [hasFailed_settled, decide_eq_false differs, Bool.false_and, Bool.or_false]

end SchemaTable

namespace SchemaSource

variable {source : SchemaSource} {version : String} {id : TypeId} {table : SchemaTable}

/-- A request changes nothing about declarations that are not met in the requested one, and
nothing at other versions. -/
theorem sameAt_run_synthesizeWithin
    (levels : Nat)
    (id : TypeId)
    (table : SchemaTable)
    (key : SchemaKey)
    (unreached : key.version = version → ¬ source.Reaches id key.id) :
    ((source.synthesizeWithin version levels id).run table).2.SameAt table key := by
  induction levels generalizing id table with
  | zero => exact .refl table key
  | succ levels inductionHypothesis =>
      cases finished : table.finished? ⟨id, version⟩ with
      | some node =>
          rw [run_synthesizeWithin_of_finished levels finished]
          exact .refl table key
      | none =>
          by_cases active : ⟨id, version⟩ ∈ table.active
          · rw [run_synthesizeWithin_of_active levels finished active]
            exact .refl table key
          · rw [run_synthesizeWithin_of_new levels finished active]
            have differs : ⟨id, version⟩ ≠ key := by
              rintro rfl
              exact unreached rfl .refl
            refine (SchemaTable.sameAt_settled_of_ne _ _ differs).trans ?_
            refine run_build_preserves source id (source.synthesizeWithin version levels)
              (table.begin ⟨id, version⟩) (fun later => later.SameAt table key)
              (fun later diagnostics _ same => same) ?_ (.refl table key)
            intro target refers later same
            refine (inductionHypothesis target later fun sameVersion reached => ?_).trans same
            exact unreached sameVersion (.head refers reached)

theorem sameAt_run_synthesize
    (id : TypeId)
    (table : SchemaTable)
    (key : SchemaKey)
    (unreached : key.version = version → ¬ source.Reaches id key.id) :
    ((source.synthesize id version).run table).2.SameAt table key :=
  sameAt_run_synthesizeWithin _ id table key unreached

/-! ## Groups of mutually recursive declarations -/

/-- Two declarations that are met in each other, or one declaration twice. -/
def Mutual (source : SchemaSource) (first second : TypeId) : Prop :=
  source.Reaches first second ∧ source.Reaches second first

/-- The answer to the first request that is made, and the table after it. -/
def fresh (source : SchemaSource) (version : String) (id : TypeId) :
    SchemaNode × SchemaTable :=
  (source.synthesize id version).run {}

/-- For the group of a declaration, a table holds nothing or what the first request for the
declaration leaves. -/
def FaithfulAt
    (source : SchemaSource)
    (version : String)
    (table : SchemaTable)
    (id : TypeId) : Prop :=
  (∀ other, source.Mutual id other → table.SameAt {} ⟨other, version⟩) ∨
    ∀ other, source.Mutual id other → table.SameAt (source.fresh version id).2 ⟨other, version⟩

theorem FaithfulAt.congr
    {later : SchemaTable}
    (faithful : source.FaithfulAt version table id)
    (same : ∀ other, source.Mutual id other → later.SameAt table ⟨other, version⟩) :
    source.FaithfulAt version later id :=
  faithful.imp
    (fun empty other together => (same other together).trans (empty other together))
    (fun full other together => (same other together).trans (full other together))

/-- A table is faithful at the entries in a region. -/
def FaithfulOn
    (source : SchemaSource)
    (version : String)
    (region entry : TypeId → Prop)
    (table : SchemaTable) : Prop :=
  ∀ id, region id → entry id → source.FaithfulAt version table id

/-- No declaration of a region is active. -/
def IdleOn (version : String) (region : TypeId → Prop) (table : SchemaTable) : Prop :=
  ∀ id, region id → ⟨id, version⟩ ∉ table.active

theorem idleOn_of_idle
    {region : TypeId → Prop}
    (idle : table.active = []) :
    IdleOn version region table :=
  fun _ _ => idle ▸ List.not_mem_nil

/-- A request for a declaration has the same answer in all tables that are faithful at the
entries below the declaration, and such tables remain so. -/
def AnswersFreshly
    (source : SchemaSource)
    (version : String)
    (entry : TypeId → Prop)
    (id : TypeId) : Prop :=
  ∀ table : SchemaTable, table.ActiveAt source version →
    IdleOn version (source.Reaches id) table →
    source.FaithfulOn version (source.Reaches id) entry table →
    ((source.synthesize id version).run table).1 = (source.fresh version id).1 ∧
      ((source.synthesize id version).run table).2.SameAt (source.fresh version id).2
        ⟨id, version⟩ ∧
      source.FaithfulOn version (source.Reaches id) entry
        ((source.synthesize id version).run table).2

/-! ## Requests above a region that is answered freshly -/

/-- Declarations above a region in which all entries are answered freshly. -/
structure Layers
    (source : SchemaSource)
    (version : String)
    (upper lower entry : TypeId → Prop) : Prop where
  closed : ∀ id target, lower id → source.References id target → lower target
  follows : ∀ id target, upper id → source.References id target →
    upper target ∨ (lower target ∧ entry target)
  apart : ∀ id, upper id → ¬ lower id
  answers : ∀ id, lower id → entry id → source.AnswersFreshly version entry id

/-- Tables that agree on the upper declarations and are both faithful below them. -/
structure Agree
    (source : SchemaSource)
    (version : String)
    (upper lower entry : TypeId → Prop)
    (left right : SchemaTable) : Prop where
  same : ∀ id, upper id → left.SameAt right ⟨id, version⟩
  left : source.FaithfulOn version lower entry left
  right : source.FaithfulOn version lower entry right

/-- Tables from which requests for upper declarations can be followed side by side. -/
structure Abreast
    (source : SchemaSource)
    (version : String)
    (upper lower entry : TypeId → Prop)
    (left right : SchemaTable) : Prop where
  agree : source.Agree version upper lower entry left right
  activeLeft : left.ActiveAt source version
  activeRight : right.ActiveAt source version
  sameActive : ∀ id, upper id → (⟨id, version⟩ ∈ left.active ↔ ⟨id, version⟩ ∈ right.active)
  idleLeft : IdleOn version lower left
  idleRight : IdleOn version lower right

/-- A request has the same answer in two tables, and leaves tables that agree. -/
def AnswersAlike
    (source : SchemaSource)
    (version : String)
    (upper lower entry : TypeId → Prop)
    (id : TypeId)
    (left right : SchemaTable) : Prop :=
  ((source.synthesize id version).run left).1 = ((source.synthesize id version).run right).1 ∧
    source.Agree version upper lower entry
      ((source.synthesize id version).run left).2
      ((source.synthesize id version).run right).2

namespace Layers

variable {upper lower entry : TypeId → Prop}

theorem lower_of_reaches
    (layers : source.Layers version upper lower entry)
    {first second : TypeId}
    (isLower : lower first)
    (reached : source.Reaches first second) :
    lower second := by
  induction reached with
  | refl => exact isLower
  | tail _ refers inductionHypothesis => exact layers.closed _ _ inductionHypothesis refers

/-- An entry of the region is answered freshly, and the region remains faithful. -/
theorem request_lower
    (layers : source.Layers version upper lower entry)
    (isLower : lower id)
    (isEntry : entry id)
    (activeAt : table.ActiveAt source version)
    (idle : IdleOn version lower table)
    (faithful : source.FaithfulOn version lower entry table) :
    ((source.synthesize id version).run table).1 = (source.fresh version id).1 ∧
      source.FaithfulOn version lower entry ((source.synthesize id version).run table).2 := by
  obtain ⟨answer, -, faithfulBelow⟩ := layers.answers id isLower isEntry table activeAt
    (fun other reached => idle other (layers.lower_of_reaches isLower reached))
    (fun other reached => faithful other (layers.lower_of_reaches isLower reached))
  refine ⟨answer, fun other lowerOther entryOther => ?_⟩
  by_cases reached : source.Reaches id other
  · exact faithfulBelow other reached entryOther
  · apply (faithful other lowerOther entryOther).congr
    intro third together
    exact sameAt_run_synthesize id table _ fun _ reachesThird =>
      reached (reachesThird.trans together.2)

theorem answersAlike_lower
    {left right : SchemaTable}
    (layers : source.Layers version upper lower entry)
    (abreast : source.Abreast version upper lower entry left right)
    (isLower : lower id)
    (isEntry : entry id) :
    source.AnswersAlike version upper lower entry id left right := by
  have leftAnswer := layers.request_lower isLower isEntry abreast.activeLeft abreast.idleLeft
    abreast.agree.left
  have rightAnswer := layers.request_lower isLower isEntry abreast.activeRight
    abreast.idleRight abreast.agree.right
  refine ⟨leftAnswer.1.trans rightAnswer.1.symm, ?_, leftAnswer.2, rightAnswer.2⟩
  intro other isUpper
  have unreached : ¬ source.Reaches id other := fun reached =>
    layers.apart other isUpper (layers.lower_of_reaches isLower reached)
  have unchanged : ∀ table : SchemaTable,
      ((source.synthesize id version).run table).2.SameAt table ⟨other, version⟩ :=
    fun table => sameAt_run_synthesize id table _ fun _ => unreached
  exact ((unchanged left).trans (abreast.agree.same other isUpper)).trans
    (unchanged right).symm

theorem faithfulOn_settled
    (layers : source.Layers version upper lower entry)
    (isUpper : upper id)
    (outcome : Except SynthesisError SchemaNode)
    (faithful : source.FaithfulOn version lower entry table) :
    source.FaithfulOn version lower entry (table.settled ⟨id, version⟩ outcome) := by
  intro other isLower isEntry
  apply (faithful other isLower isEntry).congr
  intro third together
  apply SchemaTable.sameAt_settled_of_ne _ _
  intro sameKey
  have sameId : id = third := congrArg SchemaKey.id sameKey
  exact layers.apart id isUpper (sameId ▸ layers.lower_of_reaches isLower together.1)

theorem agree_settled
    {left right : SchemaTable}
    (layers : source.Layers version upper lower entry)
    (agree : source.Agree version upper lower entry left right)
    (isUpper : upper id)
    (outcome : Except SynthesisError SchemaNode) :
    source.Agree version upper lower entry
      (left.settled ⟨id, version⟩ outcome) (right.settled ⟨id, version⟩ outcome) where
  same := fun other upperOther => (agree.same other upperOther).settled _ outcome
  left := layers.faithfulOn_settled isUpper outcome agree.left
  right := layers.faithfulOn_settled isUpper outcome agree.right

theorem idleOn_begin
    (layers : source.Layers version upper lower entry)
    (isUpper : upper id)
    {later : SchemaTable}
    (sameActive : later.active = ⟨id, version⟩ :: table.active)
    (idle : IdleOn version lower table) :
    IdleOn version lower later := by
  intro other isLower active
  rw [sameActive] at active
  rcases List.mem_cons.mp active with sameKey | active
  · have sameId : other = id := congrArg SchemaKey.id sameKey
    exact layers.apart id isUpper (sameId ▸ isLower)
  · exact idle other isLower active

/-- Tables in which an upper declaration becomes active are still abreast. -/
theorem abreast_begin
    {left right later other : SchemaTable}
    (layers : source.Layers version upper lower entry)
    (abreast : source.Abreast version upper lower entry left right)
    (isUpper : upper id)
    (declared : (source.graph.resolve? id).isSome)
    (inactive : ⟨id, version⟩ ∉ left.active)
    (agree : source.Agree version upper lower entry later other)
    (laterActive : later.active = ⟨id, version⟩ :: left.active)
    (otherActive : other.active = ⟨id, version⟩ :: right.active) :
    source.Abreast version upper lower entry later other where
  agree := agree
  activeLeft := ActiveAt_congr laterActive (ActiveAt_begin abreast.activeLeft inactive declared)
  activeRight := by
    have inactiveRight : ⟨id, version⟩ ∉ right.active :=
      fun member => inactive ((abreast.sameActive id isUpper).mpr member)
    exact ActiveAt_congr otherActive
      (ActiveAt_begin abreast.activeRight inactiveRight declared)
  sameActive := by
    intro third upperThird
    rw [laterActive, otherActive, List.mem_cons, List.mem_cons,
      abreast.sameActive third upperThird]
  idleLeft := layers.idleOn_begin isUpper laterActive abreast.idleLeft
  idleRight := layers.idleOn_begin isUpper otherActive abreast.idleRight

/-- If the upper declarations that an upper declaration refers to are answered alike, its schema
is built alike. -/
theorem related_build_upper
    {left right : SchemaTable}
    (layers : source.Layers version upper lower entry)
    (abreast : source.Abreast version upper lower entry left right)
    (isUpper : upper id)
    (inactive : ⟨id, version⟩ ∉ left.active)
    (alike : ∀ target, upper target → ∀ later other,
      source.Abreast version upper lower entry later other →
        later.active = ⟨id, version⟩ :: left.active →
          source.AnswersAlike version upper lower entry target later other) :
    Synthesis.Related
      (fun later other => source.Agree version upper lower entry later other ∧
        later.active = ⟨id, version⟩ :: left.active ∧
        other.active = ⟨id, version⟩ :: right.active)
      (source.build (source.synthesize · version) id).run
      (source.build (source.synthesize · version) id).run := by
  apply related_build
  · rintro diagnostics - later other ⟨agree, active⟩
    exact ⟨⟨agree.same, agree.left, agree.right⟩, active⟩
  · intro target refers
    rintro later other ⟨agree, laterActive, otherActive⟩
    have declared : (source.graph.resolve? id).isSome := refers.isSome_resolve?
    have stillAbreast :=
      layers.abreast_begin abreast isUpper declared inactive agree laterActive otherActive
    have answered : source.AnswersAlike version upper lower entry target later other := by
      rcases layers.follows id target isUpper refers with
        upperTarget | ⟨lowerTarget, entryTarget⟩
      · exact alike target upperTarget later other stillAbreast laterActive
      · exact layers.answersAlike_lower stillAbreast lowerTarget entryTarget
    refine ⟨answered.1, answered.2, ?_, ?_⟩
    · rw [active_run_synthesize, laterActive]
    · rw [active_run_synthesize, otherActive]

/-- Upper declarations have the same answers in tables that are abreast, and the tables agree
after them. The induction is on the number of declarations that are not active. -/
theorem answersAlike_upper
    {left right : SchemaTable}
    (layers : source.Layers version upper lower entry)
    (abreast : source.Abreast version upper lower entry left right)
    (isUpper : upper id) :
    source.AnswersAlike version upper lower entry id left right := by
  generalize inactiveCount : source.graph.size - left.active.length = count
  induction count using Nat.strongRecOn generalizing id left right with
  | ind count inductionHypothesis =>
      have sameFinished := (abreast.agree.same id isUpper).1
      rw [AnswersAlike]
      cases finished : left.finished? ⟨id, version⟩ with
      | some node =>
          rw [run_synthesize_of_finished finished,
            run_synthesize_of_finished (sameFinished ▸ finished)]
          exact ⟨rfl, abreast.agree⟩
      | none =>
          have unfinished : right.finished? ⟨id, version⟩ = none := sameFinished ▸ finished
          by_cases active : ⟨id, version⟩ ∈ left.active
          · rw [run_synthesize_of_active finished active,
              run_synthesize_of_active unfinished ((abreast.sameActive id isUpper).mp active)]
            exact ⟨rfl, abreast.agree⟩
          · have inactive : ⟨id, version⟩ ∉ right.active :=
              fun member => active ((abreast.sameActive id isUpper).mpr member)
            rw [run_synthesize_of_new abreast.activeLeft finished active,
              run_synthesize_of_new abreast.activeRight unfinished inactive]
            have related := layers.related_build_upper abreast isUpper active
              fun target upperTarget later other stillAbreast laterActive => by
                have bound := length_active_le_size stillAbreast.activeLeft
                apply inductionHypothesis _ _ stillAbreast upperTarget rfl
                rw [laterActive, List.length_cons] at bound ⊢
                omega
            obtain ⟨sameOutcome, agreeBuilt, -⟩ :=
              @related (left.begin ⟨id, version⟩) (right.begin ⟨id, version⟩)
                ⟨⟨abreast.agree.same, abreast.agree.left, abreast.agree.right⟩, rfl, rfl⟩
            refine ⟨congrArg SchemaNode.ofOutcome sameOutcome, ?_⟩
            have settled := layers.agree_settled agreeBuilt isUpper
              ((source.build (source.synthesize · version) id).run.run
                (left.begin ⟨id, version⟩)).1
            rw [settledBuild, settledBuild]
            dsimp only
            rw [← show _ = _ from sameOutcome]
            exact settled

end Layers

/-! ## Groups that are entered at one declaration -/

/-- A declaration at which requests enter its group: it is requested, or met in a declaration of
another group. -/
def EntersAt (source : SchemaSource) (requested : List TypeId) (id : TypeId) : Prop :=
  id ∈ requested ∨ ∃ start ∈ requested, ∃ referring,
    source.Reaches start referring ∧ source.References referring id ∧
      ¬ source.Reaches id referring

/-- A region of declarations whose groups are each entered at one declaration. -/
structure SingleEntry
    (source : SchemaSource)
    (requested : List TypeId)
    (region : TypeId → Prop) : Prop where
  closed : ∀ id target, region id → source.References id target → region target
  reached : ∀ id, region id → ∃ start ∈ requested, source.Reaches start id
  single : ∀ first second, region first → source.Mutual first second →
    source.EntersAt requested first → source.EntersAt requested second → first = second

open Classical in
/-- The declarations of the graph that are met in a declaration. -/
noncomputable def reachedDeclarations (source : SchemaSource) (id : TypeId) : Finset TypeId :=
  (source.graph.declarations.map (·.id)).toFinset.filter (source.Reaches id)

theorem card_reachedDeclarations_lt
    {target : TypeId}
    (reached : source.Reaches id target)
    (notBack : ¬ source.Reaches target id) :
    (source.reachedDeclarations target).card < (source.reachedDeclarations id).card := by
  classical
  have declared : id ∈ source.graph.declarations.map (·.id) := by
    rcases reached.cases_head with rfl | ⟨middle, refers, -⟩
    · exact absurd .refl notBack
    · exact TypeGraph.mem_ids_of_isSome_resolve? refers.isSome_resolve?
  refine Finset.card_lt_card (Finset.ssubset_iff_of_subset ?_ |>.mpr ⟨id, ?_, ?_⟩)
  · intro other member
    rw [reachedDeclarations, Finset.mem_filter] at member ⊢
    exact ⟨member.1, reached.trans member.2⟩
  · rw [reachedDeclarations, Finset.mem_filter, List.mem_toFinset]
    exact ⟨declared, .refl⟩
  · rw [reachedDeclarations, Finset.mem_filter]
    exact fun member => notBack member.2

/-- A request that is made first leaves its answer in the table. -/
theorem finished?_fresh (source : SchemaSource) (version : String) (id : TypeId) :
    (source.fresh version id).2.finished? ⟨id, version⟩ =
      some (source.fresh version id).1 := by
  rw [fresh, run_synthesize_of_new (activeAt_of_idle source version rfl) rfl
    List.not_mem_nil, settledBuild, SchemaTable.finished?_settled, if_pos rfl]

namespace SingleEntry

variable {requested : List TypeId} {region : TypeId → Prop}

theorem region_of_reaches
    (singleEntry : source.SingleEntry requested region)
    {first second : TypeId}
    (inRegion : region first)
    (reached : source.Reaches first second) :
    region second := by
  induction reached with
  | refl => exact inRegion
  | tail _ refers inductionHypothesis => exact singleEntry.closed _ _ inductionHypothesis refers

theorem entersAt_of_references
    (singleEntry : source.SingleEntry requested region)
    {target : TypeId}
    (inRegion : region id)
    (refers : source.References id target)
    (notBack : ¬ source.Reaches target id) :
    source.EntersAt requested target := by
  obtain ⟨start, isRequested, reached⟩ := singleEntry.reached id inRegion
  exact Or.inr ⟨start, isRequested, id, reached, refers, notBack⟩

/-- The declarations of one group, above those that are met in the group. -/
theorem layersOfGroup
    (singleEntry : source.SingleEntry requested region)
    (inRegion : region id)
    (answers : ∀ target, source.Reaches id target → ¬ source.Reaches target id →
      source.EntersAt requested target →
        source.AnswersFreshly version (source.EntersAt requested) target) :
    source.Layers version (source.Mutual id)
      (fun other => source.Reaches id other ∧ ¬ source.Reaches other id)
      (source.EntersAt requested) where
  closed := fun other target ⟨reached, notBack⟩ refers =>
    ⟨reached.tail refers, fun back => notBack (.head refers back)⟩
  follows := by
    intro other target together refers
    by_cases back : source.Reaches target id
    · exact Or.inl ⟨together.1.tail refers, back⟩
    · have inRegionOther := singleEntry.region_of_reaches inRegion together.1
      exact Or.inr ⟨⟨together.1.tail refers, back⟩,
        singleEntry.entersAt_of_references inRegionOther refers
          fun backToOther => back (backToOther.trans together.2)⟩
  apart := fun other together ⟨_, notBack⟩ => notBack together.2
  answers := fun target ⟨reached, notBack⟩ isEntry => answers target reached notBack isEntry

/-- In a region whose groups are each entered at one declaration, the entries are answered
freshly. The induction follows the groups: those that are met in a group have fewer declarations
below them. -/
theorem answersFreshly
    (singleEntry : source.SingleEntry requested region)
    (version : String)
    (id : TypeId)
    (inRegion : region id)
    (isEntry : source.EntersAt requested id) :
    source.AnswersFreshly version (source.EntersAt requested) id := by
  generalize below : (source.reachedDeclarations id).card = count
  induction count using Nat.strongRecOn generalizing id with
  | ind count inductionHypothesis =>
      intro table activeAt idle faithful
      have itself : source.Mutual id id := ⟨.refl, .refl⟩
      rcases faithful id .refl isEntry with empty | full
      · have layers : source.Layers version (source.Mutual id)
            (fun other => source.Reaches id other ∧ ¬ source.Reaches other id)
            (source.EntersAt requested) := by
          apply singleEntry.layersOfGroup inRegion
          intro target reached notBack entryTarget
          have fewer := card_reachedDeclarations_lt reached notBack
          rw [below] at fewer
          exact inductionHypothesis _ fewer target
            (singleEntry.region_of_reaches inRegion reached) entryTarget rfl
        have agree : source.Agree version (source.Mutual id)
            (fun other => source.Reaches id other ∧ ¬ source.Reaches other id)
            (source.EntersAt requested) table {} :=
          ⟨empty, fun other isLower => faithful other isLower.1,
            fun _ _ _ => Or.inl fun _ _ => .refl _ _⟩
        have abreast : source.Abreast version (source.Mutual id)
            (fun other => source.Reaches id other ∧ ¬ source.Reaches other id)
            (source.EntersAt requested) table {} :=
          ⟨agree, activeAt, activeAt_of_idle source version rfl,
            fun other together => iff_of_false (idle other together.1) List.not_mem_nil,
            fun other isLower => idle other isLower.1, fun _ _ => List.not_mem_nil⟩
        obtain ⟨answer, agreeAfter⟩ := layers.answersAlike_upper abreast itself
        refine ⟨answer, agreeAfter.same id itself, fun other reached entryOther => ?_⟩
        by_cases back : source.Reaches other id
        · have sameEntry : id = other :=
            singleEntry.single id other inRegion ⟨reached, back⟩ isEntry entryOther
          subst sameEntry
          exact Or.inr agreeAfter.same
        · exact agreeAfter.left other ⟨reached, back⟩ entryOther
      · have finished := (full id itself).1.trans (finished?_fresh source version id)
        rw [run_synthesize_of_finished finished]
        exact ⟨rfl, full id itself, faithful⟩

/-- What is met in a request, above the region. -/
theorem layersOfRequest
    (singleEntry : source.SingleEntry requested region)
    (version : String)
    {start : TypeId}
    (isRequested : start ∈ requested) :
    source.Layers version (fun other => source.Reaches start other ∧ ¬ region other) region
      (source.EntersAt requested) where
  closed := singleEntry.closed
  follows := by
    intro other target ⟨reached, outside⟩ refers
    by_cases inRegion : region target
    · exact Or.inr ⟨inRegion, Or.inr ⟨start, isRequested, other, reached, refers,
        fun back => outside (singleEntry.region_of_reaches inRegion back)⟩⟩
    · exact Or.inl ⟨reached.tail refers, inRegion⟩
  apart := fun _ isUpper => isUpper.2
  answers := singleEntry.answersFreshly version

/-- A request leaves the region faithful. -/
theorem faithfulOn_request
    (singleEntry : source.SingleEntry requested region)
    (isRequested : id ∈ requested)
    (idle : table.active = [])
    (faithful : source.FaithfulOn version region (source.EntersAt requested) table) :
    source.FaithfulOn version region (source.EntersAt requested)
      ((source.synthesize id version).run table).2 := by
  have layers := singleEntry.layersOfRequest version isRequested
  have activeAt := activeAt_of_idle source version idle
  have idleOn : IdleOn version region table := idleOn_of_idle idle
  by_cases inRegion : region id
  · exact (layers.request_lower inRegion (Or.inl isRequested) activeAt idleOn faithful).2
  · have abreast : source.Abreast version
        (fun other => source.Reaches id other ∧ ¬ region other) region
        (source.EntersAt requested) table table :=
      ⟨⟨fun _ _ => .refl _ _, faithful, faithful⟩, activeAt, activeAt, fun _ _ => Iff.rfl,
        idleOn, idleOn⟩
    exact (layers.answersAlike_upper abreast ⟨.refl, inRegion⟩).2.left

end SingleEntry

/-! ## Histories -/

/-- The table after requests that start from the empty table. -/
def requestAll (source : SchemaSource) (history : List SchemaKey) : SchemaTable :=
  source.performedAll (history.map fun key => .synthesize key.id key.version)

theorem active_requestAll (source : SchemaSource) (history : List SchemaKey) :
    (source.requestAll history).active = [] :=
  foldl_performed_preserves
    (fun id version table idle => (active_run_synthesize id version table).trans idle) _ rfl

/-- What the empty table and every request satisfy, the table after all requests satisfies. -/
theorem requestAll_induction
    (property : SchemaTable → Prop)
    (history : List SchemaKey)
    (start : property {})
    (step : ∀ key ∈ history, ∀ table : SchemaTable, table.active = [] → property table →
      property ((source.synthesize key.id key.version).run table).2) :
    property (source.requestAll history) := by
  induction history using List.reverseRecOn with
  | nil => exact start
  | append_singleton earlier key inductionHypothesis =>
      have holds := inductionHypothesis fun other member =>
        step other (List.mem_append_left _ member)
      have last : source.requestAll (earlier ++ [key]) =
          ((source.synthesize key.id key.version).run (source.requestAll earlier)).2 := by
        simp [requestAll, performedAll, performed]
      rw [last]
      exact step key (List.mem_append_right _ List.mem_cons_self) _
        (source.active_requestAll earlier) holds

/-- The declarations that are requested at a version before the schema of a key is. -/
def requestedBefore (history : List SchemaKey) (key : SchemaKey) : List TypeId :=
  ((history.takeWhile (· ≠ key)).filter (·.version = key.version)).map (·.id)

/-- Every group of mutually recursive declarations that is met both in a request and in earlier
ones is entered at one declaration. -/
def EntersGroupsOnce
    (source : SchemaSource)
    (history : List SchemaKey)
    (key : SchemaKey) : Prop :=
  ∀ first second,
    source.Reaches key.id first →
      (∃ start ∈ requestedBefore history key, source.Reaches start first) →
        source.Mutual first second →
          source.EntersAt (key.id :: requestedBefore history key) first →
            source.EntersAt (key.id :: requestedBefore history key) second → first = second

/-- What is met both in a request and in earlier ones. -/
def MetBefore
    (source : SchemaSource)
    (history : List SchemaKey)
    (key : SchemaKey)
    (id : TypeId) : Prop :=
  source.Reaches key.id id ∧
    ∃ start ∈ requestedBefore history key, source.Reaches start id

theorem EntersGroupsOnce.singleEntry
    {history : List SchemaKey}
    {key : SchemaKey}
    (once : source.EntersGroupsOnce history key) :
    source.SingleEntry (key.id :: requestedBefore history key)
      (source.MetBefore history key) where
  closed := fun _ _ ⟨reached, start, isEarlier, reachedBefore⟩ refers =>
    ⟨reached.tail refers, start, isEarlier, reachedBefore.tail refers⟩
  reached := fun _ ⟨reached, _⟩ => ⟨key.id, List.mem_cons_self, reached⟩
  single := fun first second ⟨reached, reachedBefore⟩ => once first second reached reachedBefore

theorem mem_requestedBefore
    {history : List SchemaKey}
    {key other : SchemaKey}
    (isEarlier : other ∈ history.takeWhile (· ≠ key))
    (sameVersion : other.version = key.version) :
    other.id ∈ requestedBefore history key :=
  List.mem_map_of_mem (List.mem_filter.mpr ⟨isEarlier, by simpa using sameVersion⟩)

/-- Requests leave nothing at declarations that they do not meet. -/
theorem sameAt_requestAll
    (history : List SchemaKey)
    (key : SchemaKey)
    (unmet : ∀ other ∈ history, other.version = key.version →
      ¬ source.Reaches other.id key.id) :
    (source.requestAll history).SameAt {} key := by
  refine requestAll_induction (fun table => table.SameAt {} key) history
    (.refl {} key) fun other member table idle same => ?_
  exact (sameAt_run_synthesize other.id table key fun sameVersion =>
    unmet other member sameVersion.symm).trans same

/-- Requests at one version leave a region faithful at any other version too. -/
theorem SingleEntry.faithfulOn_requestAll
    {requested : List TypeId}
    {region : TypeId → Prop}
    (singleEntry : source.SingleEntry requested region)
    (version : String)
    (history : List SchemaKey)
    (areRequested : ∀ key ∈ history, key.version = version → key.id ∈ requested) :
    source.FaithfulOn version region (source.EntersAt requested)
      (source.requestAll history) := by
  refine requestAll_induction
    (source.FaithfulOn version region (source.EntersAt requested)) history
    (fun _ _ _ => Or.inl fun _ _ => .refl _ _) fun key member table idle faithful => ?_
  by_cases sameVersion : key.version = version
  · subst sameVersion
    exact singleEntry.faithfulOn_request (areRequested key member rfl) idle faithful
  · intro id inRegion isEntry
    apply (faithful id inRegion isEntry).congr
    intro other _
    exact sameAt_run_synthesize key.id table _ fun same => absurd same.symm sameVersion

/-- The answer to the first request for a key does not depend on earlier requests that enter
groups where it does. -/
theorem EntersGroupsOnce.first_request
    {history : List SchemaKey}
    {key : SchemaKey}
    (once : source.EntersGroupsOnce history key) :
    ((source.synthesize key.id key.version).run
          (source.requestAll (history.takeWhile (· ≠ key)))).1 =
        (source.fresh key.version key.id).1 ∧
      ((source.synthesize key.id key.version).run
          (source.requestAll (history.takeWhile (· ≠ key)))).2.SameAt
        (source.fresh key.version key.id).2 key := by
  have singleEntry := once.singleEntry
  have idle := source.active_requestAll (history.takeWhile (· ≠ key))
  have faithful := singleEntry.faithfulOn_requestAll key.version
    (history.takeWhile (· ≠ key)) fun other isEarlier sameVersion =>
      List.mem_cons_of_mem _ (mem_requestedBefore isEarlier sameVersion)
  have activeAt := activeAt_of_idle source key.version idle
  have idleOn : ∀ region, IdleOn key.version region
      (source.requestAll (history.takeWhile (· ≠ key))) := fun _ => idleOn_of_idle idle
  by_cases metBefore : source.MetBefore history key key.id
  · obtain ⟨answer, sameAt, -⟩ := singleEntry.answersFreshly key.version key.id metBefore
      (Or.inl List.mem_cons_self) _ activeAt (idleOn _) fun other reached =>
        faithful other (singleEntry.region_of_reaches metBefore reached)
    exact ⟨answer, sameAt⟩
  · let upper : TypeId → Prop := fun other =>
      source.Reaches key.id other ∧ ¬ source.MetBefore history key other
    have layers : source.Layers key.version upper (source.MetBefore history key)
        (source.EntersAt (key.id :: requestedBefore history key)) :=
      singleEntry.layersOfRequest key.version List.mem_cons_self
    have agree : source.Agree key.version upper (source.MetBefore history key)
        (source.EntersAt (key.id :: requestedBefore history key))
        (source.requestAll (history.takeWhile (· ≠ key))) {} := by
      refine ⟨fun other ⟨reached, unmet⟩ => ?_, faithful,
        fun _ _ _ => Or.inl fun _ _ => .refl _ _⟩
      apply sameAt_requestAll _ _
      intro third isEarlier sameVersion reachedBefore
      exact unmet ⟨reached, third.id, mem_requestedBefore isEarlier sameVersion, reachedBefore⟩
    have abreast : source.Abreast key.version upper (source.MetBefore history key)
        (source.EntersAt (key.id :: requestedBefore history key))
        (source.requestAll (history.takeWhile (· ≠ key))) {} :=
      ⟨agree, activeAt, activeAt_of_idle source key.version rfl,
        fun other isUpper => iff_of_false (idleOn upper other isUpper) List.not_mem_nil,
        idleOn _, fun _ _ => List.not_mem_nil⟩
    obtain ⟨answer, agreeAfter⟩ := layers.answersAlike_upper abreast ⟨.refl, metBefore⟩
    exact ⟨answer, agreeAfter.same key.id ⟨.refl, metBefore⟩⟩

/-- After a request, further ones are a run. -/
theorem runsFrom_request
    (source : SchemaSource)
    (earlier more : List SchemaKey)
    (key : SchemaKey) :
    source.RunsFrom
      ((source.synthesize key.id key.version).run (source.requestAll earlier)).2
      (source.requestAll (earlier ++ key :: more)) := by
  rw [requestAll, requestAll, performedAll, performedAll, List.map_append, List.foldl_append]
  refine RunsFrom.calls ⟨?_, [], .nothing _⟩ (more.map fun key =>
    .synthesize key.id key.version)
  exact (active_run_synthesize _ _ _).trans (source.active_requestAll earlier)

/-- What earlier requests leave in the table does not change the answer to a request, nor whether
it fails, if every group of mutually recursive declarations that both meet is entered at one
declaration. The first request for the same key decides what all later ones are answered. -/
theorem request_eq_fresh_of_entersGroupsOnce
    (source : SchemaSource)
    (history : List SchemaKey)
    (key : SchemaKey)
    (once : source.EntersGroupsOnce history key) :
    ((source.synthesize key.id key.version).run (source.requestAll history)).1 =
        ((source.synthesize key.id key.version).run {}).1 ∧
      ((source.synthesize key.id key.version).run
          (source.requestAll history)).2.hasFailed key =
        ((source.synthesize key.id key.version).run {}).2.hasFailed key := by
  obtain ⟨answer, sameAt⟩ := once.first_request
  have whole := List.takeWhile_append_dropWhile (p := (· ≠ key)) (l := history)
  cases rest : history.dropWhile (· ≠ key) with
  | nil =>
      rw [rest, List.append_nil] at whole
      rw [whole] at answer sameAt
      exact ⟨answer, sameAt.2⟩
  | cons other more =>
      have isKey : other = key := by
        have first := List.head?_dropWhile_not (fun third => decide (third ≠ key)) history
        rw [rest] at first
        simpa using first
      subst isKey
      rw [rest] at whole
      have finished := sameAt.1.trans (finished?_fresh source other.version other.id)
      have further := source.runsFrom_request
        (history.takeWhile (· ≠ other)) more other
      rw [whole] at further
      obtain ⟨-, events, trace⟩ := further
      rw [run_synthesize_of_finished (trace.finished?_of_finished finished)]
      exact ⟨rfl, (trace.hasFailed_of_finished finished).trans sameAt.2⟩

/-! ## Two records that refer to each other -/

/-- A record with a field of the next record, which has a field of a third one, which in turn has
a field of the second one. -/
def recordsInACycle : SchemaSource where
  graph :=
    { packages := [{
        name := "p"
        types := [
          { name := "Outer", package := "p"
            shape := .record [{ name := "first", type := .named ⟨"p", "First"⟩, key := "first" }] },
          { name := "First", package := "p"
            shape := .record
              [{ name := "second", type := .named ⟨"p", "Second"⟩, key := "second" }] },
          { name := "Second", package := "p"
            shape := .record
              [{ name := "first", type := .named ⟨"p", "First"⟩, key := "first" }] }] }] }
  index := {}
  gates := .empty

/-- After a request for the first record of the cycle, the schema of the second one refers to the
first. If the second record is requested at once, the schema of the first is in its place. -/
theorem exists_request_ne_fresh :
    ¬ ∀ (source : SchemaSource) (history : List SchemaKey) (key : SchemaKey),
      ((source.synthesize key.id key.version).run (source.requestAll history)).1 =
          ((source.synthesize key.id key.version).run {}).1 ∧
        ((source.synthesize key.id key.version).run
            (source.requestAll history)).2.hasFailed key =
          ((source.synthesize key.id key.version).run {}).2.hasFailed key := by
  intro independent
  have answers := (independent recordsInACycle [⟨⟨"p", "First"⟩, "v1"⟩]
    ⟨⟨"p", "Second"⟩, "v1"⟩).1
  have properties := congrArg
    (fun node => (node.property? "first").map (·.isReference)) answers
  revert properties
  decide +kernel

theorem references_recordsInACycle
    {id target : TypeId}
    (refers : recordsInACycle.References id target) :
    (id = ⟨"p", "Outer"⟩ ∧ target = ⟨"p", "First"⟩) ∨
      (id = ⟨"p", "First"⟩ ∧ target = ⟨"p", "Second"⟩) ∨
      (id = ⟨"p", "Second"⟩ ∧ target = ⟨"p", "First"⟩) := by
  obtain ⟨-, declaration, resolved, followed⟩ := refers
  have isId : declaration.id = id := TypeGraph.id_of_resolve? resolved
  have listed : ∀ declaration ∈ recordsInACycle.graph.declarations,
      ∀ target ∈ recordsInACycle.followed declaration,
        (declaration.id = ⟨"p", "Outer"⟩ ∧ target = ⟨"p", "First"⟩) ∨
          (declaration.id = ⟨"p", "First"⟩ ∧ target = ⟨"p", "Second"⟩) ∨
          (declaration.id = ⟨"p", "Second"⟩ ∧ target = ⟨"p", "First"⟩) := by
    decide +kernel
  exact isId ▸ listed declaration (List.mem_of_find?_eq_some resolved) target followed

/-- The cycle is entered at the first record both from the outer record and by a request for the
first record itself, so the outer record may be requested before. -/
theorem first_after_outer_eq_fresh :
    recordsInACycle.EntersGroupsOnce [⟨⟨"p", "Outer"⟩, "v1"⟩] ⟨⟨"p", "First"⟩, "v1"⟩ ∧
      ((recordsInACycle.synthesize ⟨"p", "First"⟩ "v1").run
          (recordsInACycle.requestAll [⟨⟨"p", "Outer"⟩, "v1"⟩])).1 =
        ((recordsInACycle.synthesize ⟨"p", "First"⟩ "v1").run {}).1 := by
  have once : recordsInACycle.EntersGroupsOnce [⟨⟨"p", "Outer"⟩, "v1"⟩]
      ⟨⟨"p", "First"⟩, "v1"⟩ := by
    have inCycle : ∀ other, recordsInACycle.Reaches ⟨"p", "First"⟩ other →
        other = ⟨"p", "First"⟩ ∨ other = ⟨"p", "Second"⟩ := by
      intro other reached
      induction reached with
      | refl => exact Or.inl rfl
      | tail _ refers _ =>
          rcases references_recordsInACycle refers with ⟨-, rfl⟩ | ⟨-, rfl⟩ | ⟨-, rfl⟩ <;> simp
    have refersBack : recordsInACycle.References ⟨"p", "Second"⟩ ⟨"p", "First"⟩ :=
      ⟨by decide +kernel, _, rfl, by decide +kernel⟩
    have entersAtFirst : ∀ other, recordsInACycle.Reaches ⟨"p", "First"⟩ other →
        recordsInACycle.EntersAt [⟨"p", "First"⟩, ⟨"p", "Outer"⟩] other →
          other = ⟨"p", "First"⟩ := by
      intro other reached enters
      rcases inCycle other reached with rfl | rfl
      · rfl
      · rcases enters with isRequested | ⟨-, -, referring, -, refers, notBack⟩
        · revert isRequested
          decide
        · rcases references_recordsInACycle refers with ⟨-, wrong⟩ | ⟨rfl, -⟩ | ⟨-, wrong⟩
          · exact absurd wrong (by decide)
          · exact absurd (.single refersBack) notBack
          · exact absurd wrong (by decide)
    intro first second reached _ together entersFirst entersSecond
    exact (entersAtFirst first reached entersFirst).trans
      (entersAtFirst second (reached.trans together.1) entersSecond).symm
  exact ⟨once, (request_eq_fresh_of_entersGroupsOnce recordsInACycle _ _ once).1⟩

end SchemaSource
end MarkerManifests
