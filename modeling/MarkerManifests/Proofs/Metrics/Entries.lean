import Mathlib.Data.List.Nodup
import MarkerManifests.Metrics.Collection

/-!
# Metrics of markers one after the other

What a marker gives depends on the metrics that the markers before it gave: a metric, unless it asks
for a set of states and lists none, or its name is taken. A marker that gives no metric does not take
its name, so metrics have distinct names.
-/

namespace MarkerManifests

namespace MetricOccurrence

variable {kind : String} {taken : List String} {occurrence : MetricOccurrence}

/-! ## The metric of one marker -/

/-- The marker asks for a set of states and lists none. -/
def IsEmptyStateSet (occurrence : MetricOccurrence) : Prop :=
  occurrence.marker.name = Vocabulary.stateSet ∧ occurrence.marker.list "list" = []

/-- What a metric takes from its marker. -/
structure Describes (occurrence : MetricOccurrence) (metric : Metric) : Prop where
  name : metric.name = occurrence.name
  path : metric.path = occurrence.path
  help : metric.help = ((occurrence.marker.string? "help").or occurrence.help).getD ""
  series : occurrence.series = .ok metric.series

/-- Why a marker gives no metric where some names are taken. That no states are listed comes before
that the name is taken. -/
inductive Fails (kind : String) (taken : List String) (occurrence : MetricOccurrence) :
    MetricError → Prop
  | noStates (isEmpty : occurrence.IsEmptyStateSet) :
      Fails kind taken occurrence (.emptyStateList occurrence.name)
  | nameTaken
      (nonempty : ¬ occurrence.IsEmptyStateSet)
      (isTaken : occurrence.name ∈ taken) :
      Fails kind taken occurrence (.duplicateMetric kind occurrence.name)

theorem Fails.isEmptyStateSet_or_mem
    {error : MetricError}
    (fails : occurrence.Fails kind taken error) :
    occurrence.IsEmptyStateSet ∨ occurrence.name ∈ taken := by
  cases fails with
  | noStates isEmpty => exact .inl isEmpty
  | nameTaken _ isTaken => exact .inr isTaken

/-- Only a set of states without states has no series. -/
theorem series_spec (occurrence : MetricOccurrence) :
    (∃ series, occurrence.series = .ok series ∧ ¬ occurrence.IsEmptyStateSet) ∨
      occurrence.series = .error (.emptyStateList occurrence.name) ∧
        occurrence.IsEmptyStateSet := by
  unfold series
  dsimp only
  split
  · rename_i isGauge
    refine .inl ⟨_, rfl, fun isEmpty => ?_⟩
    exact absurd (isGauge.symm.trans isEmpty.1) (by decide)
  · split
    · rename_i isStateSet
      split
      · rename_i noStates
        exact .inr ⟨rfl, isStateSet, noStates⟩
      · rename_i states notNil
        exact .inl ⟨_, rfl, fun isEmpty => notNil isEmpty.2⟩
    · rename_i notStateSet
      exact .inl ⟨_, rfl, fun isEmpty => notStateSet isEmpty.1⟩

/-- A marker gives a metric that describes it and has a new name, or it fails. -/
theorem metric_spec (kind : String) (taken : List String) (occurrence : MetricOccurrence) :
    (∃ metric, occurrence.metric kind taken = .ok metric ∧ occurrence.Describes metric ∧
        ¬ occurrence.IsEmptyStateSet ∧ occurrence.name ∉ taken) ∨
      ∃ error, occurrence.metric kind taken = .error error ∧
        occurrence.Fails kind taken error := by
  unfold metric
  obtain ⟨series, isSeries, nonempty⟩ | ⟨noSeries, isEmpty⟩ := occurrence.series_spec
  · rw [isSeries]
    dsimp only
    split
    · rename_i isTaken
      exact .inr ⟨_, rfl, .nameTaken nonempty isTaken⟩
    · rename_i isNew
      exact .inl ⟨_, rfl, ⟨rfl, rfl, rfl, isSeries⟩, nonempty, isNew⟩
  · rw [noSeries]
    exact .inr ⟨_, rfl, .noStates isEmpty⟩

theorem describes_of_metric
    {metric : Metric}
    (given : occurrence.metric kind taken = .ok metric) :
    occurrence.Describes metric := by
  obtain ⟨other, isOther, describes, -⟩ | ⟨error, isError, -⟩ := metric_spec kind taken occurrence
  · cases isOther.symm.trans given
    exact describes
  · cases isError.symm.trans given

theorem fails_of_metric
    {error : MetricError}
    (failed : occurrence.metric kind taken = .error error) :
    occurrence.Fails kind taken error := by
  obtain ⟨metric, isMetric, -⟩ | ⟨other, isOther, fails⟩ := metric_spec kind taken occurrence
  · cases isMetric.symm.trans failed
  · cases isOther.symm.trans failed
    exact fails

/-- Metrics have distinct names if those before them do. -/
theorem nodup_names_metricsAfter
    {before : List Metric}
    (distinct : (before.map Metric.name).Nodup)
    (occurrences : List MetricOccurrence) :
    ((metricsAfter kind before occurrences).1.map Metric.name).Nodup := by
  induction occurrences generalizing before with
  | nil => exact distinct
  | cons occurrence rest inductionHypothesis =>
      obtain ⟨metric, isMetric, describes, -, isNew⟩ | ⟨error, isError, -⟩ :=
        metric_spec kind (before.map Metric.name) occurrence
      · rw [metricsAfter, isMetric]
        refine inductionHypothesis ?_
        rw [List.map_append, List.map_singleton, describes.name, List.nodup_append_comm]
        exact List.nodup_cons.mpr ⟨isNew, distinct⟩
      · rw [metricsAfter, isError]
        exact inductionHypothesis distinct

end MetricOccurrence

/-! ## Entries -/

/-- A marker that was met, with the metric that it gives or the reason why it gives none. -/
structure MetricEntry where
  occurrence : MetricOccurrence
  outcome : Except MetricError Metric

namespace MetricEntry

/-- The metric of the marker. -/
def metric? (entry : MetricEntry) : Option Metric :=
  entry.outcome.toOption

theorem metric?_eq_some_iff {entry : MetricEntry} {metric : Metric} :
    entry.metric? = some metric ↔ entry.outcome = .ok metric := by
  unfold metric?
  cases entry.outcome <;> simp [Except.toOption]

/-- The diagnostic of a marker that gives no metric, which stands at the marker. -/
def diagnostic? (entry : MetricEntry) : Option Diagnostic :=
  match entry.outcome with
  | .ok _ => none
  | .error error => some ⟨.semantic, entry.occurrence.marker.location, error.message⟩

/-- The entries of markers that are met after some metrics. -/
def entriesAfter (kind : String) (before : List Metric) :
    List MetricOccurrence → List MetricEntry
  | [] => []
  | occurrence :: rest =>
    let entry : MetricEntry := ⟨occurrence, occurrence.metric kind (before.map Metric.name)⟩
    entry :: entriesAfter kind (before ++ entry.metric?.toList) rest

variable {kind : String} {before : List Metric} {occurrences : List MetricOccurrence}

theorem map_occurrence_entriesAfter :
    (entriesAfter kind before occurrences).map MetricEntry.occurrence = occurrences := by
  induction occurrences generalizing before with
  | nil => rfl
  | cons occurrence rest inductionHypothesis =>
      rw [entriesAfter, List.map_cons, inductionHypothesis]

/-- The metrics and the diagnostics are those of the entries. -/
theorem metricsAfter_eq :
    MetricOccurrence.metricsAfter kind before occurrences =
      (before ++ (entriesAfter kind before occurrences).filterMap metric?,
        (entriesAfter kind before occurrences).filterMap diagnostic?) := by
  induction occurrences generalizing before with
  | nil => simp [MetricOccurrence.metricsAfter, entriesAfter]
  | cons occurrence rest inductionHypothesis =>
      rw [MetricOccurrence.metricsAfter, entriesAfter]
      cases given : occurrence.metric kind (before.map Metric.name) with
      | ok metric =>
          simp [inductionHypothesis, List.filterMap_cons, metric?, diagnostic?, Except.toOption]
      | error error =>
          simp [inductionHypothesis, List.filterMap_cons, metric?, diagnostic?, Except.toOption]

/-- An entry is made where the names of the metrics of the entries before it are taken. -/
theorem outcome_eq
    {earlier later : List MetricEntry}
    {entry : MetricEntry}
    (isSplit : entriesAfter kind before occurrences = earlier ++ entry :: later) :
    entry.outcome = entry.occurrence.metric kind
      ((before ++ earlier.filterMap metric?).map Metric.name) := by
  induction occurrences generalizing before earlier with
  | nil => simp [entriesAfter] at isSplit
  | cons occurrence rest inductionHypothesis =>
      rw [entriesAfter] at isSplit
      cases earlier with
      | nil =>
          obtain ⟨rfl, -⟩ := List.cons.inj isSplit
          simp
      | cons first earlier =>
          obtain ⟨rfl, isLater⟩ := List.cons.inj isSplit
          rw [inductionHypothesis isLater, List.filterMap_cons, List.append_assoc]
          cases metric? _ <;> rfl

/-- Every entry is made where some names are taken. -/
theorem exists_outcome_eq
    {entry : MetricEntry}
    (member : entry ∈ entriesAfter kind before occurrences) :
    ∃ taken, entry.outcome = entry.occurrence.metric kind taken := by
  obtain ⟨earlier, later, isSplit⟩ := List.append_of_mem member
  exact ⟨_, outcome_eq isSplit⟩

end MetricEntry

/-! ## The account of a resource -/

/-- The account of markers that are met in a resource: every marker has one entry, in the order in
which the markers are met, with the metric or the diagnostic that it gives. -/
structure MetricAccount
    (kind : String)
    (met : List MetricOccurrence)
    (metrics : List Metric)
    (diagnostics : Diagnostics)
    (entries : List MetricEntry) : Prop where
  met : entries.map MetricEntry.occurrence = met
  metrics : entries.filterMap MetricEntry.metric? = metrics
  diagnostics : entries.filterMap MetricEntry.diagnostic? = diagnostics
  /-- A marker gives no metric exactly if it lists no states or if a metric that was given before
  has its name. -/
  reported_iff : ∀ earlier entry later, entries = earlier ++ entry :: later →
    (entry.diagnostic?.isSome ↔
      entry.occurrence.IsEmptyStateSet ∨
        ∃ metric ∈ earlier.filterMap MetricEntry.metric?, metric.name = entry.occurrence.name)
  describes : ∀ entry ∈ entries, ∀ metric,
    entry.outcome = .ok metric → entry.occurrence.Describes metric
  explains : ∀ earlier entry later, entries = earlier ++ entry :: later →
    ∀ error, entry.outcome = .error error → entry.occurrence.Fails kind
      ((earlier.filterMap MetricEntry.metric?).map Metric.name) error

/-- The metrics and diagnostics of a resource account for its markers. -/
theorem metricAccount_entriesAfter (kind : String) (met : List MetricOccurrence) :
    MetricAccount kind met
      (MetricOccurrence.metricsAfter kind [] met).1
      (MetricOccurrence.metricsAfter kind [] met).2
      (MetricEntry.entriesAfter kind [] met) where
  met := MetricEntry.map_occurrence_entriesAfter
  metrics := by rw [MetricEntry.metricsAfter_eq, List.nil_append]
  diagnostics := by rw [MetricEntry.metricsAfter_eq]
  reported_iff := by
    intro earlier entry later isSplit
    have outcome := MetricEntry.outcome_eq isSplit
    rw [List.nil_append] at outcome
    rw [← List.mem_map, MetricEntry.diagnostic?]
    obtain ⟨metric, isMetric, -, nonempty, isNew⟩ | ⟨error, isError, fails⟩ :=
      MetricOccurrence.metric_spec kind _ entry.occurrence
    · rw [outcome, isMetric]
      exact iff_of_false nofun (not_or.mpr ⟨nonempty, isNew⟩)
    · rw [outcome, isError]
      exact iff_of_true rfl fails.isEmptyStateSet_or_mem
  describes := by
    intro entry member metric isMetric
    obtain ⟨taken, outcome⟩ := MetricEntry.exists_outcome_eq member
    exact MetricOccurrence.describes_of_metric (outcome.symm.trans isMetric)
  explains := by
    intro earlier entry later isSplit error isError
    rw [MetricEntry.outcome_eq isSplit, List.nil_append] at isError
    exact MetricOccurrence.fails_of_metric isError

/-- A set of states that lists none does not take its name, so the next marker gets it. -/
example :
    let states : Marker :=
      { name := Vocabulary.stateSet, location := .package "p", consumer := .metric,
        arguments := [("name", .string "phase")] }
    let gauge : Marker := { states with name := Vocabulary.gauge }
    let given := MetricOccurrence.metricsAfter "Tank" []
      [⟨states, ⟨["spec"]⟩, none⟩, ⟨gauge, ⟨["status"]⟩, none⟩, ⟨gauge, ⟨["spec"]⟩, none⟩]
    given.1 = [⟨"phase", "", ⟨["status"]⟩, .gauge false⟩] ∧ given.2.length = 2 := by
  decide +kernel

end MarkerManifests
