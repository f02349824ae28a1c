import MarkerManifests.Metrics.Collection
import MarkerManifests.Proofs.Graph.Resolving

/-!
# The walk through the fields of a resource

Which markers are met below a record, by the rules of the walk alone: the fields are visited in
order, the markers of a field are met before those below it, and the record that a field leads to is
entered unless it is being walked. These rules have no bound on the depth of the walk. The bounds of
the collection are never reached. Aliases that lead somewhere are different declarations, and so are
the records that are being walked, so there are not more of them than declarations.
-/

namespace MarkerManifests
namespace MetricsSource

variable {source : MetricsSource} {type : TypeRef} {target : TypeId}

/-! ## Where references lead -/

/-- Where a reference leads through pointers and aliases: the declarations on the way, and the
record at its end if it leads to one. -/
inductive LeadsTo (source : MetricsSource) : TypeRef → List TypeId → Option TypeId → Prop
  /-- The reference names no declaration. -/
  | unnamed
      {type : TypeRef}
      (noName : ∀ target, type.stripPointers ≠ .named target) :
      LeadsTo source type [] none
  /-- The declaration is missing. -/
  | undeclared
      {type : TypeRef}
      {target : TypeId}
      (isNamed : type.stripPointers = .named target)
      (missing : source.graph.resolve? target = none) :
      LeadsTo source type [] none
  | record
      {type : TypeRef}
      {target : TypeId}
      {declaration : Declaration}
      {fields : List Field}
      (isNamed : type.stripPointers = .named target)
      (resolved : source.graph.resolve? target = some declaration)
      (isRecord : declaration.shape = .record fields) :
      LeadsTo source type [target] (some target)
  | synonym
      {type next : TypeRef}
      {target : TypeId}
      {declaration : Declaration}
      {later : List TypeId}
      {result : Option TypeId}
      (isNamed : type.stripPointers = .named target)
      (resolved : source.graph.resolve? target = some declaration)
      (isSynonym : declaration.shape = .synonym next)
      (leads : LeadsTo source next later result) :
      LeadsTo source type (target :: later) result
  /-- The declaration is neither a record nor an alias. -/
  | other
      {type : TypeRef}
      {target : TypeId}
      {declaration : Declaration}
      (isNamed : type.stripPointers = .named target)
      (resolved : source.graph.resolve? target = some declaration)
      (noRecord : ∀ fields, declaration.shape ≠ .record fields)
      (noSynonym : ∀ next, declaration.shape ≠ .synonym next) :
      LeadsTo source type [] none

namespace LeadsTo

variable {passed : List TypeId} {result : Option TypeId}

/-- A reference to a declaration on the way leads to the same end. -/
theorem of_mem
    {before after : List TypeId}
    (leads : source.LeadsTo type (before ++ target :: after) result)
    {other : TypeRef}
    (isNamed : other.stripPointers = .named target) :
    source.LeadsTo other (target :: after) result := by
  generalize whole : before ++ target :: after = passed at leads
  induction leads generalizing before with
  | unnamed => simp at whole
  | undeclared => simp at whole
  | other => simp at whole
  | record _ resolved isRecord =>
      cases before with
      | nil =>
          obtain ⟨rfl, rfl⟩ := List.cons.inj whole
          exact .record isNamed resolved isRecord
      | cons first before => simp at whole
  | synonym _ resolved isSynonym leads inductionHypothesis =>
      cases before with
      | nil =>
          obtain ⟨rfl, rfl⟩ := List.cons.inj whole
          exact .synonym isNamed resolved isSynonym leads
      | cons first before =>
          obtain ⟨-, later⟩ := List.cons.inj whole
          exact inductionHypothesis later

/-- A reference that leads to an end does so through different declarations. -/
theorem exists_nodup (leads : source.LeadsTo type passed result) :
    ∃ shorter, source.LeadsTo type shorter result ∧ shorter.Nodup ∧
      ∀ id ∈ shorter, (source.graph.resolve? id).isSome := by
  induction leads with
  | unnamed noName => exact ⟨[], .unnamed noName, List.nodup_nil, nofun⟩
  | undeclared isNamed missing => exact ⟨[], .undeclared isNamed missing, List.nodup_nil, nofun⟩
  | other isNamed resolved noRecord noSynonym =>
      exact ⟨[], .other isNamed resolved noRecord noSynonym, List.nodup_nil, nofun⟩
  | record isNamed resolved isRecord =>
      refine ⟨_, .record isNamed resolved isRecord, List.nodup_singleton _, fun id member => ?_⟩
      rw [List.mem_singleton.mp member, resolved]
      rfl
  | @synonym _ _ target _ _ _ isNamed resolved isSynonym _ inductionHypothesis =>
      obtain ⟨later, leads, distinct, declared⟩ := inductionHypothesis
      by_cases occurs : target ∈ later
      · -- the way from the second occurrence of the alias is a shorter one
        obtain ⟨before, after, rfl⟩ := List.append_of_mem occurs
        rw [List.nodup_append] at distinct
        exact ⟨_, leads.of_mem isNamed, distinct.2.1, fun id member =>
          declared id (List.mem_append_right before member)⟩
      · refine ⟨_, .synonym isNamed resolved isSynonym leads,
          List.nodup_cons.mpr ⟨occurs, distinct⟩, List.forall_mem_cons.mpr ⟨?_, declared⟩⟩
        rw [resolved]
        rfl

theorem recordTarget?_eq_of_length_le
    (leads : source.LeadsTo type passed result)
    {depth : Nat}
    (enough : passed.length ≤ depth) :
    source.recordTarget? depth type = result := by
  induction leads generalizing depth with
  | unnamed noName =>
      cases depth with
      | zero => rfl
      | succ depth =>
          unfold recordTarget?
          split
          · rename_i target isNamed
            exact absurd isNamed (noName target)
          · rfl
  | undeclared isNamed missing =>
      cases depth with
      | zero => rfl
      | succ depth => simp [recordTarget?, isNamed, missing]
  | other isNamed resolved noRecord noSynonym =>
      cases depth with
      | zero => rfl
      | succ depth =>
          simp only [recordTarget?, isNamed, resolved, Option.map_some]
          split
          · rename_i fields isRecord
            exact absurd (Option.some.inj isRecord) (noRecord fields)
          · rename_i next isSynonym
            exact absurd (Option.some.inj isSynonym) (noSynonym next)
          · rfl
  | record isNamed resolved isRecord =>
      obtain ⟨depth, rfl⟩ := Nat.exists_eq_add_of_le' enough
      simp [recordTarget?, isNamed, resolved, isRecord]
  | synonym isNamed resolved isSynonym _ inductionHypothesis =>
      cases depth with
      | zero => cases enough
      | succ depth =>
          simp only [recordTarget?, isNamed, resolved, Option.map_some, isSynonym]
          exact inductionHypothesis (Nat.le_of_succ_le_succ enough)

/-- As many declarations as the graph has are enough to find where a reference leads. -/
theorem recordTarget?_eq (leads : source.LeadsTo type passed result) :
    source.recordTarget? source.graph.size type = result := by
  obtain ⟨shorter, leads, distinct, declared⟩ := leads.exists_nodup
  exact leads.recordTarget?_eq_of_length_le (TypeGraph.length_le_size distinct declared)

/-- Only declared records are led to. -/
theorem isSome_resolve? (leads : source.LeadsTo type passed (some target)) :
    (source.graph.resolve? target).isSome := by
  generalize isEnd : some target = result at leads
  induction leads with
  | unnamed => cases isEnd
  | undeclared => cases isEnd
  | other => cases isEnd
  | record _ resolved =>
      cases isEnd
      rw [resolved]
      rfl
  | synonym _ _ _ _ inductionHypothesis => exact inductionHypothesis isEnd

end LeadsTo

/-! ## What is met -/

/-- The metric markers among markers, in order, each of them met at its path with some help. -/
structure Sights
    (markers : Markers)
    (path : Marker → FieldPath)
    (help : Option String)
    (met : List MetricOccurrence) : Prop where
  markers : met.map MetricOccurrence.marker = markers.filter fun marker =>
    marker.name = Vocabulary.gauge ∨ marker.name = Vocabulary.info ∨
      marker.name = Vocabulary.stateSet
  path : ∀ occurrence ∈ met, occurrence.path = path occurrence.marker
  help : ∀ occurrence ∈ met, occurrence.help = help

/-- A field that is left out, together with all that is below it. -/
inductive Skips (source : MetricsSource) (record : TypeId) (field : Field) : Prop
  /-- The field is never serialized. -/
  | omitted (isOmitted : field.key = omitKey)
  /-- The gate of the field does not hold. -/
  | gatedOff
      {marker : Marker}
      {expr : Gate.Expr}
      (isFirst : (source.index.markersAt (.field record field.name)).first?
        Vocabulary.featureGate = some marker)
      (isGate : marker.gate? Definition.unnamed = some expr)
      (isOff : expr.eval source.gates = false)

/-- A field of a record at a path that is not left out, with the path of what is below the field and
the markers that are met in it. -/
structure Visits
    (source : MetricsSource)
    (record : TypeId)
    (path : List String)
    (field : Field)
    (below : List String)
    (here : List MetricOccurrence) : Prop where
  kept : ¬ source.Skips record field
  /-- What is embedded stands at the path of the record itself. -/
  isBelow : below = if field.inline then path else path ++ [field.key]
  sights : Sights (source.index.markersAt (.field record field.name)) (fun _ => ⟨below⟩)
    (Comment.description? field.doc) here

/-- The markers that are met in fields of a record at a path and below them, while some records are
being walked. -/
inductive MeetsIn (source : MetricsSource) :
    List TypeId → List String → TypeId → List Field → List MetricOccurrence → Prop
  | nothing
      {walked : List TypeId}
      {path : List String}
      {record : TypeId} :
      MeetsIn source walked path record [] []
  | skipped
      {walked : List TypeId}
      {path : List String}
      {record : TypeId}
      {field : Field}
      {rest : List Field}
      {later : List MetricOccurrence}
      (skips : source.Skips record field)
      (meetsLater : MeetsIn source walked path record rest later) :
      MeetsIn source walked path record (field :: rest) later
  /-- The field leads to no record, or to one that is being walked. -/
  | passed
      {walked way : List TypeId}
      {path below : List String}
      {record : TypeId}
      {field : Field}
      {rest : List Field}
      {reached : Option TypeId}
      {here later : List MetricOccurrence}
      (visits : source.Visits record path field below here)
      (leads : source.LeadsTo field.type way reached)
      (isWalked : ∀ target ∈ reached, target ∈ walked)
      (meetsLater : MeetsIn source walked path record rest later) :
      MeetsIn source walked path record (field :: rest) (here ++ later)
  /-- The field leads to a record, which is entered. -/
  | entered
      {walked way : List TypeId}
      {path below : List String}
      {record target : TypeId}
      {field : Field}
      {rest : List Field}
      {declaration : Declaration}
      {here inside later : List MetricOccurrence}
      (visits : source.Visits record path field below here)
      (leads : source.LeadsTo field.type way (some target))
      (isNew : target ∉ walked)
      (resolved : source.graph.resolve? target = some declaration)
      (meetsInside : MeetsIn source (target :: walked) below target declaration.fields inside)
      (meetsLater : MeetsIn source walked path record rest later) :
      MeetsIn source walked path record (field :: rest) (here ++ inside ++ later)

/-! ## What the walk meets -/

theorem isMetric_iff {marker : Marker} :
    MetricOccurrence.isMetric marker = true ↔
      marker.name = Vocabulary.gauge ∨ marker.name = Vocabulary.info ∨
        marker.name = Vocabulary.stateSet := by
  simp [MetricOccurrence.isMetric]

/-- The metric markers among markers are met in one way only. -/
theorem sights_iff
    {markers : Markers}
    {path : Marker → FieldPath}
    {help : Option String}
    {met : List MetricOccurrence} :
    Sights markers path help met ↔
      met = (markers.filter MetricOccurrence.isMetric).map fun marker =>
        ⟨marker, path marker, help⟩ := by
  have sameFilter : (markers.filter fun marker =>
      marker.name = Vocabulary.gauge ∨ marker.name = Vocabulary.info ∨
        marker.name = Vocabulary.stateSet) = markers.filter MetricOccurrence.isMetric := by
    refine List.filter_congr fun marker _ => ?_
    rw [Bool.eq_iff_iff, decide_eq_true_eq, isMetric_iff]
  constructor
  · rintro ⟨isFiltered, isPath, isHelp⟩
    rw [← sameFilter, ← isFiltered, List.map_map]
    refine (List.map_id met).symm.trans (List.map_congr_left fun occurrence member => ?_)
    obtain ⟨marker, place, text⟩ := occurrence
    obtain rfl : place = path marker := isPath _ member
    obtain rfl : text = help := isHelp _ member
    rfl
  · rintro rfl
    refine ⟨?_, ?_, ?_⟩
    · rw [sameFilter, List.map_map]
      exact List.map_id _
    · rw [List.forall_mem_map]
      exact fun _ _ => rfl
    · rw [List.forall_mem_map]
      exact fun _ _ => rfl

/-- Whether the walk visits a field. -/
def isVisited (source : MetricsSource) (record : TypeId) (field : Field) : Bool :=
  !field.isOmitted &&
    !(source.index.field record field.name).isGatedOff Vocabulary.featureGate source.gates

theorem activeFields_eq
    {record : TypeId}
    {declaration : Declaration}
    (resolved : source.graph.resolve? record = some declaration) :
    source.activeFields record = declaration.fields.filter (source.isVisited record) := by
  rw [activeFields, resolved]
  rfl

/-- The walk visits a field exactly if the field is not left out. -/
theorem isVisited_iff {record : TypeId} {field : Field} :
    source.isVisited record field = true ↔ ¬ source.Skips record field := by
  rw [← not_iff_not, Classical.not_not, Bool.not_eq_true, isVisited, Bool.and_eq_false_iff,
    Bool.not_eq_false', Bool.not_eq_false']
  constructor
  · rintro (isOmitted | isOff)
    · exact .omitted (by simpa [Field.isOmitted] using isOmitted)
    · unfold Markers.isGatedOff at isOff
      split at isOff
      · rename_i expr isGate
        obtain ⟨marker, isFirst, isGate⟩ := Option.bind_eq_some_iff.mp isGate
        exact .gatedOff isFirst isGate (by simpa using isOff)
      · cases isOff
  · rintro (isOmitted | ⟨isFirst, isGate, isOff⟩)
    · exact .inl (by simpa [Field.isOmitted] using isOmitted)
    · refine .inr ?_
      rw [MarkerIndex.field, Markers.isGatedOff, isFirst, Option.bind_some, isGate]
      simpa using isOff

/-- A field is visited at the path that the walk gives it, with the markers that the walk meets. -/
theorem visits_iff
    {record : TypeId}
    {path below : List String}
    {field : Field}
    {here : List MetricOccurrence} :
    source.Visits record path field below here ↔
      source.isVisited record field = true ∧ below = fieldPath path field ∧
        here = source.fieldOccurrences record below field := by
  rw [isVisited_iff]
  constructor
  · rintro ⟨kept, isBelow, sights⟩
    exact ⟨kept, isBelow, sights_iff.mp sights⟩
  · rintro ⟨kept, isBelow, isHere⟩
    exact ⟨kept, isBelow, sights_iff.mpr isHere⟩

/-- The markers in a field and below it, where records below it are nested at most as deep as the
given number. -/
def walkField
    (source : MetricsSource)
    (depth : Nat)
    (walked : List TypeId)
    (path : List String)
    (record : TypeId)
    (field : Field) : List MetricOccurrence :=
  source.fieldOccurrences record (fieldPath path field) field ++
    match source.recordTarget? source.graph.size field.type with
    | none => []
    | some target =>
      if target ∈ walked then []
      else source.walk depth (target :: walked) (fieldPath path field) target

theorem walk_succ
    (depth : Nat)
    (walked : List TypeId)
    (path : List String)
    (record : TypeId) :
    source.walk (depth + 1) walked path record =
      (source.activeFields record).flatMap (source.walkField depth walked path record) := rfl

/-- The walk meets what the rules say, if its depth leaves one level for every declaration that is
not being walked. -/
theorem MeetsIn.eq_flatMap
    {walked : List TypeId}
    {path : List String}
    {record : TypeId}
    {fields : List Field}
    {met : List MetricOccurrence}
    (meets : source.MeetsIn walked path record fields met)
    (distinct : walked.Nodup)
    (declared : ∀ id ∈ walked, (source.graph.resolve? id).isSome)
    {depth : Nat}
    (enough : source.graph.size ≤ depth + walked.length) :
    (fields.filter (source.isVisited record)).flatMap
      (source.walkField depth walked path record) = met := by
  induction meets generalizing depth with
  | nothing => rfl
  | skipped skips _ inductionHypothesis =>
      rw [List.filter_cons_of_neg fun isVisited => isVisited_iff.mp isVisited skips]
      exact inductionHypothesis distinct declared enough
  | @passed walked _ path below record field rest reached here later visits leads isWalked _
      inductionHypothesis =>
      obtain ⟨isVisited, rfl, rfl⟩ := visits_iff.mp visits
      rw [List.filter_cons_of_pos isVisited, List.flatMap_cons,
        inductionHypothesis distinct declared enough, walkField, leads.recordTarget?_eq]
      cases reached with
      | none => exact congrArg (· ++ later) (List.append_nil _)
      | some target =>
          dsimp only
          rw [if_pos (isWalked target rfl), List.append_nil]
  | @entered walked _ path below record target field rest declaration here inside later visits leads
      isNew resolved _ _ insideHypothesis laterHypothesis =>
      obtain ⟨isVisited, rfl, rfl⟩ := visits_iff.mp visits
      have distinctInside := List.nodup_cons.mpr ⟨isNew, distinct⟩
      have declaredInside : ∀ id ∈ target :: walked, (source.graph.resolve? id).isSome :=
        List.forall_mem_cons.mpr ⟨leads.isSome_resolve?, declared⟩
      have bound := TypeGraph.length_le_size distinctInside declaredInside
      rw [List.length_cons] at bound
      obtain ⟨deeper, rfl⟩ : ∃ deeper, depth = deeper + 1 := ⟨depth - 1, by omega⟩
      rw [List.filter_cons_of_pos isVisited, List.flatMap_cons,
        laterHypothesis distinct declared enough, walkField, leads.recordTarget?_eq]
      dsimp only
      rw [if_neg isNew, walk_succ, activeFields_eq resolved,
        insideHypothesis distinctInside declaredInside (by
          rw [List.length_cons]
          omega)]

/-- The markers that are met below a declared record are those that the collection walks
through. -/
theorem MeetsIn.eq_walk
    {root : TypeId}
    {declaration : Declaration}
    {met : List MetricOccurrence}
    (resolved : source.graph.resolve? root = some declaration)
    (meets : source.MeetsIn [root] [] root declaration.fields met) :
    source.walk source.graph.size [root] [] root = met := by
  have declared : ∀ id ∈ [root], (source.graph.resolve? id).isSome := by
    simpa using Option.isSome_of_mem resolved
  have bound := TypeGraph.length_le_size (List.nodup_singleton root) declared
  obtain ⟨deeper, isSize⟩ : ∃ deeper, source.graph.size = deeper + 1 :=
    Nat.exists_eq_add_of_le' bound
  rw [isSize, walk_succ, activeFields_eq resolved]
  exact meets.eq_flatMap (List.nodup_singleton root) declared (Nat.le_of_eq isSize)

end MetricsSource
end MarkerManifests
