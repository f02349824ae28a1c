import MarkerManifests.Schema.Synthesis
import Mathlib.Logic.Relation

/-!
# Building schemas from related tables

The schema of a declaration is built from the answers to its requests and from nothing else
that a table holds. So two builds whose requests are answered alike from related tables have
the same outcome and leave related tables, whatever the relation is, as long as it survives what
the markers of the declaration report. With a relation that says that the tables are equal and have
a property, this is the rule for what every build preserves.
-/

namespace MarkerManifests

/-- Steps that give the same result and related tables when they start from related tables. -/
def Synthesis.Related
    {Result : Type}
    (relation : SchemaTable → SchemaTable → Prop)
    (first second : Synthesis Result) : Prop :=
  ∀ ⦃left right : SchemaTable⦄, relation left right →
    (first.run left).1 = (second.run right).1 ∧
      relation (first.run left).2 (second.run right).2

/-- A report does not separate related tables. -/
def SchemaTable.SurvivesReport
    (relation : SchemaTable → SchemaTable → Prop)
    (diagnostics : Diagnostics) : Prop :=
  ∀ ⦃left right : SchemaTable⦄, relation left right →
    relation (left.report diagnostics) (right.report diagnostics)

/-! ## What a declaration refers to -/

namespace SchemaSource

/-- The declarations that synthesis meets in a declaration: those in the types of the fields
that are kept, or in the type for which an alias stands. -/
def followed
    (source : SchemaSource)
    (declaration : Declaration) : List TypeId :=
  match declaration.shape with
  | .record fields =>
      (fields.filter fun field => !source.isSkipped declaration.id field).flatMap
        (·.type.targets)
  | .synonym target => target.targets
  | .enumeration _ _ => []
  | .scalar _ => []

/-- A declaration of the graph in which synthesis meets another declaration of the graph. -/
def References
    (source : SchemaSource)
    (id target : TypeId) : Prop :=
  (source.graph.resolve? target).isSome ∧
    ∃ declaration, source.graph.resolve? id = some declaration ∧
      target ∈ source.followed declaration

/-- A declaration that is met in another one, directly or through further ones. -/
def Reaches (source : SchemaSource) : TypeId → TypeId → Prop :=
  Relation.ReflTransGen source.References

/-- What the markers of a declaration report when they are applied: those on the declaration, and
those on the fields that are kept and not embedded. -/
inductive MarkersReport (source : SchemaSource) (id : TypeId) : Diagnostics → Prop where
  | ofDeclaration (node : SchemaNode) :
      MarkersReport source id
        (node.applyMarkers (.declaration id) (source.index.declaration id)).2
  | ofField
      {declaration : Declaration}
      {field : Field}
      (resolved : source.graph.resolve? id = some declaration)
      (isField : field ∈ declaration.fields)
      (isKept : source.isSkipped id field = false)
      (isPlain : field.inline = false)
      (node : SchemaNode) :
      MarkersReport source id
        (node.applyMarkers (.field id field.name) (source.index.field id field.name)).2

theorem References.isSome_resolve?
    {source : SchemaSource}
    {id target : TypeId}
    (refers : source.References id target) :
    (source.graph.resolve? id).isSome := by
  obtain ⟨-, declaration, resolved, -⟩ := refers
  simp [resolved]

end SchemaSource

theorem TypeRef.mem_targets_of_stripPointers_eq_named
    {reference : TypeRef}
    {target : TypeId}
    (stripped : reference.stripPointers = .named target) :
    target ∈ reference.targets := by
  induction reference with
  | named other =>
      cases stripped
      simp [targets]
  | pointer inner inductionHypothesis =>
      exact inductionHypothesis stripped
  | scalar kind => cases stripped
  | list element => cases stripped
  | map value => cases stripped

/-! ## Steps -/

namespace Synthesis

variable {Result Next : Type}
variable {relation : SchemaTable → SchemaTable → Prop}

theorem related_pure (result : Result) :
    Related relation (pure result) (pure result) :=
  fun _ _ related => ⟨rfl, related⟩

theorem Related.bind
    {first second : Synthesis Result}
    {firstNext secondNext : Result → Synthesis Next}
    (related : Related relation first second)
    (relatedNext : ∀ result, Related relation (firstNext result) (secondNext result)) :
    Related relation (first >>= firstNext) (second >>= secondNext) := by
  intro left right tables
  obtain ⟨sameResult, nextTables⟩ := related tables
  have whole := relatedNext (first.run left).1 nextTables
  rw [sameResult] at whole
  change ((firstNext (first.run left).1).run (first.run left).2).1 =
      ((secondNext (second.run right).1).run (second.run right).2).1 ∧
    relation ((firstNext (first.run left).1).run (first.run left).2).2
      ((secondNext (second.run right).1).run (second.run right).2).2
  rw [sameResult]
  exact whole

end Synthesis

namespace SchemaAttempt

open Synthesis

variable {Result Next : Type}
variable {relation : SchemaTable → SchemaTable → Prop}

theorem related_mk_pure (outcome : Except SynthesisError Result) :
    Related relation (ExceptT.mk (pure outcome) : SchemaAttempt Result).run
      (ExceptT.mk (pure outcome) : SchemaAttempt Result).run :=
  related_pure outcome

theorem related_lift
    {first second : Synthesis Result}
    (related : Related relation first second) :
    Related relation (ExceptT.lift first : SchemaAttempt Result).run
      (ExceptT.lift second : SchemaAttempt Result).run := by
  intro left right tables
  obtain ⟨sameResult, nextTables⟩ := related tables
  exact ⟨congrArg Except.ok sameResult, nextTables⟩

/-- What follows an attempt matters only if the attempt succeeds. -/
theorem related_bind
    {first second : SchemaAttempt Result}
    {firstNext secondNext : Result → SchemaAttempt Next}
    (related : Related relation first.run second.run)
    (relatedNext : ∀ result,
      Related relation (firstNext result).run (secondNext result).run) :
    Related relation (first >>= firstNext).run (second >>= secondNext).run := by
  rw [ExceptT.run_bind, ExceptT.run_bind]
  apply related.bind
  intro outcome
  cases outcome with
  | ok result => exact relatedNext result
  | error error => exact related_pure (Except.error error)

end SchemaAttempt

/-! ## Builds -/

namespace SchemaSource

open Synthesis SchemaAttempt

variable {relation : SchemaTable → SchemaTable → Prop}
variable {source : SchemaSource}
variable {first second : TypeId → Synthesis SchemaNode}

/-- The two ways of answering agree on the declarations of a list that are in the graph. -/
def RelatedAnswers
    (source : SchemaSource)
    (relation : SchemaTable → SchemaTable → Prop)
    (first second : TypeId → Synthesis SchemaNode)
    (targets : List TypeId) : Prop :=
  ∀ target ∈ targets, (source.graph.resolve? target).isSome →
    Related relation (first target) (second target)

theorem RelatedAnswers.mono
    {fewer targets : List TypeId}
    (answers : source.RelatedAnswers relation first second targets)
    (subset : ∀ target ∈ fewer, target ∈ targets) :
    source.RelatedAnswers relation first second fewer :=
  fun target member => answers target (subset target member)

theorem related_refSchema
    (reference : TypeRef)
    (answers : source.RelatedAnswers relation first second reference.targets) :
    Related relation (source.refSchema first reference).run
      (source.refSchema second reference).run := by
  induction reference with
  | scalar kind => exact related_pure _
  | named target =>
      unfold refSchema
      cases resolved : source.graph.resolve? target with
      | none => exact related_pure _
      | some declaration =>
          exact related_lift
            (answers target (by simp [TypeRef.targets]) (by simp [resolved]))
  | list element inductionHypothesis =>
      exact related_bind (inductionHypothesis answers) fun _ => related_pure _
  | map value inductionHypothesis =>
      exact related_bind (inductionHypothesis answers) fun _ => related_pure _
  | pointer target inductionHypothesis =>
      exact inductionHypothesis answers

theorem related_embeddedSchema
    (field : Field)
    (answers : source.RelatedAnswers relation first second field.type.targets) :
    Related relation (source.embeddedSchema first field).run
      (source.embeddedSchema second field).run := by
  unfold embeddedSchema
  split
  · rename_i target stripped
    cases resolved : source.graph.resolve? target with
    | none => exact related_pure _
    | some declaration =>
        dsimp only
        split
        · refine related_bind (related_lift (answers target
            (TypeRef.mem_targets_of_stripPointers_eq_named stripped)
            (by simp [resolved]))) fun embedded => ?_
          split
          · exact related_pure _
          · exact related_pure _
        · exact related_pure _
  · exact related_pure _

theorem related_marked
    {location : Location}
    {markers : Markers}
    {node : SchemaNode}
    (survives : SchemaTable.SurvivesReport relation (node.applyMarkers location markers).2) :
    Related relation (marked location markers node).run
      (marked location markers node).run :=
  fun _ _ related => ⟨rfl, survives related⟩

/-- What the markers of a field report does not separate related tables. -/
def SurvivesField
    (source : SchemaSource)
    (relation : SchemaTable → SchemaTable → Prop)
    (id : TypeId)
    (field : Field) : Prop :=
  field.inline = false → ∀ node : SchemaNode, SchemaTable.SurvivesReport relation
    (node.applyMarkers (.field id field.name) (source.index.field id field.name)).2

theorem related_addField
    (id : TypeId)
    (node : SchemaNode)
    (field : Field)
    (survives : source.SurvivesField relation id field)
    (answers : source.RelatedAnswers relation first second field.type.targets) :
    Related relation (source.addField first id node field).run
      (source.addField second id node field).run := by
  unfold addField
  split
  · exact related_bind (related_embeddedSchema field answers) fun _ =>
      related_mk_pure _
  · rename_i isPlain
    apply related_bind (related_refSchema field.type answers)
    intro schema
    have survivesHere := survives (Bool.eq_false_iff.mpr isPlain)
    exact related_bind (related_marked (survivesHere _)) fun _ => related_mk_pure _

theorem related_addFields
    (id : TypeId)
    (node : SchemaNode)
    (fields : List Field)
    (survives : ∀ field ∈ fields, source.SurvivesField relation id field)
    (answers : source.RelatedAnswers relation first second
      (fields.flatMap (·.type.targets))) :
    Related relation (source.addFields first id node fields).run
      (source.addFields second id node fields).run := by
  induction fields generalizing node with
  | nil => exact related_pure _
  | cons field rest inductionHypothesis =>
      rw [List.forall_mem_cons] at survives
      refine related_bind (related_addField id node field survives.1
        (answers.mono fun target member => ?_)) fun extended =>
          inductionHypothesis extended survives.2 (answers.mono fun target member => ?_)
      · exact List.mem_flatMap.mpr ⟨field, List.mem_cons_self, member⟩
      · obtain ⟨other, inRest, mentioned⟩ := List.mem_flatMap.mp member
        exact List.mem_flatMap.mpr ⟨other, List.mem_cons_of_mem _ inRest, mentioned⟩

theorem related_declarationSchema
    {declaration : Declaration}
    (resolved : source.graph.resolve? declaration.id = some declaration)
    (survives : ∀ diagnostics, source.MarkersReport declaration.id diagnostics →
      SchemaTable.SurvivesReport relation diagnostics)
    (answers : source.RelatedAnswers relation first second
      (source.followed declaration)) :
    Related relation (source.declarationSchema first declaration).run
      (source.declarationSchema second declaration).run := by
  refine related_bind ?_ fun node => related_marked (survives _ (.ofDeclaration _))
  unfold followed at answers
  cases shape : declaration.shape with
  | record fields =>
      rw [shape] at answers
      have areFields : declaration.fields = fields := by
        rw [Declaration.fields, shape, Shape.fields]
      refine related_bind (related_addFields _ _ _ (fun field member => ?_) answers) fun _ =>
        related_mk_pure _
      obtain ⟨isField, isKept⟩ := List.mem_filter.mp member
      rw [Bool.not_eq_true'] at isKept
      exact fun isPlain node =>
        survives _ (.ofField resolved (areFields ▸ isField) isKept isPlain node)
  | synonym target =>
      rw [shape] at answers
      exact related_refSchema target answers
  | enumeration base members => exact related_pure _
  | scalar kind => exact related_pure _

/-- Builds are related if the answers to the references of the declaration are. -/
theorem related_build
    (id : TypeId)
    (survives : ∀ diagnostics, source.MarkersReport id diagnostics →
      SchemaTable.SurvivesReport relation diagnostics)
    (answers : ∀ target, source.References id target →
      Related relation (first target) (second target)) :
    Related relation (source.build first id).run (source.build second id).run := by
  unfold build
  cases resolved : source.graph.resolve? id with
  | none => exact related_pure _
  | some declaration =>
      obtain rfl := TypeGraph.id_of_resolve? resolved
      exact related_declarationSchema resolved survives
        fun target member declared =>
          answers target ⟨declared, declaration, resolved, member⟩

end SchemaSource
end MarkerManifests
