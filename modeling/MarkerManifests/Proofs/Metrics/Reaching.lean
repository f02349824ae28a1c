import Mathlib.Logic.Relation
import MarkerManifests.Proofs.Metrics.Walk

/-!
# Where the walk gets

In a graph in which no chain of aliases returns to where it began, every reference leads to an end,
so markers are met in the fields of every record. Neither the declarations that a chain of aliases
passes nor the records that are being walked can be more than those of the graph.
-/

namespace MarkerManifests

namespace TypeGraph

/-- An alias of a reference that names a declaration, through pointers or not. -/
def Aliases (graph : TypeGraph) (id target : TypeId) : Prop :=
  ∃ declaration type, graph.resolve? id = some declaration ∧
    declaration.shape = .synonym type ∧ type.stripPointers = .named target

/-- No chain of aliases returns to where it began. -/
def NoAliasReturns (graph : TypeGraph) : Prop :=
  ∀ id, ¬ Relation.TransGen graph.Aliases id id

/-- Declarations that were passed, each of them once. -/
structure PassesOnce (graph : TypeGraph) (passed : List TypeId) : Prop where
  distinct : passed.Nodup
  declared : ∀ id ∈ passed, (graph.resolve? id).isSome

namespace PassesOnce

variable {graph : TypeGraph} {passed : List TypeId} {id : TypeId}

theorem nil (graph : TypeGraph) : graph.PassesOnce [] :=
  ⟨List.nodup_nil, nofun⟩

theorem singleton (isDeclared : (graph.resolve? id).isSome) : graph.PassesOnce [id] :=
  ⟨List.nodup_singleton id, by simpa using isDeclared⟩

theorem cons
    (passesOnce : graph.PassesOnce passed)
    (isNew : id ∉ passed)
    (isDeclared : (graph.resolve? id).isSome) :
    graph.PassesOnce (id :: passed) :=
  ⟨List.nodup_cons.mpr ⟨isNew, passesOnce.distinct⟩,
    List.forall_mem_cons.mpr ⟨isDeclared, passesOnce.declared⟩⟩

/-- With every declaration that is passed, fewer are left. -/
theorem left_lt (passesOnce : graph.PassesOnce (id :: passed)) :
    graph.size - (id :: passed).length < graph.size - passed.length := by
  have bound := length_le_size passesOnce.distinct passesOnce.declared
  rw [List.length_cons] at bound ⊢
  omega

end PassesOnce

end TypeGraph

namespace MetricsSource

variable {source : MetricsSource} {type : TypeRef}

/-! ## Everything leads somewhere -/

/-- Every reference other than one to an alias is at its end. -/
theorem exists_leadsTo_of_noSynonym
    (noSynonym : ∀ target declaration next, type.stripPointers = .named target →
      source.graph.resolve? target = some declaration → declaration.shape ≠ .synonym next) :
    ∃ way reached, source.LeadsTo type way reached := by
  by_cases isNamed : ∃ target, type.stripPointers = .named target
  · obtain ⟨target, isNamed⟩ := isNamed
    cases resolved : source.graph.resolve? target with
    | none => exact ⟨_, _, .undeclared isNamed resolved⟩
    | some declaration =>
        by_cases isRecord : ∃ fields, declaration.shape = .record fields
        · obtain ⟨fields, isRecord⟩ := isRecord
          exact ⟨_, _, .record isNamed resolved isRecord⟩
        · exact ⟨_, _, .other isNamed resolved (not_exists.mp isRecord) fun next =>
            noSynonym target declaration next isNamed resolved⟩
  · exact ⟨_, _, .unnamed (not_exists.mp isNamed)⟩

/-- A reference behind a chain of aliases leads to an end. The induction is on the number of
declarations that the chain has not passed. -/
theorem exists_leadsTo_of_passed
    (noReturn : source.graph.NoAliasReturns)
    {passed : List TypeId}
    (passesOnce : source.graph.PassesOnce passed)
    (leadHere : ∀ target, type.stripPointers = .named target →
      ∀ id ∈ passed, Relation.TransGen source.graph.Aliases id target) :
    ∃ way reached, source.LeadsTo type way reached := by
  generalize counted : source.graph.size - passed.length = left
  induction left using Nat.strongRecOn generalizing passed type with
  | ind left inductionHypothesis =>
      by_cases isAlias : ∃ target declaration next, type.stripPointers = .named target ∧
          source.graph.resolve? target = some declaration ∧ declaration.shape = .synonym next
      · obtain ⟨target, declaration, next, isNamed, resolved, isSynonym⟩ := isAlias
        have isNew : target ∉ passed := fun member =>
          noReturn target (leadHere target isNamed target member)
        have passesOn := passesOnce.cons isNew (Option.isSome_of_mem resolved)
        have leadFurther : ∀ further, next.stripPointers = .named further →
            ∀ id ∈ target :: passed, Relation.TransGen source.graph.Aliases id further := by
          intro further isFurther id member
          have aliases : source.graph.Aliases target further :=
            ⟨declaration, next, resolved, isSynonym, isFurther⟩
          rcases List.mem_cons.mp member with rfl | earlier
          · exact .single aliases
          · exact (leadHere target isNamed id earlier).tail aliases
        obtain ⟨way, reached, leads⟩ :=
          inductionHypothesis _ (counted ▸ passesOn.left_lt) passesOn leadFurther rfl
        exact ⟨_, _, .synonym isNamed resolved isSynonym leads⟩
      · exact exists_leadsTo_of_noSynonym fun target declaration next isNamed resolved isSynonym =>
          isAlias ⟨target, declaration, next, isNamed, resolved, isSynonym⟩

/-- Every reference leads to an end. -/
theorem exists_leadsTo
    (noReturn : source.graph.NoAliasReturns)
    (type : TypeRef) :
    ∃ way reached, source.LeadsTo type way reached :=
  exists_leadsTo_of_passed noReturn (.nil source.graph) fun _ _ _ member => nomatch member

/-- Markers are met in all fields of a record. The induction is on the number of declarations that
are not being walked, and then on the fields. -/
theorem exists_meetsIn
    (noReturn : source.graph.NoAliasReturns)
    {walked : List TypeId}
    (passesOnce : source.graph.PassesOnce walked)
    (path : List String)
    (record : TypeId)
    (fields : List Field) :
    ∃ met, source.MeetsIn walked path record fields met := by
  generalize counted : source.graph.size - walked.length = left
  induction left using Nat.strongRecOn generalizing walked path record fields with
  | ind left inductionHypothesis =>
      induction fields with
      | nil => exact ⟨[], .nothing⟩
      | cons field rest fieldsHypothesis =>
          obtain ⟨later, meetsLater⟩ := fieldsHypothesis
          by_cases isVisited : source.isVisited record field = true
          · have visits := visits_iff.mpr ⟨isVisited, Eq.refl (fieldPath path field), rfl⟩
            obtain ⟨way, reached, leads⟩ := exists_leadsTo noReturn field.type
            by_cases isWalked : ∀ target ∈ reached, target ∈ walked
            · exact ⟨_, .passed visits leads isWalked meetsLater⟩
            · simp only [not_forall] at isWalked
              obtain ⟨target, isReached, isNew⟩ := isWalked
              cases isReached
              have isDeclared := leads.isSome_resolve?
              obtain ⟨declaration, resolved⟩ := Option.isSome_iff_exists.mp isDeclared
              have passesInside := passesOnce.cons isNew isDeclared
              obtain ⟨inside, meetsInside⟩ := inductionHypothesis _
                (counted ▸ passesInside.left_lt) passesInside (fieldPath path field) target
                declaration.fields rfl
              exact ⟨_, .entered visits leads isNew resolved meetsInside meetsLater⟩
          · rw [isVisited_iff, Classical.not_not] at isVisited
            exact ⟨_, .skipped isVisited meetsLater⟩

end MetricsSource
end MarkerManifests
