import Mathlib.Data.List.Forall2

/-!
# Outcomes

Computations that may fail, one after the other or one for each element of a list: all of them are
good if the whole is, and the error of the whole is the error of the first one that fails.
-/

namespace MarkerManifests

/-- A list is related to another one if and only if every element is related to something. -/
theorem exists_forall₂_iff
    {Element Other : Type}
    {relation : Element → Other → Prop}
    {elements : List Element} :
    (∃ others, List.Forall₂ relation elements others) ↔
      ∀ element ∈ elements, ∃ other, relation element other := by
  induction elements with
  | nil => exact iff_of_true ⟨[], .nil⟩ fun _ member => nomatch member
  | cons element rest inductionHypothesis =>
      rw [List.forall_mem_cons, ← inductionHypothesis]
      constructor
      · rintro ⟨_, _ | ⟨isRelated, areRelated⟩⟩
        exact ⟨⟨_, isRelated⟩, _, areRelated⟩
      · rintro ⟨⟨other, isRelated⟩, others, areRelated⟩
        exact ⟨other :: others, .cons isRelated areRelated⟩

/-- A list is related to exactly one other list if every element is related to one thing only. -/
theorem forall₂_iff_eq_map
    {Element Other : Type}
    {relation : Element → Other → Prop}
    {function : Element → Other}
    {elements : List Element}
    (isFunction : ∀ element ∈ elements, ∀ other,
      relation element other ↔ other = function element)
    {others : List Other} :
    List.Forall₂ relation elements others ↔ others = elements.map function := by
  induction elements generalizing others with
  | nil => rw [List.forall₂_nil_left_iff, List.map_nil]
  | cons element rest inductionHypothesis =>
      rw [List.forall_mem_cons] at isFunction
      rw [List.forall₂_cons_left_iff, List.map_cons]
      constructor
      · rintro ⟨other, more, isRelated, areRelated, rfl⟩
        rw [(isFunction.1 other).mp isRelated, (inductionHypothesis isFunction.2).mp areRelated]
      · rintro rfl
        exact ⟨_, _, (isFunction.1 _).mpr rfl, (inductionHypothesis isFunction.2).mpr rfl, rfl⟩

namespace Except

section Following

variable {Error Value Other : Type} {result : Except Error Value}

/-- A mapped outcome is good only if the outcome is. -/
theorem exists_of_map_eq_ok
    {function : Value → Other}
    {other : Other}
    (mapped : result.map function = .ok other) :
    ∃ value, result = .ok value ∧ function value = other := by
  cases result with
  | error error => cases mapped
  | ok value => exact ⟨value, rfl, Except.ok.inj mapped⟩

/-- What follows an outcome is good only if the outcome is. -/
theorem exists_of_bind_eq_ok
    {next : Value → Except Error Other}
    {other : Other}
    (bound : (result >>= next) = .ok other) :
    ∃ value, result = .ok value ∧ next value = .ok other := by
  cases result with
  | error error => cases bound
  | ok value => exact ⟨value, rfl, bound⟩

theorem bind_eq_ok_iff
    {next : Value → Except Error Other}
    {other : Other} :
    (result >>= next) = .ok other ↔ ∃ value, result = .ok value ∧ next value = .ok other := by
  constructor
  · exact exists_of_bind_eq_ok
  · rintro ⟨value, rfl, follows⟩
    exact follows

theorem map_eq_error_iff
    {function : Value → Other}
    {error : Error} :
    result.map function = .error error ↔ result = .error error := by
  cases result <;> simp [Except.map]

/-- Without its value an outcome is good exactly if it is good. -/
theorem map_eq_ok_unit_iff :
    result.map (fun _ => ()) = .ok () ↔ ∃ value, result = .ok value := by
  cases result <;> simp [Except.map]

theorem map_bind
    {next : Value → Except Error Other}
    {Third : Type}
    {function : Other → Third} :
    (result >>= next).map function = result >>= fun value => (next value).map function := by
  cases result <;> rfl

/-- What follows does not depend on the value that is dropped. -/
theorem map_bind_const
    {next : Except Error Other} :
    ((result.map fun _ => ()) >>= fun _ => next) = result >>= fun _ => next := by
  cases result <;> rfl

end Following

section Each

variable {Error Element : Type} {check : Element → Except Error Unit} {elements : List Element}

/-- All checks are passed if each of them is. -/
theorem forM_eq_ok_iff :
    forM elements check = .ok () ↔ ∀ element ∈ elements, check element = .ok () := by
  induction elements with
  | nil => exact iff_of_true rfl fun _ member => nomatch member
  | cons first rest inductionHypothesis =>
      rw [List.forM_cons, bind_eq_ok_iff, List.forall_mem_cons, ← inductionHypothesis]
      exact Unique.exists_iff

/-- What every step preserves, a run of steps preserves. -/
theorem foldlM_preserves
    {State : Type}
    {property : State → Prop}
    {step : State → Element → Except Error State}
    (preserves : ∀ element ∈ elements, ∀ before after, property before →
      step before element = .ok after → property after)
    {start finish : State}
    (holds : property start)
    (run : elements.foldlM step start = .ok finish) :
    property finish := by
  induction elements generalizing start with
  | nil =>
      cases run
      exact holds
  | cons element rest inductionHypothesis =>
      rw [List.foldlM_cons] at run
      obtain ⟨next, first, later⟩ := exists_of_bind_eq_ok run
      obtain ⟨preservesFirst, preservesRest⟩ := List.forall_mem_cons.mp preserves
      exact inductionHypothesis preservesRest (preservesFirst _ _ holds first) later

/-- The error of several checks is that of the first one that is not passed. -/
theorem forM_eq_error_iff {error : Error} :
    forM elements check = .error error ↔
      ∃ before element after, elements = before ++ element :: after ∧
        (∀ earlier ∈ before, check earlier = .ok ()) ∧ check element = .error error := by
  induction elements with
  | nil =>
      refine iff_of_false nofun ?_
      rintro ⟨before, element, after, shape, -⟩
      exact absurd shape.symm (by simp)
  | cons first rest inductionHypothesis =>
      rw [List.forM_cons]
      cases isFirst : check first with
      | error own =>
          constructor
          · intro same
            cases same
            exact ⟨[], first, rest, rfl, List.forall_mem_nil _, isFirst⟩
          · rintro ⟨_ | ⟨earlier, before⟩, element, after, shape, passed, failed⟩
            · obtain ⟨rfl, -⟩ := List.cons.inj shape
              exact isFirst.symm.trans failed
            · obtain ⟨rfl, -⟩ := List.cons.inj shape
              cases isFirst.symm.trans (passed first List.mem_cons_self)
      | ok passedFirst =>
          refine inductionHypothesis.trans ?_
          constructor
          · rintro ⟨before, element, after, rfl, passed, failed⟩
            exact ⟨first :: before, element, after, rfl,
              List.forall_mem_cons.mpr ⟨isFirst, passed⟩, failed⟩
          · rintro ⟨_ | ⟨earlier, before⟩, element, after, shape, passed, failed⟩
            · obtain ⟨rfl, -⟩ := List.cons.inj shape
              cases isFirst.symm.trans failed
            · obtain ⟨rfl, rfl⟩ := List.cons.inj shape
              exact ⟨before, element, after, rfl, (List.forall_mem_cons.mp passed).2, failed⟩

end Each

end Except
end MarkerManifests
