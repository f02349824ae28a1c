import Mathlib.Data.List.Forall2
import MarkerManifests.Proofs.Text.Cutting
import MarkerManifests.Webhook.Request

/-!
# Checked requests

A request passes its checks exactly if each of its fields is right by itself, apart from two pairs
of fields: the side effects depend on the listed surfaces, and a reinvocation policy on the list.
The texts of such a request are the words of what they are resolved to.
-/

namespace MarkerManifests

theorem SideEffects.ofWord?_eq_some_iff
    {word : String}
    {effects : SideEffects} :
    ofWord? word = .some effects ↔ effects.word = word := by
  constructor
  · intro found
    simpa using List.find?_some found
  · rintro rfl
    cases effects <;> rfl

namespace WebhookRequest

/-! ## What is right -/

/-- A request whose fields are right, with what its texts are resolved to. -/
structure Resolves (request : WebhookRequest) (policies : WebhookPolicies) : Prop where
  surfaces : ∀ version ∈ request.surfaces, version = currentSurface ∨ version = legacySurface
  sideEffects : policies.sideEffects.word = request.sideEffects
  /-- A request that lists the current surface, and perhaps the legacy one as well, does without
  the legacy side effects. -/
  permitted : currentSurface ∈ request.surfaces → policies.sideEffects.isLegacy = false
  timeout : 1 ≤ request.timeoutSeconds ∧ request.timeoutSeconds ≤ 30
  reviewed : ∃ version ∈ request.reviewVersions, version ≠ ""
  /-- There is either a path or an address. -/
  reached : request.path.isSome ↔ request.url = none
  failurePolicy : ∀ word ∈ request.failurePolicy,
    folded word = folded policies.failurePolicy.word
  failsByDefault : request.failurePolicy = none → policies.failurePolicy = .fail
  matchPolicy : request.matchPolicy = policies.matchPolicy.map MatchPolicy.word
  reinvocationPolicy :
    request.reinvocationPolicy = policies.reinvocationPolicy.map ReinvocationPolicy.word
  reinvoked : policies.reinvocationPolicy.isSome → request.kind = .mutating
  operations : List.Forall₂ (operation? · = some ·) request.verbs policies.operations

/-! ## The checks -/

variable {request : WebhookRequest}

theorem checkSurfaces_eq_ok_iff :
    request.checkSurfaces = .ok () ↔
      ∀ version ∈ request.surfaces, version = currentSurface ∨ version = legacySurface := by
  unfold checkSurfaces
  split
  · rename_i version found
    have unknown := List.find?_some found
    refine iff_of_false (by simp) fun known => ?_
    rcases known version (List.mem_of_find?_eq_some found) with rfl | rfl <;> simp at unknown
  · rename_i found
    simpa [or_iff_not_imp_left] using found

theorem checkSideEffects_eq_ok_iff
    {effects : SideEffects} :
    request.checkSideEffects = .ok effects ↔
      effects.word = request.sideEffects ∧
        (currentSurface ∈ request.surfaces → effects.isLegacy = false) := by
  rw [← SideEffects.ofWord?_eq_some_iff]
  unfold checkSideEffects targetsCurrent
  cases SideEffects.ofWord? request.sideEffects with
  | none => simp
  | some found =>
      by_cases listed : currentSurface ∈ request.surfaces
      · cases legacy : found.isLegacy <;> grind
      · simp [listed]

theorem checkTimeout_eq_ok_iff :
    request.checkTimeout = .ok () ↔
      1 ≤ request.timeoutSeconds ∧ request.timeoutSeconds ≤ 30 := by
  unfold checkTimeout
  split <;> simp [*]

theorem checkReviewVersions_eq_ok_iff :
    request.checkReviewVersions = .ok () ↔ ∃ version ∈ request.reviewVersions, version ≠ "" := by
  rw [checkReviewVersions, ite_eq_right_iff, imp_iff_not (by simp)]
  simp

theorem checkClient_eq_ok_iff :
    request.checkClient = .ok () ↔ (request.path.isSome ↔ request.url = none) := by
  unfold checkClient
  cases request.path <;> cases request.url <;> simp

theorem checkFailurePolicy_eq_ok_iff
    {policy : FailurePolicy} :
    request.checkFailurePolicy = .ok policy ↔
      (∀ word ∈ request.failurePolicy, folded word = folded policy.word) ∧
        (request.failurePolicy = none → policy = .fail) := by
  have fail : folded FailurePolicy.fail.word = "fail" := by decide
  have ignore : folded FailurePolicy.ignore.word = "ignore" := by decide
  unfold checkFailurePolicy
  cases request.failurePolicy with
  | none => simp [eq_comm]
  | some word => cases policy <;> grind

theorem checkMatchPolicy_eq_ok_iff
    {policy : Option MatchPolicy} :
    request.checkMatchPolicy = .ok policy ↔ request.matchPolicy = policy.map MatchPolicy.word := by
  unfold checkMatchPolicy
  cases request.matchPolicy with
  | none => cases policy <;> simp
  | some word =>
      rcases policy with _ | (_ | _) <;> grind [MatchPolicy.word]

theorem checkReinvocationPolicy_eq_ok_iff
    {policy : Option ReinvocationPolicy} :
    request.checkReinvocationPolicy = .ok policy ↔
      request.reinvocationPolicy = policy.map ReinvocationPolicy.word ∧
        (policy.isSome → request.kind = .mutating) := by
  unfold checkReinvocationPolicy
  cases request.reinvocationPolicy with
  | none => cases policy <;> simp
  | some word =>
      rcases policy with _ | (_ | _) <;> cases request.kind <;> grind [ReinvocationPolicy.word]

theorem checkOperations_eq_ok_iff
    {verbs operations : List String} :
    checkOperations verbs = .ok operations ↔
      List.Forall₂ (operation? · = some ·) verbs operations := by
  induction verbs generalizing operations with
  | nil => simp [checkOperations, eq_comm]
  | cons verb rest inductionHypothesis =>
      rw [checkOperations, List.forall₂_cons_left_iff]
      cases operation? verb with
      | none => simp
      | some operation =>
          constructor
          · intro checked
            obtain ⟨others, isRest, rfl⟩ := Except.exists_of_map_eq_ok checked
            exact ⟨operation, others, rfl, inductionHypothesis.mp isRest, rfl⟩
          · rintro ⟨other, others, same, related, rfl⟩
            rw [inductionHypothesis.mpr related, Option.some.inj same]
            rfl

/-- A request passes its checks exactly if its fields are right. -/
theorem check_eq_ok_iff
    {policies : WebhookPolicies} :
    request.check = .ok policies ↔ request.Resolves policies := by
  simp only [check, Except.bind_eq_ok_iff, Unique.exists_iff, PUnit.default_eq_unit,
    checkSurfaces_eq_ok_iff, checkSideEffects_eq_ok_iff, checkTimeout_eq_ok_iff,
    checkReviewVersions_eq_ok_iff, checkClient_eq_ok_iff, checkFailurePolicy_eq_ok_iff,
    checkMatchPolicy_eq_ok_iff, checkReinvocationPolicy_eq_ok_iff, checkOperations_eq_ok_iff]
  constructor
  · rintro ⟨surfaces, effects, ⟨isEffects, permitted⟩, timeout, reviewed, reached, failure,
      ⟨isFailure, byDefault⟩, matching, isMatching, reinvocation, ⟨isReinvocation, reinvoked⟩,
      operations, areOperations, same⟩
    cases same
    exact ⟨surfaces, isEffects, permitted, timeout, reviewed, reached, isFailure, byDefault,
      isMatching, isReinvocation, reinvoked, areOperations⟩
  · intro resolves
    exact ⟨resolves.surfaces, _, ⟨resolves.sideEffects, resolves.permitted⟩, resolves.timeout,
      resolves.reviewed, resolves.reached, _,
      ⟨resolves.failurePolicy, resolves.failsByDefault⟩, _, resolves.matchPolicy, _,
      ⟨resolves.reinvocationPolicy, resolves.reinvoked⟩, _, resolves.operations, rfl⟩

end WebhookRequest
end MarkerManifests
