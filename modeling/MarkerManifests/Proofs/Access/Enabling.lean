import Mathlib.Data.List.Basic
import MarkerManifests.Access.Marker
import MarkerManifests.Proofs.Access.Grouping
import MarkerManifests.Proofs.Gate.Evaluation

/-!
# Access rules and enabled gates

Switching gates on never removes a permission: the markers that are switched on stay on, and the
rules of the markers that come in between can only add verbs and targets.
-/

namespace MarkerManifests
namespace AccessRules

open AccessRule

/-! ## Sets that permit more -/

/-- For every rule of the second set, the first set has a rule for the same target with at least
its verbs. -/
def Includes (larger set : AccessRules) : Prop :=
  ∀ rule ∈ set.rules, ∃ other ∈ larger.rules, other.target = rule.target ∧
    ∀ verb ∈ rule.verbs, verb ∈ other.verbs

variable {larger set : AccessRules}

/-- Inclusion is a matter of the targets and of the verbs on each of them. -/
theorem includes_iff :
    larger.Includes set ↔
      set.rules.map AccessRule.target ⊆ larger.rules.map AccessRule.target ∧
        ∀ target verb, SomeHasVerb set.rules target verb →
          SomeHasVerb larger.rules target verb := by
  constructor
  · intro includes
    constructor
    · intro target occurs
      obtain ⟨rule, member, rfl⟩ := List.mem_map.mp occurs
      obtain ⟨other, isOther, sameTarget, -⟩ := includes rule member
      exact List.mem_map.mpr ⟨other, isOther, sameTarget⟩
    · rintro target verb ⟨rule, member, rfl, hasVerb⟩
      obtain ⟨other, isOther, sameTarget, verbs⟩ := includes rule member
      exact ⟨other, isOther, sameTarget, verbs verb hasVerb⟩
  · rintro ⟨targets, verbs⟩ rule member
    obtain ⟨other, isOther, sameTarget⟩ := List.mem_map.mp (targets (List.mem_map_of_mem member))
    refine ⟨other, isOther, sameTarget, fun verb hasVerb => ?_⟩
    rw [(mem_rules_iff_verbs.mp isOther).2, sameTarget]
    exact verbs rule.target verb ⟨rule, member, rfl, hasVerb⟩

theorem includes_refl (set : AccessRules) : set.Includes set :=
  fun rule member => ⟨rule, member, rfl, fun _ => id⟩

/-- More rules in the larger set take nothing away. -/
theorem Includes.growAll (includes : larger.Includes set) (rules : List AccessRule) :
    (larger.insertAll rules).Includes set := by
  rw [includes_iff] at includes ⊢
  refine ⟨fun target occurs => ?_, fun target verb hasVerb => ?_⟩
  · rw [mem_map_target_insertAll]
    exact Or.inl (includes.1 occurs)
  · rw [someHasVerb_insertAll]
    exact Or.inl (includes.2 target verb hasVerb)

/-- The same rules in both sets keep the inclusion. -/
theorem Includes.insertAll (includes : larger.Includes set) (rules : List AccessRule) :
    (larger.insertAll rules).Includes (set.insertAll rules) := by
  rw [includes_iff] at includes ⊢
  refine ⟨fun target occurs => ?_, fun target verb hasVerb => ?_⟩
  · rw [mem_map_target_insertAll] at occurs ⊢
    exact occurs.imp_left fun inSet => includes.1 inSet
  · rw [someHasVerb_insertAll] at hasVerb ⊢
    exact hasVerb.imp_left (includes.2 target verb)

/-! ## Markers -/

/-- More markers, in the same order, collect at least as many permissions. -/
theorem Includes.collectMarkers
    (includes : larger.Includes set)
    {markers others : Markers}
    (sublist : markers.Sublist others)
    (diagnostics otherDiagnostics : Diagnostics) :
    (larger.collectMarkers otherDiagnostics others).1.Includes
      (set.collectMarkers diagnostics markers).1 := by
  induction sublist generalizing larger set diagnostics otherDiagnostics with
  | slnil => exact includes
  | cons marker sublist inductionHypothesis =>
      rw [AccessRules.collectMarkers]
      cases AccessRule.ofMarker marker with
      | ok rules => exact inductionHypothesis (includes.growAll rules) _ _
      | error error => exact inductionHypothesis includes _ _
  | cons_cons marker sublist inductionHypothesis =>
      rw [AccessRules.collectMarkers, AccessRules.collectMarkers]
      cases AccessRule.ofMarker marker with
      | ok rules => exact inductionHypothesis (includes.insertAll rules) _ _
      | error error => exact inductionHypothesis includes _ _

/-- Markers that are switched on stay on when more gates are. -/
theorem activeMarkers_sublist
    {state other : Gate.State}
    (within : state.IsWithin other)
    (index : MarkerIndex) :
    (activeMarkers index state).Sublist (activeMarkers index other) := by
  refine List.monotone_filter_right _ fun marker => ?_
  cases marker.gate? "featureGate" with
  | none => exact id
  | some expr => exact Gate.Expr.eval_of_isWithin within

/-- Where more gates are on, every rule has a rule for the same target with at least its verbs. -/
theorem includes_collect_of_isWithin
    {state other : Gate.State}
    (within : state.IsWithin other)
    (index : MarkerIndex) :
    (collect index other).1.Includes (collect index state).1 :=
  (includes_refl .empty).collectMarkers (activeMarkers_sublist within index) [] []

/-- An index in which pods may be read, and deleted where a gate is on. -/
def podCleaners : MarkerIndex where
  entries := [(.package "apps", [
    ⟨"rbac", .package "apps", .rule,
      [("resource", .list ["pods"]), ("verbs", .list ["delete"]),
        ("featureGate", .gate (.literal "cleanup"))]⟩,
    ⟨"rbac", .package "apps", .rule,
      [("group", .list ["core"]), ("resource", .list ["pods"]), ("verbs", .list ["get"])]⟩])]

/-- The gate of the cleaners adds a verb before the one that is there without it. -/
theorem includes_collect_podCleaners :
    Gate.State.IsWithin .empty (Gate.State.empty.set "cleanup" true) ∧
      (collect podCleaners (Gate.State.empty.set "cleanup" true)).1.Includes
        (collect podCleaners .empty).1 ∧
      (collect podCleaners .empty).1.rules.map (·.verbs.toList) = [["get"]] ∧
      (collect podCleaners (Gate.State.empty.set "cleanup" true)).1.rules.map
        (·.verbs.toList) = [["delete", "get"]] := by
  have within : Gate.State.IsWithin .empty (Gate.State.empty.set "cleanup" true) := by
    intro name isEnabled
    cases isEnabled
  exact ⟨within, includes_collect_of_isWithin within podCleaners, by decide +kernel,
    by decide +kernel⟩

end AccessRules
end MarkerManifests
