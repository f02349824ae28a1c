import MarkerManifests.Gate.Expr

/-!
# Conditions in related states

There is no negation in gate expressions, so a condition that holds goes on to hold when more gates
are switched on, and only the gates that it mentions count.
-/

namespace MarkerManifests
namespace Gate

/-- Every gate that is on in the state is on in the other one. -/
def State.IsWithin (state other : State) : Prop :=
  ∀ name, state.isEnabled name = true → other.isEnabled name = true

namespace Expr

@[simp] theorem mem_gateNames_literal {name gate : String} :
    name ∈ (literal gate).gateNames ↔ name = gate := by
  simp [gateNames]

@[simp] theorem mem_gateNames_and {name : String} {left right : Expr} :
    name ∈ (and left right).gateNames ↔ name ∈ left.gateNames ∨ name ∈ right.gateNames :=
  NameSet.mem_union

@[simp] theorem mem_gateNames_or {name : String} {left right : Expr} :
    name ∈ (or left right).gateNames ↔ name ∈ left.gateNames ∨ name ∈ right.gateNames :=
  NameSet.mem_union

variable {state other : State} {expr : Expr}

/-- A condition that holds in a state holds where the gates that it mentions are on as well. -/
theorem eval_of_forall_gateNames
    (within : ∀ name ∈ expr.gateNames, state.isEnabled name = true → other.isEnabled name = true)
    (holds : expr.eval state = true) :
    expr.eval other = true := by
  induction expr with
  | literal name => exact within name (mem_gateNames_literal.mpr rfl) holds
  | and left right leftHypothesis rightHypothesis =>
      simp only [mem_gateNames_and, or_imp, forall_and] at within
      rw [eval_and, Bool.and_eq_true] at holds ⊢
      exact ⟨leftHypothesis within.1 holds.1, rightHypothesis within.2 holds.2⟩
  | or left right leftHypothesis rightHypothesis =>
      simp only [mem_gateNames_or, or_imp, forall_and] at within
      rw [eval_or, Bool.or_eq_true] at holds ⊢
      exact holds.imp (leftHypothesis within.1) (rightHypothesis within.2)

/-- There is no negation, so a condition holds where all gates that it mentions are on. -/
theorem eval_of_forall_isEnabled
    (allOn : ∀ name ∈ expr.gateNames, state.isEnabled name = true) :
    expr.eval state = true := by
  induction expr with
  | literal name => exact allOn name (mem_gateNames_literal.mpr rfl)
  | and left right leftHypothesis rightHypothesis =>
      simp only [mem_gateNames_and, or_imp, forall_and] at allOn
      rw [eval_and, leftHypothesis allOn.1, rightHypothesis allOn.2, Bool.and_self]
  | or left right leftHypothesis rightHypothesis =>
      simp only [mem_gateNames_or, or_imp, forall_and] at allOn
      rw [eval_or, leftHypothesis allOn.1, Bool.true_or]

/-- A condition that holds in a state holds where more gates are switched on. -/
theorem eval_of_isWithin
    (within : state.IsWithin other)
    (holds : expr.eval state = true) :
    expr.eval other = true :=
  eval_of_forall_gateNames (fun name _ => within name) holds

/-- Conditions depend only on the gates that they mention. -/
theorem eval_congr
    (agree : ∀ name ∈ expr.gateNames, state.isEnabled name = other.isEnabled name) :
    expr.eval state = expr.eval other := by
  rw [Bool.eq_iff_iff]
  constructor
  · exact eval_of_forall_gateNames fun name mentioned isOn => agree name mentioned ▸ isOn
  · exact eval_of_forall_gateNames fun name mentioned isOn => (agree name mentioned).symm ▸ isOn

/-- A condition has the same value in two states that agree on the gates that it mentions, and it
does not cease to hold when gates are switched on. -/
theorem eval_of_related_states (expr : Expr) (state other : State) :
    ((∀ name ∈ expr.gateNames, state.isEnabled name = other.isEnabled name) →
        expr.eval state = expr.eval other) ∧
      (state.IsWithin other → expr.eval state = true → expr.eval other = true) :=
  ⟨eval_congr, eval_of_isWithin⟩

/-- The two gates alpha and beta together, or gamma alone. -/
def pairOrThird : Expr :=
  or (and (literal "alpha") (literal "beta")) (literal "gamma")

/-- The state in which alpha and beta are on. -/
def pairOn : State :=
  (State.empty.set "alpha" true).set "beta" true

theorem eval_pairOrThird_of_related_states :
    (∀ name ∈ pairOrThird.gateNames,
        pairOn.isEnabled name = (pairOn.set "delta" true).isEnabled name) ∧
      pairOn.IsWithin (pairOn.set "delta" true) ∧ pairOrThird.eval pairOn = true ∧
        pairOrThird.eval pairOn = pairOrThird.eval (pairOn.set "delta" true) ∧
          pairOrThird.eval (pairOn.set "delta" true) = true := by
  have agree : ∀ name ∈ pairOrThird.gateNames,
      pairOn.isEnabled name = (pairOn.set "delta" true).isEnabled name := by
    intro name mentioned
    simp only [pairOrThird, mem_gateNames_or, mem_gateNames_and, mem_gateNames_literal]
      at mentioned
    rcases mentioned with (rfl | rfl) | rfl <;> decide
  have within : pairOn.IsWithin (pairOn.set "delta" true) := by
    intro name isOn
    rw [State.isEnabled_set]
    split
    · rfl
    · exact isOn
  have holds : pairOrThird.eval pairOn = true := by decide
  obtain ⟨congr, additive⟩ :=
    eval_of_related_states pairOrThird pairOn (pairOn.set "delta" true)
  exact ⟨agree, within, holds, congr agree, additive within holds⟩

end Expr

end Gate
end MarkerManifests
