import Mathlib.Data.List.Induction
import Mathlib.Data.List.Nodup

/-!
# First occurrences

Where the first occurrences of the elements of a list are taken, only what is new to what stands
before it is kept. So it does not matter whether they are taken from the parts of a list first.
-/

namespace MarkerManifests

variable {Element : Type} [DecidableEq Element]

/-- An element that is appended is a first occurrence if it is new. -/
theorem eraseDups_append_singleton (earlier : List Element) (last : Element) :
    (earlier ++ [last]).eraseDups =
      if last ∈ earlier then earlier.eraseDups else earlier.eraseDups ++ [last] := by
  rw [List.eraseDups_append]
  by_cases occurred : last ∈ earlier
  · simp [List.removeAll, occurred]
  · simp [List.removeAll, occurred, List.eraseDups_cons]

/-- Among first occurrences there are no duplicates. -/
theorem nodup_eraseDups (elements : List Element) : elements.eraseDups.Nodup := by
  induction elements using List.reverseRecOn with
  | nil => simp
  | append_singleton earlier last inductionHypothesis =>
      rw [eraseDups_append_singleton]
      split
      · exact inductionHypothesis
      · rename_i isNew
        rw [← List.concat_eq_append]
        exact inductionHypothesis.concat fun member => isNew (List.mem_eraseDups.mp member)

/-- Where nothing is repeated, everything is a first occurrence. -/
theorem eraseDups_of_nodup {elements : List Element} (distinct : elements.Nodup) :
    elements.eraseDups = elements := by
  induction elements using List.reverseRecOn with
  | nil => rfl
  | append_singleton earlier last inductionHypothesis =>
      rw [List.nodup_append] at distinct
      obtain ⟨distinctEarlier, -, apart⟩ := distinct
      have isNew : last ∉ earlier := fun member =>
        apart last member last List.mem_cons_self rfl
      rw [eraseDups_append_singleton, if_neg isNew, inductionHypothesis distinctEarlier]

/-- What occurred before adds no first occurrences. -/
theorem eraseDups_append_of_subset {earlier later : List Element} (subset : later ⊆ earlier) :
    (earlier ++ later).eraseDups = earlier.eraseDups := by
  have nothingNew : later.removeAll earlier = [] := by
    rw [List.removeAll, List.filter_eq_nil_iff]
    intro element member
    simpa using subset member
  rw [List.eraseDups_append, nothingNew, List.eraseDups_nil, List.append_nil]

@[simp] theorem eraseDups_eraseDups_append (earlier later : List Element) :
    (earlier.eraseDups ++ later).eraseDups = (earlier ++ later).eraseDups := by
  induction later using List.reverseRecOn with
  | nil =>
      rw [List.append_nil, List.append_nil]
      exact eraseDups_of_nodup (nodup_eraseDups earlier)
  | append_singleton later last inductionHypothesis =>
      rw [← List.append_assoc, ← List.append_assoc, eraseDups_append_singleton,
        eraseDups_append_singleton, inductionHypothesis]
      simp only [List.mem_append, List.mem_eraseDups]

@[simp] theorem eraseDups_append_eraseDups (earlier later : List Element) :
    (earlier ++ later.eraseDups).eraseDups = (earlier ++ later).eraseDups := by
  induction later using List.reverseRecOn with
  | nil => rfl
  | append_singleton later last inductionHypothesis =>
      rw [← List.append_assoc, eraseDups_append_singleton, eraseDups_append_singleton]
      by_cases occurred : last ∈ later
      · rw [if_pos occurred, if_pos (List.mem_append_right earlier occurred),
          inductionHypothesis]
      · rw [if_neg occurred, ← List.append_assoc, eraseDups_append_singleton,
          inductionHypothesis]
        simp only [List.mem_append, List.mem_eraseDups]

end MarkerManifests
