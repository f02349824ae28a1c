import MarkerManifests.Ordered.Entries
import MarkerManifests.Proofs.Ordered.FirstOccurrences

/-!
# Entries that were put one after the other

Putting a value under a key keeps the keys distinct and leaves every key where it was first put. So
the keys of entries that were put one after the other are the first occurrences of the keys, and
every key has the value that was put under it last.
-/

namespace MarkerManifests
namespace Entries

variable {Value : Type} {entries : List (String × Value)} {key : String} {value : Value}

/-! ## One more entry -/

theorem mem_put
    {entry : String × Value}
    (member : entry ∈ put entries key value) :
    entry = (key, value) ∨ entry ∈ entries := by
  induction entries with
  | nil => exact Or.inl (List.mem_singleton.mp member)
  | cons first rest inductionHypothesis =>
      obtain ⟨other, old⟩ := first
      rw [put] at member
      split at member
      · rcases List.mem_cons.mp member with isNew | inRest
        · exact Or.inl isNew
        · exact Or.inr (List.mem_cons_of_mem _ inRest)
      · rcases List.mem_cons.mp member with isFirst | inRest
        · exact Or.inr (isFirst ▸ List.mem_cons_self)
        · exact (inductionHypothesis inRest).imp_right (List.mem_cons_of_mem _)

/-- A new key comes last. -/
theorem put_of_not_mem (absent : key ∉ entries.map (·.1)) :
    put entries key value = entries ++ [(key, value)] := by
  induction entries with
  | nil => rfl
  | cons first rest inductionHypothesis =>
      obtain ⟨other, old⟩ := first
      rw [List.map_cons, List.mem_cons, not_or] at absent
      rw [put, if_neg (Ne.symm absent.1), inductionHypothesis absent.2, List.cons_append]

/-- A key that is there keeps its place. -/
theorem keys_put_of_mem (present : key ∈ entries.map (·.1)) :
    (put entries key value).map (·.1) = entries.map (·.1) := by
  induction entries with
  | nil => cases present
  | cons first rest inductionHypothesis =>
      obtain ⟨other, old⟩ := first
      rw [put]
      split
      · rename_i same
        simp [same]
      · rename_i differs
        rcases List.mem_cons.mp present with isFirst | inRest
        · exact absurd isFirst.symm differs
        · rw [List.map_cons, List.map_cons, inductionHypothesis inRest]

/-- The keys are the first occurrences of the keys before and the new key. -/
theorem keys_put (distinct : (entries.map (·.1)).Nodup) :
    (put entries key value).map (·.1) = (entries.map (·.1) ++ [key]).eraseDups := by
  rw [eraseDups_append_singleton, eraseDups_of_nodup distinct]
  split
  · rename_i present
    exact keys_put_of_mem present
  · rename_i absent
    rw [put_of_not_mem absent, List.map_append]
    rfl

theorem nodup_put (distinct : (entries.map (·.1)).Nodup) :
    ((put entries key value).map (·.1)).Nodup := by
  rw [keys_put distinct]
  exact nodup_eraseDups _

/-! ## Any number of entries -/

/-- Puts entries one after the other. -/
def putAll (entries new : List (String × Value)) : List (String × Value) :=
  new.foldl (fun entries entry => put entries entry.1 entry.2) entries

theorem putAll_append (entries new newer : List (String × Value)) :
    putAll entries (new ++ newer) = putAll (putAll entries new) newer :=
  List.foldl_append

/-- The keys are the first occurrences of the keys before and the new keys. -/
theorem keys_putAll
    (distinct : (entries.map (·.1)).Nodup)
    (new : List (String × Value)) :
    (putAll entries new).map (·.1) = ((entries ++ new).map (·.1)).eraseDups := by
  induction new using List.reverseRecOn with
  | nil =>
      rw [List.append_nil, eraseDups_of_nodup distinct]
      rfl
  | append_singleton earlier last inductionHypothesis =>
      have stillDistinct : ((putAll entries earlier).map (·.1)).Nodup := by
        rw [inductionHypothesis]
        exact nodup_eraseDups _
      rw [putAll_append]
      exact (keys_put stillDistinct).trans (by simp [inductionHypothesis])

/-! ## First and last values -/

/-- The value stands in the first entry with the key. -/
def IsFirst (entries : List (String × Value)) (key : String) (value : Value) : Prop :=
  ∃ before after, entries = before ++ (key, value) :: after ∧ key ∉ before.map (·.1)

/-- The value stands in the last entry with the key. -/
def IsLast (entries : List (String × Value)) (key : String) (value : Value) : Prop :=
  ∃ before after, entries = before ++ (key, value) :: after ∧ key ∉ after.map (·.1)

theorem not_mem_keys_iff : key ∉ entries.map (·.1) ↔ ∀ entry ∈ entries, ¬ entry.1 = key := by
  rw [List.mem_map, not_exists]
  exact forall_congr' fun entry => not_and

/-- The value that is looked up is the first one. -/
theorem get?_eq_some_iff : get? entries key = some value ↔ IsFirst entries key value := by
  rw [get?, Option.map_eq_some_iff]
  constructor
  · rintro ⟨⟨other, found⟩, isFound, rfl⟩
    obtain ⟨same, before, after, shape, differ⟩ := List.find?_eq_some_iff_append.mp isFound
    obtain rfl : other = key := by simpa using same
    exact ⟨before, after, shape, not_mem_keys_iff.mpr fun entry member => by
      simpa using differ entry member⟩
  · rintro ⟨before, after, shape, absent⟩
    have differ : ∀ entry ∈ before, (!decide (entry.1 = key)) = true := fun entry member => by
      simpa using not_mem_keys_iff.mp absent entry member
    exact ⟨(key, value),
      List.find?_eq_some_iff_append.mpr ⟨by simp, before, after, shape, differ⟩, rfl⟩

theorem get?_eq_none_iff : get? entries key = none ↔ key ∉ entries.map (·.1) := by
  rw [not_mem_keys_iff, get?, Option.map_eq_none_iff, List.find?_eq_none]
  simp only [decide_eq_true_eq]

/-- The last value is the one of an entry that is appended, if its key is the same. -/
theorem isLast_append_singleton (last : String × Value) :
    IsLast (entries ++ [last]) key value ↔
      if last.1 = key then last.2 = value else IsLast entries key value := by
  obtain ⟨lastKey, lastValue⟩ := last
  constructor
  · rintro ⟨before, after, shape, absent⟩
    rcases List.eq_nil_or_concat after with rfl | ⟨others, other, rfl⟩
    · obtain ⟨-, same⟩ := List.append_inj' shape rfl
      cases same
      exact (if_pos rfl).mpr rfl
    · rw [List.concat_eq_append] at shape absent
      rw [← List.cons_append, ← List.append_assoc] at shape
      obtain ⟨rfl, same⟩ := List.append_inj' shape rfl
      cases same
      simp only [List.map_append, List.mem_append, not_or] at absent
      have differs : ¬ lastKey = key := fun same => absent.2 (by simp [same])
      exact (if_neg differs).mpr ⟨before, others, rfl, absent.1⟩
  · split
    · rename_i same
      rintro isValue
      cases same
      cases isValue
      exact ⟨entries, [], rfl, List.not_mem_nil⟩
    · rename_i differs
      rintro ⟨before, after, rfl, absent⟩
      refine ⟨before, after ++ [(lastKey, lastValue)], by simp, ?_⟩
      rw [List.map_append, List.mem_append, not_or]
      exact ⟨absent, fun member => differs (List.mem_singleton.mp member).symm⟩

/-- A key has the value that was put under it last. -/
theorem get?_putAll_nil (new : List (String × Value)) :
    get? (putAll [] new) key = some value ↔ IsLast new key value := by
  induction new using List.reverseRecOn with
  | nil =>
      constructor
      · intro found
        cases found
      · rintro ⟨before, after, shape, -⟩
        exact absurd shape.symm (by simp)
  | append_singleton earlier last inductionHypothesis =>
      rw [putAll_append, isLast_append_singleton, ← inductionHypothesis]
      refine (Eq.congr_left (get?_put (putAll [] earlier) last.1 key last.2)).trans ?_
      split
      · rw [Option.some_inj]
      · rfl

/-! ## Collected entries -/

/-- Entries with the keys of other entries: every key has the place where it first stood and the
value that it had last. -/
structure Collect (entries new : List (String × Value)) : Prop where
  keys : entries.map (·.1) = (new.map (·.1)).eraseDups
  values : ∀ key value, (key, value) ∈ entries ↔ IsLast new key value

theorem collect_putAll (new : List (String × Value)) : Collect (putAll [] new) new := by
  have noKeys : (([] : List (String × Value)).map (·.1)).Nodup := List.nodup_nil
  have keys : (putAll [] new).map (·.1) = (new.map (·.1)).eraseDups := keys_putAll noKeys new
  have distinct : ((putAll [] new).map (·.1)).Nodup := by
    rw [keys]
    exact nodup_eraseDups _
  refine ⟨keys, fun key value => ?_⟩
  rw [← get?_putAll_nil, get?, find?_fst_eq_some_iff distinct]

/-- Entries with distinct keys are determined by the order of their keys and by what stands under
them. -/
theorem eq_of_keys_eq
    {other : List (String × Value)}
    (distinct : (other.map (·.1)).Nodup)
    (keys : entries.map (·.1) = other.map (·.1))
    (subset : entries ⊆ other) :
    entries = other := by
  induction entries generalizing other with
  | nil => exact (List.map_eq_nil_iff.mp keys.symm).symm
  | cons first rest inductionHypothesis =>
      obtain ⟨second, others, rfl, sameKey, keysOthers⟩ := List.map_eq_cons_iff.mp keys.symm
      rw [List.map_cons, List.nodup_cons] at distinct
      obtain ⟨firstSubset, restSubset⟩ := List.cons_subset.mp subset
      have isSecond : first = second := (List.mem_cons.mp firstSubset).resolve_right fun inOthers =>
        distinct.1 (sameKey ▸ List.mem_map_of_mem inOthers)
      have restSubsetOthers : rest ⊆ others := fun entry member =>
        (List.mem_cons.mp (restSubset member)).resolve_left fun isFirst =>
          distinct.1 (keysOthers ▸ isFirst ▸ List.mem_map_of_mem member)
      rw [isSecond, inductionHypothesis distinct.2 keysOthers.symm restSubsetOthers]

/-- Entries that are put one after the other are collected, and this is the only way to do so. -/
theorem collect_iff {new : List (String × Value)} :
    Collect entries new ↔ entries = putAll [] new := by
  constructor
  · intro collected
    have expected := collect_putAll new
    refine eq_of_keys_eq ?_ (collected.keys.trans expected.keys.symm) fun entry member => ?_
    · rw [expected.keys]
      exact nodup_eraseDups _
    · exact (expected.values _ _).mpr ((collected.values _ _).mp member)
  · rintro rfl
    exact collect_putAll new

end Entries
end MarkerManifests
