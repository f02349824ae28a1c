/-!
# Entries in written order

Lists of entries in which every key has the place where it was first written and the value that was
written last.
-/

namespace MarkerManifests
namespace Entries

variable {Value : Type}

/-- Puts a value under a key: in place of the key's value if it has one, and last if not. -/
def put (entries : List (String × Value)) (key : String) (value : Value) :
    List (String × Value) :=
  match entries with
  | [] => [(key, value)]
  | (other, old) :: rest =>
    if other = key then (key, value) :: rest else (other, old) :: put rest key value

/-- The value of the first entry with a key. -/
def get? (entries : List (String × Value)) (key : String) : Option Value :=
  (entries.find? (·.1 = key)).map (·.2)

/-- A key has the value that was put under it last. -/
@[simp] theorem get?_put (entries : List (String × Value)) (key other : String)
    (value : Value) :
    get? (put entries key value) other = if key = other then some value else get? entries other := by
  induction entries with
  | nil => by_cases same : key = other <;> simp [put, get?, same]
  | cons entry rest step =>
    obtain ⟨name, old⟩ := entry
    unfold get? at step
    unfold put get?
    by_cases equal : name = key
    · by_cases same : key = other <;> simp [equal, same]
    · by_cases found : name = other
      · have differs : ¬ key = other := fun same => equal (found.trans same.symm)
        have apart : ¬ other = key := fun same => differs same.symm
        simp [found, differs, apart]
      · simpa [equal, found] using step

/-- Where no key occurs twice, every element is the one that is found under its key. -/
theorem find?_key_of_mem {Element Key : Type} [DecidableEq Key] {key : Element → Key}
    {elements : List Element} {element : Element} (distinct : (elements.map key).Nodup)
    (member : element ∈ elements) :
    elements.find? (key · = key element) = some element := by
  induction elements with
  | nil => cases member
  | cons first rest step =>
    rw [List.map_cons, List.nodup_cons] at distinct
    rcases List.mem_cons.mp member with rfl | inRest
    · exact List.find?_cons_of_pos (decide_eq_true rfl)
    · have differs : key first ≠ key element := fun same =>
        distinct.1 (same ▸ List.mem_map_of_mem inRest)
      rw [List.find?_cons_of_neg (by simpa using differs)]
      exact step distinct.2 inRest

section Keyed

variable {Key : Type} [DecidableEq Key] {entries : List (Key × Value)} {key : Key} {value : Value}

/-- The value that is found under a key stands under the key. -/
theorem mem_of_find?_fst (found : (entries.find? (·.1 = key)).map (·.2) = some value) :
    (key, value) ∈ entries := by
  obtain ⟨⟨other, value⟩, first, rfl⟩ := Option.map_eq_some_iff.mp found
  have same : other = key := by simpa using List.find?_some first
  exact same ▸ List.mem_of_find?_eq_some first

/-- Where no key occurs twice, the values that stand under keys are those that are found. -/
theorem find?_fst_eq_some_iff (distinct : (entries.map (·.1)).Nodup) :
    (entries.find? (·.1 = key)).map (·.2) = some value ↔ (key, value) ∈ entries := by
  refine ⟨mem_of_find?_fst, fun member => ?_⟩
  rw [find?_key_of_mem distinct member]
  rfl

end Keyed

end Entries
end MarkerManifests
