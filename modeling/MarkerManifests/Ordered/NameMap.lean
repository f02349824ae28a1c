import MarkerManifests.Ordered.Entries

/-!
# Maps from names

A finite map from strings is the list of its entries in ascending order of the keys, so two maps
with the same values are equal.
-/

namespace MarkerManifests

/-- A finite map from strings. -/
structure NameMap (Value : Type) where
  /-- The entries, in ascending order of their keys. -/
  toList : List (String × Value) := []
  ascending : toList.Pairwise (·.1 < ·.1) := by simp
  deriving DecidableEq

namespace NameMap

variable {Value : Type}

/-- Puts a value under a key of an ascending list of entries, in place of an older value. -/
def putEntry (key : String) (value : Value) : List (String × Value) → List (String × Value)
  | [] => [(key, value)]
  | entry :: rest =>
    if key < entry.1 then (key, value) :: entry :: rest
    else if key = entry.1 then (key, value) :: rest
    else entry :: putEntry key value rest

theorem mem_putEntry {key : String} {value : Value} {entries : List (String × Value)}
    {entry : String × Value} (inside : entry ∈ putEntry key value entries) :
    entry = (key, value) ∨ entry ∈ entries := by
  induction entries with
  | nil => simpa [putEntry] using inside
  | cons first rest step =>
    unfold putEntry at inside
    split at inside
    · simpa using inside
    · split at inside
      · grind
      · rcases List.mem_cons.1 inside with rfl | inside
        · exact .inr (by simp)
        · rcases step inside with found | found
          · exact .inl found
          · exact .inr (by simp [found])

theorem ascending_putEntry (key : String) (value : Value) {entries : List (String × Value)}
    (ascending : entries.Pairwise (·.1 < ·.1)) :
    (putEntry key value entries).Pairwise (·.1 < ·.1) := by
  induction entries with
  | nil => simp [putEntry]
  | cons first rest step =>
    rw [List.pairwise_cons] at ascending
    unfold putEntry
    split
    · rename_i below
      simp only [List.pairwise_cons, List.mem_cons]
      refine ⟨?_, ascending⟩
      rintro entry (rfl | inside)
      · exact below
      · exact String.lt_trans below (ascending.1 entry inside)
    · split
      · rename_i same
        simp only [List.pairwise_cons, same]
        exact ascending
      · simp only [List.pairwise_cons]
        refine ⟨?_, step ascending.2⟩
        intro entry inside
        rcases mem_putEntry inside with rfl | found
        · grind
        · exact ascending.1 entry found

/-- The map without entries. -/
def empty : NameMap Value := {}

/-- The map with a value put under a key, in place of an older value. -/
def insert (map : NameMap Value) (key : String) (value : Value) : NameMap Value :=
  ⟨putEntry key value map.toList, ascending_putEntry key value map.ascending⟩

/-- The value under a key. -/
def get? (map : NameMap Value) (key : String) : Option Value :=
  (map.toList.find? (·.1 = key)).map (·.2)

/-- The number of entries. -/
def size (map : NameMap Value) : Nat :=
  map.toList.length

/-- Whether there is no entry. -/
def isEmpty (map : NameMap Value) : Bool :=
  map.toList.isEmpty

/-- The keys, in ascending order. -/
def keys (map : NameMap Value) : List String :=
  map.toList.map (·.1)

@[simp] theorem get?_empty (key : String) : (empty : NameMap Value).get? key = none := rfl

private theorem find_putEntry (key other : String) (value : Value)
    (entries : List (String × Value)) :
    ((putEntry key value entries).find? (·.1 = other)).map (·.2) =
      if key = other then some value else (entries.find? (·.1 = other)).map (·.2) := by
  induction entries with
  | nil => by_cases same : key = other <;> simp [putEntry, same]
  | cons first rest step =>
    unfold putEntry
    split
    · by_cases same : key = other <;> simp [List.find?_cons, same]
    · split
      · rename_i equal
        by_cases same : key = other <;> simp [List.find?_cons, same]
        · rename_i differs
          have : ¬ first.1 = other := by rw [← equal]; exact same
          simp [this]
      · rename_i differs
        by_cases same : key = other
        · have : ¬ first.1 = other := by
            intro equal
            exact differs (same.trans equal.symm)
          simp [this] at step ⊢
          simpa [same] using step
        · simp only [same, if_false] at step ⊢
          by_cases found : first.1 = other <;> simp [found]
          simpa using step

/-- A key has the value that was put under it last. -/
@[simp] theorem get?_insert (map : NameMap Value) (key other : String) (value : Value) :
    (map.insert key value).get? other = if key = other then some value else map.get? other :=
  find_putEntry key other value map.toList

/-- No key occurs twice. -/
theorem nodup_keys (map : NameMap Value) : (map.toList.map (·.1)).Nodup := by
  refine List.pairwise_map.mpr (map.ascending.imp ?_)
  intro first second below same
  exact String.lt_irrefl second.1 (same ▸ below)

/-- The entries are the keys with the values under them. -/
theorem get?_eq_some_iff {map : NameMap Value} {key : String} {value : Value} :
    map.get? key = some value ↔ (key, value) ∈ map.toList :=
  Entries.find?_fst_eq_some_iff map.nodup_keys

/-- Maps with the same values are equal. -/
theorem ext_get? {left right : NameMap Value} (same : ∀ key, left.get? key = right.get? key) :
    left = right := by
  have distinct (map : NameMap Value) : map.toList.Nodup :=
    (List.pairwise_map.mp map.nodup_keys).imp fun differ equal => differ (congrArg _ equal)
  have permutes : left.toList.Perm right.toList := by
    rw [List.perm_ext_iff_of_nodup (distinct left) (distinct right)]
    rintro ⟨key, value⟩
    rw [← get?_eq_some_iff, ← get?_eq_some_iff, same]
  have equal : left.toList = right.toList := permutes.eq_of_pairwise
    (fun _ _ _ _ below above => absurd above (String.lt_asymm below)) left.ascending
    right.ascending
  cases left
  cases right
  cases equal
  rfl

end NameMap
end MarkerManifests
