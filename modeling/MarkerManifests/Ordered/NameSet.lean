/-!
# Sets of names

A finite set of strings is the list of its members in ascending order, compared character by
character, so two sets with the same members are equal.
-/

namespace MarkerManifests

/-- A finite set of strings. -/
structure NameSet where
  /-- The members, in ascending order. -/
  toList : List String := []
  ascending : toList.Pairwise (· < ·) := by simp
  deriving DecidableEq

namespace NameSet

/-- Inserts a name into an ascending list, where it stands at most once. -/
def insertName (name : String) : List String → List String
  | [] => [name]
  | other :: rest =>
    if name < other then name :: other :: rest
    else if name = other then other :: rest
    else other :: insertName name rest

@[simp] theorem mem_insertName (name member : String) (names : List String) :
    member ∈ insertName name names ↔ member = name ∨ member ∈ names := by
  induction names with
  | nil => simp [insertName]
  | cons other rest step =>
    unfold insertName
    split
    · simp
    · split
      · rename_i same
        simp [same]
      · simp [step]
        grind

theorem ascending_insertName (name : String) {names : List String}
    (ascending : names.Pairwise (· < ·)) : (insertName name names).Pairwise (· < ·) := by
  induction names with
  | nil => simp [insertName]
  | cons other rest step =>
    rw [List.pairwise_cons] at ascending
    unfold insertName
    split
    · rename_i below
      simp only [List.pairwise_cons, List.mem_cons]
      refine ⟨?_, ascending⟩
      rintro member (rfl | inside)
      · exact below
      · exact String.lt_trans below (ascending.1 member inside)
    · split
      · simpa using ascending
      · simp only [List.pairwise_cons, mem_insertName]
        refine ⟨?_, step ascending.2⟩
        rintro member (rfl | inside)
        · grind
        · exact ascending.1 member inside

/-- The set without members. -/
def empty : NameSet := {}

/-- The set with one more member. -/
def insert (set : NameSet) (name : String) : NameSet :=
  ⟨insertName name set.toList, ascending_insertName name set.ascending⟩

/-- The set with the members of a list. -/
def insertAll (set : NameSet) : List String → NameSet
  | [] => set
  | name :: rest => (set.insert name).insertAll rest

/-- The set of the names in a list. -/
def ofList (names : List String) : NameSet :=
  empty.insertAll names

/-- The members of either set. -/
def union (left right : NameSet) : NameSet :=
  left.insertAll right.toList

/-- Whether there is no member. -/
def isEmpty (set : NameSet) : Bool :=
  set.toList.isEmpty

instance : Membership String NameSet where
  mem set name := name ∈ set.toList

instance (name : String) (set : NameSet) : Decidable (name ∈ set) :=
  inferInstanceAs (Decidable (name ∈ set.toList))

@[simp] theorem mem_toList {name : String} {set : NameSet} : name ∈ set.toList ↔ name ∈ set :=
  Iff.rfl

@[simp] theorem not_mem_empty (name : String) : name ∉ empty := by
  simp [empty, ← mem_toList]

@[simp] theorem mem_insert {name other : String} {set : NameSet} :
    name ∈ set.insert other ↔ name = other ∨ name ∈ set := by
  simp [insert, ← mem_toList]

@[simp] theorem mem_insertAll {name : String} {set : NameSet} {names : List String} :
    name ∈ set.insertAll names ↔ name ∈ set ∨ name ∈ names := by
  induction names generalizing set with
  | nil => simp [insertAll]
  | cons first rest step =>
    simp [insertAll, step]
    grind

@[simp] theorem mem_ofList {name : String} {names : List String} :
    name ∈ ofList names ↔ name ∈ names := by
  simp [ofList]

@[simp] theorem mem_union {name : String} {left right : NameSet} :
    name ∈ left.union right ↔ name ∈ left ∨ name ∈ right := by
  simp [union]

/-- Two ascending lists with the same members are equal. -/
theorem eq_of_ascending {left right : List String} (ascending : left.Pairwise (· < ·))
    (ascending' : right.Pairwise (· < ·)) (same : ∀ name, name ∈ left ↔ name ∈ right) :
    left = right := by
  induction left generalizing right with
  | nil =>
    cases right with
    | nil => rfl
    | cons first rest => exact absurd ((same first).2 (by simp)) (by simp)
  | cons first rest step =>
    cases right with
    | nil => exact absurd ((same first).1 (by simp)) (by simp)
    | cons other others =>
      rw [List.pairwise_cons] at ascending ascending'
      have heads : first = other := by
        have inRight := (same first).1 (by simp)
        have inLeft := (same other).2 (by simp)
        rw [List.mem_cons] at inRight inLeft
        rcases inRight with equal | inRight
        · exact equal
        · rcases inLeft with equal | inLeft
          · exact equal.symm
          · exact absurd (ascending.1 other inLeft)
              (String.lt_asymm (ascending'.1 first inRight))
      subst heads
      congr 1
      refine step ascending.2 ascending'.2 fun name => ?_
      have whole := same name
      simp only [List.mem_cons] at whole
      constructor
      · intro inside
        rcases whole.1 (.inr inside) with rfl | found
        · exact absurd (ascending.1 name inside) (String.lt_irrefl name)
        · exact found
      · intro inside
        rcases whole.2 (.inr inside) with rfl | found
        · exact absurd (ascending'.1 name inside) (String.lt_irrefl name)
        · exact found

/-- Sets with the same members are equal. -/
@[ext] theorem ext {left right : NameSet} (same : ∀ name, name ∈ left ↔ name ∈ right) :
    left = right := by
  cases left
  cases right
  simp only [mk.injEq]
  exact eq_of_ascending ‹_› ‹_› same

/-- A set is told by the list of its members. -/
@[simp] theorem ofList_toList (set : NameSet) : ofList set.toList = set :=
  ext fun _ => mem_ofList

end NameSet
end MarkerManifests
