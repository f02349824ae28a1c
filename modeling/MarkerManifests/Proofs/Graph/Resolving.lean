import Mathlib.Data.List.Nodup
import Mathlib.Data.List.Perm.Subperm
import MarkerManifests.Graph.TypeGraph
import MarkerManifests.Ordered.Entries

/-!
# Resolving identities

No two declarations of a graph have one identity, so what is found by an identity is the declaration
that has it, wherever it stands. There are no more identities of declarations than declarations.
-/

namespace MarkerManifests
namespace TypeGraph

variable {graph : TypeGraph}

/-! ## Declarations -/

/-- A declaration is found by an identity exactly if it is declared and has the identity. -/
theorem resolve?_eq_some_iff
    {id : TypeId}
    {declaration : Declaration} :
    graph.resolve? id = some declaration ↔
      declaration ∈ graph.declarations ∧ declaration.id = id := by
  constructor
  · intro resolved
    exact ⟨List.mem_of_find?_eq_some resolved, id_of_resolve? resolved⟩
  · rintro ⟨isDeclared, rfl⟩
    exact Entries.find?_key_of_mem graph.distinct isDeclared

theorem mem_ids_of_isSome_resolve?
    {id : TypeId}
    (declared : (graph.resolve? id).isSome) :
    id ∈ graph.declarations.map (·.id) := by
  obtain ⟨declaration, resolved⟩ := Option.isSome_iff_exists.mp declared
  obtain ⟨isDeclared, isId⟩ := resolve?_eq_some_iff.mp resolved
  exact List.mem_map.mpr ⟨declaration, isDeclared, isId⟩

/-- There are at most as many different identities of declarations as declarations. -/
theorem length_le_size
    {ids : List TypeId}
    (distinct : ids.Nodup)
    (declared : ∀ id ∈ ids, (graph.resolve? id).isSome) :
    ids.length ≤ graph.size := by
  have subset : ids ⊆ graph.declarations.map (·.id) := fun id member =>
    mem_ids_of_isSome_resolve? (declared id member)
  have counted := (distinct.subperm subset).length_le
  rwa [List.length_map] at counted

/-! ## Positions -/

/-- The identities of declarations, each with the place of its package and its place in the
package. -/
def positions (packages : List Package) : List (TypeId × Nat × Nat) :=
  packages.zipIdx.flatMap fun (package, place) =>
    package.types.zipIdx.map fun (declaration, index) => (declaration.id, place, index)

/-- The declaration at a place of the package at a place. -/
def declarationAt? (packages : List Package) (position : Nat × Nat) : Option Declaration :=
  packages[position.1]?.bind fun package => package.types[position.2]?

/-- At every position stands the declaration whose identity has the position. -/
theorem map_declarationAt?_positions (packages : List Package) :
    (positions packages).map (fun entry => (entry.1, declarationAt? packages entry.2)) =
      (declarationsOf packages).map fun declaration => (declaration.id, some declaration) := by
  let found (package : Package) : List (TypeId × Option Declaration) :=
    package.types.map fun declaration => (declaration.id, some declaration)
  have inPackage : ∀ entry ∈ packages.zipIdx,
      (entry.1.types.zipIdx.map fun (declaration, index) => (declaration.id, entry.2, index)).map
        (fun entry => (entry.1, declarationAt? packages entry.2)) = found entry.1 := by
    rintro ⟨package, place⟩ isPlaced
    have isThere : packages[place]? = some package := List.mem_zipIdx_iff_getElem?.mp isPlaced
    rw [List.map_map]
    refine (List.map_congr_left fun entry isListed => ?_).trans
      (List.map_map.symm.trans (congrArg _ (List.zipIdx_map_fst 0 package.types)))
    have isHere : package.types[entry.2]? = some entry.1 :=
      List.mem_zipIdx_iff_getElem?.mp isListed
    simp [declarationAt?, isThere, isHere]
  rw [positions, List.map_flatMap, List.flatMap_congr inPackage, declarationsOf,
    List.map_flatMap, ← List.flatMap_map, List.zipIdx_map_fst]

/-- A declaration is found at the position of its identity. -/
theorem resolve?_eq_declarationAt? (graph : TypeGraph) (id : TypeId) :
    graph.resolve? id = ((positions graph.packages).find? (·.1 = id)).bind
      fun entry => declarationAt? graph.packages entry.2 := by
  have inMap := congrArg (fun entries => (entries.find? (·.1 = id)).bind (·.2))
    (map_declarationAt?_positions graph.packages)
  simp only [List.find?_map, Option.bind_map] at inMap
  rw [resolve?, declarations]
  refine Eq.trans ?_ inMap.symm
  exact (Option.bind_fun_some _).symm

end TypeGraph
end MarkerManifests
