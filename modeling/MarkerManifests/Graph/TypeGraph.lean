import MarkerManifests.Graph.Basic

/-!
# Building a type graph

Packages with the same path become one package at the place of the first of them. Declarations and
references without a package belong to the package around them. No two declarations of a graph
have the same identity.
-/

namespace MarkerManifests

/-- Why packages do not form a type graph. -/
inductive GraphError where
  | duplicateDeclaration (id : TypeId)
  deriving DecidableEq

/-- The wording of an error. -/
def GraphError.message : GraphError → String
  | duplicateDeclaration id => s!"duplicate declaration {id.text} in type graph"

/-- The declarations of packages, in order. -/
def declarationsOf (packages : List Package) : List Declaration :=
  packages.flatMap (·.types)

/-- Packages whose declarations have distinct identities. -/
structure TypeGraph where
  packages : List Package := []
  distinct : ((declarationsOf packages).map (·.id)).Nodup := by decide

namespace TypeGraph

/-- Appends a package, or adds its comment and declarations to the package with the same path. -/
def addPackage (package : Package) : List Package → List Package
  | [] => [package]
  | first :: rest =>
    if first.name = package.name then
      { first with doc := first.doc ++ package.doc, types := first.types ++ package.types } :: rest
    else
      first :: addPackage package rest

/-- Packages with distinct paths, made from packages that may share a path. -/
def merge (packages : List Package) : List Package :=
  packages.foldl (fun merged package => addPackage package merged) []

/-- The first element that stands in the list before. -/
def firstRepeated? {Element : Type} [DecidableEq Element] (before : List Element) :
    List Element → Option Element
  | [] => none
  | first :: rest => if first ∈ before then some first else firstRepeated? (first :: before) rest

/-- A list without a repeated element has no duplicates. -/
theorem nodup_of_firstRepeated?_eq_none {Element : Type} [DecidableEq Element]
    {elements before : List Element} (none_repeated : firstRepeated? before elements = none) :
    elements.Nodup ∧ ∀ element ∈ elements, element ∉ before := by
  induction elements generalizing before with
  | nil => simp
  | cons first rest step =>
    unfold firstRepeated? at none_repeated
    split at none_repeated
    · simp at none_repeated
    · rename_i fresh
      have later := step none_repeated
      simp only [List.nodup_cons, List.mem_cons, forall_eq_or_imp]
      refine ⟨⟨fun inside => ?_, later.1⟩, fresh, fun element inside => ?_⟩
      · exact later.2 first inside (by simp)
      · exact fun old => later.2 element inside (by simp [old])

/-- The graph of a list of packages. -/
def ofPackages (packages : List Package) : Except GraphError TypeGraph :=
  let merged := merge (packages.map Package.qualify)
  match repeated : firstRepeated? [] ((declarationsOf merged).map (·.id)) with
  | none => .ok ⟨merged, (nodup_of_firstRepeated?_eq_none repeated).1⟩
  | some id => .error (.duplicateDeclaration id)

/-- Every declaration, in package order and then in source order. -/
def declarations (graph : TypeGraph) : List Declaration :=
  declarationsOf graph.packages

/-- The declaration with an identity. -/
def resolve? (graph : TypeGraph) (id : TypeId) : Option Declaration :=
  graph.declarations.find? (·.id = id)

theorem id_of_resolve? {graph : TypeGraph} {id : TypeId} {declaration : Declaration}
    (resolved : graph.resolve? id = some declaration) : declaration.id = id := by
  simpa using List.find?_some resolved

/-- The package with a path. -/
def package? (graph : TypeGraph) (name : String) : Option Package :=
  graph.packages.find? (·.name = name)

/-- The number of declarations. -/
def size (graph : TypeGraph) : Nat :=
  graph.declarations.length

end TypeGraph
end MarkerManifests
