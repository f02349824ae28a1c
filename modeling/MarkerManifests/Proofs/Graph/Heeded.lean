import MarkerManifests.Marker.Index
import MarkerManifests.Proofs.Graph.Merging
import MarkerManifests.Proofs.Marker.Ignored

/-!
# Graphs without ignored entries

What is left of a graph when the ignored entries of all its comments are left out. It has the same
declarations otherwise, and the same markers are indexed. Leaving out ignored entries before
packages are put together gives the same graph as leaving them out afterwards.
-/

namespace MarkerManifests

/-! ## What is left -/

/-- The field without the ignored entries of its comment. -/
def Field.heeded (registry : Registry) (id : TypeId) (field : Field) : Field :=
  { field with doc := registry.heeded (.field id field.name) field.doc }

/-- The shape without the ignored entries of the comments of fields. -/
def Shape.heeded (registry : Registry) (id : TypeId) : Shape → Shape
  | record fields => record (fields.map (·.heeded registry id))
  | synonym target => synonym target
  | enumeration base members => enumeration base members
  | scalar kind => scalar kind

/-- The declaration without the ignored entries of its comment and those of its fields. -/
def Declaration.heeded (registry : Registry) (declaration : Declaration) : Declaration :=
  { declaration with
    doc := registry.heeded (.declaration declaration.id) declaration.doc
    shape := declaration.shape.heeded registry declaration.id }

/-- The package without the ignored entries of its comments. -/
def Package.heeded (registry : Registry) (package : Package) : Package :=
  { package with
    doc := registry.heeded (.package package.name) package.doc
    types := package.types.map (·.heeded registry) }

variable {registry : Registry}

@[simp] theorem Declaration.id_heeded (declaration : Declaration) :
    (declaration.heeded registry).id = declaration.id := rfl

@[simp] theorem Declaration.name_heeded (declaration : Declaration) :
    (declaration.heeded registry).name = declaration.name := rfl

@[simp] theorem Declaration.doc_heeded (declaration : Declaration) :
    (declaration.heeded registry).doc =
      registry.heeded (.declaration declaration.id) declaration.doc := rfl

@[simp] theorem Declaration.shape_heeded (declaration : Declaration) :
    (declaration.heeded registry).shape = declaration.shape.heeded registry declaration.id := rfl

@[simp] theorem Package.name_heeded (package : Package) :
    (package.heeded registry).name = package.name := rfl

@[simp] theorem Shape.isRecord_heeded (id : TypeId) (shape : Shape) :
    (shape.heeded registry id).isRecord = shape.isRecord := by
  cases shape <;> rfl

theorem Declaration.fields_heeded (declaration : Declaration) :
    (declaration.heeded registry).fields =
      declaration.fields.map (·.heeded registry declaration.id) := by
  unfold Declaration.fields Declaration.heeded
  cases declaration.shape <;> rfl

theorem declarationsOf_heeded (packages : List Package) :
    declarationsOf (packages.map (·.heeded registry)) =
      (declarationsOf packages).map (·.heeded registry) := by
  rw [declarationsOf, declarationsOf, List.flatMap_map, List.map_flatMap]
  rfl

theorem ids_declarationsOf_heeded (registry : Registry) (packages : List Package) :
    (declarationsOf (packages.map (·.heeded registry))).map (·.id) =
      (declarationsOf packages).map (·.id) := by
  rw [declarationsOf_heeded, List.map_map]
  rfl

namespace TypeGraph

/-- The graph without the ignored entries of its comments. -/
def heeded (registry : Registry) (graph : TypeGraph) : TypeGraph where
  packages := graph.packages.map (·.heeded registry)
  distinct := by
    rw [ids_declarationsOf_heeded]
    exact graph.distinct

theorem declarations_heeded (graph : TypeGraph) :
    (graph.heeded registry).declarations = graph.declarations.map (·.heeded registry) :=
  declarationsOf_heeded graph.packages

@[simp] theorem size_heeded (graph : TypeGraph) : (graph.heeded registry).size = graph.size := by
  rw [size, size, declarations_heeded, List.length_map]

theorem resolve?_heeded (graph : TypeGraph) (id : TypeId) :
    (graph.heeded registry).resolve? id = (graph.resolve? id).map (·.heeded registry) := by
  rw [resolve?, resolve?, declarations_heeded, List.find?_map]
  rfl

end TypeGraph

/-! ## The index -/

theorem Declaration.comments_heeded (declaration : Declaration) :
    (declaration.heeded registry).comments =
      declaration.comments.map fun comment => (comment.1, registry.heeded comment.1 comment.2) := by
  unfold Declaration.comments
  rw [Declaration.fields_heeded, List.map_cons, List.map_map, List.map_map]
  rfl

theorem TypeGraph.comments_heeded (graph : TypeGraph) :
    (graph.heeded registry).comments =
      graph.comments.map fun comment => (comment.1, registry.heeded comment.1 comment.2) := by
  have inPackage : ∀ package : Package,
      ((package.heeded registry).types.flatMap Declaration.comments) =
        (package.types.flatMap Declaration.comments).map
          fun comment => (comment.1, registry.heeded comment.1 comment.2) := by
    intro package
    rw [Package.heeded, List.flatMap_map, List.map_flatMap]
    exact congrArg (package.types.flatMap ·) (funext Declaration.comments_heeded)
  unfold TypeGraph.comments
  rw [TypeGraph.heeded, List.flatMap_map, List.map_flatMap]
  refine congrArg (graph.packages.flatMap ·) (funext fun package => ?_)
  rw [inPackage, List.map_cons]
  rfl

namespace MarkerIndex

theorem addComments_heeded
    (index : MarkerIndex)
    (diagnostics others : Diagnostics)
    (comments : List (Location × List String)) :
    (addComments registry index diagnostics
        (comments.map fun comment => (comment.1, registry.heeded comment.1 comment.2))).1 =
      (addComments registry index others comments).1 := by
  induction comments generalizing index diagnostics others with
  | nil => rfl
  | cons comment rest inductionHypothesis =>
      rw [List.map_cons, addComments, addComments]
      dsimp only
      rw [registry.readComment_heeded]
      exact inductionHypothesis _ _ _

/-- Ignored entries do not change the index. -/
theorem ofGraph_heeded (registry : Registry) (graph : TypeGraph) :
    (ofGraph registry (graph.heeded registry)).1 = (ofGraph registry graph).1 := by
  rw [ofGraph, ofGraph, TypeGraph.comments_heeded]
  exact addComments_heeded {} [] [] graph.comments

end MarkerIndex

/-! ## Building graphs -/

namespace TypeGraph

theorem addPackage_heeded (package : Package) (packages : List Package) :
    addPackage (package.heeded registry) (packages.map (·.heeded registry)) =
      (addPackage package packages).map (·.heeded registry) := by
  induction packages with
  | nil => rfl
  | cons first rest inductionHypothesis =>
      rw [List.map_cons, addPackage, addPackage, Package.name_heeded, Package.name_heeded]
      split
      · rename_i sameName
        simp [Package.heeded, Registry.heeded_append, sameName]
      · rw [inductionHypothesis, List.map_cons]

/-- Putting packages together and leaving out ignored entries may change places. -/
theorem merge_heeded (packages : List Package) :
    merge (packages.map (·.heeded registry)) = (merge packages).map (·.heeded registry) := by
  have folded : ∀ merged : List Package,
      (packages.map (·.heeded registry)).foldl
          (fun merged package => addPackage package merged) (merged.map (·.heeded registry)) =
        (packages.foldl (fun merged package => addPackage package merged) merged).map
          (·.heeded registry) := by
    induction packages with
    | nil => exact fun _ => rfl
    | cons package rest inductionHypothesis =>
        intro merged
        rw [List.map_cons, List.foldl_cons, List.foldl_cons, addPackage_heeded]
        exact inductionHypothesis (addPackage package merged)
  exact folded []

/-- Packages that differ in ignored entries only form graphs that differ in ignored entries
only. -/
theorem exists_ofPackages_of_heeded_eq
    {packages others : List Package}
    {graph : TypeGraph}
    (same : (others.map Package.qualify).map (·.heeded registry) =
      (packages.map Package.qualify).map (·.heeded registry))
    (accepted : ofPackages packages = .ok graph) :
    ∃ other, ofPackages others = .ok other ∧ other.heeded registry = graph.heeded registry := by
  have isMerged := ofPackages_eq_ok_iff.mp accepted
  have sameMerged : (merge (others.map Package.qualify)).map (·.heeded registry) =
      graph.packages.map (·.heeded registry) := by
    rw [← merge_heeded, same, merge_heeded, isMerged]
  -- identities are left as they are, so none is repeated among the others either
  have distinct : ((declarationsOf (merge (others.map Package.qualify))).map (·.id)).Nodup := by
    rw [← ids_declarationsOf_heeded registry, sameMerged, ids_declarationsOf_heeded]
    exact graph.distinct
  refine ⟨⟨_, distinct⟩, ofPackages_eq_ok_iff.mpr rfl, ?_⟩
  unfold heeded
  simp only [sameMerged]

end TypeGraph
end MarkerManifests
