import MarkerManifests.Proofs.Graph.Completion
import MarkerManifests.Proofs.Graph.Merging
import MarkerManifests.Proofs.Graph.Resolving

/-!
# The normal form of packages

Packages do not form a graph exactly if two declarations in packages with one path have one name.
Otherwise the graph is a normal form of the packages: every path has one package, every declaration
is found by its identity, references and keys are complete, and the packages of the graph form the
same graph again.
-/

namespace MarkerManifests

/-! ## Qualification -/

namespace TypeRef

variable {path : String}

/-- Qualification changes nothing where a path was put already. -/
theorem qualify_qualify (path : String) (type : TypeRef) :
    (type.qualify path).qualify path = type.qualify path := by
  induction type with
  | scalar kind => rfl
  | named target =>
      by_cases unqualified : target.package = "" <;> simp [qualify, unqualified]
  | list element inductionHypothesis => rw [qualify, qualify, inductionHypothesis]
  | map value inductionHypothesis => rw [qualify, qualify, inductionHypothesis]
  | pointer target inductionHypothesis => rw [qualify, qualify, inductionHypothesis]

/-- At any depth, a qualified reference names no declaration without a package. -/
theorem package_ne_of_mem_targets_qualify
    (nonempty : path ≠ "")
    (type : TypeRef)
    {target : TypeId}
    (named : target ∈ (type.qualify path).targets) :
    target.package ≠ "" := by
  induction type with
  | scalar kind => cases named
  | named other =>
      rw [qualify] at named
      split at named
      · rw [targets, List.mem_singleton] at named
        exact named ▸ nonempty
      · rename_i qualified
        rw [targets, List.mem_singleton] at named
        exact named ▸ qualified
  | list element inductionHypothesis => exact inductionHypothesis named
  | map value inductionHypothesis => exact inductionHypothesis named
  | pointer inner inductionHypothesis => exact inductionHypothesis named

end TypeRef

namespace Field

theorem qualify_qualify (path : String) (field : Field) :
    (field.qualify path).qualify path = field.qualify path := by
  unfold qualify
  dsimp only
  rw [TypeRef.qualify_qualify]
  by_cases unnamed : field.key = "" <;> simp [unnamed]

theorem key_qualify_ne
    {path : String}
    {field : Field}
    (nonempty : (field.qualify path).name ≠ "") :
    (field.qualify path).key ≠ "" := by
  unfold qualify at nonempty ⊢
  dsimp only at nonempty ⊢
  split
  · exact nonempty
  · assumption

end Field

namespace Shape

/-- The types that stand in a shape: those of the fields of a record, or the one that an alias
stands for. -/
def types : Shape → List TypeRef
  | record fields => fields.map (·.type)
  | synonym target => [target]
  | enumeration _ _ => []
  | scalar _ => []

theorem qualify_qualify (path : String) (shape : Shape) :
    (shape.qualify path).qualify path = shape.qualify path := by
  cases shape with
  | record fields =>
      rw [qualify, qualify, List.map_map]
      exact congrArg record (List.map_congr_left fun field _ => field.qualify_qualify path)
  | synonym target => rw [qualify, qualify, TypeRef.qualify_qualify]
  | enumeration base members => rfl
  | scalar kind => rfl

theorem exists_qualify_of_mem_types
    {path : String}
    {shape : Shape}
    {type : TypeRef}
    (member : type ∈ (shape.qualify path).types) :
    ∃ original : TypeRef, type = original.qualify path := by
  cases shape with
  | record fields =>
      rw [qualify, types, List.map_map] at member
      obtain ⟨field, -, rfl⟩ := List.mem_map.mp member
      exact ⟨field.type, rfl⟩
  | synonym target => exact ⟨target, List.mem_singleton.mp member⟩
  | enumeration base members => cases member
  | scalar kind => cases member

theorem exists_qualify_of_mem_fields
    {path : String}
    {shape : Shape}
    {field : Field}
    (member : field ∈ (shape.qualify path).fields) :
    ∃ original : Field, field = original.qualify path := by
  cases shape with
  | record fields =>
      obtain ⟨original, -, rfl⟩ := List.mem_map.mp member
      exact ⟨original, rfl⟩
  | synonym target => cases member
  | enumeration base members => cases member
  | scalar kind => cases member

end Shape

theorem Declaration.qualify_qualify (path : String) (declaration : Declaration) :
    (declaration.qualify path).qualify path = declaration.qualify path := by
  unfold qualify
  dsimp only
  rw [Shape.qualify_qualify]

/-- A package whose declarations were all moved into it. -/
def Package.IsQualified (package : Package) : Prop :=
  ∀ declaration ∈ package.types, ∃ original : Declaration,
    declaration = original.qualify package.name

theorem Package.IsQualified.qualify_eq {package : Package} (isQualified : package.IsQualified) :
    package.qualify = package := by
  have unchanged : package.types.map (·.qualify package.name) = package.types := by
    refine (List.map_congr_left fun declaration member => ?_).trans (List.map_id _)
    obtain ⟨original, same⟩ := isQualified declaration member
    rw [same]
    exact original.qualify_qualify package.name
  rw [Package.qualify, unchanged]

namespace TypeGraph

/-! ## Declarations with one identity -/

/-- The declarations of a name in the packages with a path. -/
def declaredAs (packages : List Package) (id : TypeId) : List Declaration :=
  ((packages.filter (·.name = id.package)).flatMap (·.types)).filter (·.name = id.name)

/-- As many declarations get an identity as there are declarations of the name in packages with the
path. -/
theorem count_id_qualified (packages : List Package) (id : TypeId) :
    ((declarationsOf (packages.map Package.qualify)).map (·.id)).count id =
      (declaredAs packages id).length := by
  unfold declarationsOf declaredAs
  induction packages with
  | nil => rfl
  | cons package rest inductionHypothesis =>
      rw [List.map_cons, List.flatMap_cons, List.map_append, List.count_append,
        inductionHypothesis]
      have ids : package.qualify.types.map (·.id) =
          package.types.map fun declaration => (⟨package.name, declaration.name⟩ : TypeId) := by
        rw [Package.qualify, List.map_map]
        rfl
      rw [ids, List.count, List.countP_map]
      by_cases samePath : package.name = id.package
      · rw [List.filter_cons_of_pos (by simpa using samePath), List.flatMap_cons,
          List.filter_append, List.length_append]
        congr 1
        refine (List.countP_congr fun declaration _ => ?_).trans List.countP_eq_length_filter
        obtain ⟨path, name⟩ := id
        simp [show package.name = path from samePath]
      · rw [List.filter_cons_of_neg (by simpa using samePath)]
        have nothing : List.countP ((· == id) ∘ fun declaration : Declaration =>
            (⟨package.name, declaration.name⟩ : TypeId)) package.types = 0 := by
          refine List.countP_eq_zero.mpr fun declaration _ isId => samePath ?_
          exact congrArg TypeId.package (of_decide_eq_true isId)
        rw [nothing, Nat.zero_add]

/-- Packages form a graph exactly if no two declarations get one identity. -/
theorem nodup_ids_merged_iff (packages : List Package) :
    ((declarationsOf (merge (packages.map Package.qualify))).map (·.id)).Nodup ↔
      ∀ id, (declaredAs packages id).length ≤ 1 := by
  rw [((declarationsOf_merge_perm _).map _).nodup_iff, List.nodup_iff_count_le_one]
  simp only [count_id_qualified]

/-- The error names an identity that two declarations get. -/
theorem length_declaredAs_of_error
    {packages : List Package}
    {id : TypeId}
    (refused : ofPackages packages = .error (.duplicateDeclaration id)) :
    2 ≤ (declaredAs packages id).length := by
  unfold ofPackages at refused
  dsimp only at refused
  split at refused
  · cases refused
  · rename_i repeated
    cases refused
    have twice := count_of_firstRepeated?_eq_some repeated
    rwa [List.nil_append, ((declarationsOf_merge_perm _).map _).count_eq, count_id_qualified]
      at twice

/-! ## Normal forms -/

/-- A graph that is the normal form of packages. -/
structure IsNormalForm (packages : List Package) (graph : TypeGraph) : Prop where
  /-- No path has two packages. -/
  distinct : (graph.packages.map (·.name)).Nodup
  /-- The paths stand in the order in which they first occur. -/
  order : graph.packages.map (·.name) = (packages.map (·.name)).eraseDups
  /-- The comments of the packages with a path stand one after the other. -/
  doc : ∀ package ∈ graph.packages,
    package.doc = (packages.filter (·.name = package.name)).flatMap (·.doc)
  /-- The declarations of the packages with a path stand one after the other, and each of them is
  completed: nothing of it changes but its package, references without a package and missing
  keys. -/
  types : ∀ package ∈ graph.packages,
    List.Forall₂ (Declaration.Completes package.name)
      ((packages.filter (·.name = package.name)).flatMap (·.types)) package.types
  /-- A declaration is found by an identity exactly if it is declared and has the identity. -/
  found : ∀ id declaration, graph.resolve? id = some declaration ↔
    declaration ∈ graph.declarations ∧ declaration.id = id
  /-- What is found stands at the position of the identity. -/
  placed : ∀ id, graph.resolve? id = ((positions graph.packages).find? (·.1 = id)).bind
    fun entry => declarationAt? graph.packages entry.2
  /-- In a package with a path, every reference at any depth names a package. -/
  qualified : ∀ package ∈ graph.packages, package.name ≠ "" →
    ∀ declaration ∈ package.types, ∀ type ∈ declaration.shape.types, ∀ target ∈ type.targets,
      target.package ≠ ""
  /-- Every field with a name has a key. -/
  keyed : ∀ declaration ∈ graph.declarations, ∀ field ∈ declaration.fields,
    field.name ≠ "" → field.key ≠ ""
  /-- The packages of the graph form the graph again. -/
  stable : ofPackages graph.packages = .ok graph

/-- The packages with a path of which the declarations were moved into the packages. -/
theorem together_qualified (packages : List Package) (path : String) :
    together (packages.map Package.qualify) path =
      ⟨path, (packages.filter (·.name = path)).flatMap (·.doc),
        (packages.filter (·.name = path)).flatMap fun part => part.types.map (·.qualify path)⟩ := by
  have sameParts : (packages.map Package.qualify).filter (·.name = path) =
      (packages.filter (·.name = path)).map Package.qualify := List.filter_map
  rw [together, sameParts, List.flatMap_map, List.flatMap_map]
  congr 1
  refine List.flatMap_congr fun part isPart => ?_
  have samePath : part.name = path := of_decide_eq_true (List.mem_filter.mp isPart).2
  rw [Package.qualify, samePath]

theorem isQualified_of_mem_merge
    {packages : List Package}
    {package : Package}
    (member : package ∈ merge (packages.map Package.qualify)) :
    package.IsQualified := by
  intro declaration isDeclared
  have isTogether := eq_together_of_mem_merge member
  rw [together_qualified] at isTogether
  rw [isTogether] at isDeclared
  obtain ⟨part, -, inPart⟩ := List.mem_flatMap.mp isDeclared
  obtain ⟨original, -, rfl⟩ := List.mem_map.mp inPart
  exact ⟨original, rfl⟩

theorem isNormalForm_of_ofPackages
    {packages : List Package}
    {graph : TypeGraph}
    (accepted : ofPackages packages = .ok graph) :
    IsNormalForm packages graph := by
  have isMerged := ofPackages_eq_ok_iff.mp accepted
  have distinct := nodup_names_of_ofPackages accepted
  have isTogether : ∀ package ∈ graph.packages,
      package = together (packages.map Package.qualify) package.name := fun package member =>
    eq_together_of_mem_merge (isMerged ▸ member)
  have isQualified : ∀ package ∈ graph.packages, package.IsQualified := fun package member =>
    isQualified_of_mem_merge (isMerged ▸ member)
  refine ⟨distinct, ?_, ?_, ?_, fun id declaration => resolve?_eq_some_iff,
    graph.resolve?_eq_declarationAt?, ?_, ?_, ?_⟩
  · rw [isMerged, map_name_merge, List.map_map]
    rfl
  · intro package member
    have same := congrArg Package.doc (isTogether package member)
    rwa [together_qualified] at same
  · intro package member
    have same := congrArg Package.types (isTogether package member)
    rw [together_qualified] at same
    rwa [Declaration.forall₂_completes_iff, List.map_flatMap]
  · intro package member nonempty declaration isDeclared type isType target named
    obtain ⟨original, rfl⟩ := isQualified package member declaration isDeclared
    obtain ⟨originalType, rfl⟩ := Shape.exists_qualify_of_mem_types isType
    exact originalType.package_ne_of_mem_targets_qualify nonempty named
  · intro declaration isDeclared field isField
    obtain ⟨package, member, inPackage⟩ := List.mem_flatMap.mp isDeclared
    obtain ⟨original, rfl⟩ := isQualified package member declaration inPackage
    obtain ⟨originalField, rfl⟩ := Shape.exists_qualify_of_mem_fields isField
    exact Field.key_qualify_ne
  · have unchanged : graph.packages.map Package.qualify = graph.packages :=
      (List.map_congr_left fun package member =>
        (isQualified package member).qualify_eq).trans (List.map_id _)
    rw [ofPackages_eq_ok_iff, unchanged, merge_of_nodup distinct]

theorem IsNormalForm.ofPackages_eq
    {packages : List Package}
    {graph : TypeGraph}
    (isNormalForm : IsNormalForm packages graph) :
    ofPackages packages = .ok graph := by
  rw [ofPackages_eq_ok_iff, merge_eq, List.map_map]
  have sameNames : packages.map (Package.name ∘ Package.qualify) = packages.map (·.name) := rfl
  rw [sameNames, ← isNormalForm.order, List.map_map]
  refine ((List.map_congr_left fun package member => ?_).trans (List.map_id _)).symm
  have types := Declaration.forall₂_completes_iff.mp (isNormalForm.types package member)
  rw [List.map_flatMap] at types
  rw [Function.comp_apply, together_qualified, ← isNormalForm.doc package member, ← types]
  rfl

/-- Packages are refused exactly if two declarations in packages with one path have one name, and
the error names such a declaration. Otherwise they form the graph that is their normal form. -/
theorem normalizes_ofPackages (packages : List Package) :
    ((∃ error, ofPackages packages = .error error) ↔
        ∃ id, 2 ≤ (declaredAs packages id).length) ∧
      (∀ id, ofPackages packages = .error (.duplicateDeclaration id) →
        2 ≤ (declaredAs packages id).length) ∧
      ∀ graph, ofPackages packages = .ok graph ↔ IsNormalForm packages graph := by
  refine ⟨⟨?_, ?_⟩, fun id => length_declaredAs_of_error, fun graph =>
    ⟨isNormalForm_of_ofPackages, IsNormalForm.ofPackages_eq⟩⟩
  · rintro ⟨⟨id⟩, refused⟩
    exact ⟨id, length_declaredAs_of_error refused⟩
  · rintro ⟨id, twice⟩
    cases outcome : ofPackages packages with
    | error error => exact ⟨error, rfl⟩
    | ok graph =>
        have distinct := graph.distinct
        rw [ofPackages_eq_ok_iff.mp outcome, nodup_ids_merged_iff] at distinct
        have atMostOnce := distinct id
        omega

/-! ## A package in two parts -/

/-- A package in two parts around another one. The first part refers to the second one without a
path. -/
def partedPackages : List Package := [
  { name := "apps", doc := ["First part."], types := [{
      name := "Set"
      shape := .record [
        { name := "items", type := .list (.pointer (.named ⟨"", "Item"⟩)) }] }] },
  { name := "batch", types := [{ name := "Set", shape := .scalar .string }] },
  { name := "apps", doc := ["Second part."], types := [{
      name := "Item", package := "elsewhere", shape := .synonym (.named ⟨"batch", "Set"⟩) }] }]

/-- The graph that the parts form. -/
def partedGraph : TypeGraph where
  packages := merge (partedPackages.map Package.qualify)
  distinct := by decide +kernel

/-- The parts with another declaration of the first name. -/
def repeatingPackages : List Package :=
  partedPackages ++ [{ name := "apps", types := [{ name := "Set", shape := .record [] }] }]

/-- The parts form a graph together, but not with a second declaration of a name. -/
theorem normalizes_partedPackages :
    (ofPackages partedPackages = .ok partedGraph ∧ IsNormalForm partedPackages partedGraph ∧
      partedGraph.packages.map (·.doc) = [["First part.", "Second part."], []] ∧
      partedGraph.declarations.map (·.id) =
        [⟨"apps", "Set"⟩, ⟨"apps", "Item"⟩, ⟨"batch", "Set"⟩]) ∧
    ∃ id, ofPackages repeatingPackages = .error (.duplicateDeclaration id) ∧
      2 ≤ (declaredAs repeatingPackages id).length := by
  have accepted : ofPackages partedPackages = .ok partedGraph := ofPackages_eq_ok_iff.mpr rfl
  have isNormalForm := ((normalizes_ofPackages partedPackages).2.2 partedGraph).mp accepted
  refine ⟨⟨accepted, isNormalForm, by decide +kernel, by decide +kernel⟩, ?_⟩
  have normalizes := normalizes_ofPackages repeatingPackages
  obtain ⟨⟨id⟩, refused⟩ := normalizes.1.mpr ⟨⟨"apps", "Set"⟩, by decide +kernel⟩
  exact ⟨id, refused, normalizes.2.1 id refused⟩

end TypeGraph
end MarkerManifests
