import MarkerManifests.Graph.TypeGraph
import MarkerManifests.Proofs.Ordered.FirstOccurrences

/-!
# Putting packages together

Packages with one path become one package, which has their comments and their declarations one after
the other. The paths stand in the order in which they first occur. So no declaration is lost and
none is added, and packages with distinct paths stay as they are.
-/

namespace MarkerManifests
namespace TypeGraph

variable {packages earlier : List Package} {package : Package} {path : String}

/-! ## The packages with a path -/

/-- The package that the packages with a path are put together to. -/
def together (packages : List Package) (path : String) : Package where
  name := path
  doc := (packages.filter (·.name = path)).flatMap (·.doc)
  types := (packages.filter (·.name = path)).flatMap (·.types)

theorem together_append_of_ne (differs : path ≠ package.name) :
    together (earlier ++ [package]) path = together earlier path := by
  have others : (earlier ++ [package]).filter (·.name = path) =
      earlier.filter (·.name = path) := by
    simp [Ne.symm differs]
  rw [together, together, others]

theorem together_append_self (earlier : List Package) (package : Package) :
    together (earlier ++ [package]) package.name =
      { together earlier package.name with
        doc := (together earlier package.name).doc ++ package.doc
        types := (together earlier package.name).types ++ package.types } := by
  simp [together]

theorem together_append_of_not_mem (isNew : package.name ∉ earlier.map (·.name)) :
    together (earlier ++ [package]) package.name = package := by
  have noneBefore : earlier.filter (·.name = package.name) = [] := by
    refine List.filter_eq_nil_iff.mpr fun other member same => isNew ?_
    exact List.mem_map.mpr ⟨other, member, of_decide_eq_true same⟩
  simp [together, noneBefore]

/-- One more package joins the one with its path, or stands behind the others. -/
theorem addPackage_map_together {paths : List String} (distinct : paths.Nodup) :
    addPackage package (paths.map (together earlier)) =
      if package.name ∈ paths then
        paths.map (together (earlier ++ [package]))
      else
        paths.map (together (earlier ++ [package])) ++ [package] := by
  induction paths with
  | nil => rfl
  | cons path rest inductionHypothesis =>
      obtain ⟨absent, distinctRest⟩ := List.nodup_cons.mp distinct
      rw [List.map_cons, List.map_cons, addPackage]
      by_cases same : path = package.name
      · -- the other paths differ from this one
        subst same
        have others : rest.map (together (earlier ++ [package])) =
            rest.map (together earlier) := by
          refine List.map_congr_left fun other member => together_append_of_ne ?_
          rintro rfl
          exact absent member
        rw [if_pos List.mem_cons_self, together_append_self, others]
        exact if_pos rfl
      · have differs : ¬ (together earlier path).name = package.name := same
        rw [if_neg differs, inductionHypothesis distinctRest, together_append_of_ne same]
        have isLater : package.name ∈ path :: rest ↔ package.name ∈ rest := by
          rw [List.mem_cons, or_iff_right (Ne.symm same)]
        simp only [isLater]
        split <;> rfl

/-- Every path has one package, to which the packages with the path are put together. -/
theorem merge_eq (packages : List Package) :
    merge packages = (packages.map (·.name)).eraseDups.map (together packages) := by
  unfold merge
  induction packages using List.reverseRecOn with
  | nil => simp
  | append_singleton earlier package inductionHypothesis =>
      rw [List.foldl_append, List.foldl_cons, List.foldl_nil, inductionHypothesis,
        addPackage_map_together (nodup_eraseDups _), List.map_append, List.map_singleton,
        eraseDups_append_singleton]
      simp only [List.mem_eraseDups]
      split
      · rfl
      · rename_i isNew
        rw [List.map_append, List.map_singleton, together_append_of_not_mem isNew]

/-- The paths stand in the order in which they first occur. -/
theorem map_name_merge (packages : List Package) :
    (merge packages).map (·.name) = (packages.map (·.name)).eraseDups := by
  rw [merge_eq, List.map_map]
  exact List.map_id _

theorem eq_together_of_mem_merge (member : package ∈ merge packages) :
    package = together packages package.name := by
  rw [merge_eq] at member
  obtain ⟨path, -, rfl⟩ := List.mem_map.mp member
  rfl

theorem addPackage_of_not_mem (isNew : package.name ∉ packages.map (·.name)) :
    addPackage package packages = packages ++ [package] := by
  induction packages with
  | nil => rfl
  | cons first rest inductionHypothesis =>
      rw [List.map_cons, List.mem_cons, not_or] at isNew
      rw [addPackage, if_neg (Ne.symm isNew.1), inductionHypothesis isNew.2, List.cons_append]

/-- Packages with distinct paths stay as they are. -/
theorem merge_of_nodup (distinct : (packages.map (·.name)).Nodup) : merge packages = packages := by
  unfold merge
  induction packages using List.reverseRecOn with
  | nil => rfl
  | append_singleton earlier package inductionHypothesis =>
      rw [List.map_append, List.nodup_append] at distinct
      obtain ⟨distinctEarlier, -, apart⟩ := distinct
      have isNew : package.name ∉ earlier.map (·.name) := fun member =>
        apart _ member _ List.mem_cons_self rfl
      rw [List.foldl_append, inductionHypothesis distinctEarlier]
      exact addPackage_of_not_mem isNew

/-! ## Declarations -/

theorem declarationsOf_addPackage_perm (package : Package) (packages : List Package) :
    (declarationsOf (addPackage package packages)).Perm
      (declarationsOf packages ++ package.types) := by
  induction packages with
  | nil => simp [addPackage, declarationsOf]
  | cons first rest inductionHypothesis =>
      unfold declarationsOf at inductionHypothesis ⊢
      rw [addPackage]
      split
      · rw [List.flatMap_cons, List.flatMap_cons, List.append_assoc, List.append_assoc]
        exact List.perm_append_comm.append_left first.types
      · rw [List.flatMap_cons, List.flatMap_cons, List.append_assoc]
        exact inductionHypothesis.append_left first.types

/-- The declarations stay the same when packages are put together, though in another order. -/
theorem declarationsOf_merge_perm (packages : List Package) :
    (declarationsOf (merge packages)).Perm (declarationsOf packages) := by
  unfold merge
  induction packages using List.reverseRecOn with
  | nil => rfl
  | append_singleton earlier package inductionHypothesis =>
      rw [List.foldl_append, List.foldl_cons, List.foldl_nil]
      refine (declarationsOf_addPackage_perm package _).trans ?_
      have whole : declarationsOf (earlier ++ [package]) =
          declarationsOf earlier ++ package.types := by
        simp [declarationsOf]
      rw [whole]
      exact inductionHypothesis.append_right package.types

/-! ## Graphs -/

section FirstRepeated

variable {Element : Type} [DecidableEq Element] {elements before : List Element}

theorem firstRepeated?_eq_none_of_nodup
    (distinct : elements.Nodup)
    (fresh : ∀ element ∈ elements, element ∉ before) :
    firstRepeated? before elements = none := by
  induction elements generalizing before with
  | nil => rfl
  | cons first rest inductionHypothesis =>
      obtain ⟨absent, distinctRest⟩ := List.nodup_cons.mp distinct
      rw [firstRepeated?, if_neg (fresh first List.mem_cons_self)]
      refine inductionHypothesis distinctRest fun element member isOld => ?_
      rcases List.mem_cons.mp isOld with rfl | isOlder
      · exact absent member
      · exact fresh element (List.mem_cons_of_mem first member) isOlder

theorem count_of_firstRepeated?_eq_some
    {element : Element}
    (repeated : firstRepeated? before elements = some element) :
    2 ≤ (before ++ elements).count element := by
  induction elements generalizing before with
  | nil => cases repeated
  | cons first rest inductionHypothesis =>
      rw [firstRepeated?] at repeated
      split at repeated
      · rename_i occurred
        cases repeated
        have once := List.count_pos_iff.mpr occurred
        rw [List.count_append, List.count_cons_self]
        omega
      · rw [List.perm_middle.count_eq]
        exact inductionHypothesis repeated

end FirstRepeated

/-- Packages form a graph if this is the graph of the packages that are put together. -/
theorem ofPackages_eq_ok_iff {graph : TypeGraph} :
    ofPackages packages = .ok graph ↔
      graph.packages = merge (packages.map Package.qualify) := by
  unfold ofPackages
  dsimp only
  split
  · rename_i repeated
    cases graph
    simp [eq_comm]
  · rename_i id repeated
    simp only [reduceCtorEq, false_iff]
    intro samePackages
    have noneRepeated : firstRepeated? [] ((declarationsOf graph.packages).map (·.id)) = none :=
      firstRepeated?_eq_none_of_nodup graph.distinct fun _ _ => List.not_mem_nil
    rw [samePackages, repeated] at noneRepeated
    cases noneRepeated

theorem nodup_names_of_ofPackages
    {graph : TypeGraph}
    (accepted : ofPackages packages = .ok graph) :
    (graph.packages.map (·.name)).Nodup := by
  rw [ofPackages_eq_ok_iff.mp accepted, map_name_merge]
  exact nodup_eraseDups _

end TypeGraph
end MarkerManifests
