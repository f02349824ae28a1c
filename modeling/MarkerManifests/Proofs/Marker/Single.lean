import Mathlib.Data.List.Perm.Basic
import MarkerManifests.Proofs.Graph.Heeded
import MarkerManifests.Proofs.Marker.Collected
import MarkerManifests.Vocabulary.Complete

/-!
# Markers that may occur only once

Of a marker that may occur only once, the first occurrence in a comment is kept. Packages and
declarations have one comment each, so there the index has the marker at most once. Nothing keeps
two fields of a record from having the same name, and then the index has an occurrence from the
comment of each of them.
-/

namespace MarkerManifests

/-! ## One comment -/

theorem Markers.named_append (markers others : Markers) (name : String) :
    (markers ++ others).named name = markers.named name ++ others.named name :=
  List.filter_append markers others

theorem Markers.has_iff {markers : Markers} {name : String} :
    markers.has name = true ↔ markers.named name ≠ [] := by
  simp [has, named]

namespace Registry

variable {registry : Registry} {location : Location} {name : String} {definition : Definition}

/-- The marker of a line has the location of the line. -/
theorem location_of_marker?
    {line : List Char}
    {marker : Marker}
    (isMarker : registry.marker? location line = some marker) :
    marker.location = location := by
  unfold marker? readLine at isMarker
  split at isMarker
  · rename_i found isRead
    subst isMarker
    split at isRead
    · cases isRead
    · exact location_of_readBody isRead
  · cases isMarker

/-- A marker that may occur only once is kept if none with its name was kept before. -/
theorem named_keepMarker
    (isDefined : registry.lookup? name location.applicability = some definition)
    (isSingle : definition.repeatable = false)
    {marker : Marker}
    (isHere : marker.location = location)
    (kept : Markers) :
    (registry.keepMarker kept marker).named name =
      if marker.name = name ∧ kept.named name = [] then [marker] else kept.named name := by
  have repeats : marker.name = name → registry.isRepeated kept marker = kept.has name := by
    rintro rfl
    rw [isRepeated, isHere, isDefined]
    simp [isSingle]
  unfold keepMarker
  by_cases sameName : marker.name = name
  · rw [repeats sameName]
    by_cases before : kept.named name = []
    · have isNew : ¬ kept.has name = true := fun has => Markers.has_iff.mp has before
      rw [if_neg isNew, if_pos ⟨sameName, before⟩, Markers.named_append, before]
      simp [Markers.named, sameName]
    · rw [if_pos (Markers.has_iff.mpr before), if_neg fun isFirst => before isFirst.2]
  · rw [if_neg (c := _ ∧ _) fun isFirst => sameName isFirst.1]
    split
    · rfl
    · simp [Markers.named, sameName]

/-- Of a marker that may occur only once, the first one that is read is kept. -/
theorem named_foldl_keepMarker
    (isDefined : registry.lookup? name location.applicability = some definition)
    (isSingle : definition.repeatable = false)
    (markers : Markers)
    (areHere : ∀ marker ∈ markers, marker.location = location) :
    (markers.foldl registry.keepMarker []).named name = (markers.named name).take 1 := by
  induction markers using List.reverseRecOn with
  | nil => rfl
  | append_singleton earlier marker inductionHypothesis =>
      have first := inductionHypothesis fun marker member =>
        areHere marker (List.mem_append_left _ member)
      have isHere := areHere marker (List.mem_append_right _ List.mem_cons_self)
      rw [List.foldl_append, List.foldl_cons, List.foldl_nil,
        named_keepMarker isDefined isSingle isHere, first, Markers.named_append]
      -- another marker with the name is kept only if there was none before
      cases before : Markers.named earlier name with
      | nil => by_cases sameName : marker.name = name <;> simp [Markers.named, sameName]
      | cons kept rest => simp

/-- Of a marker that may occur only once, the first occurrence in a comment is kept. -/
theorem named_readComment
    (isDefined : registry.lookup? name location.applicability = some definition)
    (isSingle : definition.repeatable = false)
    (doc : List String) :
    (registry.readComment location doc).1.named name =
      (Markers.named ((Comment.lines doc).filterMap (registry.marker? location)) name).take 1 := by
  rw [readComment, Comment.markers, readMarkers_markersFrom]
  refine named_foldl_keepMarker isDefined isSingle _ fun marker member => ?_
  obtain ⟨line, -, isMarker⟩ := List.mem_filterMap.mp member
  exact location_of_marker? isMarker

theorem length_named_readComment
    (isDefined : registry.lookup? name location.applicability = some definition)
    (isSingle : definition.repeatable = false)
    (doc : List String) :
    ((registry.readComment location doc).1.named name).length =
      if (registry.readComment location doc).1.has name then 1 else 0 := by
  have atMostOne : ((registry.readComment location doc).1.named name).length ≤ 1 := by
    rw [named_readComment isDefined isSingle]
    exact List.length_take_le 1 _
  split
  · rename_i has
    have nonempty := List.length_pos_iff.mpr (Markers.has_iff.mp has)
    omega
  · rename_i hasNot
    rw [List.length_eq_zero_iff]
    by_contra nonempty
    exact hasNot (Markers.has_iff.mpr nonempty)

end Registry

/-! ## Elements with distinct keys -/

section Keys

variable {Element Key : Type} {key : Element → Key} {elements : List Element}

/-- At most one element has a key if no key occurs twice. -/
theorem length_filter_key_le_one
    [DecidableEq Key]
    (distinct : (elements.map key).Nodup)
    (wanted : Key)
    (fits : Element → Prop)
    [DecidablePred fits] :
    (elements.filter fun element => key element = wanted ∧ fits element).length ≤ 1 := by
  have count := List.nodup_iff_count_le_one.mp distinct wanted
  rw [List.count, List.countP_map] at count
  rw [← List.countP_eq_length_filter]
  refine Nat.le_trans (List.countP_mono_left fun element _ isWanted => ?_) count
  simpa using (of_decide_eq_true isWanted).1

/-- If only elements with the key of one of them give anything, that element gives everything. -/
theorem flatMap_eq_of_key
    {Result : Type}
    {gives : Element → List Result}
    {element : Element}
    (distinct : (elements.map key).Nodup)
    (member : element ∈ elements)
    (others : ∀ other, key other ≠ key element → gives other = []) :
    elements.flatMap gives = gives element := by
  induction elements with
  | nil => cases member
  | cons first rest inductionHypothesis =>
      obtain ⟨absent, distinctRest⟩ := List.nodup_cons.mp distinct
      rw [List.flatMap_cons]
      rcases List.mem_cons.mp member with rfl | inRest
      · have nothing : rest.flatMap gives = [] := List.flatMap_eq_nil_iff.mpr fun other inRest =>
          others other fun same => absent (same ▸ List.mem_map_of_mem inRest)
        rw [nothing, List.append_nil]
      · have differs : key first ≠ key element := fun same =>
          absent (same ▸ List.mem_map_of_mem inRest)
        rw [others first differs, inductionHypothesis distinctRest inRest, List.nil_append]

end Keys

namespace TypeGraph

/-! ## The comments at a location -/

/-- The comments of a graph are those of its packages, its declarations and their fields. -/
theorem comments_perm (graph : TypeGraph) :
    graph.comments.Perm
      (graph.packages.map (fun package => (.package package.name, package.doc)) ++
        (graph.declarations.map (fun declaration =>
            (.declaration declaration.id, declaration.doc)) ++
          graph.declarations.flatMap fun declaration => declaration.fields.map fun field =>
            (.field declaration.id field.name, field.doc))) := by
  refine (List.map_append_flatMap_perm _ _ _).symm.trans (List.Perm.append_left _ ?_)
  rw [← List.flatMap_assoc]
  exact (List.map_append_flatMap_perm _ _ _).symm

/-- The comments at a location that have a marker. -/
def commentsWith
    (registry : Registry)
    (graph : TypeGraph)
    (location : Location)
    (name : String) : List (Location × List String) :=
  graph.comments.filter fun comment =>
    comment.1 = location ∧ (registry.readComment location comment.2).1.has name

/-- The fields of a declaration with one name whose comments have a marker. -/
def fieldsWith
    (registry : Registry)
    (declaration : Declaration)
    (fieldName name : String) : List Field :=
  declaration.fields.filter fun field =>
    field.name = fieldName ∧
      (registry.readComment (.field declaration.id fieldName) field.doc).1.has name

variable {registry : Registry} {graph : TypeGraph} {name : String}

/-- A package has one comment. -/
theorem length_commentsWith_package_le_one
    (distinct : (graph.packages.map (·.name)).Nodup)
    (path : String) :
    (commentsWith registry graph (.package path) name).length ≤ 1 := by
  rw [commentsWith, (graph.comments_perm.filter _).length_eq]
  simpa [List.filter_map, List.filter_flatMap, Function.comp_def] using
    length_filter_key_le_one distinct path fun package =>
      (registry.readComment (.package path) package.doc).1.has name

theorem nodup_ids (graph : TypeGraph) : (graph.declarations.map (·.id)).Nodup :=
  graph.distinct

/-- A declaration has one comment. -/
theorem length_commentsWith_declaration_le_one (id : TypeId) :
    (commentsWith registry graph (.declaration id) name).length ≤ 1 := by
  rw [commentsWith, (graph.comments_perm.filter _).length_eq]
  simpa [List.filter_map, List.filter_flatMap, Function.comp_def] using
    length_filter_key_le_one graph.nodup_ids id fun declaration =>
      (registry.readComment (.declaration id) declaration.doc).1.has name

/-- The comments of fields with one name stand at one location. -/
theorem length_commentsWith_field (id : TypeId) (fieldName : String) :
    (commentsWith registry graph (.field id fieldName) name).length =
      (graph.declarations.flatMap fun declaration =>
        if declaration.id = id then
          fieldsWith registry declaration fieldName name
        else []).length := by
  rw [commentsWith, (graph.comments_perm.filter _).length_eq]
  simp only [List.filter_append, List.filter_map, List.filter_flatMap, Function.comp_def,
    reduceCtorEq, false_and, decide_false, List.filter_false, List.map_nil, List.nil_append,
    List.length_flatMap, List.length_map]
  refine congrArg List.sum (List.map_congr_left fun declaration _ => ?_)
  by_cases same : declaration.id = id
  · subst same
    simp [fieldsWith]
  · simp [same]

/-- The comments of the fields of a record that have one name stand at one location. -/
theorem length_commentsWith_field_of_mem
    {declaration : Declaration}
    (isDeclared : declaration ∈ graph.declarations)
    (fieldName : String) :
    (commentsWith registry graph (.field declaration.id fieldName) name).length =
      (fieldsWith registry declaration fieldName name).length := by
  rw [length_commentsWith_field, flatMap_eq_of_key graph.nodup_ids isDeclared, if_pos rfl]
  exact fun other differs => if_neg differs

/-- Without a declaration there are no fields. -/
theorem length_commentsWith_field_of_forall_ne
    {id : TypeId}
    (undeclared : ∀ declaration ∈ graph.declarations, declaration.id ≠ id)
    (fieldName : String) :
    (commentsWith registry graph (.field id fieldName) name).length = 0 := by
  rw [length_commentsWith_field, List.length_eq_zero_iff, List.flatMap_eq_nil_iff]
  exact fun declaration isDeclared => if_neg (undeclared declaration isDeclared)

end TypeGraph

namespace MarkerIndex

variable {registry : Registry} {graph : TypeGraph} {location : Location} {name : String}
variable {definition : Definition}

/-- Of a marker that may occur only once, as many are read as comments at the location have it. -/
theorem length_named_readAt
    (isDefined : registry.lookup? name location.applicability = some definition)
    (isSingle : definition.repeatable = false)
    (comments : List (Location × List String)) :
    ((readAt registry comments location).named name).length =
      (comments.filter fun comment =>
        comment.1 = location ∧ (registry.readComment location comment.2).1.has name).length := by
  induction comments with
  | nil => rfl
  | cons comment rest inductionHypothesis =>
      have isFirst := readAt_append registry [comment] rest location
      rw [readAt_singleton, List.singleton_append] at isFirst
      rw [isFirst, Markers.named_append, List.length_append, inductionHypothesis]
      by_cases isHere : comment.1 = location
      · subst isHere
        rw [if_pos rfl, Registry.length_named_readComment isDefined isSingle]
        by_cases has : (registry.readComment comment.1 comment.2).1.has name
        · rw [if_pos has, List.filter_cons_of_pos (by simpa using has), List.length_cons]
          omega
        · rw [if_neg has, List.filter_cons_of_neg (by simpa using has), Nat.zero_add]
      · rw [if_neg isHere, List.filter_cons_of_neg fun isWanted =>
          isHere (of_decide_eq_true isWanted).1]
        exact Nat.zero_add _

/-- A marker that may occur only once is indexed at most once at every location of a package or a
declaration, and at that of a field unless several fields of the record have its name, and the
comments of several of these the marker. -/
theorem length_named_le_one_iff
    {packages : List Package}
    (accepted : TypeGraph.ofPackages packages = .ok graph)
    (isDefined : registry.lookup? name location.applicability = some definition)
    (isSingle : definition.repeatable = false) :
    (((ofGraph registry graph).1.markersAt location).named name).length ≤ 1 ↔
      ∀ declaration ∈ graph.declarations, ∀ fieldName,
        location = .field declaration.id fieldName →
          (TypeGraph.fieldsWith registry declaration fieldName name).length ≤ 1 := by
  have asOften : (((ofGraph registry graph).1.markersAt location).named name).length =
      (graph.commentsWith registry location name).length := by
    rw [(follows_ofGraph registry graph).markers location, length_named_readAt isDefined isSingle]
    rfl
  rw [asOften]
  constructor
  · rintro atMostOnce declaration isDeclared fieldName rfl
    rwa [TypeGraph.length_commentsWith_field_of_mem isDeclared] at atMostOnce
  · intro atMostOneField
    cases location with
    | package path =>
        exact TypeGraph.length_commentsWith_package_le_one
          (TypeGraph.nodup_names_of_ofPackages accepted) path
    | declaration id => exact TypeGraph.length_commentsWith_declaration_le_one id
    | field id fieldName =>
        by_cases isDeclared : ∃ declaration ∈ graph.declarations, declaration.id = id
        · obtain ⟨declaration, isDeclared, rfl⟩ := isDeclared
          rw [TypeGraph.length_commentsWith_field_of_mem isDeclared]
          exact atMostOneField declaration isDeclared fieldName rfl
        · have undeclared : ∀ declaration ∈ graph.declarations, declaration.id ≠ id :=
            fun declaration member same => isDeclared ⟨declaration, member, same⟩
          rw [TypeGraph.length_commentsWith_field_of_forall_ne undeclared]
          exact Nat.zero_le 1

/-! ## A record with a repeated field -/

/-- A package with a record that has two fields of one name, the first one with a bound. -/
def namePackages (doc : List String) : List Package := [
  { name := "p", types := [{
      name := "Name"
      shape := .record [
        { name := "text", type := .scalar .string, doc := ["+validation:MaxLength=5"] },
        { name := "text", type := .scalar .string, doc := doc }] }] }]

/-- The graph of the package. -/
def nameGraph (doc : List String) : TypeGraph where
  packages := TypeGraph.merge ((namePackages doc).map Package.qualify)
  distinct := show [(⟨"p", "Name"⟩ : TypeId)].Nodup from List.nodup_singleton _

theorem ofPackages_namePackages (doc : List String) :
    TypeGraph.ofPackages (namePackages doc) = .ok (nameGraph doc) :=
  TypeGraph.ofPackages_eq_ok_iff.mpr rfl

theorem exists_single_maxLength :
    ∃ definition,
      Vocabulary.registry.lookup? Vocabulary.maxLength .field = some definition ∧
        definition.repeatable = false :=
  ⟨(Vocabulary.registry.lookup? Vocabulary.maxLength .field).get (by decide +kernel),
    (Option.some_get _).symm, by decide +kernel⟩

/-- The bound is indexed once if the second field has none. -/
theorem length_named_first_bound :
    ∃ definition,
      TypeGraph.ofPackages (namePackages ["The name."]) = .ok (nameGraph ["The name."]) ∧
      Vocabulary.registry.lookup? Vocabulary.maxLength .field = some definition ∧
      definition.repeatable = false ∧
      (((ofGraph Vocabulary.registry (nameGraph ["The name."])).1.markersAt
        (.field ⟨"p", "Name"⟩ "text")).named Vocabulary.maxLength).length ≤ 1 := by
  have accepted := ofPackages_namePackages ["The name."]
  obtain ⟨definition, isDefined, isSingle⟩ := exists_single_maxLength
  refine ⟨definition, accepted, isDefined, isSingle, ?_⟩
  have isDefinedHere : Vocabulary.registry.lookup? Vocabulary.maxLength
      (Location.field ⟨"p", "Name"⟩ "text").applicability = some definition := isDefined
  refine (length_named_le_one_iff accepted isDefinedHere isSingle).mpr ?_
  intro declaration isDeclared fieldName same
  obtain ⟨-, rfl⟩ := Location.field.inj same
  clear same
  revert declaration
  decide +kernel

/-- Two fields of a record may have one name, and then both of their bounds are indexed. -/
theorem exists_single_marker_twice :
    ¬ ∀ (registry : Registry) (packages : List Package) (graph : TypeGraph) (location : Location)
      (name : String) (definition : Definition),
      TypeGraph.ofPackages packages = .ok graph →
      registry.lookup? name location.applicability = some definition →
      definition.repeatable = false →
      (((ofGraph registry graph).1.markersAt location).named name).length ≤ 1 := by
  intro atMostOnce
  obtain ⟨definition, isDefined, isSingle⟩ := exists_single_maxLength
  have twice := atMostOnce Vocabulary.registry _ _ (.field ⟨"p", "Name"⟩ "text")
    Vocabulary.maxLength definition (ofPackages_namePackages ["+validation:MaxLength=7"])
    isDefined isSingle
  revert twice
  decide +kernel

end MarkerIndex
end MarkerManifests
