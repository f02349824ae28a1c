import MarkerManifests.Proofs.Schema.Ledger

/-!
# Sources that build alike

Of the graph of a source, references read which declarations there are and which of them are
records. Synthesis reads how a declaration is built from the answers to its requests, and the
collection of resources reads where the declarations are. Sources that agree in both answer all
calls with the same schemas, failures and diagnostics.
-/

namespace MarkerManifests

namespace SchemaSource

/-! ## References -/

variable {first second : SchemaSource} {named : TypeId → Synthesis SchemaNode}

/-- Neither of two sources declares an identity, or both declare a record, or both declare something
else. -/
def ResolvesAlike (first second : SchemaSource) (id : TypeId) : Prop :=
  (first.graph.resolve? id).map (·.shape.isRecord) =
    (second.graph.resolve? id).map (·.shape.isRecord)

theorem ResolvesAlike.of_eq
    {id : TypeId}
    (same : first.graph.resolve? id = second.graph.resolve? id) :
    first.ResolvesAlike second id := by
  rw [ResolvesAlike, same]

theorem refSchema_congr
    {reference : TypeRef}
    (alike : ∀ target ∈ reference.targets, first.ResolvesAlike second target) :
    first.refSchema named reference = second.refSchema named reference := by
  induction reference with
  | scalar kind => rfl
  | named target =>
      have sameKind := alike target List.mem_cons_self
      unfold ResolvesAlike at sameKind
      rw [refSchema, refSchema]
      cases declared : second.graph.resolve? target with
      | none =>
          rw [declared] at sameKind
          rw [Option.map_eq_none_iff.mp sameKind]
      | some declaration =>
          rw [declared] at sameKind
          obtain ⟨_, found, -⟩ := Option.map_eq_some_iff.mp sameKind
          rw [found]
  | list element inductionHypothesis => rw [refSchema, refSchema, inductionHypothesis alike]
  | map value inductionHypothesis => rw [refSchema, refSchema, inductionHypothesis alike]
  | pointer target inductionHypothesis => exact inductionHypothesis alike

theorem embeddedSchema_congr
    {field : Field}
    (alike : ∀ target ∈ field.type.targets, first.ResolvesAlike second target) :
    first.embeddedSchema named field = second.embeddedSchema named field := by
  unfold embeddedSchema
  cases stripped : field.type.stripPointers with
  | named target =>
      have sameKind := alike target (TypeRef.mem_targets_of_stripPointers_eq_named stripped)
      unfold ResolvesAlike at sameKind
      dsimp only
      cases declared : second.graph.resolve? target with
      | none =>
          rw [declared] at sameKind
          rw [Option.map_eq_none_iff.mp sameKind]
      | some declaration =>
          rw [declared] at sameKind
          obtain ⟨_, found, sameRecord⟩ := Option.map_eq_some_iff.mp sameKind
          rw [found]
          dsimp only
          rw [sameRecord]
  | scalar kind => rfl
  | list element => rfl
  | map value => rfl
  | pointer inner => rfl

theorem withDescription_congr
    (limit : first.descriptionLimit = second.descriptionLimit)
    (doc : List String)
    (node : SchemaNode) :
    first.withDescription doc node = second.withDescription doc node := by
  rw [withDescription, withDescription, describe, describe, limit]

theorem addField_congr
    (limit : first.descriptionLimit = second.descriptionLimit)
    {id : TypeId}
    {field : Field}
    (alike : ∀ target ∈ field.type.targets, first.ResolvesAlike second target)
    (markers : first.index.field id field.name = second.index.field id field.name)
    (node : SchemaNode) :
    first.addField named id node field = second.addField named id node field := by
  rw [addField, addField, embeddedSchema_congr alike, refSchema_congr alike, markers]
  simp only [withDescription_congr limit]

theorem addFields_congr
    (named : TypeId → Synthesis SchemaNode)
    (limit : first.descriptionLimit = second.descriptionLimit)
    {id : TypeId}
    {fields : List Field}
    (alike : ∀ target ∈ fields.flatMap (·.type.targets), first.ResolvesAlike second target)
    (markers : ∀ field ∈ fields,
      first.index.field id field.name = second.index.field id field.name)
    (node : SchemaNode) :
    first.addFields named id node fields = second.addFields named id node fields := by
  induction fields generalizing node with
  | nil => rfl
  | cons field rest inductionHypothesis =>
      rw [List.flatMap_cons, List.forall_mem_append] at alike
      rw [List.forall_mem_cons] at markers
      rw [addFields, addFields, addField_congr limit alike.1 markers.1]
      simp only [inductionHypothesis alike.2 markers.2]

/-! ## Declarations -/

theorem ids_declarationsInPackages (graph : TypeGraph) :
    (declarationsInPackages graph).map (·.2.id) = graph.declarations.map (·.id) := by
  simp only [declarationsInPackages, TypeGraph.declarations, declarationsOf, List.map_flatMap,
    List.map_map]
  rfl

/-- Where a declaration is: the path of its package and its identity. -/
def address (entry : Package × Declaration) : String × TypeId :=
  (entry.1.name, entry.2.id)

/-- Where the declarations of the graph are, in source order. -/
def addresses (source : SchemaSource) : List (String × TypeId) :=
  (declarationsInPackages source.graph).map address

theorem ids_declarations (source : SchemaSource) :
    source.graph.declarations.map (·.id) = source.addresses.map (·.2) := by
  rw [← ids_declarationsInPackages, addresses, List.map_map]
  rfl

/-- Sources whose declarations are at the same places and are built from answers alike. -/
structure BuildsAlike (source other : SchemaSource) : Prop where
  index : other.index = source.index
  gates : other.gates = source.gates
  addresses : other.addresses = source.addresses
  build : ∀ named id, other.build named id = source.build named id

namespace BuildsAlike

variable {source other : SchemaSource}

theorem ids (alike : source.BuildsAlike other) :
    other.graph.declarations.map (·.id) = source.graph.declarations.map (·.id) := by
  rw [ids_declarations, ids_declarations, alike.addresses]

theorem size (alike : source.BuildsAlike other) : other.graph.size = source.graph.size := by
  simpa only [TypeGraph.size, List.length_map] using congrArg List.length alike.ids

theorem synthesizeWithin
    (alike : source.BuildsAlike other)
    (version : String)
    (levels : Nat) :
    other.synthesizeWithin version levels = source.synthesizeWithin version levels := by
  induction levels with
  | zero => rfl
  | succ levels inductionHypothesis =>
      funext id
      rw [SchemaSource.synthesizeWithin, SchemaSource.synthesizeWithin, inductionHypothesis,
        alike.build]

theorem synthesize (alike : source.BuildsAlike other) (id : TypeId) (version : String) :
    other.synthesize id version = source.synthesize id version := by
  rw [SchemaSource.synthesize, SchemaSource.synthesize, alike.synthesizeWithin, alike.size]

theorem synthesizeEach
    (alike : source.BuildsAlike other)
    (version : String)
    (ids : List TypeId) :
    other.synthesizeEach version ids = source.synthesizeEach version ids := by
  induction ids with
  | nil => rfl
  | cons id rest inductionHypothesis =>
      rw [SchemaSource.synthesizeEach, SchemaSource.synthesizeEach, inductionHypothesis,
        alike.synthesize]

theorem synthesizeAll (alike : source.BuildsAlike other) (version : String) :
    other.synthesizeAll version = source.synthesizeAll version := by
  rw [SchemaSource.synthesizeAll, SchemaSource.synthesizeAll, alike.synthesizeEach,
    alike.ids]

theorem collectRoots
    (alike : source.BuildsAlike other)
    {entries others : List (Package × Declaration)}
    (sameAddresses : others.map address = entries.map address)
    (families : List ResourceFamily)
    (diagnostics : Diagnostics) :
    other.collectRoots families diagnostics others =
      source.collectRoots families diagnostics entries := by
  induction entries generalizing others families diagnostics with
  | nil =>
      rw [List.map_eq_nil_iff.mp sameAddresses]
      rfl
  | cons entry rest inductionHypothesis =>
      obtain ⟨first, later, rfl, sameFirst, sameLater⟩ := List.map_eq_cons_iff.mp sameAddresses
      obtain ⟨samePackage, sameId⟩ := Prod.mk.inj sameFirst
      have sameName : first.2.name = entry.2.name := congrArg TypeId.name sameId
      have sameGroup : other.index.groupVersion? first.1 = source.index.groupVersion? entry.1 := by
        rw [MarkerIndex.groupVersion?, samePackage, alike.index]
        rfl
      have sameResource : other.isResource first.2 = source.isResource entry.2 := by
        rw [isResource, isResource, sameId, alike.index, alike.gates]
      have sameDiagnostic : unversioned first.1 first.2 = unversioned entry.1 entry.2 := by
        rw [unversioned, unversioned, sameId, sameName, samePackage]
      rw [SchemaSource.collectRoots, SchemaSource.collectRoots, sameResource, sameGroup,
        sameDiagnostic, sameId, sameName, alike.index]
      simp only [inductionHypothesis sameLater, alike.synthesize]

theorem defineResources (alike : source.BuildsAlike other) :
    other.defineResources = source.defineResources := by
  have sameAddresses : (declarationsInPackages other.graph).map address =
      (declarationsInPackages source.graph).map address := alike.addresses
  rw [SchemaSource.defineResources, SchemaSource.defineResources,
    alike.collectRoots sameAddresses]

/-- All calls have the same effects. -/
theorem performedAll (alike : source.BuildsAlike other) (calls : List SchemaCall) :
    other.performedAll calls = source.performedAll calls := by
  have sameStep : other.performed = source.performed := by
    funext table call
    cases call with
    | synthesize id version => exact congrArg (fun step => (step.run table).2) (alike.synthesize ..)
    | synthesizeAll version =>
        exact congrArg (fun step => (step.run table).2) (alike.synthesizeAll version)
    | defineResources => exact congrArg (fun step => (step.run table).2) alike.defineResources
  rw [SchemaSource.performedAll, SchemaSource.performedAll, sameStep]

end BuildsAlike

end SchemaSource
end MarkerManifests
