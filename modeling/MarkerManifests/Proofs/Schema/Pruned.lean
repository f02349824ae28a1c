import MarkerManifests.Proofs.Schema.Alike

/-!
# Schemas without skipped fields

A record leaves out fields that are never serialized and fields whose gate is closed. To leave a
field out is to delete it: without the skipped fields of records, a graph has the same schemas,
failures and diagnostics, also where only a skipped field closes a cycle or names an unknown
declaration. The records with unions are an exception, since a union may still list the fields that
are left out.
-/

namespace MarkerManifests

/-- Markers that describe no union add none, whatever was left out. -/
theorem SchemaNode.addUnions_eq_ok_self
    {markers : Markers}
    (noUnions : markers.any (fun marker => (UnionPolicy.ofMarker? marker.name).isSome) = false)
    (node : SchemaNode)
    (skipped : List String) :
    node.addUnions skipped markers = .ok node := by
  induction markers with
  | nil => rfl
  | cons marker rest inductionHypothesis =>
      obtain ⟨noUnion, noOthers⟩ := Bool.or_eq_false_iff.mp (List.any_cons ▸ noUnions)
      rw [addUnions, addUnionMarker,
        Option.not_isSome_iff_eq_none.mp (Bool.eq_false_iff.mp noUnion)]
      exact inductionHypothesis noOthers

namespace SchemaSource

variable {source : SchemaSource} {id : TypeId}

/-! ## Deleting fields -/

/-- Whether the markers of a declaration describe unions. -/
def describesUnions (source : SchemaSource) (id : TypeId) : Bool :=
  (source.index.declaration id).any fun marker => (UnionPolicy.ofMarker? marker.name).isSome

/-- The fields of a record without the skipped ones, unless it has unions. -/
def prunedFields (source : SchemaSource) (id : TypeId) (fields : List Field) : List Field :=
  if source.describesUnions id then fields
  else fields.filter fun field => !source.isSkipped id field

/-- The shape of a declaration, where a record is without its skipped fields. -/
def prunedShape (source : SchemaSource) (id : TypeId) : Shape → Shape
  | .record fields => .record (source.prunedFields id fields)
  | .synonym target => .synonym target
  | .enumeration base members => .enumeration base members
  | .scalar kind => .scalar kind

/-- The declaration without its skipped fields. -/
def prunedDeclaration (source : SchemaSource) (declaration : Declaration) : Declaration :=
  { declaration with shape := source.prunedShape declaration.id declaration.shape }

/-- The package without the skipped fields of its declarations. -/
def prunedPackage (source : SchemaSource) (package : Package) : Package :=
  { package with types := package.types.map source.prunedDeclaration }

theorem declarationsOf_prunedPackage (source : SchemaSource) (packages : List Package) :
    declarationsOf (packages.map source.prunedPackage) =
      (declarationsOf packages).map source.prunedDeclaration := by
  rw [declarationsOf, declarationsOf, List.flatMap_map, List.map_flatMap]
  rfl

/-- The source with the graph without skipped fields. The markers of fields that are gone stay in
the index. -/
def pruned (source : SchemaSource) : SchemaSource where
  graph :=
    { packages := source.graph.packages.map source.prunedPackage
      distinct := by
        rw [declarationsOf_prunedPackage, List.map_map]
        exact source.graph.distinct }
  index := source.index
  gates := source.gates
  descriptionLimit := source.descriptionLimit

theorem resolve?_pruned (source : SchemaSource) (id : TypeId) :
    source.pruned.graph.resolve? id = (source.graph.resolve? id).map source.prunedDeclaration := by
  rw [TypeGraph.resolve?, TypeGraph.resolve?, TypeGraph.declarations, TypeGraph.declarations,
    pruned, declarationsOf_prunedPackage, List.find?_map]
  rfl

theorem addresses_pruned (source : SchemaSource) : source.pruned.addresses = source.addresses := by
  unfold addresses declarationsInPackages
  rw [pruned, List.flatMap_map, List.map_flatMap, List.map_flatMap]
  refine congrArg (source.graph.packages.flatMap ·) (funext fun package => ?_)
  rw [prunedPackage, List.map_map, List.map_map, List.map_map]
  rfl

/-! ## Building without skipped fields -/

/-- A record stays one, even if it loses all fields. -/
theorem resolvesAlike_pruned (source : SchemaSource) (id : TypeId) :
    source.pruned.ResolvesAlike source id := by
  have sameKind : ∀ (id : TypeId) (shape : Shape),
      (source.prunedShape id shape).isRecord = shape.isRecord := by
    intro id shape
    cases shape <;> rfl
  rw [ResolvesAlike, resolve?_pruned]
  cases source.graph.resolve? id with
  | none => rfl
  | some declaration => exact congrArg some (sameKind declaration.id declaration.shape)

/-- The fields that a record keeps are the same, and without unions nothing reads the names of the
other ones. -/
theorem recordSchema_pruned
    (named : TypeId → Synthesis SchemaNode)
    (id : TypeId)
    (fields : List Field) :
    source.pruned.recordSchema named id (source.prunedFields id fields) =
      source.recordSchema named id fields := by
  have sameSkipped : source.pruned.isSkipped id = source.isSkipped id := rfl
  have sameIndex : source.pruned.index = source.index := rfl
  have sameAdded : ∀ (node : SchemaNode) (fields : List Field),
      source.pruned.addFields named id node fields = source.addFields named id node fields := by
    intro node fields
    refine addFields_congr named ?_ (fun target _ => source.resolvesAlike_pruned target) ?_ node
    · rfl
    · exact fun _ _ => rfl
  rw [recordSchema, recordSchema, prunedFields, sameSkipped, sameIndex]
  simp only [sameAdded]
  split
  · rfl
  · rename_i noUnions
    simp only [List.filter_filter, Bool.and_self,
      SchemaNode.addUnions_eq_ok_self (Bool.eq_false_iff.mpr noUnions)]

theorem build_pruned (named : TypeId → Synthesis SchemaNode) (id : TypeId) :
    source.pruned.build named id = source.build named id := by
  have sameShape : ∀ (id : TypeId) (shape : Shape),
      source.pruned.shapeSchema named id (source.prunedShape id shape) =
        source.shapeSchema named id shape := by
    intro id shape
    cases shape with
    | record fields => exact recordSchema_pruned named id fields
    | synonym target => exact refSchema_congr fun target _ => source.resolvesAlike_pruned target
    | enumeration base members => rfl
    | scalar kind => rfl
  rw [build, build, resolve?_pruned]
  cases source.graph.resolve? id with
  | none => rfl
  | some declaration =>
      have sameId : (source.prunedDeclaration declaration).id = declaration.id := rfl
      simp only [Option.map_some, declarationSchema, sameId]
      rw [prunedDeclaration, sameShape]
      rfl

theorem buildsAlike_pruned (source : SchemaSource) : source.BuildsAlike source.pruned where
  index := rfl
  gates := rfl
  addresses := source.addresses_pruned
  build := build_pruned

/-- Without the skipped fields of records without unions, a source gives the same answers: the same
schemas, failures and diagnostics, whatever is called before. -/
theorem run_synthesize_pruned_eq
    (source : SchemaSource)
    (calls : List SchemaCall)
    (id : TypeId)
    (version : String) :
    (source.pruned.synthesize id version).run (source.pruned.performedAll calls) =
      (source.synthesize id version).run (source.performedAll calls) := by
  rw [source.buildsAlike_pruned.synthesize, source.buildsAlike_pruned.performedAll]

/-! ## A record that only skipped fields break -/

/-- A record with a field whose gate is closed and which closes a cycle, and with a field that is
never serialized and names an unknown declaration. -/
def nodeWithSkippedFields : SchemaSource where
  graph :=
    { packages := [{
        name := "p"
        types := [
          { name := "Node", package := "p"
            shape := .record [
              { name := "next", type := .named ⟨"p", "Node"⟩, key := "next" },
              { name := "value", type := .scalar .string, key := "value" },
              { name := "cache", type := .named ⟨"p", "Missing"⟩, key := omitKey }] }] }] }
  index :=
    { entries := [
        (.field ⟨"p", "Node"⟩ "next", [
          { name := Vocabulary.featureGate, location := .field ⟨"p", "Node"⟩ "next",
            consumer := .schema,
            arguments := [(Definition.unnamed, .gate (.literal "Loops"))] }])] }
  gates := .empty

/-- Neither field is left, and the schema is made of the other one. -/
example :
    (nodeWithSkippedFields.pruned.graph.resolve? ⟨"p", "Node"⟩).map
        (·.fields.map (·.name)) = some ["value"] ∧
      let answer := (nodeWithSkippedFields.synthesize ⟨"p", "Node"⟩ "v1").run {}
      (answer.1.properties.map (·.1), answer.2.failed, answer.2.diagnostics) =
        (["value"], [], []) := by
  decide +kernel

end SchemaSource
end MarkerManifests
