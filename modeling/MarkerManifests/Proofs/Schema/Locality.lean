import MarkerManifests.Proofs.Schema.Alike
import MarkerManifests.Proofs.Schema.Plain

/-!
# Synthesis is local

The schema of a declaration depends on what a source says about the declarations that it mentions,
directly or through others, and on nothing else in the graph or the index. Two sources that say the
same about all of these go through the same table: the answers, the failures and the reports agree
one by one, also where references form cycles or lead to unknown declarations.
-/

namespace MarkerManifests
namespace SchemaSource

/-- Two sources say the same about an identity: neither declares it, or both declare the same, with
the same markers at the declaration and at its fields. -/
structure SaysSame (first second : SchemaSource) (id : TypeId) : Prop where
  declaration : first.graph.resolve? id = second.graph.resolve? id
  markers : first.index.declaration id = second.index.declaration id
  fieldMarkers : ∀ declaration, first.graph.resolve? id = some declaration →
    ∀ field ∈ declaration.fields,
      first.index.field id field.name = second.index.field id field.name

/-- Two sources agree on a region of identities out of which synthesis does not lead. -/
structure AgreeOn (first second : SchemaSource) (region : TypeId → Prop) : Prop where
  gates : first.gates = second.gates
  descriptionLimit : first.descriptionLimit = second.descriptionLimit
  same : ∀ id, region id → first.SaysSame second id
  closed : ∀ id declaration, region id → first.graph.resolve? id = some declaration →
    ∀ target ∈ first.followed declaration, region target

variable {first second : SchemaSource}

/-! ## Builds -/

namespace AgreeOn

variable {region : TypeId → Prop} {id target : TypeId} {declaration : Declaration}

/-- The sources skip the same fields. -/
theorem isSkipped_eq
    (agree : first.AgreeOn second region)
    (inRegion : region id)
    (resolved : first.graph.resolve? id = some declaration)
    {field : Field}
    (isField : field ∈ declaration.fields) :
    first.isSkipped id field = second.isSkipped id field := by
  rw [isSkipped, isSkipped, agree.gates,
    (agree.same id inRegion).fieldMarkers declaration resolved field isField]

/-- In a declaration of the region the sources meet the same identities. -/
theorem followed_eq
    (agree : first.AgreeOn second region)
    (inRegion : region id)
    (resolved : first.graph.resolve? id = some declaration) :
    first.followed declaration = second.followed declaration := by
  have sameId := TypeGraph.id_of_resolve? resolved
  unfold followed
  cases shape : declaration.shape with
  | record fields =>
      have isShape : declaration.fields = fields := by rw [Declaration.fields, shape]; rfl
      refine congrArg (List.flatMap _) (List.filter_congr fun field isField => ?_)
      rw [sameId, agree.isSkipped_eq inRegion resolved (isShape ▸ isField)]
  | synonym target => rfl
  | enumeration base members => rfl
  | scalar kind => rfl

theorem references_iff
    (agree : first.AgreeOn second region)
    (inRegion : region id) :
    first.References id target ↔ second.References id target := by
  unfold References
  rw [← (agree.same id inRegion).declaration]
  constructor
  · rintro ⟨declared, declaration, resolved, followed⟩
    have inside := agree.closed id declaration inRegion resolved target followed
    exact ⟨(agree.same target inside).declaration ▸ declared, declaration, resolved,
      agree.followed_eq inRegion resolved ▸ followed⟩
  · rintro ⟨declared, declaration, resolved, followed⟩
    rw [← agree.followed_eq inRegion resolved] at followed
    have inside := agree.closed id declaration inRegion resolved target followed
    exact ⟨(agree.same target inside).declaration ▸ declared, declaration, resolved, followed⟩

/-- The shape of a declaration of the region has the same schema before the markers of the
declaration are applied. -/
theorem shapeSchema_eq
    (agree : first.AgreeOn second region)
    (inRegion : region id)
    (resolved : first.graph.resolve? id = some declaration)
    (named : TypeId → Synthesis SchemaNode) :
    first.shapeSchema named id declaration.shape = second.shapeSchema named id declaration.shape := by
  have same := agree.same id inRegion
  have known : ∀ target ∈ first.followed declaration, first.ResolvesAlike second target := by
    intro target followed
    have inside := agree.closed id declaration inRegion resolved target followed
    exact .of_eq (agree.same target inside).declaration
  have skipped : ∀ field ∈ declaration.fields,
      first.isSkipped id field = second.isSkipped id field :=
    fun field => agree.isSkipped_eq inRegion resolved
  have markers := same.fieldMarkers declaration resolved
  have sameId := TypeGraph.id_of_resolve? resolved
  unfold followed at known
  unfold Declaration.fields at skipped markers
  cases shape : declaration.shape with
  | record fields =>
      rw [shape] at known skipped markers
      rw [sameId] at known
      have kept : fields.filter (fun field => !first.isSkipped id field) =
          fields.filter fun field => !second.isSkipped id field :=
        List.filter_congr fun field isField => by rw [skipped field isField]
      have leftOut : fields.filter (first.isSkipped id) = fields.filter (second.isSkipped id) :=
        List.filter_congr skipped
      have added := addFields_congr named agree.descriptionLimit known
        fun field isKept => markers field (List.mem_of_mem_filter isKept)
      rw [shapeSchema, shapeSchema, recordSchema, recordSchema, added, kept, leftOut, same.markers]
  | synonym target =>
      rw [shape] at known
      exact refSchema_congr known
  | enumeration base members => rfl
  | scalar kind => rfl

/-- A declaration of the region is built alike, if requests are answered alike. -/
theorem build_eq
    (agree : first.AgreeOn second region)
    (inRegion : region id)
    (named : TypeId → Synthesis SchemaNode) :
    first.build named id = second.build named id := by
  have same := agree.same id inRegion
  unfold build
  rw [← same.declaration]
  cases resolved : first.graph.resolve? id with
  | none => rfl
  | some declaration =>
      dsimp only
      rw [declarationSchema, declarationSchema, TypeGraph.id_of_resolve? resolved,
        agree.shapeSchema_eq inRegion resolved, same.markers]
      simp only [withDescription_congr agree.descriptionLimit]

/-! ## Requests -/

/-- A request for a declaration of the region has the same answer and leaves the same table. -/
theorem run_synthesize_eq
    (agree : first.AgreeOn second region)
    (inRegion : region id)
    {version : String}
    {table : SchemaTable}
    (activeFirst : table.ActiveAt first version)
    (activeSecond : table.ActiveAt second version) :
    (first.synthesize id version).run table = (second.synthesize id version).run table := by
  revert inRegion activeSecond
  refine request_induction (fun id table node finished _ _ => ?_)
    (fun id table unfinished active _ _ => ?_)
    (fun id table activeFirst unfinished inactive answers inRegion activeSecond => ?_)
    id table activeFirst
  · rw [run_synthesize_of_finished finished, run_synthesize_of_finished finished]
  · rw [run_synthesize_of_active unfinished active, run_synthesize_of_active unfinished active]
  · rw [run_synthesize_of_new activeFirst unfinished inactive,
      run_synthesize_of_new activeSecond unfinished inactive, settledBuild, settledBuild,
      ← agree.build_eq inRegion]
    have built := run_build_congr first id (first.synthesize · version)
      (second.synthesize · version) (table.begin ⟨id, version⟩)
      (fun later => later.active = ⟨id, version⟩ :: table.active)
      (fun later diagnostics _ same => same) ?_ rfl
    · rw [built.1]
    · intro target refers later same
      refine ⟨?_, by rw [active_run_synthesize, same]⟩
      have refersSecond := (agree.references_iff inRegion).mp refers
      have laterSecond : later.ActiveAt second version :=
        ActiveAt_congr same (ActiveAt_begin activeSecond inactive refersSecond.isSome_resolve?)
      have isInside : region target := by
        obtain ⟨-, declaration, resolved, followed⟩ := refers
        exact agree.closed id declaration inRegion resolved target followed
      exact answers target refers later same isInside laterSecond

end AgreeOn

/-- A request in an empty table depends on nothing but what the source says about the identities
that are mentioned in the requested declaration, directly or through others. With the answer, the
whole table is the same, and so are the failures and the order of the diagnostics. -/
theorem run_synthesize_eq_of_saysSame
    (first second : SchemaSource)
    (gates : first.gates = second.gates)
    (descriptionLimit : first.descriptionLimit = second.descriptionLimit)
    (id : TypeId)
    (version : String)
    (same : ∀ other, Relation.ReflTransGen first.graph.Mentions id other →
      first.SaysSame second other) :
    (first.synthesize id version).run {} = (second.synthesize id version).run {} := by
  have agree : first.AgreeOn second (Relation.ReflTransGen first.graph.Mentions id) :=
    ⟨gates, descriptionLimit, same, fun other declaration reached resolved target followed =>
      reached.tail ⟨declaration, resolved, mem_mentioned_of_mem_followed followed⟩⟩
  exact agree.run_synthesize_eq .refl (activeAt_of_idle first version rfl)
    (activeAt_of_idle second version rfl)

/-! ## A record among others -/

/-- A record that may contain another one of its kind. -/
def treeRecord : Declaration where
  name := "Tree"
  package := "p"
  shape := .record [
    { name := "child", type := .pointer (.named ⟨"p", "Tree"⟩), key := "child" },
    { name := "leaf", type := .named ⟨"p", "Leaf"⟩, key := "leaf" }]

/-- A record with a field of an unknown type. -/
def leafRecord : Declaration where
  name := "Leaf"
  package := "p"
  shape := .record [{ name := "value", type := .named ⟨"q", "Value"⟩, key := "value" }]

/-- The marker of a field that may be null. -/
def nullableLeaf : Marker where
  name := Vocabulary.nullable
  location := .field ⟨"p", "Tree"⟩ "leaf"
  consumer := .schema
  arguments := []

/-- The two records by themselves. -/
def treeAlone : SchemaSource where
  graph := { packages := [{ name := "p", types := [treeRecord, leafRecord] }] }
  index := { entries := [(.field ⟨"p", "Tree"⟩ "leaf", [nullableLeaf])] }
  gates := .empty

/-- The two records in another order, with an alias for itself between them and a third record that
contains them, in whose comment stands a union of a field that it does not have. -/
def treeAmongOthers : SchemaSource where
  graph :=
    { packages := [
        { name := "o"
          types := [
            { name := "Forest", package := "o"
              shape := .record
                [{ name := "trees", type := .list (.named ⟨"p", "Tree"⟩), key := "trees" }] }] },
        { name := "p"
          types := [
            leafRecord,
            { name := "Loop", package := "p", shape := .synonym (.named ⟨"p", "Loop"⟩) },
            treeRecord] }] }
  index :=
    { entries := [
        (.declaration ⟨"o", "Forest"⟩, [
          { name := Vocabulary.exactlyOneOf, location := .declaration ⟨"o", "Forest"⟩,
            consumer := .schema, arguments := [(Definition.unnamed, .list ["none"])] }]),
        (.field ⟨"p", "Tree"⟩ "leaf", [nullableLeaf])] }
  gates := .empty

theorem saysSame_tree
    {other : TypeId}
    (reached : Relation.ReflTransGen treeAlone.graph.Mentions treeRecord.id other) :
    treeAlone.SaysSame treeAmongOthers other := by
  have mentioned : ∀ declaration ∈ treeAlone.graph.declarations,
      ∀ target ∈ declaration.mentioned,
        target ∈ [treeRecord.id, leafRecord.id, ⟨"q", "Value"⟩] := by
    decide +kernel
  have isReached : other ∈ [treeRecord.id, leafRecord.id, ⟨"q", "Value"⟩] := by
    rcases reached.cases_tail with rfl | ⟨_, -, declaration, resolved, isTarget⟩
    · exact List.mem_cons_self
    · exact mentioned declaration (List.mem_of_find?_eq_some resolved) other isTarget
  have same : ∀ other ∈ [treeRecord.id, leafRecord.id, ⟨"q", "Value"⟩],
      treeAlone.graph.resolve? other = treeAmongOthers.graph.resolve? other ∧
        treeAlone.index.declaration other = treeAmongOthers.index.declaration other ∧
        ∀ declaration ∈ treeAlone.graph.resolve? other, ∀ field ∈ declaration.fields,
          treeAlone.index.field other field.name = treeAmongOthers.index.field other field.name := by
    decide +kernel
  obtain ⟨declaration, markers, fieldMarkers⟩ := same other isReached
  exact ⟨declaration, markers, fieldMarkers⟩

/-- The record refers to itself and contains one that fails, and the others do not change that. -/
theorem run_synthesize_tree_eq :
    treeAlone.gates = treeAmongOthers.gates ∧
      treeAlone.descriptionLimit = treeAmongOthers.descriptionLimit ∧
      (∀ other, Relation.ReflTransGen treeAlone.graph.Mentions treeRecord.id other →
        treeAlone.SaysSame treeAmongOthers other) ∧
      (treeAlone.synthesize treeRecord.id "v1").run {} =
        (treeAmongOthers.synthesize treeRecord.id "v1").run {} ∧
      ((treeAlone.synthesize treeRecord.id "v1").run {}).2.failed = [⟨leafRecord.id, "v1"⟩] :=
  ⟨rfl, rfl, fun _ => saysSame_tree, run_synthesize_eq_of_saysSame treeAlone treeAmongOthers rfl
    rfl treeRecord.id "v1" fun _ => saysSame_tree, by decide +kernel⟩

end SchemaSource
end MarkerManifests
