import MarkerManifests.Proofs.Schema.Answers

/-!
# Bounds and types

A marker may set a bound only where the bound applies to the type of the schema. Markers that change
the type come first, so among the markers of one comment the order does not matter. But a schema
gets markers in several layers: those of its declaration, those of every alias, and those of the
field that has the type. A layer that puts another type in place of the one that an inner layer was
checked against keeps the bounds of the inner layer. Where no layer does that to a bound that does
not apply to its type, all bounds fit.
-/

namespace MarkerManifests

/-- Bounds stand only in schemas of the types that they belong to. -/
structure Keywords.BoundsFit (keywords : Keywords) : Prop where
  texts :
    keywords.maxLength.isSome ∨ keywords.minLength.isSome ∨ keywords.pattern.isSome →
      keywords.type = some .string
  lists :
    keywords.maxItems.isSome ∨ keywords.minItems.isSome → keywords.type = some .array
  objects :
    keywords.maxProperties.isSome ∨ keywords.minProperties.isSome →
      keywords.type = some .object
  numbers :
    keywords.minimum.isSome ∨ keywords.maximum.isSome ∨ keywords.multipleOf.isSome ∨
        keywords.exclusiveMinimum = true ∨ keywords.exclusiveMaximum = true →
      keywords.type = some .integer ∨ keywords.type = some .number

/-- Every bound of the keywords applies to their type. -/
def Keywords.BoundsApply (keywords : Keywords) : Prop :=
  ∀ constraint, keywords.holds constraint = true → constraint.appliesTo keywords.type = true

/-- A bound that belongs to one type applies to no other one. -/
theorem Constraint.eq_of_appliesTo
    {constraint : Constraint}
    {only : SchemaType}
    (belongs : ∀ type, constraint.appliesToType type = (type == only))
    {type : Option SchemaType}
    (applies : constraint.appliesTo type = true) :
    type = some only := by
  cases type with
  | none => cases applies
  | some type => exact congrArg some (beq_iff_eq.mp ((belongs type).symm.trans applies))

theorem Constraint.eq_or_eq_of_appliesTo
    {constraint : Constraint}
    (belongs : ∀ type, constraint.appliesToType type = type.isNumeric)
    {type : Option SchemaType}
    (applies : constraint.appliesTo type = true) :
    type = some .integer ∨ type = some .number := by
  cases type with
  | none => cases applies
  | some type =>
      have isNumeric := (belongs type).symm.trans applies
      cases type with
      | integer => exact .inl rfl
      | number => exact .inr rfl
      | object => cases isNumeric
      | array => cases isNumeric
      | string => cases isNumeric
      | boolean => cases isNumeric

theorem Keywords.BoundsApply.boundsFit
    {keywords : Keywords}
    (apply : keywords.BoundsApply) :
    keywords.BoundsFit where
  texts := by
    rintro (held | held | held)
    · exact Constraint.eq_of_appliesTo (fun _ => rfl) (apply .maxLength held)
    · exact Constraint.eq_of_appliesTo (fun _ => rfl) (apply .minLength held)
    · exact Constraint.eq_of_appliesTo (fun _ => rfl) (apply .pattern held)
  lists := by
    rintro (held | held)
    · exact Constraint.eq_of_appliesTo (fun _ => rfl) (apply .maxItems held)
    · exact Constraint.eq_of_appliesTo (fun _ => rfl) (apply .minItems held)
  objects := by
    rintro (held | held)
    · exact Constraint.eq_of_appliesTo (fun _ => rfl) (apply .maxProperties held)
    · exact Constraint.eq_of_appliesTo (fun _ => rfl) (apply .minProperties held)
  numbers := by
    rintro (held | held | held | held | held)
    · exact Constraint.eq_or_eq_of_appliesTo (fun _ => rfl) (apply .minimum held)
    · exact Constraint.eq_or_eq_of_appliesTo (fun _ => rfl) (apply .maximum held)
    · exact Constraint.eq_or_eq_of_appliesTo (fun _ => rfl) (apply .multipleOf held)
    · exact Constraint.eq_or_eq_of_appliesTo (fun _ => rfl) (apply .exclusiveMinimum held)
    · exact Constraint.eq_or_eq_of_appliesTo (fun _ => rfl) (apply .exclusiveMaximum held)

theorem SchemaNode.Bare.boundsApply {node : SchemaNode} (bare : node.Bare) : node.BoundsApply := by
  intro constraint held
  rw [bare.bounds constraint] at held
  cases held

/-- The bounds of a marked schema apply if those of the schema do, also to a type that the markers
put in place. -/
theorem SchemaNode.Decorates.boundsApply
    {markers : Markers}
    {unmarked marked : SchemaNode}
    (decorates : Decorates (· ∈ markers.bounds)
      { unmarked with type := markers.override?.getD unmarked.type } marked)
    (apply : unmarked.BoundsApply)
    (overridden : ∀ type, markers.override? = some type →
      ∀ constraint, unmarked.holds constraint = true → constraint.appliesTo type = true) :
    marked.BoundsApply := by
  intro constraint held
  rcases decorates.bounds constraint held with old | ⟨-, applies⟩
  · rw [decorates.type]
    cases override : markers.override? with
    | none => exact apply constraint old
    | some type => exact overridden type override constraint old
  · exact applies

namespace SchemaSource

/-! ## Layers of markers -/

/-- The bounds that the schema of a declaration may bring along: those that its own markers mention
and, if it is an alias for another declaration, those that this declaration brings along. -/
inductive Brings (source : SchemaSource) : TypeId → Constraint → Prop where
  | own
      {id : TypeId}
      {declaration : Declaration}
      {constraint : Constraint}
      (resolved : source.graph.resolve? id = some declaration)
      (mentioned : constraint ∈ (source.index.declaration declaration.id).bounds) :
      Brings source id constraint
  | «alias»
      {id target : TypeId}
      {declaration : Declaration}
      {reference : TypeRef}
      {constraint : Constraint}
      (resolved : source.graph.resolve? id = some declaration)
      (shape : declaration.shape = .synonym reference)
      (stripped : reference.stripPointers = .named target)
      (brings : Brings source target constraint) :
      Brings source id constraint

/-- The references in a declaration whose schemas get further markers: the types of fields, and the
type for which an alias stands. -/
inductive Layer (source : SchemaSource) (id : TypeId) : TypeRef → Markers → Prop where
  | field
      {declaration : Declaration}
      {field : Field}
      (resolved : source.graph.resolve? id = some declaration)
      (isKept : field ∈ source.keptFields declaration)
      (notInline : field.inline = false) :
      Layer source id field.type (source.index.field declaration.id field.name)
  | «alias»
      {declaration : Declaration}
      {reference : TypeRef}
      (resolved : source.graph.resolve? id = some declaration)
      (shape : declaration.shape = .synonym reference) :
      Layer source id reference (source.index.declaration declaration.id)

/-- In a declaration the markers of a layer put a type in place of that of another declaration,
which brings along a bound that does not apply to the new type. -/
def Overrides (source : SchemaSource) (id : TypeId) : Prop :=
  ∃ reference markers target type constraint,
    source.Layer id reference markers ∧ reference.stripPointers = .named target ∧
      markers.override? = some type ∧ source.Brings target constraint ∧
      constraint.appliesTo type = false

/-! ## Bounds of schemas -/

/-- The bounds of a schema apply everywhere, and those of its root are brought along by its
declaration. -/
structure Bounded (source : SchemaSource) (id : TypeId) (node : SchemaNode) : Prop where
  brought : ∀ constraint, node.holds constraint = true → source.Brings id constraint
  apply : node.Everywhere fun part => part.BoundsApply

theorem bounded_of_boundless
    (source : SchemaSource)
    (id : TypeId)
    {node : SchemaNode}
    (boundless : ∀ constraint, node.holds constraint = false)
    (noChildren : node.children = []) :
    source.Bounded id node where
  brought := fun constraint held => absurd held (Bool.eq_false_iff.mp (boundless constraint))
  apply := by
    refine .intro (fun constraint held => ?_) fun child isChild => ?_
    · exact absurd held (Bool.eq_false_iff.mp (boundless constraint))
    · rw [noChildren] at isChild
      exact absurd isChild List.not_mem_nil

theorem bounded_referenceTo (source : SchemaSource) (id : TypeId) :
    source.Bounded id (SchemaNode.referenceTo id) :=
  source.bounded_of_boundless id (fun constraint => by cases constraint <;> rfl) rfl

theorem bounded_opaqueObject (source : SchemaSource) (id : TypeId) :
    source.Bounded id SchemaNode.opaqueObject :=
  source.bounded_of_boundless id (fun constraint => by cases constraint <;> rfl) rfl

variable {source : SchemaSource} {id : TypeId} {schemaOf : TypeId → SchemaNode}

/-- The bounds of a layer apply if the layer overrides no type against them. -/
theorem boundsApply_of_layer
    (safe : ¬ source.Overrides id)
    {reference : TypeRef}
    {markers : Markers}
    (layer : source.Layer id reference markers)
    {unmarked marked : SchemaNode}
    (origin : unmarked.Bare ∨ ∃ target, reference.stripPointers = .named target ∧
      source.Bounded target unmarked)
    (decorates : SchemaNode.Decorates (· ∈ markers.bounds)
      { unmarked with type := markers.override?.getD unmarked.type } marked) :
    marked.BoundsApply := by
  rcases origin with bare | ⟨target, stripped, bounded⟩
  · refine decorates.boundsApply bare.boundsApply fun _ _ constraint held => ?_
    rw [bare.bounds constraint] at held
    cases held
  · refine decorates.boundsApply bounded.apply.here fun type override constraint held => ?_
    by_contra misfit
    exact safe ⟨reference, markers, target, type, constraint, layer, stripped, override,
      bounded.brought constraint held, Bool.eq_false_iff.mpr misfit⟩

/-- What is made from schemas whose bounds apply has bounds that apply, if no layer of the
declaration overrides a type against them. -/
theorem bounded_of_plainFrom
    (safe : ¬ source.Overrides id)
    (answers : ∀ target, source.References id target →
      source.Bounded target (schemaOf target))
    {node : SchemaNode}
    (defined : source.plainFrom schemaOf id = .ok node) :
    source.Bounded id node := by
  obtain ⟨declaration, resolved⟩ := exists_resolve?_of_plainFrom defined
  obtain ⟨unmarked, origin, decorates⟩ := exists_decorates_of_plainFrom resolved defined
  have aliased : ∀ reference target, declaration.shape = .synonym reference →
      reference.stripPointers = .named target → (source.graph.resolve? target).isSome →
      source.Bounded target (schemaOf target) := by
    intro reference target shape stripped declared
    refine answers target ⟨declared, declaration, resolved, ?_⟩
    rw [followed, shape]
    exact TypeRef.mem_targets_of_stripPointers_eq_named stripped
  constructor
  · intro constraint held
    rcases decorates.bounds constraint held with old | ⟨mentioned, -⟩
    · rcases origin with bare | ⟨reference, target, shape, stripped, declared, rfl⟩
      · exact absurd old (Bool.eq_false_iff.mp (bare.bounds constraint))
      · exact .alias resolved shape stripped
          ((aliased reference target shape stripped declared).brought constraint old)
    · exact .own resolved mentioned
  · refine .intro ?_ (forall_mem_children_everywhere_of_plainFrom
      (fun _ bare => bare.boundsApply) (fun target refers => (answers target refers).apply)
      resolved (fun field isKept notInline unmarked schema made applied => ?_) defined)
    · rcases origin with bare | ⟨reference, target, shape, stripped, declared, rfl⟩
      · refine decorates.boundsApply bare.boundsApply fun _ _ constraint held => ?_
        exact absurd held (Bool.eq_false_iff.mp (bare.bounds constraint))
      · exact boundsApply_of_layer safe (.alias resolved shape)
          (.inr ⟨target, stripped, aliased reference target shape stripped declared⟩) decorates
    · refine boundsApply_of_layer safe (.field resolved isKept notInline) ?_
        (decorates_marked applied)
      refine (bare_or_eq_of_plainRef made).imp_right ?_
      rintro ⟨target, stripped, declared, same⟩
      refine ⟨target, stripped, same ▸ answers target ⟨declared, declaration, resolved, ?_⟩⟩
      exact mem_followed_of_mem_keptFields isKept
        (TypeRef.mem_targets_of_stripPointers_eq_named stripped)

/-- Whatever was called before, all bounds in the schema of a declaration stand in schemas of the
types that they belong to, if no layer in what the declaration reaches overrides a type against a
bound. -/
theorem boundsFit_of_mem_walk
    (source : SchemaSource)
    (calls : List SchemaCall)
    (key : SchemaKey)
    (safe : ∀ id, source.Reaches key.id id → ¬ source.Overrides id) :
    let answer := (source.synthesize key.id key.version).run (source.performedAll calls)
    ∀ part ∈ answer.1.walk, part.BoundsFit := by
  intro answer
  obtain ⟨settled, finished⟩ :=
    (source.settled_performedAll calls).synthesize key.id key.version
  have bounded : source.Bounded key.id answer.1 := by
    cases failed : answer.2.hasFailed key with
    | true =>
        rw [settled.eq_opaqueObject finished failed]
        exact source.bounded_opaqueObject key.id
    | false =>
        refine settled.induction
          (fun key node => (∀ id, source.Reaches key.id id → ¬ source.Overrides id) →
            source.Bounded key.id node)
          (fun key node schemaOf made answers safe => ?_) finished failed safe
        refine bounded_of_plainFrom (safe key.id .refl) (fun target refers => ?_) made.plain
        have answered := answers target refers
        generalize schemaOf target = embedded at answered ⊢
        cases answered with
        | reference => exact source.bounded_referenceTo target
        | failed _ => exact source.bounded_opaqueObject target
        | schema _ inherits => exact inherits fun id reaches => safe id (.head refers reaches)
  intro part member
  exact (bounded.apply.forall_mem_walk part member).boundsFit

/-! ## Names with a bound -/

/-- A record with a field of a named text with a bound. A marker of the field puts the given type in
place of that of the name. -/
def boundedName (word : String) : SchemaSource where
  graph :=
    { packages := [{
        name := "p"
        types := [
          { name := "Spec", package := "p"
            shape := .record [{ name := "name", type := .named ⟨"p", "Name"⟩, key := "name" }] },
          { name := "Name", package := "p", shape := .scalar .string }] }] }
  index :=
    { entries := [
        (.field ⟨"p", "Spec"⟩ "name", [
          { name := Vocabulary.typeOverride, location := .field ⟨"p", "Spec"⟩ "name",
            consumer := .schema, arguments := [(Definition.unnamed, .string word)] }]),
        (.declaration ⟨"p", "Name"⟩, [
          { name := Vocabulary.maxLength, location := .declaration ⟨"p", "Name"⟩,
            consumer := .schema, arguments := [(Definition.unnamed, .integer 5)] }])] }
  gates := .empty

/-- The names have no bounds but those of their length. -/
theorem eq_maxLength_of_brings
    {word : String}
    (bounds : ∀ declaration ∈ (boundedName word).graph.declarations,
      ∀ constraint ∈ ((boundedName word).index.declaration declaration.id).bounds,
        constraint = .maxLength)
    {constraint : Constraint}
    (brings : (boundedName word).Brings id constraint) :
    constraint = .maxLength := by
  induction brings with
  | own resolved mentioned =>
      exact bounds _ (List.mem_of_find?_eq_some resolved) _ mentioned
  | «alias» _ _ _ _ inductionHypothesis => exact inductionHypothesis

/-- A marker that repeats the type of the name does no harm. -/
theorem boundsFit_boundedName :
    let answer := ((boundedName "string").synthesize ⟨"p", "Spec"⟩ "v1").run
      ((boundedName "string").performedAll [.synthesize ⟨"p", "Name"⟩ "v1"])
    (∀ part ∈ answer.1.walk, part.BoundsFit) ∧
      (answer.1.property? "name").map (·.maxLength) = some (some 5) := by
  have safe : ∀ id, ¬ (boundedName "string").Overrides id := by
    rintro id ⟨reference, markers, target, type, constraint, layer, -, override, brings, misfit⟩
    cases eq_maxLength_of_brings (by decide +kernel) brings
    have keepsType : markers.override? = none ∨ markers.override? = some (some .string) := by
      cases layer with
      | field resolved isKept _ =>
          have fields : ∀ declaration ∈ (boundedName "string").graph.declarations,
              ∀ field ∈ (boundedName "string").keptFields declaration,
                ((boundedName "string").index.field declaration.id field.name).override? =
                  some (some .string) := by
            decide +kernel
          exact .inr (fields _ (List.mem_of_find?_eq_some resolved) _ isKept)
      | «alias» resolved shape =>
          have declarations : ∀ declaration ∈ (boundedName "string").graph.declarations,
              ((boundedName "string").index.declaration declaration.id).override? = none := by
            decide +kernel
          exact .inl (declarations _ (List.mem_of_find?_eq_some resolved))
    rcases keepsType with unchanged | isString
    · rw [unchanged] at override
      cases override
    · rw [isString] at override
      cases override
      cases misfit
  exact ⟨boundsFit_of_mem_walk (boundedName "string") [.synthesize ⟨"p", "Name"⟩ "v1"]
    ⟨⟨"p", "Spec"⟩, "v1"⟩ fun id _ => safe id, by decide +kernel⟩

/-- A marker that turns the name into an integer leaves the bound of its length. -/
theorem exists_bound_of_other_type :
    ¬ ∀ (source : SchemaSource) (calls : List SchemaCall) (key : SchemaKey),
      let answer := (source.synthesize key.id key.version).run (source.performedAll calls)
      ∀ part ∈ answer.1.walk, part.BoundsFit := by
  intro fits
  have everywhere := SchemaNode.Everywhere.of_forall_mem_walk
    (fits (boundedName "integer") [] ⟨⟨"p", "Spec"⟩, "v1"⟩)
  have misfit :
      ∃ part ∈ (((boundedName "integer").synthesize ⟨"p", "Spec"⟩ "v1").run {}).1.children,
        part.maxLength = some 5 ∧ part.type = some .integer := by
    decide +kernel
  obtain ⟨part, isChild, held, isInteger⟩ := misfit
  have isString := (everywhere.of_mem_children part isChild).here.texts
    (.inl (by rw [held]; rfl))
  rw [isInteger] at isString
  cases isString

end SchemaSource
end MarkerManifests
