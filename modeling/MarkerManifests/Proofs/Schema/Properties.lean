import MarkerManifests.Proofs.Schema.Answers

/-!
# The properties of records

The schema of a record that did not fail has a property for every field that is kept. In place of a
field that embeds a record it has the properties of that record, and so on. There is one exception:
an embedded record that failed has the schema of unknown objects, which has no properties, so its
fields are missing wherever it is embedded, although the outer record does not fail.
-/

namespace MarkerManifests

theorem SchemaNode.hasProperty_eq_true_iff {node : SchemaNode} {key : String} :
    node.hasProperty key = true ↔ ∃ schema, (key, schema) ∈ node.properties := by
  rw [hasProperty, List.any_eq_true]
  constructor
  · rintro ⟨⟨name, schema⟩, member, same⟩
    exact ⟨schema, of_decide_eq_true same ▸ member⟩
  · rintro ⟨schema, member⟩
    exact ⟨(key, schema), member, decide_eq_true rfl⟩

namespace SchemaSource

/-- The keys that a record contributes: those of the fields that it keeps, and in place of a field
that embeds a record those that this record contributes, if it satisfies a condition. -/
inductive Contributes
    (source : SchemaSource)
    (embeds : TypeId → Prop) : TypeId → String → Prop where
  | own
      {id : TypeId}
      {declaration : Declaration}
      {field : Field}
      (resolved : source.graph.resolve? id = some declaration)
      (isKept : field ∈ source.keptFields declaration)
      (notInline : field.inline = false) :
      Contributes source embeds id field.key
  | embedded
      {id target : TypeId}
      {declaration : Declaration}
      {field : Field}
      {key : String}
      (resolved : source.graph.resolve? id = some declaration)
      (isKept : field ∈ source.keptFields declaration)
      (isInline : field.inline = true)
      (stripped : field.type.stripPointers = .named target)
      (allowed : embeds target)
      (contributes : Contributes source embeds target key) :
      Contributes source embeds id key

/-- A record describes exactly what it contributes. -/
def Describes
    (source : SchemaSource)
    (table : SchemaTable)
    (key : SchemaKey)
    (node : SchemaNode) : Prop :=
  ∀ declaration, source.graph.resolve? key.id = some declaration →
    declaration.shape.isRecord = true → ∀ property, node.hasProperty property = true ↔
      source.Contributes (fun target => table.hasFailed ⟨target, key.version⟩ = false) key.id
        property

/-- What embeds a record has been answered with a schema that describes the record, unless the
record failed. -/
theorem describes_of_answered
    {source : SchemaSource}
    {table : SchemaTable}
    {key : SchemaKey}
    {node : SchemaNode}
    (finished : node.isReference = false)
    (answered : table.Answered (source.Describes table) key node) :
    (table.hasFailed key = true ∧ node.properties = []) ∨
      (table.hasFailed key = false ∧ source.Describes table key node) := by
  cases answered with
  | reference => cases finished
  | failed failed => exact .inl ⟨failed, rfl⟩
  | schema unfailed describes => exact .inr ⟨unfailed, describes⟩

/-- What is made from schemas that describe their records describes its record. -/
theorem describes_of_madeFrom
    {source : SchemaSource}
    {table : SchemaTable}
    {key : SchemaKey}
    {node : SchemaNode}
    {schemaOf : TypeId → SchemaNode}
    (made : source.MadeFrom schemaOf key.id node)
    (answers : ∀ target, source.References key.id target →
      table.Answered (source.Describes table) ⟨target, key.version⟩ (schemaOf target)) :
    source.Describes table key node := by
  intro declaration resolved isRecord property
  have addedBy := addedBy_of_plainFrom resolved isRecord made.plain
  have embedded : ∀ field ∈ source.keptFields declaration, field.inline = true →
      ∀ target, field.type.stripPointers = .named target →
      ∀ other, source.graph.resolve? target = some other →
        (table.hasFailed ⟨target, key.version⟩ = true ∧ (schemaOf target).properties = []) ∨
          (table.hasFailed ⟨target, key.version⟩ = false ∧
            source.Describes table ⟨target, key.version⟩ (schemaOf target)) := by
    intro field isKept isInline target stripped other resolvedTarget
    have named := mem_followed_of_mem_keptFields isKept
      (TypeRef.mem_targets_of_stripPointers_eq_named stripped)
    exact describes_of_answered
      (made.embeds declaration resolved field isKept isInline target stripped)
      (answers target ⟨by rw [resolvedTarget]; rfl, declaration, resolved, named⟩)
  rw [SchemaNode.hasProperty_eq_true_iff]
  constructor
  · rintro ⟨schema, isProperty⟩
    obtain ⟨field, isKept, part, adds, isAdded⟩ := addedBy.sound _ isProperty
    cases adds with
    | own notInline _ _ =>
        cases List.mem_singleton.mp isAdded
        exact .own resolved isKept notInline
    | embedded isInline stripped resolvedTarget isRecordTarget =>
        rcases embedded field isKept isInline _ stripped _ resolvedTarget with
          ⟨-, empty⟩ | ⟨unfailed, describes⟩
        · rw [empty] at isAdded
          exact absurd isAdded List.not_mem_nil
        · refine .embedded resolved isKept isInline stripped unfailed ?_
          exact (describes _ resolvedTarget isRecordTarget property).mp
            (SchemaNode.hasProperty_eq_true_iff.mpr ⟨schema, isAdded⟩)
  · intro contributes
    cases contributes with
    | own same isKept notInline =>
        cases resolved.symm.trans same
        obtain ⟨part, adds, subset⟩ := addedBy.complete _ isKept
        cases adds with
        | own _ _ _ => exact ⟨_, subset List.mem_cons_self⟩
        | embedded isInline _ _ _ =>
            rw [notInline] at isInline
            cases isInline
    | embedded same isKept isInline stripped unfailed contributes =>
        cases resolved.symm.trans same
        obtain ⟨part, adds, subset⟩ := addedBy.complete _ isKept
        cases adds with
        | own notInline _ _ =>
            rw [isInline] at notInline
            cases notInline
        | embedded _ strippedAgain resolvedTarget isRecordTarget =>
            cases stripped.symm.trans strippedAgain
            rcases embedded _ isKept isInline _ stripped _ resolvedTarget with
              ⟨failed, -⟩ | ⟨-, describes⟩
            · rw [unfailed] at failed
              cases failed
            · obtain ⟨schema, isProperty⟩ := SchemaNode.hasProperty_eq_true_iff.mp
                ((describes _ resolvedTarget isRecordTarget property).mpr contributes)
              exact ⟨schema, subset isProperty⟩

/-- Whatever was called before, the schema of a record that did not fail has exactly the properties
that the record contributes, where embedded records count if they did not fail either. -/
theorem hasProperty_iff_contributes
    (source : SchemaSource)
    (calls : List SchemaCall)
    (key : SchemaKey)
    {declaration : Declaration}
    (resolved : source.graph.resolve? key.id = some declaration)
    (isRecord : declaration.shape.isRecord = true) :
    let answer := (source.synthesize key.id key.version).run (source.performedAll calls)
    answer.2.hasFailed key = false → ∀ property, answer.1.hasProperty property = true ↔
      source.Contributes (fun target => answer.2.hasFailed ⟨target, key.version⟩ = false) key.id
        property := by
  intro answer unfailed
  obtain ⟨settled, finished⟩ :=
    (source.settled_performedAll calls).synthesize key.id key.version
  exact settled.induction (source.Describes answer.2)
    (fun _ _ _ made answers => describes_of_madeFrom made answers) finished unfailed
    declaration resolved isRecord

/-! ## A record that embeds a part -/

/-- A record that embeds a second one and keeps a field. The second record has a union whose member
is named in the given marker. -/
def recordWithPart (member : String) : SchemaSource where
  graph :=
    { packages := [{
        name := "p"
        types := [
          { name := "Widget", package := "p"
            shape := .record [
              { name := "Meta", type := .pointer (.named ⟨"p", "Meta"⟩), key := "Meta",
                inline := true },
              { name := "size", type := .scalar .int32, key := "size" }] },
          { name := "Meta", package := "p"
            shape := .record
              [{ name := "kind", type := .scalar .string, key := "kind" }] }] }] }
  index :=
    { entries := [(.declaration ⟨"p", "Meta"⟩, [
        { name := Vocabulary.exactlyOneOf, location := .declaration ⟨"p", "Meta"⟩,
          consumer := .schema, arguments := [(Definition.unnamed, .list [member])] }])] }
  gates := .empty

/-- The key of a widget at a version. -/
def widgetKey : SchemaKey :=
  ⟨⟨"p", "Widget"⟩, "v1"⟩

/-- The part contributes its field, if it is embedded. -/
theorem contributes_kind
    (member : String)
    {embeds : TypeId → Prop}
    (allowed : embeds ⟨"p", "Meta"⟩) :
    (recordWithPart member).Contributes embeds widgetKey.id "kind" := by
  let kind : Field := { name := "kind", type := .scalar .string, key := "kind" }
  have part : (recordWithPart member).Contributes embeds ⟨"p", "Meta"⟩ kind.key :=
    .own rfl List.mem_cons_self rfl
  exact .embedded rfl List.mem_cons_self rfl rfl allowed part

/-- A union of a member that the part has does no harm. -/
theorem hasProperty_widget_iff_contributes :
    let answer := ((recordWithPart "kind").synthesize widgetKey.id widgetKey.version).run
      ((recordWithPart "kind").performedAll [.synthesizeAll "v1"])
    (∀ property, answer.1.hasProperty property = true ↔
        (recordWithPart "kind").Contributes
          (fun target => answer.2.hasFailed ⟨target, widgetKey.version⟩ = false) widgetKey.id
          property) ∧
      answer.1.hasProperty "kind" = true := by
  intro answer
  have describes := hasProperty_iff_contributes (recordWithPart "kind") [.synthesizeAll "v1"]
    widgetKey rfl rfl (by decide +kernel)
  exact ⟨describes, (describes "kind").mpr (contributes_kind "kind" (by decide +kernel))⟩

/-- A union of a member that the part lacks fails the part, and the outer record loses the field of
the part without failing. -/
theorem exists_contributed_property_missing :
    ¬ ∀ (source : SchemaSource) (calls : List SchemaCall) (key : SchemaKey)
        (declaration : Declaration),
      source.graph.resolve? key.id = some declaration → declaration.shape.isRecord = true →
        let answer := (source.synthesize key.id key.version).run (source.performedAll calls)
        answer.2.hasFailed key = false → ∀ property,
          source.Contributes (fun _ => True) key.id property →
            answer.1.hasProperty property = true := by
  intro describes
  have hasKind := describes (recordWithPart "nope") [] widgetKey _ rfl rfl
    (by decide +kernel) "kind" (contributes_kind "nope" trivial)
  revert hasKind
  decide +kernel

end SchemaSource
end MarkerManifests
