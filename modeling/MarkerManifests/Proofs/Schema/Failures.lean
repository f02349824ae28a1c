import MarkerManifests.Proofs.Schema.Accounting
import MarkerManifests.Proofs.Schema.Answers

/-!
# Failures below resources

A definition is left out if the schema of one of its roots failed. A declaration further below may
fail without that: it has the schema of unknown objects then, and the declarations that refer to it
are built from this schema. So below the roots of a definition every declaration that the schemas
are built on is finished at the version of the root, and either it failed and is an unknown object,
or it is made from the schemas of the declarations that it refers to in turn.
-/

namespace MarkerManifests
namespace SchemaSource

/-- The declarations on which the schema of another one is built: those that are met in it, and in
what is met there, as long as nothing fails. -/
def BuildsOn
    (source : SchemaSource)
    (table : SchemaTable)
    (version : String) : TypeId → TypeId → Prop :=
  Relation.ReflTransGen fun id target =>
    table.hasFailed ⟨id, version⟩ = false ∧ source.References id target

/-- How a declaration stands in a table. -/
inductive Stands
    (source : SchemaSource)
    (table : SchemaTable)
    (key : SchemaKey) : Prop where
  /-- It failed, and nothing is known about its objects. -/
  | failed
      (failed : table.hasFailed key = true)
      (finished : table.finished? key = some SchemaNode.opaqueObject)
  /-- Its schema is made from references and from finished schemas. -/
  | built
      {node : SchemaNode}
      {schemaOf : TypeId → SchemaNode}
      (unfailed : table.hasFailed key = false)
      (finished : table.finished? key = some node)
      (made : source.MadeFrom schemaOf key.id node)
      (answers : ∀ target, source.References key.id target →
        schemaOf target = SchemaNode.referenceTo target ∨
          table.finished? ⟨target, key.version⟩ = some (schemaOf target))

variable {source : SchemaSource} {table : SchemaTable}

theorem Settled.stands
    (settled : source.Settled table)
    {key : SchemaKey}
    (finished : (table.finished? key).isSome) :
    source.Stands table key := by
  obtain ⟨node, isFinished⟩ := Option.isSome_iff_exists.mp finished
  cases failed : table.hasFailed key with
  | true => exact .failed failed (settled.eq_opaqueObject isFinished failed ▸ isFinished)
  | false =>
      obtain ⟨schemaOf, made, answers⟩ := settled.exists_madeFrom isFinished failed
      exact .built failed isFinished made fun target refers => (answers target refers).2

/-- Everything on which a finished schema is built is finished. -/
theorem Settled.finished_of_buildsOn
    (settled : source.Settled table)
    {version : String}
    {root id : TypeId}
    (finished : (table.finished? ⟨root, version⟩).isSome)
    (buildsOn : source.BuildsOn table version root id) :
    (table.finished? ⟨id, version⟩).isSome := by
  induction buildsOn with
  | refl => exact finished
  | tail _ step finishedBefore =>
      obtain ⟨node, isFinished⟩ := Option.isSome_iff_exists.mp finishedBefore
      obtain ⟨schemaOf, -, answers⟩ := settled.exists_madeFrom isFinished step.1
      exact (answers _ step.2).1

/-- Whatever was called before, the versions of a definition have the schemas of the declarations of
its family, none of which failed. Everything on which such a schema is built is finished at the
same version: a declaration that failed stands there as an unknown object, and any other one is
made from references and finished schemas. -/
theorem stands_of_mem_definitions
    (source : SchemaSource)
    (calls : List SchemaCall) :
    let result := source.defineResources.run (source.performedAll calls)
    ∀ definition ∈ result.1.1,
      List.Forall₂ (fun key version =>
        version.name = key.version ∧ result.2.hasFailed key = false ∧
          (∃ node, result.2.finished? key = some node ∧
            version.schema = ResourceFamily.rootSchema node) ∧
          ∀ id, source.BuildsOn result.2 key.version key.id id →
            source.Stands result.2 ⟨id, key.version⟩)
        (source.members (definition.group, definition.names.kind)) definition.versions := by
  intro result definition listed
  obtain ⟨families, gathered, definitions, -⟩ := source.exists_gathered_defineResources calls
  have settled : source.Settled result.2 :=
    (source.settled_performedAll calls).calls [.defineResources]
  rw [definitions] at listed
  obtain ⟨family, member, made⟩ := List.mem_filterMap.mp listed
  have described :=
    gathered.forall₂_versions member (ResourceFamily.defined_of_definition? made)
  refine described.imp fun key version ⟨sameName, unfailed, node, finished, schema⟩ => ?_
  refine ⟨sameName, unfailed, ⟨node, finished, schema⟩, fun id buildsOn => ?_⟩
  exact settled.stands (settled.finished_of_buildsOn (by rw [finished]; rfl) buildsOn)

/-! ## A resource with a broken part -/

/-- A resource with a field of a record that refers to an unknown declaration. -/
def brokenPart : SchemaSource where
  graph :=
    { packages := [{
        name := "p"
        types := [
          { name := "Widget", package := "p"
            shape := .record [
              { name := "apiVersion", type := .scalar .string, key := "apiVersion" },
              { name := "kind", type := .scalar .string, key := "kind" },
              { name := "metadata", type := .scalar .any, key := "metadata" },
              { name := "spec", type := .list (.named ⟨"p", "Spec"⟩), key := "spec" }] },
          { name := "Spec", package := "p"
            shape := .record
              [{ name := "part", type := .named ⟨"p", "Missing"⟩, key := "part" }] }] }] }
  index :=
    { entries := [
        (.package "p", [
          { name := Vocabulary.groupName, location := .package "p", consumer := .schema,
            arguments := [(Definition.unnamed, .string "apps.example.com")] },
          { name := Vocabulary.versionName, location := .package "p", consumer := .schema,
            arguments := [(Definition.unnamed, .string "v1")] }]),
        (.declaration ⟨"p", "Widget"⟩, [
          { name := Vocabulary.resource, location := .declaration ⟨"p", "Widget"⟩,
            consumer := .schema, arguments := [] }])] }
  gates := .empty

/-- The resource is built on the record. -/
theorem references_brokenPart : brokenPart.References ⟨"p", "Widget"⟩ ⟨"p", "Spec"⟩ :=
  ⟨by decide +kernel, _, rfl, by decide +kernel⟩

theorem exists_definition_brokenPart :
    ∃ definition ∈ (brokenPart.defineResources.run (brokenPart.performedAll [])).1.1,
      (definition.group, definition.names.kind) = ("apps.example.com", "Widget") := by
  decide +kernel

theorem members_brokenPart :
    brokenPart.members ("apps.example.com", "Widget") = [⟨⟨"p", "Widget"⟩, "v1"⟩] := by
  decide +kernel

theorem hasFailed_brokenPart :
    (brokenPart.defineResources.run (brokenPart.performedAll [])).2.hasFailed
      ⟨⟨"p", "Spec"⟩, "v1"⟩ = true := by
  decide +kernel

/-- The resource is defined, and the record stands in it as an unknown object. -/
theorem exists_definition_with_unknown_part :
    let result := brokenPart.defineResources.run (brokenPart.performedAll [])
    (∃ definition ∈ result.1.1,
        (definition.group, definition.names.kind) = ("apps.example.com", "Widget")) ∧
      brokenPart.Stands result.2 ⟨⟨"p", "Spec"⟩, "v1"⟩ ∧
      result.2.hasFailed ⟨⟨"p", "Spec"⟩, "v1"⟩ = true := by
  have defined := exists_definition_brokenPart
  have failed := hasFailed_brokenPart
  have described := stands_of_mem_definitions brokenPart []
  dsimp only at described ⊢
  generalize brokenPart.defineResources.run (brokenPart.performedAll []) = result
    at defined failed described ⊢
  refine ⟨defined, ?_, failed⟩
  obtain ⟨definition, listed, sameFamily⟩ := defined
  have roots := described definition listed
  rw [sameFamily, members_brokenPart] at roots
  obtain ⟨version, rest, ⟨-, unfailed, -, stands⟩, -, -⟩ := List.forall₂_cons_left_iff.mp roots
  exact stands _ (.single ⟨unfailed, references_brokenPart⟩)

/-- A declaration on which the schema of a definition is built may have failed. -/
theorem exists_definition_with_failure :
    ¬ ∀ (source : SchemaSource) (calls : List SchemaCall),
      let result := source.defineResources.run (source.performedAll calls)
      ∀ definition ∈ result.1.1,
        ∀ key ∈ source.members (definition.group, definition.names.kind),
          ∀ id, source.Reaches key.id id → result.2.hasFailed ⟨id, key.version⟩ = false := by
  intro unfailed
  have noFailure := unfailed brokenPart []
  have defined := exists_definition_brokenPart
  have failed := hasFailed_brokenPart
  dsimp only at noFailure
  generalize brokenPart.defineResources.run (brokenPart.performedAll []) = result
    at defined failed noFailure
  obtain ⟨definition, listed, sameFamily⟩ := defined
  have spec := noFailure definition listed ⟨⟨"p", "Widget"⟩, "v1"⟩
    (by rw [sameFamily, members_brokenPart]; exact List.mem_cons_self) ⟨"p", "Spec"⟩
    (.single references_brokenPart)
  rw [failed] at spec
  cases spec

end SchemaSource
end MarkerManifests
