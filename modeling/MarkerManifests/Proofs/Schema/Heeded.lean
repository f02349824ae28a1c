import MarkerManifests.Proofs.Graph.Heeded
import MarkerManifests.Proofs.Schema.Alike

/-!
# Schemas without ignored entries

Synthesis reads the comments of a graph through the index of its markers and through descriptions.
With the same index, the schemas and the resource definitions of a graph and the diagnostics that
come with them are those of the graph without its ignored entries.
-/

namespace MarkerManifests
namespace SchemaSource

variable {registry : Registry} {source : SchemaSource}

/-- The source with the graph without ignored entries. -/
def heeded (registry : Registry) (source : SchemaSource) : SchemaSource :=
  { source with graph := source.graph.heeded registry }

@[simp] theorem graph_heeded :
    (source.heeded registry).graph = source.graph.heeded registry := rfl

theorem withDescription_heeded
    (location : Location)
    (doc : List String)
    (node : SchemaNode) :
    (source.heeded registry).withDescription (registry.heeded location doc) node =
      source.withDescription doc node := by
  rw [withDescription, withDescription, describe, describe, registry.description?_heeded]
  rfl

theorem resolvesAlike_heeded (id : TypeId) : (source.heeded registry).ResolvesAlike source id := by
  rw [ResolvesAlike, graph_heeded, TypeGraph.resolve?_heeded]
  cases source.graph.resolve? id with
  | none => rfl
  | some declaration => simp only [Option.map_some, Declaration.shape_heeded, Shape.isRecord_heeded]

theorem addField_heeded
    (named : TypeId → Synthesis SchemaNode)
    (id : TypeId)
    (node : SchemaNode)
    (field : Field) :
    (source.heeded registry).addField named id node (field.heeded registry id) =
      source.addField named id node field := by
  rw [addField, addField, embeddedSchema_congr fun target _ => resolvesAlike_heeded target]
  simp only [Field.heeded, refSchema_congr fun target _ => resolvesAlike_heeded target,
    withDescription_heeded]
  rfl

theorem addFields_heeded
    (named : TypeId → Synthesis SchemaNode)
    (id : TypeId)
    (node : SchemaNode)
    (fields : List Field) :
    (source.heeded registry).addFields named id node (fields.map (·.heeded registry id)) =
      source.addFields named id node fields := by
  induction fields generalizing node with
  | nil => rfl
  | cons field rest inductionHypothesis =>
      simp only [List.map_cons, addFields, addField_heeded, inductionHypothesis]

theorem recordSchema_heeded
    (named : TypeId → Synthesis SchemaNode)
    (id : TypeId)
    (fields : List Field) :
    (source.heeded registry).recordSchema named id (fields.map (·.heeded registry id)) =
      source.recordSchema named id fields := by
  have sameSkipped : (source.heeded registry).isSkipped id ∘ (·.heeded registry id) =
      source.isSkipped id := rfl
  have sameKept : (fun field => !(source.heeded registry).isSkipped id field) ∘
      (·.heeded registry id) = fun field => !source.isSkipped id field := rfl
  have sameNames : unionName ∘ (·.heeded registry id) = unionName := rfl
  rw [recordSchema, recordSchema]
  simp only [List.filter_map, sameSkipped, sameKept, addFields_heeded, List.map_map, sameNames]
  rfl

theorem build_heeded
    (named : TypeId → Synthesis SchemaNode)
    (id : TypeId) :
    (source.heeded registry).build named id = source.build named id := by
  have sameShape : ∀ (id : TypeId) (shape : Shape),
      (source.heeded registry).shapeSchema named id (shape.heeded registry id) =
        source.shapeSchema named id shape := by
    intro id shape
    cases shape with
    | record fields => exact recordSchema_heeded named id fields
    | synonym target => exact refSchema_congr fun target _ => resolvesAlike_heeded target
    | enumeration base members => rfl
    | scalar kind => rfl
  rw [build, build, graph_heeded, TypeGraph.resolve?_heeded]
  cases source.graph.resolve? id with
  | none => rfl
  | some declaration =>
      simp only [Option.map_some, declarationSchema, Declaration.id_heeded,
        Declaration.doc_heeded, Declaration.shape_heeded, sameShape, withDescription_heeded]
      rfl

theorem addresses_heeded : (source.heeded registry).addresses = source.addresses := by
  unfold addresses declarationsInPackages
  rw [graph_heeded, TypeGraph.heeded, List.flatMap_map, List.map_flatMap, List.map_flatMap]
  refine congrArg (source.graph.packages.flatMap ·) (funext fun package => ?_)
  rw [Package.heeded, List.map_map, List.map_map, List.map_map]
  rfl

theorem buildsAlike_heeded : source.BuildsAlike (source.heeded registry) where
  index := rfl
  gates := rfl
  addresses := addresses_heeded
  build := build_heeded

/-- Ignored entries do not change the resource definitions or their diagnostics. -/
theorem defineResources_heeded (registry : Registry) (source : SchemaSource) :
    (source.heeded registry).defineResources = source.defineResources :=
  buildsAlike_heeded.defineResources

end SchemaSource
end MarkerManifests
