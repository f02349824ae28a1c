import MarkerManifests.Proofs.Marker.Encoding
import MarkerManifests.Proofs.Vocabulary.Canonical

/-!
# Writing markers of the vocabulary

Encoding the arguments of a marker and decoding the text gives the arguments back, whatever
delimiters, quotes, brackets, blanks and line ends stand in them.
-/

namespace MarkerManifests
namespace Vocabulary

open Definition

/-- A marker of the vocabulary with well-typed arguments that are strings, integers, truth values,
lists or gate expressions is read back from its canonical text in every comment in which it may
stand. -/
theorem readLine_render_marker
    {definition : Definition}
    {location : Location}
    {arguments : List (String × Argument)}
    (member : definition ∈ registry.definitions)
    (inComment : location.applicability = definition.applicability)
    (wellTyped : definition.IsWellTyped arguments)
    (delimited : ∀ argument ∈ arguments, argument.2.IsDelimited) :
    registry.readLine location (definition.marker location arguments).render =
      .ok (some (definition.marker location arguments)) :=
  Registry.readLine_render_marker_of_isUnambiguous isUnambiguous_registry member inComment
    wellTyped (fun argument isArgument => (delimited argument isArgument).readable)
    (fun argument isArgument => (delimited argument isArgument).doublesReadBack)
    (separable_of_isDelimited delimited)

/-- Arguments of an access rule, in another order than its parameters have. -/
def awkwardArguments : List (String × Argument) :=
  [("verbs", .list ["get,list", "", " \"a=b\" ", "\x7b"]),
    ("featureGate", .gate (.or (.and (.literal "a") (.literal "b")) (.literal "c"))),
    ("group", .list []),
    ("urls", .list ["/a;b&c~d\\e", "line\nbreak"])]

theorem isWellTyped_awkwardArguments : accessDefinition.IsWellTyped awkwardArguments where
  distinct := by decide
  declared := by
    simp only [awkwardArguments, List.forall_mem_cons]
    exact ⟨⟨_, rfl, rfl⟩, ⟨_, rfl, rfl⟩, ⟨_, rfl, rfl⟩, ⟨_, rfl, rfl⟩, fun _ => nofun⟩
  complete := by decide

/-- An access rule whose arguments contain delimiters, quotes, a bracket, a line end and empty
texts. -/
theorem readLine_render_awkwardArguments :
    accessDefinition ∈ registry.definitions ∧
      accessDefinition.IsWellTyped awkwardArguments ∧
      (∀ argument ∈ awkwardArguments, argument.2.IsDelimited) ∧
      (accessDefinition.marker (.package "apps") awkwardArguments).text =
        "+rbac:verbs=\"get,list\";\"\";\" \\\"a=b\\\" \";\"\x7b\"," ++
          "featureGate=(a&b)|c,group=,urls=\"/a;b&c~d\\\\e\";\"line\\nbreak\"" ∧
      registry.readLine (.package "apps")
          (accessDefinition.marker (.package "apps") awkwardArguments).render =
        .ok (some (accessDefinition.marker (.package "apps") awkwardArguments)) := by
  have member : accessDefinition ∈ registry.definitions := by decide +kernel
  have delimited : ∀ argument ∈ awkwardArguments, argument.2.IsDelimited := by
    simp [awkwardArguments, Argument.IsDelimited, Gate.Expr.HasNames]
    decide
  exact ⟨member, isWellTyped_awkwardArguments, delimited, by decide +kernel,
    readLine_render_marker member rfl isWellTyped_awkwardArguments delimited⟩

end Vocabulary
end MarkerManifests
