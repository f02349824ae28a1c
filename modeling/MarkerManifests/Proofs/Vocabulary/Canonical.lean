import MarkerManifests.Proofs.Marker.Canonical
import MarkerManifests.Vocabulary.Complete

/-!
# Canonical lines of the vocabulary

The registry of all markers is unambiguous, so a marker of a schema, an access rule, a webhook or a
metric reads back from its canonical text exactly when its arguments are separable.
-/

namespace MarkerManifests
namespace Vocabulary

open Definition

/-! ## The registry -/

theorem spelling_definitions :
    ∀ definition ∈ registry.definitions,
      definition.name.toList.head?.any Char.isAlpha = true ∧
        definition.name.toList.all
          (fun character => decide (character ≠ '=' ∧ Text.isBlank character = false)) := by
  decide +kernel

theorem kinds_definitions :
    ∀ definition ∈ registry.definitions, definition.takesValue = true →
      ∀ parameter ∈ definition.parameters,
        parameter.kind ≠ .path ∧ parameter.kind ≠ .record := by
  decide +kernel

theorem keys_definitions :
    ∀ definition ∈ registry.definitions, definition.takesValue = false →
      ∀ parameter ∈ definition.parameters, parameter.name.toList ≠ [] ∧
        parameter.name.toList.all (fun character => decide (character ∉ Quoting.enclosing ∧
          character ≠ ',' ∧ character ≠ '=' ∧ character ≠ ':')) ∧
        parameter.kind ≠ .document := by
  decide +kernel

theorem isRegular_of_mem
    {definition : Definition}
    (member : definition ∈ registry.definitions) :
    definition.IsRegular where
  begins := (spelling_definitions definition member).1
  ordinary := forall_mem_of_all (spelling_definitions definition member).2
  value := kinds_definitions definition member
  keyed := by
    intro noValue parameter isParameter
    obtain ⟨nonempty, ordinary, noDocument⟩ :=
      keys_definitions definition member noValue parameter isParameter
    exact ⟨nonempty, forall_mem_of_all ordinary, noDocument⟩

theorem isUnambiguous_registry : registry.IsUnambiguous where
  regular _ member := isRegular_of_mem member
  apart := by decide +kernel

/-! ## Canonical texts -/

/-- A marker that was read from a line of any comment reads back from its canonical text if and
only if the texts of its paths and sub-records end where commas follow them and the sections of its
sub-records end where ampersands follow them. It is only assumed that the doubles in its arguments
read back. -/
theorem readLine_render_iff
    {location : Location}
    {line : List Char}
    {marker : Marker}
    (isRead : registry.readLine location line = .ok (some marker))
    (doubles : ∀ argument ∈ marker.arguments, argument.2.DoublesReadBack) :
    registry.readLine location marker.render = .ok (some marker) ↔
      Separable marker.arguments :=
  Registry.readLine_render_iff_of_isUnambiguous isUnambiguous_registry isRead doubles

/-- A printed column of a declaration, with a path. -/
def column (segment : String) : Marker where
  name := "printcolumn"
  location := .declaration ⟨"p", "T"⟩
  consumer := .schema
  arguments :=
    [("name", .string "x"), ("type", .string "string"), ("JSONPath", .path ⟨[segment]⟩)]

/-- A line for a printed column, with the path between quotes. -/
def columnLine (segment : String) : List Char :=
  ("+printcolumn:name=x,type=string,JSONPath=\".".toList ++ segment.toList) ++ ['"']

theorem doublesReadBack_column (segment : String) :
    ∀ argument ∈ (column segment).arguments, argument.2.DoublesReadBack := by
  simp [column, Argument.DoublesReadBack, Argument.HasDouble]

/-- A path with a comma in brackets reads back. -/
theorem readLine_render_column :
    registry.readLine (column "a[0,1]").location (columnLine "a[0,1]") =
        .ok (some (column "a[0,1]")) ∧
      registry.readLine (column "a[0,1]").location (column "a[0,1]").render =
        .ok (some (column "a[0,1]")) := by
  have isRead : registry.readLine (column "a[0,1]").location (columnLine "a[0,1]") =
      .ok (some (column "a[0,1]")) := by
    decide +kernel
  refine ⟨isRead, (readLine_render_iff isRead (doublesReadBack_column _)).mpr ?_⟩
  constructor
  · simp [column, Argument.IsUnquoted]
  · intro argument isLast _
    cases isLast
    rw [Quoting.Whole]
    decide +kernel
  · simp [column, Argument.SectionsStand]

/-- A path with a comma outside brackets does not read back. -/
theorem readLine_render_column_ne :
    registry.readLine (column "a,b").location (columnLine "a,b") = .ok (some (column "a,b")) ∧
      (∀ argument ∈ (column "a,b").arguments, argument.2.DoublesReadBack) ∧
      registry.readLine (column "a,b").location (column "a,b").render ≠
        .ok (some (column "a,b")) := by
  refine ⟨by decide +kernel, doublesReadBack_column _, by decide +kernel⟩

end Vocabulary
end MarkerManifests
