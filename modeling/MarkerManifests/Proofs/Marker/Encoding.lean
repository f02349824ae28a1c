import MarkerManifests.Proofs.Marker.Canonical

/-!
# Written markers

A marker need not come from a line to have a canonical text. A marker with arguments that its
definition takes, in any order, is read back from its text if the arguments have texts and are
separable. Strings, integers, truth values, lists and gate expressions always are.
-/

namespace MarkerManifests

/-! ## Arguments between delimiters -/

/-- The arguments that hide the delimiters in them: strings, integers, truth values, lists of
strings, and gate expressions whose literals are names. -/
def Argument.IsDelimited : Argument → Prop
  | string _ => True
  | integer _ => True
  | boolean _ => True
  | list _ => True
  | gate expr => expr.HasNames
  | _ => False

namespace Argument.IsDelimited

variable {argument : Argument}

theorem readable (delimited : argument.IsDelimited) : argument.IsReadable := by
  cases argument with
  | gate expr => exact delimited
  | string text => trivial
  | integer value => trivial
  | boolean value => trivial
  | list items => trivial
  | number value => cases delimited
  | path segments => cases delimited
  | record sections => cases delimited
  | document tree => cases delimited

theorem doublesReadBack (delimited : argument.IsDelimited) : argument.DoublesReadBack := by
  intro value hasDouble
  cases argument with
  | number own => cases delimited
  | document tree => cases delimited
  | _ => cases hasDouble

theorem sectionsStand (delimited : argument.IsDelimited) : argument.SectionsStand := by
  cases argument with
  | record sections => cases delimited
  | _ => trivial

theorem not_isUnquoted (delimited : argument.IsDelimited) : ¬ argument.IsUnquoted := by
  cases argument with
  | path segments => cases delimited
  | record sections => cases delimited
  | _ => exact id

end Argument.IsDelimited

namespace Definition

open Marker

theorem separable_of_isDelimited
    {arguments : List (String × Argument)}
    (delimited : ∀ argument ∈ arguments, argument.2.IsDelimited) :
    Separable arguments where
  inner argument member unquoted :=
    absurd unquoted (delimited argument (List.dropLast_subset _ member)).not_isUnquoted
  last argument isLast unquoted :=
    absurd unquoted (delimited argument (List.mem_of_mem_getLast? isLast)).not_isUnquoted
  sections argument member := (delimited argument member).sectionsStand

/-! ## Well-typed arguments -/

/-- Arguments that a definition takes. Their order does not matter. -/
structure IsWellTyped (definition : Definition) (arguments : List (String × Argument)) : Prop where
  distinct : (arguments.map (·.1)).Nodup
  /-- Every argument has the key and the kind of a parameter. -/
  declared : ∀ argument ∈ arguments, ∃ parameter,
    definition.parameter? argument.1 = some parameter ∧ parameter.kind = argument.2.kind
  /-- What may not be left out is given. -/
  complete : ∀ parameter ∈ definition.parameters,
    parameter.optional = false → parameter.name ∈ arguments.map (·.1)

variable {definition : Definition} {given arguments : List (String × Argument)}

/-- Canonical pieces of arguments with distinct keys give the arguments. -/
theorem gives_renderArgument
    (takes : ∀ argument ∈ arguments, definition.Takes argument)
    (keyed : ∀ parameter ∈ definition.parameters, parameter.IsKeyed)
    (doubles : ∀ argument ∈ arguments, argument.2.DoublesReadBack)
    (stand : ∀ argument ∈ arguments, argument.2.SectionsStand)
    (distinct : ((given ++ arguments).map (·.1)).Nodup) :
    definition.Gives given (arguments.map renderArgument) arguments := by
  induction arguments generalizing given with
  | nil => exact .done given
  | cons argument rest inductionHypothesis =>
      rw [List.forall_mem_cons] at takes doubles stand
      have isNew : isGiven given argument.1 = false := by
        rw [isGiven_eq_false_iff]
        intro isOld
        rw [List.map_append, List.nodup_append] at distinct
        exact distinct.2.2 _ isOld _ List.mem_cons_self rfl
      obtain ⟨first, others, begins, -⟩ := takes.1.renderArgument_eq_cons keyed
      refine .take (begins ▸ List.cons_ne_nil first others) ?_
        (inductionHypothesis takes.2 doubles.2 stand.2 (by simpa using distinct))
      exact (readPiece_renderArgument_iff takes.1 keyed doubles.1 isNew).mpr stand.1

namespace IsWellTyped

variable (wellTyped : definition.IsWellTyped arguments)

include wellTyped

/-- Only the definition without parameters takes no arguments at all. -/
theorem eq_nil_of_parameters_eq_nil (none : definition.parameters = []) : arguments = [] := by
  refine List.eq_nil_iff_forall_not_mem.mpr fun argument member => ?_
  obtain ⟨parameter, isParameter, -⟩ := wellTyped.declared argument member
  rw [parameter?, none] at isParameter
  cases isParameter

/-- A single value has the empty key, and it is left out only where that is permitted. -/
theorem cases_of_parameters_eq_singleton
    {parameter : Parameter}
    (only : definition.parameters = [parameter])
    (isUnnamed : parameter.name = unnamed) :
    (arguments = [] ∧ parameter.optional = true) ∨
      ∃ argument, arguments = [(unnamed, argument)] ∧ argument.kind = parameter.kind := by
  have isMember : parameter ∈ definition.parameters := only ▸ List.mem_singleton_self parameter
  have isValue : ∀ argument ∈ arguments,
      argument.1 = unnamed ∧ argument.2.kind = parameter.kind := by
    intro argument member
    obtain ⟨other, isParameter, isKind⟩ := wellTyped.declared argument member
    have sameName : other.name = argument.1 := by simpa using List.find?_some isParameter
    have same : other = parameter := by
      simpa [only] using List.mem_of_find?_eq_some isParameter
    exact ⟨by rw [← sameName, same, isUnnamed], by rw [← isKind, same]⟩
  cases arguments with
  | nil =>
      refine .inl ⟨rfl, ?_⟩
      by_contra required
      exact absurd (wellTyped.complete parameter isMember (Bool.eq_false_iff.mpr required))
        List.not_mem_nil
  | cons argument rest =>
      obtain ⟨isKey, isKind⟩ := isValue argument List.mem_cons_self
      have noMore : rest = [] := by
        refine List.eq_nil_iff_forall_not_mem.mpr fun other inRest => ?_
        have sameKey := (isValue other (List.mem_cons_of_mem _ inRest)).1.trans isKey.symm
        have fresh := (List.nodup_cons.mp wellTyped.distinct).1
        exact fresh (List.mem_map.mpr ⟨other, inRest, sameKey⟩)
      subst noMore
      exact .inr ⟨argument.2, by rw [← isKey], isKind⟩

theorem takes
    (readable : ∀ argument ∈ arguments, argument.2.IsReadable) :
    ∀ argument ∈ arguments, definition.Takes argument :=
  fun argument member => ⟨readable argument member, wellTyped.declared argument member⟩

/-- Well-typed arguments with keys are read from their joined canonical pieces. -/
theorem readNamed_joined
    (keyed : ∀ parameter ∈ definition.parameters, parameter.IsKeyed)
    (readable : ∀ argument ∈ arguments, argument.2.IsReadable)
    (doubles : ∀ argument ∈ arguments, argument.2.DoublesReadBack)
    (separable : Separable arguments) :
    definition.readNamed (Text.joined [','] (arguments.map renderArgument)) = .ok arguments := by
  have takes := wellTyped.takes readable
  have isComplete := missing?_eq_none_iff.mpr wellTyped.complete
  have gives : definition.Gives [] (arguments.map renderArgument) arguments :=
    gives_renderArgument takes keyed doubles separable.sections wellTyped.distinct
  refine readNamed_eq_ok_iff.mpr ⟨_, ?_, gives, isComplete⟩
  by_cases empty : arguments = []
  · subst empty
    rfl
  · rw [if_neg (joined_renderArgument_ne_nil takes keyed empty)]
    exact (split_canonical_iff takes keyed empty).mpr ⟨separable.inner, separable.last⟩

end IsWellTyped

/-- The marker of a definition with arguments, in a comment. -/
def marker (definition : Definition) (location : Location)
    (arguments : List (String × Argument)) : Marker where
  name := definition.name
  location := location
  consumer := definition.consumer
  arguments := arguments

end Definition

namespace Registry

variable {registry : Registry} {definition : Definition}

/-- A registered definition is the one of its name in its kind of comment. -/
theorem lookup?_of_mem (member : definition ∈ registry.definitions) :
    registry.lookup? definition.name definition.applicability = some definition :=
  Entries.find?_key_of_mem registry.distinct member

/-- In an unambiguous registry, a marker with well-typed arguments is read back from its canonical
text if the arguments have texts and are separable. -/
theorem readLine_render_marker_of_isUnambiguous
    {location : Location}
    {arguments : List (String × Argument)}
    (unambiguous : registry.IsUnambiguous)
    (member : definition ∈ registry.definitions)
    (inComment : location.applicability = definition.applicability)
    (wellTyped : definition.IsWellTyped arguments)
    (readable : ∀ argument ∈ arguments, argument.2.IsReadable)
    (doubles : ∀ argument ∈ arguments, argument.2.DoublesReadBack)
    (separable : Definition.Separable arguments) :
    registry.readLine location (definition.marker location arguments).render =
      .ok (some (definition.marker location arguments)) := by
  have regular := unambiguous.regular definition member
  have isDefined : registry.lookup? definition.name location.applicability = some definition :=
    inComment ▸ lookup?_of_mem member
  cases parameters : definition.parameters with
  | nil =>
      have none := wellTyped.eq_nil_of_parameters_eq_nil parameters
      refine readLine_render_bare regular isDefined rfl none ?_
      rw [Definition.readArguments, parameters]
      rfl
  | cons first others =>
      have some : definition.parameters ≠ [] := parameters ▸ List.cons_ne_nil first others
      cases takesValue : definition.takesValue with
      | true =>
          have only := Definition.eq_singleton_of_takesValue parameters takesValue
          have isUnnamed : first.name = Definition.unnamed := by
            simpa [Definition.takesValue, only] using takesValue
          rcases wellTyped.cases_of_parameters_eq_singleton only isUnnamed with
            ⟨none, isOptional⟩ | ⟨argument, rfl, isKind⟩
          · refine readLine_render_bare regular isDefined rfl none ?_
            rw [Definition.readArguments_value only takesValue]
            exact if_pos isOptional
          · have isMember := List.mem_singleton_self (Definition.unnamed, argument)
            have isRead := (Argument.read_render_iff (readable _ isMember)
              (doubles _ isMember)).mpr (separable.sections _ isMember)
            exact readLine_render_value regular isDefined rfl only takesValue rfl
              (readable _ isMember) (isKind ▸ isRead)
      | false =>
          have isRead :=
            wellTyped.readNamed_joined (regular.keyed takesValue) readable doubles separable
          by_cases empty : arguments = []
          · refine readLine_render_bare regular isDefined rfl empty ?_
            rw [Definition.readArguments_named some takesValue (by decide)]
            rw [empty] at isRead
            exact isRead
          · exact (readLine_render_named_iff unambiguous isDefined rfl some takesValue empty isRead
              doubles).mpr separable

end Registry
end MarkerManifests
