import MarkerManifests.Proofs.Marker.NamedArguments
import MarkerManifests.Proofs.Marker.Resolution

/-!
# Canonical lines

The canonical text of a marker that was read from a line refers to the definition that the line
referred to, and the arguments are read back from it where they are separable. Commas outside
brackets in a path or in the name of a section are what separability excludes.
-/

namespace MarkerManifests

open Definition

/-- A definition whose name stands for itself in a line, and whose arguments with keys have proper
ones. -/
structure Definition.IsRegular (definition : Definition) : Prop where
  begins : definition.name.toList.head?.any Char.isAlpha = true
  ordinary : ∀ character ∈ definition.name.toList,
    character ≠ '=' ∧ Text.isBlank character = false
  value : definition.takesValue = true →
    ∀ parameter ∈ definition.parameters, parameter.kind ≠ .path ∧ parameter.kind ≠ .record
  keyed : definition.takesValue = false → ∀ parameter ∈ definition.parameters, parameter.IsKeyed

/-- A registry of regular definitions in which no name goes on where another one is followed by
arguments with keys. -/
structure Registry.IsUnambiguous (registry : Registry) : Prop where
  regular : ∀ definition ∈ registry.definitions, definition.IsRegular
  apart : ∀ definition ∈ registry.definitions, definition.takesValue = false →
    definition.parameters ≠ [] → ∀ other ∈ registry.definitions,
      ¬ definition.name.toList ++ [':'] <+: other.name.toList

/-! ## Comment lines -/

/-- The text after a plus sign is the body of a marker line if it begins with the name of a
marker. -/
theorem Definition.IsRegular.markerBody?_plus
    {definition : Definition}
    (regular : definition.IsRegular)
    (rest : List Char)
    (ends : Text.EndsVisibly (definition.name.toList ++ rest)) :
    Comment.markerBody? ('+' :: (definition.name.toList ++ rest)) =
      some (definition.name.toList ++ rest) := by
  have visible : Text.isBlank '+' = false := by decide
  have trimmed := Text.trim_of_visible visible (ends.cons visible)
  obtain ⟨first, isFirst, isLetter⟩ := (Option.any_eq_true _ _).mp regular.begins
  obtain ⟨more, isCons⟩ := List.head?_eq_some_iff.mp isFirst
  rw [isCons, List.cons_append] at trimmed ⊢
  have stripped : Comment.stripLeader ('+' :: first :: (more ++ rest)) =
      '+' :: first :: (more ++ rest) := by
    rw [Comment.stripLeader, trimmed]
    exact trimmed
  rw [Comment.markerBody?, stripped]
  exact if_pos isLetter

theorem Definition.IsRegular.noEquals
    {definition : Definition}
    (regular : definition.IsRegular) :
    '=' ∉ definition.name.toList :=
  fun member => (regular.ordinary '=' member).1 rfl

namespace Registry

/-! ## Names -/

/-- The longest shorter name is the text before the last colon. -/
theorem shorterNames_append
    {name key : List Char}
    (noEquals : '=' ∉ name ++ ':' :: key)
    (noColon : ':' ∉ key)
    (value : List Char) :
    shorterNames (name ++ ':' :: key ++ '=' :: value) =
      name :: (beginnings ':' name).reverse := by
  rw [shorterNames, head_append noEquals, beginnings_append, beginnings,
    beginnings_of_not_mem noColon]
  simp

variable {registry : Registry} {applicability : Applicability} {definition : Definition}
  {name key value : List Char}

theorem lookup?_ofList_toList
    {text : String}
    (found : registry.lookup? text applicability = some definition) :
    registry.lookup? (String.ofList text.toList) applicability = some definition := by
  rwa [String.ofList_toList]

theorem lookup?_eq_none
    (absent : ∀ definition ∈ registry.definitions, definition.name.toList ≠ name)
    (applicability : Applicability) :
    registry.lookup? (String.ofList name) applicability = none := by
  rw [lookup?, List.find?_eq_none]
  intro definition member isKey
  have sameName : definition.name = String.ofList name :=
    congrArg Prod.fst (of_decide_eq_true isKey)
  exact absent definition member (sameName ▸ String.toList_ofList)

/-! ## What lines refer to -/

theorem resolve_named
    (found : registry.lookup? (String.ofList name) applicability = some definition)
    (unregistered :
      registry.lookup? (String.ofList (name ++ ':' :: key)) applicability = none)
    (noEquals : '=' ∉ name ++ ':' :: key)
    (noColon : ':' ∉ key)
    (value : List Char) :
    registry.resolve applicability (name ++ ':' :: key ++ '=' :: value) =
      .found definition .named (key ++ '=' :: value) := by
  rw [resolve, head_append noEquals, unregistered, shorterNames_append noEquals noColon,
    List.findSome?_cons, named?, found]
  simp

/-- Once it is known what the canonical line refers to, only the arguments matter. -/
theorem readLine_plus_iff
    {location : Location}
    {body text : List Char}
    {form : ArgumentForm}
    {marker : Marker}
    (isMarker : Comment.markerBody? ('+' :: body) = some body)
    (resolved : registry.resolve location.applicability body = .found definition form text)
    (same : marker = ⟨definition.name, location, definition.consumer, marker.arguments⟩) :
    registry.readLine location ('+' :: body) = .ok (some marker) ↔
      definition.readArguments form text = .ok marker.arguments := by
  rw [readLine, isMarker]
  dsimp only
  rw [readBody_eq_some_iff]
  constructor
  · rintro ⟨other, otherForm, otherText, again, found, -⟩
    rw [resolved] at again
    cases again
    exact found
  · intro found
    exact ⟨definition, form, text, resolved, found, same⟩

end Registry

namespace Definition

variable {definition : Definition} {arguments : List (String × Argument)}

/-! ## Forms of arguments -/

/-- A single value is read from the text after the equals sign. -/
theorem readArguments_value
    {parameter : Parameter}
    (only : definition.parameters = [parameter])
    (takesValue : definition.takesValue = true)
    (form : ArgumentForm)
    (text : List Char) :
    definition.readArguments form text = definition.readValue parameter form text := by
  unfold readArguments
  rw [only]
  exact if_pos takesValue

theorem readArguments_named
    {form : ArgumentForm}
    (some : definition.parameters ≠ [])
    (noValue : definition.takesValue = false)
    (notValue : form ≠ .value)
    (text : List Char) :
    definition.readArguments form text = definition.readNamed text := by
  obtain ⟨first, others, isCons⟩ := List.exists_cons_of_ne_nil some
  unfold readArguments
  rw [isCons]
  dsimp only
  rw [if_neg (by simp [noValue]), if_neg notValue]

theorem readNamed_nil
    {text : List Char}
    (isRead : definition.readNamed text = .ok []) :
    definition.readNamed [] = .ok [] := by
  obtain ⟨_, -, -, complete⟩ := readNamed_eq_ok_iff.mp isRead
  exact readNamed_eq_ok_iff.mpr ⟨[], rfl, .done [], complete⟩

/-- A single value is given in one form only, and may be left out if it is optional. -/
theorem readValue_cases
    {parameter : Parameter}
    {form : ArgumentForm}
    {text : List Char}
    (isRead : definition.readValue parameter form text = .ok arguments) :
    (arguments = [] ∧ definition.readValue parameter .bare [] = .ok []) ∨
      ∃ argument, arguments = [(unnamed, argument)] ∧
        Argument.read parameter.kind text = .ok argument := by
  cases form with
  | value =>
      rw [readValue] at isRead
      split at isRead
      · rename_i argument found
        cases isRead
        exact Or.inr ⟨argument, rfl, found⟩
      · cases isRead
  | bare =>
      rw [readValue] at isRead
      split at isRead
      · rename_i isOptional
        cases isRead
        exact Or.inl ⟨rfl, if_pos isOptional⟩
      · cases isRead
  | named => cases isRead

theorem eq_singleton_of_takesValue
    {first : Parameter}
    {others : List Parameter}
    (parameters : definition.parameters = first :: others)
    (takesValue : definition.takesValue = true) :
    definition.parameters = [first] := by
  unfold Definition.takesValue at takesValue
  rw [parameters] at takesValue
  cases others with
  | nil => exact parameters
  | cons second more => cases takesValue

/-- Arguments were left out, or one value or arguments with keys were given. -/
theorem readArguments_cases
    {form : ArgumentForm}
    {text : List Char}
    (isRead : definition.readArguments form text = .ok arguments) :
    (arguments = [] ∧ definition.readArguments .bare [] = .ok []) ∨
      (∃ parameter argument, definition.parameters = [parameter] ∧
        definition.takesValue = true ∧ arguments = [(unnamed, argument)] ∧
          Argument.read parameter.kind text = .ok argument) ∨
      (definition.parameters ≠ [] ∧ definition.takesValue = false ∧ arguments ≠ [] ∧
        definition.readNamed text = .ok arguments) := by
  cases parameters : definition.parameters with
  | nil =>
      unfold readArguments at isRead ⊢
      rw [parameters] at isRead ⊢
      dsimp only at isRead
      split at isRead <;> cases isRead
      exact Or.inl ⟨rfl, rfl⟩
  | cons first others =>
      have some : definition.parameters ≠ [] := parameters ▸ List.cons_ne_nil first others
      cases takesValue : definition.takesValue with
      | true =>
          have only := eq_singleton_of_takesValue parameters takesValue
          rw [readArguments_value only takesValue] at isRead ⊢
          rw [← parameters]
          rcases readValue_cases isRead with ⟨none, bare⟩ | ⟨argument, isValue, found⟩
          · exact Or.inl ⟨none, bare⟩
          · exact Or.inr (Or.inl ⟨first, argument, only, rfl, isValue, found⟩)
      | false =>
          have notValue : form ≠ .value := by
            rintro rfl
            unfold readArguments at isRead
            rw [parameters] at isRead
            dsimp only at isRead
            rw [if_neg (by simp [takesValue]), if_pos rfl] at isRead
            cases isRead
          rw [readArguments_named some takesValue notValue] at isRead
          rw [readArguments_named some takesValue (by decide)]
          by_cases empty : arguments = []
          · subst empty
            exact Or.inl ⟨rfl, readNamed_nil isRead⟩
          · exact Or.inr (Or.inr ⟨List.cons_ne_nil first others, rfl, empty, isRead⟩)

end Definition

namespace Marker

variable {marker : Marker}

/-! ## Canonical texts -/

theorem render_bare (none : marker.arguments = []) :
    marker.render = '+' :: marker.name.toList := by
  have noValue : marker.value? = .none := by
    rw [value?, argument?, none]
    rfl
  rw [render, noValue, none]

theorem render_value
    {argument : Argument}
    (only : marker.arguments = [(unnamed, argument)]) :
    marker.render = '+' :: (marker.name.toList ++ '=' :: argument.render) := by
  have isValue : marker.value? = some argument := by
    rw [value?, argument?, only]
    rfl
  rw [render, isValue]
  rfl

theorem render_named
    (some : marker.arguments ≠ [])
    (keyed : ∀ argument ∈ marker.arguments, argument.1 ≠ unnamed) :
    marker.render = '+' :: (marker.name.toList ++
      ':' :: Text.joined [','] (marker.arguments.map renderArgument)) := by
  have noValue : marker.value? = none := by
    rw [value?, argument?, Option.map_eq_none_iff, List.find?_eq_none]
    exact fun argument member isUnnamed =>
      keyed argument member (of_decide_eq_true isUnnamed)
  obtain ⟨argument, rest, isCons⟩ := List.exists_cons_of_ne_nil some
  rw [render, noValue, isCons]
  rfl

end Marker

namespace Registry

variable {registry : Registry}

theorem separable_nil : Separable [] :=
  ⟨fun _ member => (nomatch member), fun _ member => (nomatch member),
    fun _ member => (nomatch member)⟩

/-- A single value is separable if it is neither a path nor a sub-record. -/
theorem separable_singleton
    {argument : String × Argument}
    (noPath : argument.2.kind ≠ .path)
    (noRecord : argument.2.kind ≠ .record) :
    Separable [argument] := by
  obtain ⟨key, value⟩ := argument
  cases value with
  | path segments => exact absurd rfl noPath
  | record sections => exact absurd rfl noRecord
  | _ => constructor <;> simp [Argument.IsUnquoted, Argument.SectionsStand]

section

variable {location : Location} {marker : Marker} {definition : Definition}

theorem readLine_render_bare
    (regular : definition.IsRegular)
    (isDefined : registry.lookup? definition.name location.applicability = some definition)
    (same : marker = ⟨definition.name, location, definition.consumer, marker.arguments⟩)
    (none : marker.arguments = [])
    (bare : definition.readArguments .bare [] = .ok []) :
    registry.readLine location marker.render = .ok (some marker) := by
  have sameName : marker.name = definition.name := congrArg Marker.name same
  have ends : Text.EndsVisibly definition.name.toList :=
    Text.endsVisibly_of_forall fun character member => (regular.ordinary character member).2
  have isMarker := regular.markerBody?_plus [] (by simpa using ends)
  have resolved := resolve_bare (lookup?_ofList_toList isDefined) regular.noEquals
  rw [List.append_nil] at isMarker
  rw [Marker.render_bare none, sameName, readLine_plus_iff isMarker resolved same, none]
  exact bare

theorem readLine_render_value
    {parameter : Parameter}
    {argument : Argument}
    (regular : definition.IsRegular)
    (isDefined : registry.lookup? definition.name location.applicability = some definition)
    (same : marker = ⟨definition.name, location, definition.consumer, marker.arguments⟩)
    (only : definition.parameters = [parameter])
    (takesValue : definition.takesValue = true)
    (isValue : marker.arguments = [(unnamed, argument)])
    (readable : argument.IsReadable)
    (isRead : Argument.read parameter.kind argument.render = .ok argument) :
    registry.readLine location marker.render = .ok (some marker) := by
  have sameName : marker.name = definition.name := congrArg Marker.name same
  have ends : Text.EndsVisibly (definition.name.toList ++ '=' :: argument.render) :=
    (Text.EndsVisibly.cons (by decide) (Argument.endsVisibly_render readable)).append
      (List.cons_ne_nil _ _) _
  have isMarker := regular.markerBody?_plus _ ends
  have resolved :=
    resolve_value (lookup?_ofList_toList isDefined) regular.noEquals argument.render
  rw [Marker.render_value isValue, sameName, readLine_plus_iff isMarker resolved same,
    readArguments_value only takesValue, readValue, isRead, isValue]

/-- Canonical texts of arguments with keys follow the name of their definition. -/
theorem resolve_renderArguments
    {applicability : Applicability}
    {arguments : List (String × Argument)}
    (unambiguous : registry.IsUnambiguous)
    (isDefined : registry.lookup? definition.name applicability = some definition)
    (noValue : definition.takesValue = false)
    (takes : ∀ argument ∈ arguments, definition.Takes argument)
    (nonempty : arguments ≠ []) :
    registry.resolve applicability (definition.name.toList ++
        ':' :: Text.joined [','] (arguments.map Marker.renderArgument)) =
      .found definition .named
        (Text.joined [','] (arguments.map Marker.renderArgument)) := by
  obtain ⟨argument, rest, rfl⟩ := List.exists_cons_of_ne_nil nonempty
  have isMember := (lookup?_eq_some isDefined).1
  have regular := unambiguous.regular definition isMember
  obtain ⟨parameter, isParameter, isKeyed, sameName, -⟩ :=
    (takes argument List.mem_cons_self).exists_isKeyed (regular.keyed noValue)
  obtain ⟨after, shape, -⟩ :=
    exists_joined_cons_eq ',' (Marker.renderArgument argument) (rest.map Marker.renderArgument)
  have bodyShape : Text.joined [','] ((argument :: rest).map Marker.renderArgument) =
      parameter.name.toList ++ '=' :: (argument.2.render ++ after) := by
    rw [List.map_cons, shape, Marker.renderArgument, sameName, List.append_assoc,
      List.cons_append]
  have unregistered : registry.lookup?
      (String.ofList (definition.name.toList ++ ':' :: parameter.name.toList)) applicability =
        none := by
    refine lookup?_eq_none (fun other isOther sameText => ?_) applicability
    refine unambiguous.apart definition isMember noValue (List.ne_nil_of_mem isParameter) other
      isOther ⟨parameter.name.toList, ?_⟩
    rw [sameText, List.append_assoc, List.singleton_append]
  have noEquals : '=' ∉ definition.name.toList ++ ':' :: parameter.name.toList := by
    have noEqualsInKey : '=' ∉ parameter.name.toList := fun member =>
      (isKeyed.ordinary '=' member).2.2.1 rfl
    simp [regular.noEquals, noEqualsInKey]
  have noColon : ':' ∉ parameter.name.toList := fun member =>
    (isKeyed.ordinary ':' member).2.2.2 rfl
  have resolved := resolve_named (lookup?_ofList_toList isDefined) unregistered noEquals noColon
    (argument.2.render ++ after)
  rw [bodyShape, ← resolved, List.append_assoc, List.cons_append]

/-- With keys, the line refers to the definition because no longer name is registered. -/
theorem readLine_render_named_iff
    {text : List Char}
    (unambiguous : registry.IsUnambiguous)
    (isDefined : registry.lookup? definition.name location.applicability = some definition)
    (same : marker = ⟨definition.name, location, definition.consumer, marker.arguments⟩)
    (some : definition.parameters ≠ [])
    (noValue : definition.takesValue = false)
    (nonempty : marker.arguments ≠ [])
    (isRead : definition.readNamed text = .ok marker.arguments)
    (doubles : ∀ argument ∈ marker.arguments, argument.2.DoublesReadBack) :
    registry.readLine location marker.render = .ok (.some marker) ↔
      Separable marker.arguments := by
  have isMember := (lookup?_eq_some isDefined).1
  have regular := unambiguous.regular definition isMember
  have keyed := regular.keyed noValue
  have sameName : marker.name = definition.name := congrArg Marker.name same
  obtain ⟨_, -, gives, -⟩ := readNamed_eq_ok_iff.mp isRead
  have keysGiven : ∀ argument ∈ marker.arguments, argument.1 ≠ unnamed := by
    intro argument member isUnnamed
    obtain ⟨parameter, -, isKeyed, isName, -⟩ := (gives.takes argument member).exists_isKeyed keyed
    rw [isUnnamed] at isName
    exact isKeyed.nonempty (isName ▸ rfl)
  have ends : Text.EndsVisibly (definition.name.toList ++
      ':' :: Text.joined [','] (marker.arguments.map Marker.renderArgument)) := by
    have argumentsEnd : ∀ text ∈ marker.arguments.map Marker.renderArgument,
        Text.EndsVisibly text := by
      refine List.forall_mem_map.mpr fun argument member => ?_
      have valueEnds := Argument.endsVisibly_render (gives.takes argument member).readable
      exact (Text.EndsVisibly.cons (by decide) valueEnds).append (List.cons_ne_nil _ _) _
    exact (Text.EndsVisibly.cons (by decide) (.joined (by decide) argumentsEnd)).append
      (List.cons_ne_nil _ _) _
  have isMarker := regular.markerBody?_plus _ ends
  have resolved : registry.resolve location.applicability (definition.name.toList ++
      ':' :: Text.joined [','] (marker.arguments.map Marker.renderArgument)) =
        .found definition .named
          (Text.joined [','] (marker.arguments.map Marker.renderArgument)) :=
    resolve_renderArguments unambiguous isDefined noValue gives.takes nonempty
  rw [Marker.render_named nonempty keysGiven, sameName,
    readLine_plus_iff isMarker resolved same, readArguments_named some noValue (by decide)]
  exact readNamed_canonical_iff isRead keyed doubles nonempty

end

/-- In an unambiguous registry, the canonical text of a marker that was read from a line reads
back as the marker if and only if its arguments are separable, provided that the doubles in them
read back. -/
theorem readLine_render_iff_of_isUnambiguous
    {location : Location}
    {line : List Char}
    {marker : Marker}
    (unambiguous : registry.IsUnambiguous)
    (isRead : registry.readLine location line = .ok (some marker))
    (doubles : ∀ argument ∈ marker.arguments, argument.2.DoublesReadBack) :
    registry.readLine location marker.render = .ok (some marker) ↔
      Separable marker.arguments := by
  unfold readLine at isRead
  split at isRead
  · cases isRead
  rename_i body _
  obtain ⟨definition, form, text, resolved, found, same⟩ := readBody_eq_some_iff.mp isRead
  have isDefined := lookup?_of_resolve resolved
  have regular := unambiguous.regular definition (lookup?_eq_some isDefined).1
  rcases readArguments_cases found with
    ⟨none, bare⟩ | ⟨parameter, argument, only, takesValue, isValue, argumentRead⟩ |
      ⟨some, noValue, nonempty, namedRead⟩
  · refine iff_of_true (readLine_render_bare regular isDefined same none bare) ?_
    rw [none]
    exact separable_nil
  · obtain ⟨readable, isKind⟩ := Argument.isReadable_of_read argumentRead
    obtain ⟨noPath, noRecord⟩ :=
      regular.value takesValue parameter (only ▸ List.mem_singleton_self parameter)
    rw [← isKind] at noPath noRecord
    have separable : Separable marker.arguments :=
      isValue ▸ separable_singleton noPath noRecord
    have isMember : (unnamed, argument) ∈ marker.arguments := by
      rw [isValue]
      exact List.mem_singleton_self _
    have readBack := (Argument.read_render_iff readable (doubles _ isMember)).mpr
      (separable.sections _ isMember)
    rw [isKind] at readBack
    exact iff_of_true
      (readLine_render_value regular isDefined same only takesValue isValue readable readBack)
      separable
  · exact readLine_render_named_iff unambiguous isDefined same some noValue nonempty namedRead
      doubles

end Registry
end MarkerManifests
