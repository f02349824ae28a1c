import MarkerManifests.Marker.Index
import MarkerManifests.Ordered.Entries
import MarkerManifests.Proofs.Marker.Canonical

/-!
# Markers of an index

Every marker of an index was read from a line at its location. If its definition has no parameter
without a key beside others, a marker with a single value has no other argument.
-/

namespace MarkerManifests

/-- The parameters have keys, unless there is only one. -/
def Definition.IsKeyed (definition : Definition) : Prop :=
  definition.takesValue = false →
    ∀ parameter ∈ definition.parameters, parameter.name ≠ Definition.unnamed

/-- The argument without a key, if there is one, is the only argument. -/
def Marker.HasLoneValue (marker : Marker) : Prop :=
  ∀ value, (Definition.unnamed, value) ∈ marker.arguments →
    marker.arguments = [(Definition.unnamed, value)]

namespace Marker

variable {marker : Marker}

theorem mem_of_argument?
    {key : String}
    {argument : Argument}
    (found : marker.argument? key = some argument) :
    (key, argument) ∈ marker.arguments :=
  Entries.mem_of_find?_fst found

/-- Beside a gate without a key there is none with a key. -/
theorem HasLoneValue.gate?_eq_none
    (lone : marker.HasLoneValue)
    {expr : Gate.Expr}
    {key : String}
    (isGate : marker.gate? Definition.unnamed = some expr)
    (isKey : key ≠ Definition.unnamed) :
    marker.gate? key = none := by
  obtain ⟨value, found, -⟩ := Option.bind_eq_some_iff.mp isGate
  have only := lone value (mem_of_argument? found)
  have absent : marker.argument? key = none := by
    rw [argument?, only, List.find?_singleton, if_neg (by simpa using isKey.symm)]
    rfl
  rw [gate?, absent]
  rfl

end Marker

namespace Registry

variable {registry : Registry} {location : Location} {marker : Marker}

/-- A marker that was read has a lone value. -/
theorem hasLoneValue_of_readBody
    {body : List Char}
    (keyed : ∀ definition ∈ registry.definitions, definition.name = marker.name →
      definition.IsKeyed)
    (isRead : registry.readBody location body = .ok (some marker)) :
    marker.HasLoneValue := by
  obtain ⟨definition, form, text, resolved, found, same⟩ := readBody_eq_some_iff.mp isRead
  have sameName : definition.name = marker.name := same ▸ rfl
  have isDefined := (lookup?_eq_some (lookup?_of_resolve resolved)).1
  intro value given
  rcases Definition.readArguments_cases found with
    ⟨none, -⟩ | ⟨-, argument, -, -, single, -⟩ | ⟨-, noValue, -, isNamed⟩
  · rw [none] at given
    cases given
  · rw [single] at given ⊢
    cases List.mem_singleton.mp given
    rfl
  · obtain ⟨pieces, -, gives, -⟩ := Definition.readNamed_eq_ok_iff.mp isNamed
    obtain ⟨parameter, isParameter, -⟩ := (gives.takes _ given).parameter
    have isUnnamed : parameter.name = Definition.unnamed := by
      simpa using List.find?_some isParameter
    exact absurd isUnnamed (keyed definition isDefined sameName noValue parameter
      (List.mem_of_find?_eq_some isParameter))

/-- What is kept was kept before or was read. -/
theorem exists_readBody_of_mem_readMarkers
    {kept : Markers}
    {diagnostics : Diagnostics}
    {lines : List (Nat × List Char)}
    (member : marker ∈ (registry.readMarkers location kept diagnostics lines).1) :
    marker ∈ kept ∨ ∃ body, registry.readBody location body = .ok (some marker) := by
  induction lines generalizing kept diagnostics with
  | nil => exact .inl member
  | cons line rest inductionHypothesis =>
      obtain ⟨index, body⟩ := line
      unfold readMarkers at member
      split at member
      · exact inductionHypothesis member
      · exact inductionHypothesis member
      · rename_i found isRead
        split at member
        · exact inductionHypothesis member
        · rcases inductionHypothesis member with inKept | wasRead
          · rcases List.mem_append.mp inKept with before | new
            · exact .inl before
            · exact .inr ⟨body, List.mem_singleton.mp new ▸ isRead⟩
          · exact .inr wasRead

end Registry

namespace MarkerIndex

variable {registry : Registry}

/-- Every marker of an index was read at its location. -/
def IsReadBy (registry : Registry) (index : MarkerIndex) : Prop :=
  ∀ entry ∈ index.entries, ∀ marker ∈ entry.2,
    ∃ body, registry.readBody entry.1 body = .ok (some marker)

theorem mem_addEntry
    {location : Location}
    {markers : Markers}
    {entries : List (Location × Markers)}
    {entry : Location × Markers}
    {marker : Marker}
    (member : entry ∈ addEntry location markers entries)
    (inEntry : marker ∈ entry.2) :
    (entry.1 = location ∧ marker ∈ markers) ∨
      ∃ old ∈ entries, old.1 = entry.1 ∧ marker ∈ old.2 := by
  induction entries with
  | nil =>
      cases List.mem_singleton.mp member
      exact .inl ⟨rfl, inEntry⟩
  | cons first rest inductionHypothesis =>
      obtain ⟨other, old⟩ := first
      unfold addEntry at member
      split at member
      · rename_i same
        rcases List.mem_cons.mp member with rfl | later
        · rcases List.mem_append.mp inEntry with before | new
          · exact .inr ⟨_, List.mem_cons_self, rfl, before⟩
          · exact .inl ⟨same, new⟩
        · exact .inr ⟨entry, List.mem_cons_of_mem _ later, rfl, inEntry⟩
      · rcases List.mem_cons.mp member with rfl | later
        · exact .inr ⟨_, List.mem_cons_self, rfl, inEntry⟩
        · rcases inductionHypothesis later with new | ⟨entry, isOld, same⟩
          · exact .inl new
          · exact .inr ⟨entry, List.mem_cons_of_mem _ isOld, same⟩

theorem isReadBy_addComments
    {index : MarkerIndex}
    {diagnostics : Diagnostics}
    {comments : List (Location × List String)}
    (isRead : index.IsReadBy registry) :
    (addComments registry index diagnostics comments).1.IsReadBy registry := by
  induction comments generalizing index diagnostics with
  | nil => exact isRead
  | cons comment rest inductionHypothesis =>
      refine inductionHypothesis fun entry member marker inEntry => ?_
      rcases mem_addEntry member inEntry with ⟨same, new⟩ | ⟨old, isOld, same, inOld⟩
      · rcases Registry.exists_readBody_of_mem_readMarkers new with before | wasRead
        · cases before
        · exact same ▸ wasRead
      · exact same ▸ isRead old isOld marker inOld

/-- The index of a graph holds what was read from its comments. -/
theorem isReadBy_ofGraph (registry : Registry) (graph : TypeGraph) :
    (ofGraph registry graph).1.IsReadBy registry :=
  isReadBy_addComments fun _ member => nomatch member

theorem IsReadBy.exists_readBody
    {index : MarkerIndex}
    {location : Location}
    {marker : Marker}
    (isRead : index.IsReadBy registry)
    (member : marker ∈ index.markersAt location) :
    ∃ body, registry.readBody location body = .ok (some marker) := by
  unfold markersAt at member
  split at member
  · rename_i other markers found
    have sameLocation : other = location := by simpa using List.find?_some found
    exact sameLocation ▸ isRead _ (List.mem_of_find?_eq_some found) marker member
  · cases member

/-- The markers of an index have lone values. -/
theorem IsReadBy.hasLoneValue
    {index : MarkerIndex}
    {location : Location}
    {marker : Marker}
    (isRead : index.IsReadBy registry)
    (keyed : ∀ definition ∈ registry.definitions, definition.name = marker.name →
      definition.IsKeyed)
    (member : marker ∈ index.markersAt location) :
    marker.HasLoneValue :=
  have ⟨_, wasRead⟩ := isRead.exists_readBody member
  Registry.hasLoneValue_of_readBody keyed wasRead

end MarkerIndex
end MarkerManifests
