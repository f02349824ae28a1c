import Mathlib.Data.List.Nodup
import MarkerManifests.Marker.Registry
import MarkerManifests.Ordered.Entries

/-!
# Registering definitions

A call offers definitions to a registry one after the other. It adds them up to the first one whose
name is defined already for its kind of comment, and what it does not add leaves no trace. So after
any calls the registry holds what was added, in order, and finds for every name and kind of comment
the definition that was offered first. Definitions of providers with distinct names and kinds form
the same registry in every order of the providers, up to the order of the definitions.
-/

namespace MarkerManifests

/-- A call that offers definitions. -/
inductive RegistryCall where
  /-- Offers one definition. -/
  | register (definition : Definition)
  /-- Offers definitions in order. -/
  | registerAll (definitions : List Definition)

/-- The definitions that a call offers. -/
def RegistryCall.offered : RegistryCall → List Definition
  | register definition => [definition]
  | registerAll definitions => definitions

namespace Registry

variable {registry before after later : Registry} {definition : Definition}
variable {definitions : List Definition}

/-- The registry after a call, and the error of a call that was refused. -/
def perform (registry : Registry) : RegistryCall → Registry × Option RegistryError
  | .register definition =>
    match registry.register definition with
    | .ok later => (later, none)
    | .error error => (registry, some error)
  | .registerAll definitions => registry.registerAll definitions

/-- The registry after calls, of which some may be refused. -/
def performAll (registry : Registry) (calls : List RegistryCall) : Registry :=
  calls.foldl (fun registry call => (registry.perform call).1) registry

theorem eq_of_definitions_eq (same : before.definitions = after.definitions) : before = after := by
  cases before
  cases after
  cases same
  rfl

/-! ## One definition -/

theorem register_eq_ok_iff :
    registry.register definition = .ok later ↔
      definition.key ∉ registry.definitions.map Definition.key ∧
        later.definitions = registry.definitions ++ [definition] := by
  unfold register
  split
  · rename_i isNew
    constructor
    · intro registered
      cases registered
      exact ⟨isNew, rfl⟩
    · rintro ⟨-, added⟩
      exact congrArg Except.ok (eq_of_definitions_eq added.symm)
  · rename_i occurred
    exact iff_of_false nofun fun isNew => occurred isNew.1

theorem register_eq_error_iff {error : RegistryError} :
    registry.register definition = .error error ↔
      definition.key ∈ registry.definitions.map Definition.key ∧
        error = .duplicateDefinition definition.name definition.applicability := by
  unfold register
  split
  · rename_i isNew
    exact iff_of_false nofun fun occurred => isNew occurred.1
  · rename_i occurred
    rw [Except.error.injEq, eq_comm]
    exact (and_iff_right (not_not.mp occurred)).symm

/-! ## One call -/

/-- What a call does that offers definitions: the definitions that it reaches, those of them that it
adds, the registry after the call, and the error if the call is refused. -/
inductive Registers (before : Registry) :
    List Definition → List Definition → List Definition → Registry → Option RegistryError → Prop
  /-- All definitions are new and are added. -/
  | accepted
      {offered : List Definition}
      {after : Registry}
      (added : after.definitions = before.definitions ++ offered) :
      Registers before offered offered offered after none
  /-- The definitions before the first duplicate are added. -/
  | refused
      {added unreached : List Definition}
      {duplicate : Definition}
      {after : Registry}
      (areAdded : after.definitions = before.definitions ++ added)
      (isDuplicate : duplicate.key ∈ after.definitions.map Definition.key) :
      Registers before (added ++ duplicate :: unreached) (added ++ [duplicate]) added after
        (some (.duplicateDefinition duplicate.name duplicate.applicability))

theorem exists_registers_registerAll (registry : Registry) (definitions : List Definition) :
    ∃ reached added, registry.Registers definitions reached added
      (registry.registerAll definitions).1 (registry.registerAll definitions).2 := by
  induction definitions generalizing registry with
  | nil => exact ⟨[], [], .accepted (List.append_nil _).symm⟩
  | cons definition rest inductionHypothesis =>
      rw [registerAll]
      cases isFirst : registry.register definition with
      | ok next =>
          obtain ⟨-, addedFirst⟩ := register_eq_ok_iff.mp isFirst
          obtain ⟨reached, added, registers⟩ := inductionHypothesis next
          refine ⟨definition :: reached, definition :: added, ?_⟩
          dsimp only
          generalize next.registerAll rest = outcome at registers
          obtain ⟨after, error⟩ := outcome
          cases registers with
          | accepted added =>
              rw [addedFirst, List.append_assoc] at added
              exact .accepted added
          | refused areAdded isDuplicate =>
              rw [addedFirst, List.append_assoc] at areAdded
              exact .refused areAdded isDuplicate
      | error error =>
          obtain ⟨occurred, rfl⟩ := register_eq_error_iff.mp isFirst
          exact ⟨[definition], [], .refused (List.append_nil _).symm occurred⟩

theorem exists_registers_perform (registry : Registry) (call : RegistryCall) :
    ∃ reached added, registry.Registers call.offered reached added
      (registry.perform call).1 (registry.perform call).2 := by
  cases call with
  | registerAll definitions => exact exists_registers_registerAll registry definitions
  | register definition =>
      rw [perform]
      cases outcome : registry.register definition with
      | ok later => exact ⟨_, _, .accepted (register_eq_ok_iff.mp outcome).2⟩
      | error error =>
          obtain ⟨occurred, rfl⟩ := register_eq_error_iff.mp outcome
          exact ⟨_, [], .refused (List.append_nil _).symm occurred⟩

/-- A refused definition leaves the registry as it is. -/
theorem Registers.eq_of_refused
    {reached added : List Definition}
    {error : RegistryError}
    (registers : before.Registers [definition] reached added after (some error)) :
    after = before := by
  generalize isOffered : [definition] = offered at registers
  generalize isError : some error = outcome at registers
  cases registers with
  | accepted => cases isError
  | @refused added unreached duplicate _ areAdded =>
      have nothing : added = [] := by
        cases added with
        | nil => rfl
        | cons first rest => simp at isOffered
      rw [nothing, List.append_nil] at areAdded
      exact eq_of_definitions_eq areAdded

/-! ## Looking up -/

theorem lookup?_eq_some_iff {name : String} {applicability : Applicability} :
    registry.lookup? name applicability = some definition ↔
      definition ∈ registry.definitions ∧ definition.key = (name, applicability) := by
  constructor
  · intro found
    exact ⟨List.mem_of_find?_eq_some found, by simpa [lookup?] using List.find?_some found⟩
  · rintro ⟨member, isKey⟩
    rw [lookup?, ← isKey]
    exact Entries.find?_key_of_mem registry.distinct member

/-- Among definitions that were offered, a duplicate is never the first one with its key. -/
theorem find?_append_duplicate
    {duplicate : Definition}
    (isDuplicate : duplicate.key ∈ definitions.map Definition.key)
    (others : List Definition)
    (key : String × Applicability) :
    (definitions ++ duplicate :: others).find? (·.key = key) =
      (definitions ++ others).find? (·.key = key) := by
  rw [List.find?_append, List.find?_append]
  cases found : definitions.find? (·.key = key) with
  | some definition => rfl
  | none =>
      have differs : duplicate.key ≠ key := by
        obtain ⟨first, isListed, same⟩ := List.mem_map.mp isDuplicate
        have isOther := List.find?_eq_none.mp found first isListed
        rw [← same]
        simpa using isOther
      rw [Option.none_or, Option.none_or, List.find?_cons_of_neg (by simpa using differs)]

/-- A call finds what was offered first, wherever further definitions are offered. -/
theorem Registers.find?_append
    {offered reached added : List Definition}
    {error : Option RegistryError}
    (registers : before.Registers offered reached added after error)
    (others : List Definition)
    (key : String × Applicability) :
    (after.definitions ++ others).find? (·.key = key) =
      (before.definitions ++ (reached ++ others)).find? (·.key = key) := by
  cases registers with
  | accepted added => rw [added, List.append_assoc]
  | refused areAdded isDuplicate =>
      rw [← find?_append_duplicate isDuplicate, areAdded]
      simp only [List.append_assoc, List.cons_append, List.nil_append]

/-! ## Calls -/

/-- Calls one after the other, with the definitions that they reach and those that they add. -/
inductive Run :
    Registry → List RegistryCall → List Definition → List Definition → Registry → Prop
  | nothing (registry : Registry) : Run registry [] [] [] registry
  | call
      {before after final : Registry}
      {call : RegistryCall}
      {calls : List RegistryCall}
      {error : Option RegistryError}
      {reached added reachedLater addedLater : List Definition}
      (performed : before.perform call = (after, error))
      (registers : before.Registers call.offered reached added after error)
      (later : Run after calls reachedLater addedLater final) :
      Run before (call :: calls) (reached ++ reachedLater) (added ++ addedLater) final

theorem exists_run_performAll (start : Registry) (calls : List RegistryCall) :
    ∃ reached added, Run start calls reached added (start.performAll calls) := by
  induction calls generalizing start with
  | nil => exact ⟨[], [], .nothing start⟩
  | cons call calls inductionHypothesis =>
      obtain ⟨reached, added, registers⟩ := start.exists_registers_perform call
      obtain ⟨reachedLater, addedLater, later⟩ := inductionHypothesis (start.perform call).1
      exact ⟨_, _, .call rfl registers later⟩

theorem Registers.definitions_eq
    {offered reached added : List Definition}
    {error : Option RegistryError}
    (registers : before.Registers offered reached added after error) :
    after.definitions = before.definitions ++ added := by
  cases registers with
  | accepted added => exact added
  | refused areAdded _ => exact areAdded

namespace Run

variable {start final : Registry} {calls : List RegistryCall} {reached added : List Definition}

/-- What was added stands in order behind what was there. -/
theorem definitions_eq (run : Run start calls reached added final) :
    final.definitions = start.definitions ++ added := by
  induction run with
  | nothing registry => exact (List.append_nil _).symm
  | call _ registers _ inductionHypothesis =>
      rw [inductionHypothesis, registers.definitions_eq, List.append_assoc]

/-- Among what was there and what was reached, the first definition is found. -/
theorem lookup?_eq
    (run : Run start calls reached added final)
    (name : String)
    (applicability : Applicability) :
    final.lookup? name applicability =
      (start.definitions ++ reached).find? (·.key = (name, applicability)) := by
  rw [lookup?]
  induction run with
  | nothing registry => rw [List.append_nil]
  | call _ registers _ inductionHypothesis =>
      rw [inductionHypothesis, registers.find?_append]

end Run

/-! ## Providers -/

theorem registerAll_append (registry : Registry) (definitions others : List Definition) :
    registry.registerAll (definitions ++ others) =
      match registry.registerAll definitions with
      | (later, none) => later.registerAll others
      | (later, some error) => (later, some error) := by
  induction definitions generalizing registry with
  | nil => rfl
  | cons definition rest inductionHypothesis =>
      rw [List.cons_append, registerAll, registerAll]
      cases registry.register definition with
      | ok next => exact inductionHypothesis next
      | error error => rfl

/-- If no definition of any provider is refused, one provider after the other may be registered. -/
theorem performAll_providers
    {providers : List Provider}
    (accepted : registry.registerAll (providers.flatMap (·.definitions)) = (later, none)) :
    registry.performAll (providers.map fun provider => .registerAll provider.definitions) =
      later := by
  induction providers generalizing registry with
  | nil => exact congrArg Prod.fst accepted
  | cons provider rest inductionHypothesis =>
      rw [List.flatMap_cons, registerAll_append] at accepted
      have unfolded : registry.performAll
          ((provider :: rest).map fun provider => .registerAll provider.definitions) =
            (registry.registerAll provider.definitions).1.performAll
              (rest.map fun provider => .registerAll provider.definitions) := rfl
      rw [unfolded]
      generalize registry.registerAll provider.definitions = first at accepted
      obtain ⟨next, error⟩ := first
      cases error with
      | none => exact inductionHypothesis accepted
      | some error => cases accepted

/-- Definitions form a registry exactly if their keys are distinct. -/
theorem registerAll_empty_eq_iff :
    empty.registerAll definitions = (later, none) ↔ later.definitions = definitions := by
  obtain ⟨reached, added, registers⟩ := empty.exists_registers_registerAll definitions
  generalize empty.registerAll definitions = outcome at registers
  obtain ⟨after, error⟩ := outcome
  cases registers with
  | accepted added =>
      have holds : after.definitions = definitions := added
      rw [Prod.mk.injEq, and_iff_left rfl, ← holds, eq_comm]
      exact ⟨congrArg _, eq_of_definitions_eq⟩
  | @refused added unreached duplicate after areAdded isDuplicate =>
      refine iff_of_false nofun fun holds => ?_
      have distinct := later.distinct
      have isAdded : after.definitions = added := areAdded
      rw [isAdded] at isDuplicate
      rw [holds, List.map_append, List.map_cons] at distinct
      exact List.disjoint_of_nodup_append distinct isDuplicate List.mem_cons_self

theorem compose_eq_ok_iff {providers : List Provider} :
    compose providers = .ok registry ↔
      registry.definitions = providers.flatMap (·.definitions) := by
  rw [← registerAll_empty_eq_iff, compose]
  generalize empty.registerAll (providers.flatMap (·.definitions)) = outcome
  obtain ⟨after, error⟩ := outcome
  cases error <;> simp

theorem exists_compose_eq_ok_iff {providers : List Provider} :
    (∃ registry, compose providers = .ok registry) ↔
      ((providers.flatMap (·.definitions)).map Definition.key).Nodup := by
  constructor
  · rintro ⟨registry, composed⟩
    rw [← compose_eq_ok_iff.mp composed]
    exact registry.distinct
  · intro distinct
    exact ⟨⟨_, distinct⟩, compose_eq_ok_iff.mpr rfl⟩

/-- Registries that find the same definitions. -/
structure FindsSame (registry other : Registry) : Prop where
  lookup : ∀ name applicability,
    other.lookup? name applicability = registry.lookup? name applicability
  applicabilities : ∀ name, other.applicabilitiesOf name = registry.applicabilitiesOf name

/-- The order of the definitions does not matter for what is found. -/
theorem findsSame_of_perm
    {other : Registry}
    (reordered : other.definitions.Perm registry.definitions) :
    registry.FindsSame other := by
  have lookup : ∀ name applicability,
      other.lookup? name applicability = registry.lookup? name applicability := by
    intro name applicability
    refine Option.ext fun definition => ?_
    rw [lookup?_eq_some_iff, lookup?_eq_some_iff, reordered.mem_iff]
  refine ⟨lookup, fun name => ?_⟩
  simp only [applicabilitiesOf, lookup]

/-- Providers form a registry in every order if they do in one, and the same definitions are
found. -/
theorem exists_compose_of_perm
    {providers others : List Provider}
    (composed : compose providers = .ok registry)
    (reordered : others.Perm providers) :
    ∃ other, compose others = .ok other ∧ registry.FindsSame other := by
  have definitions := reordered.flatMap_right fun provider => provider.definitions
  have distinct := exists_compose_eq_ok_iff.mp ⟨registry, composed⟩
  rw [← (definitions.map Definition.key).nodup_iff] at distinct
  obtain ⟨other, composedOther⟩ := exists_compose_eq_ok_iff.mpr distinct
  refine ⟨other, composedOther, findsSame_of_perm ?_⟩
  rwa [compose_eq_ok_iff.mp composed, compose_eq_ok_iff.mp composedOther]

theorem exists_compose_eq_error_iff {providers : List Provider} :
    (∃ error, compose providers = .error error) ↔
      ∃ first second, [first, second].Sublist (providers.flatMap (·.definitions)) ∧
        first.key = second.key := by
  have isRefused : (∃ error, compose providers = .error error) ↔
      ¬ ∃ registry, compose providers = .ok registry := by
    cases compose providers <;> simp
  rw [isRefused, exists_compose_eq_ok_iff, List.Nodup, List.pairwise_map,
    List.pairwise_iff_forall_sublist]
  simp

/-- Registrations are neither lost nor overwritten. After calls in which any definitions were
offered, a registry lists what was added in the order of registration, with distinct keys, and finds
the first definition with a key that was there or was reached; a definition that is refused leaves
it as it is. Providers are refused exactly if two of their definitions have one key. Otherwise they
may be registered one after the other, and in every order the same definitions are found. -/
theorem keeps_registrations
    (start : Registry)
    (calls : List RegistryCall)
    (providers : List Provider) :
    (∃ reached added, Run start calls reached added (start.performAll calls) ∧
      (start.performAll calls).definitions = start.definitions ++ added ∧
      ((start.performAll calls).definitions.map Definition.key).Nodup ∧
      ∀ name applicability, (start.performAll calls).lookup? name applicability =
        (start.definitions ++ reached).find? (·.key = (name, applicability))) ∧
    (∀ definition error, (start.perform (.register definition)).2 = some error →
      (start.perform (.register definition)).1 = start) ∧
    ((∃ error, compose providers = .error error) ↔
      ∃ first second, [first, second].Sublist (providers.flatMap (·.definitions)) ∧
        first.key = second.key) ∧
    ∀ registry, compose providers = .ok registry →
      empty.performAll (providers.map fun provider => .registerAll provider.definitions) =
          registry ∧
        ∀ others : List Provider, others.Perm providers →
          ∃ other, compose others = .ok other ∧ registry.FindsSame other := by
  refine ⟨?_, fun definition error refused => ?_, exists_compose_eq_error_iff,
    fun registry composed => ⟨?_, fun others => exists_compose_of_perm composed⟩⟩
  · obtain ⟨reached, added, run⟩ := start.exists_run_performAll calls
    exact ⟨reached, added, run, run.definitions_eq, (start.performAll calls).distinct,
      run.lookup?_eq⟩
  · obtain ⟨reached, added, registers⟩ := start.exists_registers_perform (.register definition)
    rw [refused] at registers
    exact registers.eq_of_refused
  · exact performAll_providers (registerAll_empty_eq_iff.mpr (compose_eq_ok_iff.mp composed))

/-! ## A definition that is offered twice -/

/-- A definition of a marker for schemas. -/
def schemaMarker (name : String) (applicability : Applicability) (summary : String) :
    Definition :=
  { name, applicability, consumer := .schema, help := { summary } }

/-- Calls of which two are refused. The definition of `Third` in the second one is not reached. -/
def callsWithDuplicates : List RegistryCall := [
  .register (schemaMarker "First" .field "kept"),
  .registerAll [
    schemaMarker "First" .declaration "kept",
    schemaMarker "First" .field "refused",
    schemaMarker "Third" .field "not reached"],
  .register (schemaMarker "First" .field "refused"),
  .register (schemaMarker "Third" .field "kept")]

/-- Two providers with definitions of one name for two kinds of comments. -/
def fieldsAndDeclarations : List Provider := [
  { name := "fields", definitions := [schemaMarker "First" .field "kept"] },
  { name := "declarations", definitions := [schemaMarker "First" .declaration "kept"] }]

/-- The definitions that were offered first are kept, and two providers may change places. -/
theorem keeps_registrations_of_duplicates :
    (empty.performAll callsWithDuplicates).definitions =
        [schemaMarker "First" .field "kept", schemaMarker "First" .declaration "kept",
          schemaMarker "Third" .field "kept"] ∧
      ((empty.performAll callsWithDuplicates).definitions.map Definition.key).Nodup ∧
      (empty.performAll (callsWithDuplicates.take 1)).perform
          (.register (schemaMarker "First" .field "refused")) =
        (empty.performAll (callsWithDuplicates.take 1),
          some (.duplicateDefinition "First" .field)) ∧
      ∃ registry other, compose fieldsAndDeclarations = .ok registry ∧
        compose fieldsAndDeclarations.reverse = .ok other ∧ registry.FindsSame other := by
  obtain ⟨⟨_, _, _, _, distinct, _⟩, -, -, -⟩ :=
    keeps_registrations empty callsWithDuplicates fieldsAndDeclarations
  obtain ⟨-, refused, -, composes⟩ :=
    keeps_registrations (empty.performAll (callsWithDuplicates.take 1)) [] fieldsAndDeclarations
  have isRefused : ((empty.performAll (callsWithDuplicates.take 1)).perform
      (.register (schemaMarker "First" .field "refused"))).2 =
        some (.duplicateDefinition "First" .field) := by
    decide +kernel
  obtain ⟨registry, composed⟩ : ∃ registry, compose fieldsAndDeclarations = .ok registry :=
    exists_compose_eq_ok_iff.mpr (by decide +kernel)
  obtain ⟨other, composedOther, findsSame⟩ :=
    (composes registry composed).2 _ (List.reverse_perm fieldsAndDeclarations)
  exact ⟨by decide +kernel, distinct, Prod.ext (refused _ _ isRefused) isRefused,
    registry, other, composed, composedOther, findsSame⟩

end Registry
end MarkerManifests
