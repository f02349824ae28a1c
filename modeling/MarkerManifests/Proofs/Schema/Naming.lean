import MarkerManifests.Proofs.Schema.Accounting
import MarkerManifests.Proofs.Text.Cutting

/-!
# Names of resource definitions

Definitions are told apart by group and kind, but named by plural and group. The plural is an
argument of the marker of the stored version or, without one, made from the kind, and different
kinds may have the same plural: the letters that are added to one word can be the last letters of
another one. Names also agree across groups if one plural takes its last labels from the group of
the other definition. These are the only definitions with the same name.
-/

namespace MarkerManifests

namespace ResourceFamily

/-! ## Plurals of words -/

/-- The ends of the words whose plural has another syllable. -/
def sibilants : List (List Char) :=
  [['s'], ['x'], ['z'], ['c', 'h'], ['s', 'h']]

/-- A word that ends in a sibilant. -/
def IsSibilant (word : List Char) : Prop :=
  ∃ sibilant ∈ sibilants, sibilant <:+ word

/-- A word that ends in a vowel. -/
def EndsInVowel (word : List Char) : Prop :=
  ∃ vowel ∈ word.getLast?, vowel ∈ ['a', 'e', 'i', 'o', 'u']

/-- A word that has its plural in common with the longer word that the plural is made of. -/
inductive Extends : List Char → List Char → Prop
  /-- As the plural of ax, which is also that of axe. -/
  | sibilant (word : List Char) (sibilant : IsSibilant word) : Extends word (word ++ ['e'])
  /-- As the plural of pixy, which is also that of pixie. -/
  | consonant (stem : List Char) (consonant : ¬EndsInVowel stem) :
      Extends (stem ++ ['y']) (stem ++ ['i', 'e'])

theorem isSibilant_of_reverse
    {word sibilant rest : List Char}
    (listed : sibilant ∈ sibilants)
    (reversed : word.reverse = sibilant.reverse ++ rest) :
    IsSibilant word :=
  ⟨sibilant, listed, List.reverse_prefix.mp ⟨rest, reversed.symm⟩⟩

theorem endsInVowel_iff (stem : List Char) :
    EndsInVowel stem ↔
      stem.reverse.head?.any (['a', 'e', 'i', 'o', 'u'].contains ·) = true := by
  rw [EndsInVowel, List.head?_reverse, Option.any_eq_true]
  simp only [Option.mem_def, List.contains_iff_mem]

/-- How the plural of a word is made. -/
theorem pluralOf_cases (word : List Char) :
    pluralOf word = word ++ ['s'] ∨
      ∃ extended, Extends word extended ∧ pluralOf word = extended ++ ['s'] := by
  have ofSibilant (sibilant : List Char) {rest : List Char} (listed : sibilant ∈ sibilants)
      (reversed : word.reverse = sibilant.reverse ++ rest) :
      ∃ extended, Extends word extended ∧ word ++ ['e', 's'] = extended ++ ['s'] :=
    ⟨word ++ ['e'], .sibilant word (isSibilant_of_reverse listed reversed), by simp⟩
  unfold pluralOf
  split
  · rename_i rest reversed
    exact .inr (ofSibilant ['s'] (by decide) reversed)
  · rename_i rest reversed
    exact .inr (ofSibilant ['x'] (by decide) reversed)
  · rename_i rest reversed
    exact .inr (ofSibilant ['z'] (by decide) reversed)
  · rename_i rest reversed
    exact .inr (ofSibilant ['c', 'h'] (by decide) reversed)
  · rename_i rest reversed
    exact .inr (ofSibilant ['s', 'h'] (by decide) reversed)
  · rename_i stem reversed
    have isWord : word = stem.reverse ++ ['y'] := by
      rw [← List.reverse_reverse word, reversed, List.reverse_cons]
    split
    · exact .inl rfl
    · rename_i consonant
      refine .inr ⟨stem.reverse ++ ['i', 'e'], ?_, by simp⟩
      rw [isWord]
      refine .consonant _ fun vowel => consonant ?_
      rw [endsInVowel_iff, List.reverse_reverse] at vowel
      exact vowel
  · exact .inl rfl

theorem pluralOf_append_e (word : List Char) :
    pluralOf (word ++ ['e']) = word ++ ['e', 's'] := by
  simp [pluralOf]

theorem Extends.pluralOf_eq
    {word extended : List Char}
    (made : Extends word extended) :
    pluralOf word = pluralOf extended := by
  cases made with
  | sibilant _ isSibilant =>
      obtain ⟨ending, listed, front, rfl⟩ := isSibilant
      rw [pluralOf_append_e]
      simp only [sibilants, List.mem_cons, List.not_mem_nil, or_false] at listed
      rcases listed with rfl | rfl | rfl | rfl | rfl <;> simp [pluralOf]
  | consonant stem consonant =>
      have ending : stem ++ ['i', 'e'] = (stem ++ ['i']) ++ ['e'] := by simp
      have reversed : (stem ++ ['y']).reverse = 'y' :: stem.reverse := by simp
      rw [endsInVowel_iff] at consonant
      rw [ending, pluralOf_append_e, pluralOf, reversed]
      exact (if_neg consonant).trans (by simp)

/-- The letter before the last one tells how a word was extended. -/
theorem IsSibilant.append_ne
    {word : List Char}
    (isSibilant : IsSibilant word)
    (stem : List Char) :
    word ++ ['e'] ≠ stem ++ ['i', 'e'] := by
  obtain ⟨ending, listed, front, rfl⟩ := isSibilant
  simp only [sibilants, List.mem_cons, List.not_mem_nil, or_false] at listed
  intro same
  have reversed := congrArg List.reverse same
  rcases listed with rfl | rfl | rfl | rfl | rfl <;> simp at reversed

/-- No two words are extended to the same one. -/
theorem Extends.left_unique
    {first second extended : List Char}
    (ofFirst : Extends first extended)
    (ofSecond : Extends second extended) :
    first = second := by
  generalize isExtended : extended = other at ofSecond
  cases ofFirst with
  | sibilant _ isSibilant =>
      cases ofSecond with
      | sibilant _ otherSibilant => exact List.append_cancel_right isExtended
      | consonant stem consonant => exact absurd isExtended (isSibilant.append_ne stem)
  | consonant stem consonant =>
      cases ofSecond with
      | sibilant _ otherSibilant => exact absurd isExtended.symm (otherSibilant.append_ne stem)
      | consonant other otherConsonant =>
          rw [List.append_cancel_right isExtended]

/-- Two words have the same plural only if one of them is the other one or extends it. -/
theorem pluralOf_eq_iff
    {first second : List Char} :
    pluralOf first = pluralOf second ↔
      first = second ∨ Extends first second ∨ Extends second first := by
  constructor
  · intro same
    rcases pluralOf_cases first with plain | ⟨extended, made, plural⟩ <;>
      rcases pluralOf_cases second with otherPlain | ⟨other, otherMade, otherPlural⟩
    · rw [plain, otherPlain] at same
      exact .inl (List.append_cancel_right same)
    · rw [plain, otherPlural] at same
      exact .inr (.inr (List.append_cancel_right same ▸ otherMade))
    · rw [plural, otherPlain] at same
      exact .inr (.inl (List.append_cancel_right same ▸ made))
    · rw [plural, otherPlural] at same
      exact .inl (made.left_unique (List.append_cancel_right same ▸ otherMade))
  · rintro (rfl | made | made)
    · rfl
    · exact made.pluralOf_eq
    · exact made.pluralOf_eq.symm

/-- Kinds have the same plural if they differ only in case, or if one of them extends the other. -/
theorem pluralize_eq_iff
    {kind other : String} :
    pluralize kind = pluralize other ↔
      Text.lowercase kind.toList = Text.lowercase other.toList ∨
        Extends (Text.lowercase kind.toList) (Text.lowercase other.toList) ∨
          Extends (Text.lowercase other.toList) (Text.lowercase kind.toList) := by
  rw [pluralize, pluralize, String.ofList_inj, pluralOf_eq_iff]

/-! ## Names of families -/

/-- The root of the stored version names the definition. -/
theorem exists_storage_of_definition?
    {family : ResourceFamily}
    {definition : ResourceDefinition}
    (made : family.definition? = some definition) :
    ∃ storage root, family.roots.find? (·.version = storage) = some root ∧
      definition.versions = family.roots.map (versionOf storage) ∧
      definition.names = namesOf family.kind (root.markers.first? Vocabulary.resource) := by
  unfold definition? at made
  split at made
  · rename_i outcome
    cases made
    unfold define at outcome
    split at outcome
    · cases outcome
    · split at outcome
      · cases outcome
      · split at outcome
        · cases outcome
        · rename_i storage stored
          obtain ⟨root, isRoot, isStored⟩ := List.mem_map.mp (storageVersion_mem stored)
          have some : (family.roots.find? (·.version = storage)).isSome :=
            List.find?_isSome.mpr ⟨root, isRoot, by simp [isStored]⟩
          obtain ⟨named, found⟩ := Option.isSome_iff_exists.mp some
          dsimp only at outcome
          rw [found, Option.getD_some] at outcome
          split at outcome
          · cases outcome
          · cases outcome
            exact ⟨storage, named, found, rfl, rfl⟩
  · cases made

end ResourceFamily

namespace ResourceDefinition

/-- The name of the version at which objects are stored. -/
def storedVersion? (definition : ResourceDefinition) : Option String :=
  (definition.versions.find? (·.storage)).map (·.name)

/-- The plural of the definition is that of the other one followed by labels with which the group of
the other one starts. -/
def GoesOn (definition other : ResourceDefinition) : Prop :=
  ∃ labels, definition.names.plural = other.names.plural ++ "." ++ labels ∧
    other.group = labels ++ "." ++ definition.group

theorem goesOn_iff
    {definition other : ResourceDefinition} :
    definition.GoesOn other ↔
      ∃ labels, definition.names.plural.toList = other.names.plural.toList ++ '.' :: labels ∧
        other.group.toList = labels ++ '.' :: definition.group.toList := by
  constructor
  · rintro ⟨labels, plural, group⟩
    exact ⟨labels.toList, by simp [plural], by simp [group]⟩
  · rintro ⟨labels, plural, group⟩
    refine ⟨String.ofList labels, ?_, ?_⟩ <;> rw [← String.toList_inj]
    · simp [plural]
    · simp [group]

theorem name_eq_iff
    {definition other : ResourceDefinition} :
    definition.name = other.name ↔
      (definition.names.plural = other.names.plural ∧ definition.group = other.group) ∨
        definition.GoesOn other ∨ other.GoesOn definition := by
  have cut := Text.append_cons_eq_iff '.' definition.names.plural.toList other.names.plural.toList
    definition.group.toList other.group.toList
  rw [← goesOn_iff, ← goesOn_iff, String.toList_inj, String.toList_inj] at cut
  rw [← cut, ← String.toList_inj]
  simp [name]

end ResourceDefinition

namespace SchemaSource

variable {source : SchemaSource} {definition other : ResourceDefinition}

/-! ## Names of definitions -/

/-- The resource marker of the declaration that is the stored version of a definition. -/
def storedMarker? (source : SchemaSource) (definition : ResourceDefinition) : Option Marker :=
  ((source.members (definition.group, definition.names.kind)).find?
      fun key => some key.version = definition.storedVersion?).bind fun key =>
    (source.index.declaration key.id).first? Vocabulary.resource

/-- The plural that is written for a definition. -/
def path? (source : SchemaSource) (definition : ResourceDefinition) : Option String :=
  (source.storedMarker? definition).bind (·.string? "path")

/-- The names of a definition are those that the marker of its stored version gives to its kind. -/
theorem names_of_mem_definitions
    (source : SchemaSource)
    (calls : List SchemaCall) :
    ∀ definition ∈ (source.defineResources.run (source.performedAll calls)).1.1,
      definition.names =
        ResourceFamily.namesOf definition.names.kind (source.storedMarker? definition) := by
  intro definition listed
  obtain ⟨families, gathered, definitions, -⟩ := source.exists_gathered_defineResources calls
  rw [definitions] at listed
  obtain ⟨family, isFamily, made⟩ := List.mem_filterMap.mp listed
  have defined := ResourceFamily.defined_of_definition? made
  obtain ⟨storage, root, found, versions, names⟩ :=
    ResourceFamily.exists_storage_of_definition? made
  have isStored : definition.storedVersion? = some storage := by
    have sameFind : definition.versions.find? (·.storage) =
        (family.roots.find? (·.version = storage)).map (ResourceFamily.versionOf storage) := by
      rw [versions, List.find?_map]
      rfl
    have isVersion : root.version = storage := by simpa using List.find?_some found
    rw [ResourceDefinition.storedVersion?, sameFind, found]
    exact congrArg some isVersion
  rw [gathered.roots_eq isFamily, List.find?_map] at found
  obtain ⟨place, foundPlace, rfl⟩ := Option.map_eq_some_iff.mp found
  have sameFamily : (definition.group, definition.names.kind) = family.key :=
    Prod.ext defined.group defined.kind
  have marker : source.storedMarker? definition =
      (source.index.declaration place.key.id).first? Vocabulary.resource := by
    have storedPlace : (source.places.filter (·.family = family.key)).find?
        (fun place => some place.key.version = some storage) = some place := by
      simpa [Function.comp_def, memberAt] using foundPlace
    have storedMember : (source.members family.key).find?
        (fun key => some key.version = some storage) = some place.key := by
      rw [members, List.find?_map]
      exact congrArg (Option.map (·.key)) storedPlace
    rw [storedMarker?, isStored, sameFamily, storedMember, Option.bind_some]
  rw [marker, defined.kind]
  exact names

/-- Definitions with the same plural: both plurals are written, or one of them is made from the
kind, or both are made from kinds with the same plural. -/
def SharesPlural (source : SchemaSource) (definition other : ResourceDefinition) : Prop :=
  match source.path? definition, source.path? other with
  | some path, some otherPath => path = otherPath
  | some path, none => path = ResourceFamily.pluralize other.names.kind
  | none, some otherPath => ResourceFamily.pluralize definition.names.kind = otherPath
  | none, none =>
    let word := Text.lowercase definition.names.kind.toList
    let otherWord := Text.lowercase other.names.kind.toList
    word = otherWord ∨ ResourceFamily.Extends word otherWord ∨
      ResourceFamily.Extends otherWord word

/-- Definitions that cannot be told apart by their names. -/
inductive Namesakes (source : SchemaSource) (definition other : ResourceDefinition) : Prop
  /-- Two kinds of one group with the same plural. -/
  | plural
      (group : definition.group = other.group)
      (kind : definition.names.kind ≠ other.names.kind)
      (sharesPlural : source.SharesPlural definition other)
  /-- The plural of one definition reaches into the group of the other one. -/
  | labels
      (goesOn : definition.GoesOn other ∨ other.GoesOn definition)

theorem sharesPlural_iff
    (calls : List SchemaCall)
    (listed : definition ∈ (source.defineResources.run (source.performedAll calls)).1.1)
    (otherListed : other ∈ (source.defineResources.run (source.performedAll calls)).1.1) :
    source.SharesPlural definition other ↔ definition.names.plural = other.names.plural := by
  rw [source.names_of_mem_definitions calls definition listed,
    source.names_of_mem_definitions calls other otherListed]
  change _ ↔ (source.path? definition).getD _ = (source.path? other).getD _
  unfold SharesPlural
  cases source.path? definition <;> cases source.path? other <;>
    simp [ResourceFamily.pluralize_eq_iff]

theorem name_eq_iff_namesakes
    (calls : List SchemaCall)
    (listed : definition ∈ (source.defineResources.run (source.performedAll calls)).1.1)
    (otherListed : other ∈ (source.defineResources.run (source.performedAll calls)).1.1)
    (differ : (definition.group, definition.names.kind) ≠ (other.group, other.names.kind)) :
    definition.name = other.name ↔ source.Namesakes definition other := by
  have shares := sharesPlural_iff calls listed otherListed
  rw [ResourceDefinition.name_eq_iff, ← shares]
  constructor
  · rintro (⟨sharesPlural, group⟩ | goesOn)
    · exact .plural group (fun kind => differ (Prod.ext group kind)) sharesPlural
    · exact .labels goesOn
  · rintro (⟨group, -, sharesPlural⟩ | goesOn)
    · exact .inl ⟨sharesPlural, group⟩
    · exact .inr goesOn

/-- The names of the definitions of a graph differ exactly if no two of them are namesakes. -/
theorem nodup_names_iff
    (source : SchemaSource)
    (calls : List SchemaCall) :
    let definitions := (source.defineResources.run (source.performedAll calls)).1.1
    (definitions.map (·.name)).Nodup ↔
      definitions.Pairwise fun definition other => ¬source.Namesakes definition other := by
  intro definitions
  have distinct : (definitions.map fun definition =>
      (definition.group, definition.names.kind)).Nodup := by
    obtain ⟨families, gathered, made, -⟩ := source.exists_gathered_defineResources calls
    have isMade : definitions = families.filterMap ResourceFamily.definition? := made
    exact isMade ▸ gathered.nodup_definitions
  rw [List.Nodup, List.pairwise_map] at distinct ⊢
  constructor
  · intro named
    refine (named.and distinct).imp_of_mem fun listed otherListed ⟨differ, apart⟩ => ?_
    exact mt (name_eq_iff_namesakes calls listed otherListed apart).mpr differ
  · intro apart
    refine (apart.and distinct).imp_of_mem fun listed otherListed ⟨differ, families⟩ => ?_
    exact mt (name_eq_iff_namesakes calls listed otherListed families).mp differ

/-- A record with nothing but the fields of a resource. -/
def bareResource (kind : String) : Declaration where
  name := kind
  package := "p"
  shape := .record [
    { name := "apiVersion", type := .scalar .string, key := "apiVersion" },
    { name := "kind", type := .scalar .string, key := "kind" },
    { name := "metadata", type := .scalar .any, key := "metadata" }]

/-- Two resources in one package whose kinds have the plural axes. -/
def axAndAxe : SchemaSource where
  graph := { packages := [{ name := "p", types := [bareResource "Ax", bareResource "Axe"] }] }
  index :=
    { entries := [
        (.package "p", [
          { name := Vocabulary.groupName, location := .package "p", consumer := .schema,
            arguments := [(Definition.unnamed, .string "tools.example.com")] },
          { name := Vocabulary.versionName, location := .package "p", consumer := .schema,
            arguments := [(Definition.unnamed, .string "v1")] }]),
        (.declaration ⟨"p", "Ax"⟩, [
          { name := Vocabulary.resource, location := .declaration ⟨"p", "Ax"⟩,
            consumer := .schema, arguments := [] }]),
        (.declaration ⟨"p", "Axe"⟩, [
          { name := Vocabulary.resource, location := .declaration ⟨"p", "Axe"⟩,
            consumer := .schema, arguments := [] }])] }
  gates := .empty

/-- Two resources of different kinds are defined under one name, and nothing is reported. -/
theorem not_nodup_names_axAndAxe :
    let result := axAndAxe.defineResources.run (axAndAxe.performedAll [])
    result.1.1.map (·.names.kind) = ["Ax", "Axe"] ∧
      ¬(result.1.1.map (·.name)).Nodup ∧ result.1.2 = [] ∧ result.2.diagnostics = [] := by
  decide +kernel

end SchemaSource
end MarkerManifests
