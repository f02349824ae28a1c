import MarkerManifests.Schema.Resource
import Mathlib.Data.List.Nodup

/-!
# Families of resources

Roots are gathered into families by their group and kind. A family becomes a definition if no
root failed, the versions differ, every record has the fields of a resource, and one version is
stored. Otherwise it is left out, and one of its roots is named.
-/

namespace MarkerManifests

namespace ResourceFamily

/-! ## Gathering -/

/-- The group and the kind of a family. -/
def key (family : ResourceFamily) : String × String :=
  (family.group, family.kind)

/-- The roots with a group and kind. -/
def rootsAt (families : List ResourceFamily) (key : String × String) : List ResourceRoot :=
  match families.find? (·.key = key) with
  | some family => family.roots
  | none => []

theorem rootsAt_addRoot
    (group kind : String)
    (root : ResourceRoot)
    (families : List ResourceFamily)
    (key : String × String) :
    rootsAt (addRoot group kind root families) key =
      rootsAt families key ++ if (group, kind) = key then [root] else [] := by
  induction families with
  | nil => by_cases same : (group, kind) = key <;> simp [addRoot, rootsAt, same, ResourceFamily.key,
      roots]
  | cons family rest inductionHypothesis =>
      rw [addRoot]
      split
      · rename_i isFamily
        have familyKey : family.key = (group, kind) := Prod.ext isFamily.1 isFamily.2
        have extendedKey :
            ({ family with others := family.others ++ [root] } : ResourceFamily).key =
              (group, kind) := familyKey
        by_cases same : (group, kind) = key
        · simp [rootsAt, familyKey, extendedKey, same, roots]
        · simp [rootsAt, familyKey, extendedKey, same]
      · rename_i otherFamily
        by_cases same : family.key = key
        · have differs : (group, kind) ≠ key := fun isKey =>
            otherFamily ⟨congrArg Prod.fst (same.trans isKey.symm),
              congrArg Prod.snd (same.trans isKey.symm)⟩
          simp [rootsAt, same, differs]
        · simp only [rootsAt, List.find?_cons, same, decide_false] at inductionHypothesis ⊢
          exact inductionHypothesis

theorem keys_addRoot
    (group kind : String)
    (root : ResourceRoot)
    (families : List ResourceFamily) :
    (addRoot group kind root families).map key =
      if (group, kind) ∈ families.map key then families.map key
      else families.map key ++ [(group, kind)] := by
  induction families with
  | nil => rfl
  | cons family rest inductionHypothesis =>
      rw [addRoot]
      split
      · rename_i isFamily
        have familyKey : (group, kind) = family.key :=
          (Prod.ext isFamily.1 isFamily.2 : family.key = (group, kind)).symm
        rw [List.map_cons, List.map_cons, if_pos (by simp [familyKey])]
        rfl
      · rename_i otherFamily
        have differs : (group, kind) ≠ family.key := fun isKey =>
          otherFamily ⟨(congrArg Prod.fst isKey).symm, (congrArg Prod.snd isKey).symm⟩
        rw [List.map_cons, inductionHypothesis, List.map_cons]
        by_cases member : (group, kind) ∈ rest.map key
        · rw [if_pos member, if_pos (List.mem_cons_of_mem _ member)]
        · rw [if_neg member, if_neg (by simp [differs, member]), List.cons_append]

/-- A root with the group and the kind of its family. -/
structure Member where
  group : String
  kind : String
  root : ResourceRoot

/-- Adds roots to families. -/
def gather (families : List ResourceFamily) (members : List Member) : List ResourceFamily :=
  members.foldl (fun families member => addRoot member.group member.kind member.root families)
    families

theorem rootsAt_gather
    (families : List ResourceFamily)
    (members : List Member)
    (key : String × String) :
    rootsAt (gather families members) key =
      rootsAt families key ++
        (members.filter fun member => (member.group, member.kind) = key).map (·.root) := by
  induction members generalizing families with
  | nil => simp [gather]
  | cons member rest inductionHypothesis =>
      have step := inductionHypothesis (addRoot member.group member.kind member.root families)
      rw [rootsAt_addRoot] at step
      by_cases same : (member.group, member.kind) = key
      · simpa [gather, same] using step
      · simpa [gather, same] using step

theorem nodup_keys_gather
    {families : List ResourceFamily}
    (members : List Member)
    (distinct : (families.map key).Nodup) :
    ((gather families members).map key).Nodup := by
  induction members generalizing families with
  | nil => exact distinct
  | cons member rest inductionHypothesis =>
      apply inductionHypothesis
      rw [keys_addRoot]
      split
      · exact distinct
      · rename_i isNew
        rw [List.nodup_append]
        refine ⟨distinct, by simp, fun first old second new same => ?_⟩
        rw [List.mem_singleton.mp new] at same
        exact isNew (same ▸ old)

theorem exists_mem_of_mem_rootsAt
    {families : List ResourceFamily}
    {key : String × String}
    {root : ResourceRoot}
    (member : root ∈ rootsAt families key) :
    ∃ family ∈ families, family.key = key := by
  unfold rootsAt at member
  split at member
  · rename_i family found
    exact ⟨family, List.mem_of_find?_eq_some found, by simpa using List.find?_some found⟩
  · exact absurd member List.not_mem_nil

theorem rootsAt_key
    {families : List ResourceFamily}
    {family : ResourceFamily}
    (distinct : (families.map key).Nodup)
    (member : family ∈ families) :
    rootsAt families family.key = family.roots := by
  rw [rootsAt, Entries.find?_key_of_mem distinct member]

/-! ## Roots of definitions -/

theorem hasProperty_rootSchema (schema : SchemaNode) (field : String) :
    (rootSchema schema).hasProperty field = schema.hasProperty field := by
  rw [SchemaNode.hasProperty, SchemaNode.hasProperty, rootSchema, List.any_map]
  congr 1
  funext entry
  dsimp only [Function.comp]
  split <;> rfl

/-- The metadata of a root are any object. -/
theorem property?_rootSchema_metadata
    {schema : SchemaNode}
    (present : schema.hasProperty "metadata" = true) :
    (rootSchema schema).property? "metadata" = some (SchemaNode.ofType .object) := by
  rw [← hasProperty_rootSchema] at present
  unfold SchemaNode.property?
  cases found : (rootSchema schema).properties.find? (·.1 = "metadata") with
  | none =>
      obtain ⟨entry, listed, isMetadata⟩ := List.any_eq_true.mp present
      exact absurd isMetadata (List.find?_eq_none.mp found entry listed)
  | some entry =>
      have isMetadata : entry.1 = "metadata" := by simpa using List.find?_some found
      obtain ⟨original, -, rfl⟩ := List.mem_map.mp (List.mem_of_find?_eq_some found)
      have originalKey : original.1 = "metadata" := by
        revert isMetadata
        dsimp only
        split <;> exact id
      simp [originalKey]

/-- There is no fault among roots exactly if their versions are new and distinct and their
records have the fields of a resource. -/
theorem rootsFault?_eq_none_iff
    {before roots : List ResourceRoot} :
    rootsFault? before roots = none ↔
      (∀ root ∈ roots, root.version ∉ before.map (·.version)) ∧
        (roots.map (·.version)).Nodup ∧
          ∀ root ∈ roots, ∀ field ∈ rootFields, root.schema.hasProperty field = true := by
  induction roots generalizing before with
  | nil => simp [rootsFault?]
  | cons root rest inductionHypothesis =>
      have sound : rootFault? before root = none ↔
          root.version ∉ before.map (·.version) ∧
            ∀ field ∈ rootFields, root.schema.hasProperty field = true := by
        unfold rootFault?
        split
        · rename_i repeated
          refine iff_of_false (by simp) fun ⟨isNew, _⟩ => isNew ?_
          obtain ⟨other, listed, same⟩ := List.any_eq_true.mp repeated
          exact List.mem_map.mpr ⟨other, listed, by simpa using same⟩
        · rename_i isNew
          rw [Option.map_eq_none_iff, List.find?_eq_none]
          have isFresh : root.version ∉ before.map (·.version) := fun member => by
            obtain ⟨other, listed, same⟩ := List.mem_map.mp member
            exact isNew (List.any_eq_true.mpr ⟨other, listed, by simpa using same⟩)
          simp [isFresh]
      rw [rootsFault?]
      cases fault : rootFault? before root with
      | some found =>
          refine iff_of_false (by simp) fun ⟨isNew, _, complete⟩ => ?_
          have none := sound.mpr ⟨isNew root List.mem_cons_self,
            complete root List.mem_cons_self⟩
          cases fault.symm.trans none
      | none =>
          obtain ⟨isNew, complete⟩ := sound.mp fault
          dsimp only
          rw [inductionHypothesis]
          simp only [List.map_append, List.map_cons, List.map_nil, List.mem_append,
            List.mem_singleton, List.forall_mem_cons, List.nodup_cons, not_or]
          constructor
          · rintro ⟨apart, distinct, others⟩
            refine ⟨⟨isNew, fun other listed => (apart other listed).1⟩, ⟨?_, distinct⟩,
              complete, others⟩
            intro repeated
            obtain ⟨other, listed, same⟩ := List.mem_map.mp repeated
            exact (apart other listed).2 same
          · rintro ⟨⟨-, others⟩, ⟨once, distinct⟩, -, completeOthers⟩
            refine ⟨fun other listed => ⟨others other listed, fun same => ?_⟩, distinct,
              completeOthers⟩
            exact once (List.mem_map.mpr ⟨other, listed, same⟩)

theorem mem_roots_of_rootsFault?
    {before roots : List ResourceRoot}
    {root : ResourceRoot}
    {fault : ResourceFault}
    (found : rootsFault? before roots = some (root, fault)) :
    root ∈ roots := by
  induction roots generalizing before with
  | nil => cases found
  | cons first rest inductionHypothesis =>
      rw [rootsFault?] at found
      split at found
      · cases found
        exact List.mem_cons_self
      · exact List.mem_cons_of_mem _ (inductionHypothesis found)

theorem storageVersion_mem
    {family : ResourceFamily}
    {storage : String}
    (stored : family.storageVersion = .ok storage) :
    storage ∈ family.roots.map (·.version) := by
  unfold storageVersion at stored
  split at stored
  · rename_i only marked
    cases stored
    have listed : only ∈ family.roots.filter (·.markers.has Vocabulary.storageVersion) := by
      simp [marked]
    exact List.mem_map_of_mem (List.mem_of_mem_filter listed)
  · cases stored
    exact List.mem_map_of_mem List.mem_cons_self
  · cases stored
  · cases stored

theorem eq_first_of_storageVersion
    {family : ResourceFamily}
    {root : ResourceRoot}
    {fault : ResourceFault}
    (failed : family.storageVersion = .error (root, fault)) :
    root = family.first := by
  unfold storageVersion at failed
  split at failed <;> cases failed <;> rfl

/-- What holds of the definition of a family. -/
structure Defined (family : ResourceFamily) (definition : ResourceDefinition) : Prop where
  group : definition.group = family.group
  kind : definition.names.kind = family.kind
  succeeded : ∀ root ∈ family.roots, root.failed = false
  distinct : (family.roots.map (·.version)).Nodup
  complete : ∀ root ∈ family.roots, ∀ field ∈ rootFields,
    root.schema.hasProperty field = true
  versions : ∃ storage ∈ family.roots.map (·.version),
    definition.versions = family.roots.map (versionOf storage)

/-- A family is defined, or one of its roots is named. -/
theorem define_cases (family : ResourceFamily) :
    (∃ definition, family.define = .ok definition ∧ family.Defined definition) ∨
      ∃ root ∈ family.roots, ∃ fault, family.define = .error (root, fault) := by
  unfold define
  cases failed : family.roots.find? (·.failed) with
  | some root => exact .inr ⟨root, List.mem_of_find?_eq_some failed, _, rfl⟩
  | none =>
      dsimp only
      cases faulty : rootsFault? [] family.roots with
      | some found =>
          obtain ⟨root, fault⟩ := found
          exact .inr ⟨root, mem_roots_of_rootsFault? faulty, fault, rfl⟩
      | none =>
          obtain ⟨-, distinct, complete⟩ := rootsFault?_eq_none_iff.mp faulty
          dsimp only
          cases stored : family.storageVersion with
          | error found =>
              obtain ⟨root, fault⟩ := found
              exact .inr ⟨root, eq_first_of_storageVersion stored ▸ List.mem_cons_self,
                fault, rfl⟩
          | ok storage =>
              dsimp only
              have stands : (family.roots.find? (·.version = storage)).getD family.first ∈
                  family.roots := by
                cases found : family.roots.find? (·.version = storage) with
                | none => exact List.mem_cons_self
                | some root => exact List.mem_of_find?_eq_some found
              split
              · rename_i found scope
                refine .inr ⟨found.1, ?_, found.2, rfl⟩
                have isRoot : found.1 =
                    (family.roots.find? (·.version = storage)).getD family.first := by
                  unfold scopeOf at scope
                  split at scope
                  · cases scope
                  · split at scope <;> cases scope
                    rfl
                exact isRoot ▸ stands
              · refine .inl ⟨_, rfl, rfl, rfl, fun root member => ?_, distinct, complete,
                  storage, storageVersion_mem stored, rfl⟩
                simpa using List.find?_eq_none.mp failed root member

namespace Defined

variable {family : ResourceFamily} {definition : ResourceDefinition}

theorem names_versions
    (defined : family.Defined definition) :
    definition.versions.map (·.name) = family.roots.map (·.version) := by
  obtain ⟨storage, -, versions⟩ := defined.versions
  rw [versions, List.map_map]
  rfl

theorem versions_ne_nil (defined : family.Defined definition) : definition.versions ≠ [] := by
  obtain ⟨storage, -, versions⟩ := defined.versions
  simp [versions, roots]

/-- Exactly one version is stored: the versions differ and the stored one is among them. -/
theorem length_stored_eq_one
    (defined : family.Defined definition) :
    (definition.versions.filter (·.storage)).length = 1 := by
  obtain ⟨storage, isVersion, versions⟩ := defined.versions
  have counted : (definition.versions.filter (·.storage)).length =
      (family.roots.map (·.version)).count storage := by
    rw [versions, List.filter_map, List.length_map, List.count_eq_length_filter,
      List.filter_map, List.length_map]
    rfl
  rw [counted]
  exact List.count_eq_one_of_mem defined.distinct isVersion

theorem rootFields_versions
    (defined : family.Defined definition)
    {version : ResourceVersion}
    (member : version ∈ definition.versions) :
    (∀ field ∈ rootFields, version.schema.hasProperty field = true) ∧
      version.schema.property? "metadata" = some (SchemaNode.ofType .object) := by
  obtain ⟨storage, -, versions⟩ := defined.versions
  obtain ⟨root, isRoot, rfl⟩ := List.mem_map.mp (versions ▸ member)
  have complete := defined.complete root isRoot
  refine ⟨fun field isField => ?_, ?_⟩
  · exact (hasProperty_rootSchema _ _).trans (complete field isField)
  · exact property?_rootSchema_metadata (complete "metadata" (by simp [rootFields]))

end Defined

/-! ## All families -/

/-- The definition of a family, unless it is left out. -/
def definition? (family : ResourceFamily) : Option ResourceDefinition :=
  match family.define with
  | .ok definition => some definition
  | .error _ => none

/-- The diagnostic of a family that is left out. -/
def omission? (family : ResourceFamily) : Option Diagnostic :=
  match family.define with
  | .ok _ => none
  | .error (root, fault) => some (family.omitted root fault)

theorem defineAll_eq (families : List ResourceFamily) :
    defineAll families = (families.filterMap definition?, families.filterMap omission?) := by
  induction families with
  | nil => rfl
  | cons family rest inductionHypothesis =>
      rw [defineAll, inductionHypothesis]
      cases outcome : family.define <;> simp [definition?, omission?, outcome]

theorem defined_of_definition?
    {family : ResourceFamily}
    {definition : ResourceDefinition}
    (made : family.definition? = some definition) :
    family.Defined definition := by
  unfold definition? at made
  rcases family.define_cases with ⟨other, outcome, defined⟩ | ⟨root, -, fault, outcome⟩
  · rw [outcome] at made
    cases made
    exact defined
  · rw [outcome] at made
    cases made

theorem exists_root_of_omission?
    {family : ResourceFamily}
    {diagnostic : Diagnostic}
    (made : family.omission? = some diagnostic) :
    ∃ root ∈ family.roots, ∃ fault, diagnostic = family.omitted root fault := by
  unfold omission? at made
  rcases family.define_cases with ⟨other, outcome, -⟩ | ⟨root, isRoot, fault, outcome⟩
  · rw [outcome] at made
    cases made
  · rw [outcome] at made
    cases made
    exact ⟨root, isRoot, fault, rfl⟩

/-- A family has a definition or a diagnostic, and never both. -/
theorem definition?_eq_none_iff
    {family : ResourceFamily} :
    family.definition? = none ↔ family.omission?.isSome := by
  unfold definition? omission?
  cases family.define <;> simp

end ResourceFamily
end MarkerManifests
