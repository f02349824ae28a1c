import MarkerManifests.Proofs.Schema.Alike
import MarkerManifests.Proofs.Schema.Families

/-!
# Accounting for resources

What becomes of every declaration that is marked as a resource and switched on. Without a group
or a version it is reported. Otherwise it belongs to the family of its group and kind: either
the family has one definition, of which the declaration is one version, or it has none and one
diagnostic stands at one of its declarations.
-/

namespace MarkerManifests

theorem filter_filterMap_eq_nil
    {Source Target : Type}
    {sources : List Source}
    {target? : Source → Option Target}
    {isWanted : Target → Bool}
    (unwanted : ∀ source ∈ sources, ∀ target, target? source = some target →
      isWanted target = false) :
    (sources.filterMap target?).filter isWanted = [] := by
  rw [List.filter_eq_nil_iff]
  intro target made
  obtain ⟨source, member, isTarget⟩ := List.mem_filterMap.mp made
  simp [unwanted source member target isTarget]

/-- Where keys are distinct, what is wanted for the key of one element is what the element makes.
-/
theorem filter_filterMap_eq_toList
    {Source Target Key : Type}
    {sources : List Source}
    {key : Source → Key}
    {target? : Source → Option Target}
    {isWanted : Target → Bool}
    {source : Source}
    (distinct : (sources.map key).Nodup)
    (member : source ∈ sources)
    (wanted : ∀ other ∈ sources, ∀ target, target? other = some target →
      (isWanted target = true ↔ key other = key source)) :
    (sources.filterMap target?).filter isWanted = (target? source).toList := by
  obtain ⟨before, after, rfl⟩ := List.append_of_mem member
  have apart : ∀ other ∈ before ++ after, key other ≠ key source := by
    intro other isOther same
    have others := (List.nodup_cons.mp (List.nodup_middle.mp
      (show (before.map key ++ key source :: after.map key).Nodup by simpa using distinct))).1
    rw [← List.map_append] at others
    exact others (same ▸ List.mem_map_of_mem isOther)
  have unwanted : ∀ other ∈ before ++ after, ∀ target, target? other = some target →
      isWanted target = false := by
    intro other isOther target made
    have listed : other ∈ before ++ source :: after :=
      List.perm_middle.mem_iff.mpr (List.mem_cons_of_mem _ isOther)
    exact Bool.eq_false_iff.mpr fun isWantedTarget =>
      apart other isOther ((wanted other listed target made).mp isWantedTarget)
  rw [List.filterMap_append, List.filter_append, List.filterMap_cons,
    filter_filterMap_eq_nil fun other isOther =>
      unwanted other (List.mem_append_left _ isOther), List.nil_append]
  have rest := filter_filterMap_eq_nil fun other isOther =>
    unwanted other (List.mem_append_right _ isOther)
  cases made : target? source with
  | none => exact rest
  | some target =>
      have isWantedTarget := (wanted source member target made).mpr rfl
      simp [isWantedTarget, rest]

theorem filter_map_eq_singleton
    {Source Target Key : Type}
    {sources : List Source}
    {key : Source → Key}
    {target : Source → Target}
    {isWanted : Target → Bool}
    {source : Source}
    (distinct : (sources.map key).Nodup)
    (member : source ∈ sources)
    (wanted : ∀ other ∈ sources, isWanted (target other) = true ↔ key other = key source) :
    (sources.map target).filter isWanted = [target source] := by
  rw [← List.filterMap_eq_map]
  refine filter_filterMap_eq_toList distinct member fun other isOther made same => ?_
  cases same
  exact wanted other isOther

/-- What is made of some elements has keys in the order of the elements. -/
theorem map_filterMap_sublist
    {Source Target Key : Type}
    {sources : List Source}
    {key : Source → Key}
    {target? : Source → Option Target}
    {targetKey : Target → Key}
    (sameKey : ∀ source target, target? source = some target →
      targetKey target = key source) :
    ((sources.filterMap target?).map targetKey).Sublist (sources.map key) := by
  induction sources with
  | nil => exact .refl _
  | cons source rest inductionHypothesis =>
      rw [List.map_cons]
      cases made : target? source with
      | none => simpa [made] using inductionHypothesis.cons (key source)
      | some target =>
          rw [List.filterMap_cons_some made, List.map_cons, sameKey source target made]
          exact inductionHypothesis.cons_cons _

/-! ## Places of resources -/

/-- Where a resource belongs: to a family, at a version. -/
structure ResourcePlace where
  group : String
  kind : String
  key : SchemaKey
  deriving DecidableEq

/-- The family of a place. -/
def ResourcePlace.family (place : ResourcePlace) : String × String :=
  (place.group, place.kind)

namespace SchemaSource

variable {source : SchemaSource}

/-- The place of a resource, if its package has a group and a version. -/
def place? (source : SchemaSource) (entry : Package × Declaration) : Option ResourcePlace :=
  (source.index.groupVersion? entry.1).map fun (group, version) =>
    ⟨group, entry.2.name, ⟨entry.2.id, version⟩⟩

/-- The diagnostic of a resource that has no place. -/
def unplaced? (source : SchemaSource) (entry : Package × Declaration) : Option Diagnostic :=
  match source.place? entry with
  | some _ => none
  | none => some (unversioned entry.1 entry.2)

/-- The declarations that are switched-on resources. -/
def resourcesOf (source : SchemaSource) (entries : List (Package × Declaration)) :
    List (Package × Declaration) :=
  entries.filter fun entry => source.isResource entry.2

/-- The resources of the graph that are switched on, in source order. -/
def resources (source : SchemaSource) : List (Package × Declaration) :=
  source.resourcesOf (declarationsInPackages source.graph)

/-- The places of the resources, in source order. -/
def places (source : SchemaSource) : List ResourcePlace :=
  source.resources.filterMap source.place?

/-- The declarations of a family at their versions, in source order. -/
def members (source : SchemaSource) (family : String × String) : List SchemaKey :=
  (source.places.filter (·.family = family)).map (·.key)

theorem key_of_place?
    {entry : Package × Declaration}
    {place : ResourcePlace}
    (placed : source.place? entry = some place) :
    place.kind = entry.2.name ∧ place.key.id = entry.2.id := by
  obtain ⟨⟨group, version⟩, -, rfl⟩ := Option.map_eq_some_iff.mp placed
  exact ⟨rfl, rfl⟩

/-- Declarations of the graph have distinct identities. -/
theorem nodup_ids_declarationsInPackages (graph : TypeGraph) :
    ((declarationsInPackages graph).map (·.2.id)).Nodup := by
  rw [ids_declarationsInPackages]
  exact graph.distinct

theorem nodup_ids_resources (source : SchemaSource) :
    (source.resources.map (·.2.id)).Nodup :=
  (nodup_ids_declarationsInPackages source.graph).sublist (List.filter_sublist.map _)

theorem eq_of_id_eq
    {first second : Package × Declaration}
    (isFirst : first ∈ source.resources)
    (isSecond : second ∈ source.resources)
    (sameId : first.2.id = second.2.id) :
    first = second :=
  List.inj_on_of_nodup_map (nodup_ids_resources source) isFirst isSecond sameId

theorem mem_places_iff
    {place : ResourcePlace} :
    place ∈ source.places ↔ ∃ entry ∈ source.resources, source.place? entry = some place :=
  List.mem_filterMap

theorem mem_members_iff
    {family : String × String}
    {key : SchemaKey} :
    key ∈ source.members family ↔
      ∃ place ∈ source.places, place.family = family ∧ place.key = key := by
  simp [members, and_assoc]

/-- A declaration belongs to one family only. -/
theorem family_eq_of_mem_members
    {place : ResourcePlace}
    {family : String × String}
    {key : SchemaKey}
    (isPlace : place ∈ source.places)
    (member : key ∈ source.members family)
    (sameId : place.key.id = key.id) :
    place.family = family := by
  obtain ⟨other, isOther, rfl, rfl⟩ := mem_members_iff.mp member
  obtain ⟨entry, isResource, placed⟩ := mem_places_iff.mp isPlace
  obtain ⟨otherEntry, otherResource, otherPlaced⟩ := mem_places_iff.mp isOther
  have sameEntry : entry = otherEntry := by
    apply eq_of_id_eq isResource otherResource
    rw [← (key_of_place? placed).2, ← (key_of_place? otherPlaced).2, sameId]
  subst sameEntry
  cases placed.symm.trans otherPlaced
  rfl

/-! ## Collecting roots -/

/-- The root of a resource, as the table has it. -/
def memberAt
    (source : SchemaSource)
    (table : SchemaTable)
    (place : ResourcePlace) : ResourceFamily.Member where
  group := place.group
  kind := place.kind
  root :=
    { version := place.key.version
      id := place.key.id
      markers := source.index.declaration place.key.id
      schema := (table.finished? place.key).getD SchemaNode.opaqueObject
      failed := table.hasFailed place.key }

/-- The schemas of places are finished. -/
def FinishedAt (table : SchemaTable) (places : List ResourcePlace) : Prop :=
  ∀ place ∈ places, (table.finished? place.key).isSome

theorem memberAt_eq_of_runsFrom
    {table later : SchemaTable}
    (place : ResourcePlace)
    (finished : (table.finished? place.key).isSome)
    (runs : source.RunsFrom table later) :
    source.memberAt later place = source.memberAt table place ∧
      (later.finished? place.key).isSome := by
  obtain ⟨node, isFinished⟩ := Option.isSome_iff_exists.mp finished
  obtain ⟨-, events, trace⟩ := runs
  have stays := trace.finished?_of_finished isFinished
  have sameFailure := trace.hasFailed_of_finished isFinished
  exact ⟨by rw [memberAt, memberAt, stays, isFinished, sameFailure], by simp [stays]⟩

/-- After a request from outside, the requested schema is finished. -/
theorem finished?_run_synthesize
    (source : SchemaSource)
    (id : TypeId)
    (version : String)
    {table : SchemaTable}
    (idle : table.active = []) :
    ((source.synthesize id version).run table).2.finished? ⟨id, version⟩ =
      some ((source.synthesize id version).run table).1 := by
  cases finished : table.finished? ⟨id, version⟩ with
  | some node => rw [run_synthesize_of_finished finished, finished]
  | none =>
      rw [run_synthesize_of_new (activeAt_of_idle source version idle) finished
        (idle ▸ List.not_mem_nil), settledBuild, SchemaTable.finished?_settled, if_pos rfl]

theorem RunsFrom.trans
    {table between later : SchemaTable}
    (first : source.RunsFrom table between)
    (second : source.RunsFrom between later) :
    source.RunsFrom table later := by
  obtain ⟨-, events, trace⟩ := first
  obtain ⟨idle, others, more⟩ := second
  exact ⟨idle, events ++ others, trace.append more⟩

theorem RunsFrom.request
    (source : SchemaSource)
    {table : SchemaTable}
    (idle : table.active = [])
    (id : TypeId)
    (version : String) :
    source.RunsFrom table ((source.synthesize id version).run table).2 :=
  RunsFrom.synthesize ⟨idle, [], .nothing _⟩ id version

/-- A resource with a place is requested, and its root joins its family. -/
theorem run_collectRoots_placed
    {package : Package}
    {declaration : Declaration}
    {place : ResourcePlace}
    (rest : List (Package × Declaration))
    (families : List ResourceFamily)
    (diagnostics : Diagnostics)
    {table : SchemaTable}
    (idle : table.active = [])
    (isResource : source.isResource declaration = true)
    (placed : source.place? (package, declaration) = some place) :
    let between := ((source.synthesize place.key.id place.key.version).run table).2
    (source.collectRoots families diagnostics ((package, declaration) :: rest)).run table =
      (source.collectRoots
        (ResourceFamily.gather families [source.memberAt between place]) diagnostics rest).run
          between := by
  obtain ⟨⟨group, version⟩, found, rfl⟩ := Option.map_eq_some_iff.mp placed
  have finished := source.finished?_run_synthesize declaration.id version idle
  rw [collectRoots, if_pos isResource, found]
  dsimp only [ResourceFamily.gather, memberAt, List.foldl]
  rw [finished]
  rfl

/-- What the collection of roots does: the resources that have no place are reported, and the
others are gathered in their families, with the schemas that the table has in the end. -/
theorem run_collectRoots
    (source : SchemaSource)
    (entries : List (Package × Declaration))
    (families : List ResourceFamily)
    (diagnostics : Diagnostics)
    (table : SchemaTable)
    (idle : table.active = []) :
    let places := (source.resourcesOf entries).filterMap source.place?
    let result := (source.collectRoots families diagnostics entries).run table
    source.RunsFrom table result.2 ∧ FinishedAt result.2 places ∧
      result.1.1 = ResourceFamily.gather families (places.map (source.memberAt result.2)) ∧
        result.1.2 =
          diagnostics ++ (source.resourcesOf entries).filterMap source.unplaced? := by
  induction entries generalizing families diagnostics table with
  | nil => exact ⟨⟨idle, [], .nothing _⟩, by simp [FinishedAt, resourcesOf], rfl,
      (List.append_nil _).symm⟩
  | cons entry rest inductionHypothesis =>
      obtain ⟨package, declaration⟩ := entry
      by_cases isResource : source.isResource declaration = true
      · have resources : source.resourcesOf ((package, declaration) :: rest) =
            (package, declaration) :: source.resourcesOf rest := by
          simp [resourcesOf, isResource]
        rw [resources]
        cases placed : source.place? (package, declaration) with
        | none =>
            have found : source.index.groupVersion? package = none :=
              Option.map_eq_none_iff.mp placed
            have step := inductionHypothesis families
              (diagnostics ++ [unversioned package declaration]) table idle
            rw [collectRoots, if_pos isResource, found]
            simpa [placed, unplaced?] using step
        | some place =>
            rw [run_collectRoots_placed rest families diagnostics idle isResource placed]
            have requested := RunsFrom.request source idle place.key.id place.key.version
            have finished :=
              source.finished?_run_synthesize place.key.id place.key.version idle
            generalize ((source.synthesize place.key.id place.key.version).run table).2 =
              between at requested finished
            obtain ⟨later, finishedLater, gathered, reported⟩ := inductionHypothesis
              (ResourceFamily.gather families [source.memberAt between place]) diagnostics
              between requested.1
            -- what is finished stays, so the root may be read off the last table
            have stays := memberAt_eq_of_runsFrom place (by simp [finished]) later
            refine ⟨requested.trans later, ?_, ?_, ?_⟩
            · intro other isPlace
              simp only [List.filterMap_cons, placed, List.mem_cons] at isPlace
              rcases isPlace with rfl | isPlace
              · exact stays.2
              · exact finishedLater other isPlace
            · rw [gathered, List.filterMap_cons, placed, List.map_cons, stays.1]
              rfl
            · rw [reported]
              simp [placed, unplaced?]
      · rw [collectRoots, if_neg isResource]
        have resources : source.resourcesOf ((package, declaration) :: rest) =
            source.resourcesOf rest := by
          simp [resourcesOf, isResource]
        rw [resources]
        exact inductionHypothesis families diagnostics table idle

/-! ## The accounts -/

/-- The diagnostics at the declarations of a family. -/
def reportedFor
    (source : SchemaSource)
    (diagnostics : Diagnostics)
    (family : String × String) : Diagnostics :=
  diagnostics.filter fun diagnostic =>
    (source.members family).any fun key => diagnostic.location = .declaration key.id

/-- The definitions of a family. -/
def definitionsFor
    (definitions : List ResourceDefinition)
    (family : String × String) : List ResourceDefinition :=
  definitions.filter fun definition => (definition.group, definition.names.kind) = family

/-- What becomes of a resource that is switched on. -/
inductive Fate
    (source : SchemaSource)
    (definitions : List ResourceDefinition)
    (diagnostics : Diagnostics)
    (table : SchemaTable)
    (package : Package)
    (declaration : Declaration) : Prop where
  /-- Its package has no group or no version, and one diagnostic says so. -/
  | unversioned
      (missing : source.index.groupVersion? package = none)
      (reported : diagnostics.located (.declaration declaration.id) =
        [SchemaSource.unversioned package declaration])
  /-- Its family has one definition, and one version of this has its schema. -/
  | defined
      {group version : String}
      {definition : ResourceDefinition}
      {node : SchemaNode}
      (placed : source.index.groupVersion? package = some (group, version))
      (finished : table.finished? ⟨declaration.id, version⟩ = some node)
      (only : definitionsFor definitions (group, declaration.name) = [definition])
      (once : (definition.versions.filter (·.name = version)).map (·.schema) =
        [ResourceFamily.rootSchema node])
      (silent : source.reportedFor diagnostics (group, declaration.name) = [])
  /-- Its family has no definition, and one diagnostic at one of its declarations says why. -/
  | omitted
      {group version : String}
      {family : ResourceFamily}
      {root : ResourceRoot}
      {fault : ResourceFault}
      (placed : source.index.groupVersion? package = some (group, version))
      (none : definitionsFor definitions (group, declaration.name) = [])
      (sameFamily : family.key = (group, declaration.name))
      (isMember : ⟨root.id, root.version⟩ ∈ source.members (group, declaration.name))
      (reported : source.reportedFor diagnostics (group, declaration.name) =
        [family.omitted root fault])

/-- What holds of the definitions and the diagnostics of a graph, and of the table that the
schemas are taken from. -/
structure WellAssembled
    (source : SchemaSource)
    (definitions : List ResourceDefinition)
    (diagnostics : Diagnostics)
    (table : SchemaTable) : Prop where
  versions_ne_nil : ∀ definition ∈ definitions, definition.versions ≠ []
  distinctVersions : ∀ definition ∈ definitions,
    (definition.versions.map (·.name)).Nodup
  /-- Exactly one version is stored. -/
  stored : ∀ definition ∈ definitions, (definition.versions.filter (·.storage)).length = 1
  /-- Every version has the fields of a resource, and its metadata are any object. -/
  rootFields : ∀ definition ∈ definitions, ∀ version ∈ definition.versions,
    (∀ field ∈ ResourceFamily.rootFields, version.schema.hasProperty field = true) ∧
      version.schema.property? "metadata" = some (SchemaNode.ofType .object)
  /-- The versions of a definition are the declarations of its family in source order, none of
  which failed. -/
  described : ∀ definition ∈ definitions,
    List.Forall₂ (fun key version =>
      version.name = key.version ∧ table.hasFailed key = false ∧
        ∃ node, table.finished? key = some node ∧
          version.schema = ResourceFamily.rootSchema node)
      (source.members (definition.group, definition.names.kind)) definition.versions
  /-- No two definitions have both group and kind in common. -/
  distinctFamilies :
    (definitions.map fun definition => (definition.group, definition.names.kind)).Nodup
  accounted : ∀ package declaration, (package, declaration) ∈ source.resources →
    source.Fate definitions diagnostics table package declaration

/-- Families that were gathered from the places of the resources of a source. -/
structure Gathered
    (source : SchemaSource)
    (table : SchemaTable)
    (families : List ResourceFamily) : Prop where
  finished : FinishedAt table source.places
  gathered : families = ResourceFamily.gather [] (source.places.map (source.memberAt table))

namespace Gathered

variable {table : SchemaTable} {families : List ResourceFamily} {family : ResourceFamily}

theorem nodup_keys (gathered : source.Gathered table families) :
    (families.map (·.key)).Nodup :=
  gathered.gathered ▸ ResourceFamily.nodup_keys_gather _ List.nodup_nil

theorem rootsAt_eq (gathered : source.Gathered table families) (key : String × String) :
    ResourceFamily.rootsAt families key =
      (source.places.filter (·.family = key)).map fun place =>
        (source.memberAt table place).root := by
  rw [gathered.gathered, ResourceFamily.rootsAt_gather, List.filter_map, List.map_map]
  rfl

theorem roots_eq
    (gathered : source.Gathered table families)
    (member : family ∈ families) :
    family.roots = (source.places.filter (·.family = family.key)).map fun place =>
      (source.memberAt table place).root := by
  rw [← ResourceFamily.rootsAt_key gathered.nodup_keys member, gathered.rootsAt_eq]

theorem exists_family
    (gathered : source.Gathered table families)
    {place : ResourcePlace}
    (isPlace : place ∈ source.places) :
    ∃ family ∈ families, family.key = place.family := by
  have isRoot : (source.memberAt table place).root ∈
      ResourceFamily.rootsAt families place.family := by
    rw [gathered.rootsAt_eq]
    exact List.mem_map_of_mem (List.mem_filter.mpr ⟨isPlace, by simp⟩)
  exact ResourceFamily.exists_mem_of_mem_rootsAt isRoot

/-- The roots of a family are its declarations. -/
theorem mem_members
    (gathered : source.Gathered table families)
    (member : family ∈ families)
    {root : ResourceRoot}
    (isRoot : root ∈ family.roots) :
    ⟨root.id, root.version⟩ ∈ source.members family.key := by
  rw [gathered.roots_eq member] at isRoot
  obtain ⟨place, listed, rfl⟩ := List.mem_map.mp isRoot
  exact List.mem_map.mpr ⟨place, listed, rfl⟩

/-- The versions of a definition are the declarations of its family. -/
theorem forall₂_versions
    (gathered : source.Gathered table families)
    (member : family ∈ families)
    {definition : ResourceDefinition}
    (defined : family.Defined definition) :
    List.Forall₂ (fun key version =>
      version.name = key.version ∧ table.hasFailed key = false ∧
        ∃ node, table.finished? key = some node ∧
          version.schema = ResourceFamily.rootSchema node)
      (source.members (definition.group, definition.names.kind)) definition.versions := by
  obtain ⟨storage, -, versions⟩ := defined.versions
  have sameFamily : (definition.group, definition.names.kind) = family.key :=
    Prod.ext defined.group defined.kind
  have roots := gathered.roots_eq member
  rw [versions, roots, sameFamily, members, List.map_map, List.forall₂_map_left_iff,
    List.forall₂_map_right_iff, List.forall₂_same]
  intro place listed
  have isPlace := List.mem_of_mem_filter listed
  obtain ⟨node, finished⟩ := Option.isSome_iff_exists.mp (gathered.finished place isPlace)
  refine ⟨rfl, ?_, node, finished, ?_⟩
  · exact defined.succeeded _ (roots ▸ List.mem_map_of_mem listed)
  · simp [ResourceFamily.versionOf, memberAt, finished]

/-- One version of the definition of its family has the schema of a resource. -/
theorem map_schema_versions
    (gathered : source.Gathered table families)
    (member : family ∈ families)
    {definition : ResourceDefinition}
    (defined : family.Defined definition)
    {place : ResourcePlace}
    (isPlace : place ∈ source.places)
    (sameFamily : family.key = place.family)
    {node : SchemaNode}
    (finished : table.finished? place.key = some node) :
    (definition.versions.filter (·.name = place.key.version)).map (·.schema) =
      [ResourceFamily.rootSchema node] := by
  obtain ⟨storage, -, versions⟩ := defined.versions
  have roots := gathered.roots_eq member
  have distinct := defined.distinct
  rw [roots, List.map_map] at distinct
  have listed : place ∈ source.places.filter (·.family = family.key) :=
    List.mem_filter.mpr ⟨isPlace, by simp [sameFamily]⟩
  have once : (definition.versions.filter (·.name = place.key.version)) =
      [ResourceFamily.versionOf storage (source.memberAt table place).root] := by
    rw [versions, roots, List.map_map]
    refine filter_map_eq_singleton distinct listed fun other _ => ?_
    exact decide_eq_true_iff
  rw [once]
  simp [ResourceFamily.versionOf, memberAt, finished]

/-- The definitions of a family are those that its one gathering has. -/
theorem definitionsFor_eq
    (gathered : source.Gathered table families)
    (member : family ∈ families) :
    definitionsFor (families.filterMap ResourceFamily.definition?) family.key =
      family.definition?.toList := by
  refine filter_filterMap_eq_toList gathered.nodup_keys member
    fun other _ definition made => ?_
  have defined := ResourceFamily.defined_of_definition? made
  rw [decide_eq_true_iff, defined.group, defined.kind]
  exact Iff.rfl

/-- The diagnostics of omissions at the declarations of a family are its own. -/
theorem reportedFor_omissions
    (gathered : source.Gathered table families)
    (member : family ∈ families) :
    source.reportedFor (families.filterMap ResourceFamily.omission?) family.key =
      family.omission?.toList := by
  refine filter_filterMap_eq_toList gathered.nodup_keys member
    fun other isOther diagnostic made => ?_
  obtain ⟨root, isRoot, fault, rfl⟩ := ResourceFamily.exists_root_of_omission? made
  have isMember := gathered.mem_members isOther isRoot
  rw [List.any_eq_true]
  constructor
  · rintro ⟨key, inFamily, located⟩
    obtain ⟨place, isPlace, sameFamily, sameKey⟩ := mem_members_iff.mp isMember
    have sameId : root.id = key.id := by
      simpa [ResourceFamily.omitted] using located
    rw [← sameFamily]
    exact family_eq_of_mem_members isPlace inFamily (by rw [sameKey, sameId])
  · intro sameFamily
    exact ⟨_, sameFamily ▸ isMember, by simp [ResourceFamily.omitted]⟩

/-- No omission stands at a resource without a place. -/
theorem located_omissions
    (gathered : source.Gathered table families)
    {entry : Package × Declaration}
    (isResource : entry ∈ source.resources)
    (unplaced : source.place? entry = none) :
    Diagnostics.located (families.filterMap ResourceFamily.omission?)
      (.declaration entry.2.id) = [] := by
  refine filter_filterMap_eq_nil fun family member diagnostic made => ?_
  obtain ⟨root, isRoot, fault, rfl⟩ := ResourceFamily.exists_root_of_omission? made
  obtain ⟨place, isPlace, -, sameKey⟩ :=
    mem_members_iff.mp (gathered.mem_members member isRoot)
  obtain ⟨other, otherResource, placed⟩ := mem_places_iff.mp isPlace
  rw [decide_eq_false_iff_not]
  intro located
  have sameId : root.id = entry.2.id := by simpa [ResourceFamily.omitted] using located
  have sameEntry : other = entry := by
    apply eq_of_id_eq otherResource isResource
    rw [← (key_of_place? placed).2, sameKey, sameId]
  rw [sameEntry, unplaced] at placed
  cases placed

end Gathered

theorem unplaced?_of_place?_eq_none
    {entry : Package × Declaration}
    (unplaced : source.place? entry = none) :
    source.unplaced? entry = some (unversioned entry.1 entry.2) := by
  rw [unplaced?, unplaced]

theorem exists_of_unplaced?
    {entry : Package × Declaration}
    {diagnostic : Diagnostic}
    (reported : source.unplaced? entry = some diagnostic) :
    source.place? entry = none ∧ diagnostic = unversioned entry.1 entry.2 := by
  unfold unplaced? at reported
  split at reported
  · cases reported
  · rename_i unplaced
    cases reported
    exact ⟨unplaced, rfl⟩

/-- A resource without a place is reported once. -/
theorem located_unplaced
    {entry : Package × Declaration}
    (isResource : entry ∈ source.resources)
    (unplaced : source.place? entry = none) :
    Diagnostics.located (source.resources.filterMap source.unplaced?)
        (.declaration entry.2.id) =
      [unversioned entry.1 entry.2] := by
  rw [Diagnostics.located]
  refine (filter_filterMap_eq_toList (nodup_ids_resources source) isResource
    fun other _ diagnostic reported => ?_).trans ?_
  · obtain ⟨-, rfl⟩ := exists_of_unplaced? reported
    simp [unversioned]
  · rw [unplaced?_of_place?_eq_none unplaced]
    rfl

/-- No resource without a place stands in a family. -/
theorem reportedFor_unplaced (source : SchemaSource) (family : String × String) :
    source.reportedFor (source.resources.filterMap source.unplaced?) family = [] := by
  refine filter_filterMap_eq_nil fun entry isResource diagnostic reported => ?_
  obtain ⟨unplaced, rfl⟩ := exists_of_unplaced? reported
  rw [← Bool.not_eq_true, List.any_eq_true]
  rintro ⟨key, inFamily, located⟩
  obtain ⟨place, isPlace, -, rfl⟩ := mem_members_iff.mp inFamily
  obtain ⟨other, otherResource, placed⟩ := mem_places_iff.mp isPlace
  have sameId : entry.2.id = place.key.id := by simpa [unversioned] using located
  have sameEntry : other = entry :=
    eq_of_id_eq otherResource isResource ((key_of_place? placed).2.symm.trans sameId.symm)
  rw [sameEntry, unplaced] at placed
  cases placed

/-- Every resource is accounted for by the definitions and diagnostics of its family. -/
theorem Gathered.fate
    {table : SchemaTable}
    {families : List ResourceFamily}
    (gathered : source.Gathered table families)
    {package : Package}
    {declaration : Declaration}
    (isResource : (package, declaration) ∈ source.resources) :
    source.Fate (families.filterMap ResourceFamily.definition?)
      (source.resources.filterMap source.unplaced? ++
        families.filterMap ResourceFamily.omission?) table package declaration := by
  cases placed : source.place? (package, declaration) with
  | none =>
      refine .unversioned (Option.map_eq_none_iff.mp placed) ?_
      rw [Diagnostics.located, List.filter_append]
      have own := located_unplaced isResource placed
      have others := gathered.located_omissions isResource placed
      rw [Diagnostics.located] at own others
      rw [own, others, List.append_nil]
  | some place =>
      have isPlace := mem_places_iff.mpr ⟨_, isResource, placed⟩
      obtain ⟨family, member, sameFamily⟩ := gathered.exists_family isPlace
      have definitions := gathered.definitionsFor_eq member
      have reported : source.reportedFor (source.resources.filterMap source.unplaced? ++
          families.filterMap ResourceFamily.omission?) place.family =
            family.omission?.toList := by
        have unplaced := reportedFor_unplaced source place.family
        have omissions := gathered.reportedFor_omissions member
        rw [sameFamily] at omissions
        rw [reportedFor] at unplaced omissions ⊢
        rw [List.filter_append, unplaced, omissions, List.nil_append]
      obtain ⟨node, finished⟩ := Option.isSome_iff_exists.mp (gathered.finished place isPlace)
      rw [sameFamily] at definitions
      cases made : family.definition? with
      | some definition =>
          have silent : family.omission? = none := by
            rw [← Option.not_isSome_iff_eq_none, ← ResourceFamily.definition?_eq_none_iff,
              made]
            simp
          rw [made] at definitions
          rw [silent] at reported
          have once := gathered.map_schema_versions member
            (ResourceFamily.defined_of_definition? made) isPlace sameFamily finished
          obtain ⟨⟨group, version⟩, found, rfl⟩ := Option.map_eq_some_iff.mp placed
          exact .defined found finished definitions once reported
      | none =>
          obtain ⟨diagnostic, omitted⟩ :=
            Option.isSome_iff_exists.mp (ResourceFamily.definition?_eq_none_iff.mp made)
          obtain ⟨root, isRoot, fault, rfl⟩ := ResourceFamily.exists_root_of_omission? omitted
          rw [made] at definitions
          rw [omitted] at reported
          have isMember := gathered.mem_members member isRoot
          rw [sameFamily] at isMember
          obtain ⟨⟨group, version⟩, found, rfl⟩ := Option.map_eq_some_iff.mp placed
          exact .omitted found definitions sameFamily isMember reported

/-- No two definitions that are made of gathered families have both group and kind in common. -/
theorem Gathered.nodup_definitions
    {table : SchemaTable}
    {families : List ResourceFamily}
    (gathered : source.Gathered table families) :
    ((families.filterMap ResourceFamily.definition?).map fun definition =>
      (definition.group, definition.names.kind)).Nodup := by
  refine gathered.nodup_keys.sublist (map_filterMap_sublist fun family definition made => ?_)
  have defined := ResourceFamily.defined_of_definition? made
  exact Prod.ext defined.group defined.kind

/-- What is made of gathered families is well-assembled. -/
theorem Gathered.wellAssembled
    {table : SchemaTable}
    {families : List ResourceFamily}
    (gathered : source.Gathered table families) :
    source.WellAssembled (families.filterMap ResourceFamily.definition?)
      (source.resources.filterMap source.unplaced? ++
        families.filterMap ResourceFamily.omission?) table := by
  have ofFamily : ∀ definition ∈ families.filterMap ResourceFamily.definition?,
      ∃ family ∈ families, family.Defined definition := by
    intro definition listed
    obtain ⟨family, member, made⟩ := List.mem_filterMap.mp listed
    exact ⟨family, member, ResourceFamily.defined_of_definition? made⟩
  refine ⟨?_, ?_, ?_, ?_, ?_, gathered.nodup_definitions,
    fun _ _ isResource => gathered.fate isResource⟩
  · intro definition listed
    obtain ⟨family, -, defined⟩ := ofFamily definition listed
    exact defined.versions_ne_nil
  · intro definition listed
    obtain ⟨family, -, defined⟩ := ofFamily definition listed
    exact defined.names_versions ▸ defined.distinct
  · intro definition listed
    obtain ⟨family, -, defined⟩ := ofFamily definition listed
    exact defined.length_stored_eq_one
  · intro definition listed version isVersion
    obtain ⟨family, -, defined⟩ := ofFamily definition listed
    exact defined.rootFields_versions isVersion
  · intro definition listed
    obtain ⟨family, member, defined⟩ := ofFamily definition listed
    exact gathered.forall₂_versions member defined

/-- The resource definitions of a graph are those of gathered families, and so are the diagnostics
beside those of resources without a place. -/
theorem exists_gathered_defineResources
    (source : SchemaSource)
    (calls : List SchemaCall) :
    let result := source.defineResources.run (source.performedAll calls)
    ∃ families, source.Gathered result.2 families ∧
      result.1.1 = families.filterMap ResourceFamily.definition? ∧
        result.1.2 = source.resources.filterMap source.unplaced? ++
          families.filterMap ResourceFamily.omission? := by
  have start : source.RunsFrom {} {} := ⟨rfl, [], .nothing _⟩
  have idle := (start.calls calls).1
  obtain ⟨-, finished, families, reported⟩ := source.run_collectRoots
    (declarationsInPackages source.graph) [] [] (source.performedAll calls) idle
  generalize collected : (source.collectRoots [] []
    (declarationsInPackages source.graph)).run (source.performedAll calls) = result
    at finished families reported
  obtain ⟨⟨gathered, diagnostics⟩, table⟩ := result
  have defined : source.defineResources.run (source.performedAll calls) =
      (((ResourceFamily.defineAll gathered).1,
        diagnostics ++ (ResourceFamily.defineAll gathered).2), table) := by
    rw [defineResources, StateT.run_bind, collected]
    rfl
  have isReported : diagnostics = source.resources.filterMap source.unplaced? := reported
  rw [defined, ResourceFamily.defineAll_eq, isReported]
  exact ⟨gathered, ⟨finished, families⟩, rfl, rfl⟩

/-- Whatever was called before, every resource of a graph is accounted for. -/
theorem fate_defineResources
    (source : SchemaSource)
    (calls : List SchemaCall)
    {package : Package}
    {declaration : Declaration}
    (isResource : (package, declaration) ∈ source.resources) :
    let result := source.defineResources.run (source.performedAll calls)
    source.Fate result.1.1 result.1.2 result.2 package declaration := by
  intro result
  obtain ⟨families, gathered, definitions, diagnostics⟩ :=
    source.exists_gathered_defineResources calls
  rw [definitions, diagnostics]
  exact gathered.fate isResource

/-- Whatever was called before, the resource definitions of a graph are well-formed, and every
resource that is switched on is one version of one definition, or is reported. -/
theorem wellAssembled_defineResources
    (source : SchemaSource)
    (calls : List SchemaCall) :
    let result := source.defineResources.run (source.performedAll calls)
    source.WellAssembled result.1.1 result.1.2 result.2 := by
  intro result
  obtain ⟨families, gathered, definitions, diagnostics⟩ :=
    source.exists_gathered_defineResources calls
  rw [definitions, diagnostics]
  exact gathered.wellAssembled

end SchemaSource
end MarkerManifests
