import MarkerManifests.Proofs.Schema.Survivors

/-!
# How unions fail

A record fails because of a member of a union only after all its fields were added: no field fails
in this way, and neither do markers. By then the properties of the record are those of the kept
fields and of the schemas that the embedded records have in the table, and these are final. So a
member that is missing is one that the record does not contribute.
-/

namespace MarkerManifests

/-! ## Tables that only grow -/

/-- A later table, in which finished schemas are as they were. -/
def SchemaTable.Keeps (table later : SchemaTable) : Prop :=
  ∀ key node, table.finished? key = some node → later.finished? key = some node

namespace SchemaTable.Keeps

variable {table between later : SchemaTable}

theorem refl (table : SchemaTable) : table.Keeps table :=
  fun _ _ finished => finished

theorem trans (first : table.Keeps between) (second : between.Keeps later) : table.Keeps later :=
  fun key node finished => second key node (first key node finished)

/-- What was not finished may be settled. -/
theorem settled
    {key : SchemaKey}
    (unfinished : table.finished? key = none)
    (outcome : Except SynthesisError SchemaNode) : table.Keeps (table.settled key outcome) := by
  intro other node finished
  rw [finished?_settled]
  split
  · rename_i same
    rw [← same, unfinished] at finished
    cases finished
  · exact finished

end SchemaTable.Keeps

theorem SchemaTable.Extends.keeps
    {table later : SchemaTable}
    (extended : table.Extends later) : table.Keeps later :=
  fun key node finished => (extended.stays key (.inl (by rw [finished]; rfl))).trans finished

namespace SchemaSource

variable {source : SchemaSource} {version : String} {id : TypeId} {table later : SchemaTable}

theorem Trace.keeps {events : List SchemaEvent} (trace : source.Trace table events later) :
    table.Keeps later :=
  fun _ _ finished => trace.finished?_of_finished finished

/-- The key of a build is not finished by what happens inside of it. -/
theorem Trace.finished?_eq_none_of_begin
    {events : List SchemaEvent}
    {key : SchemaKey}
    (inside : source.Trace (table.begin key) events later)
    (unfinished : table.finished? key = none) :
    later.finished? key = none := by
  refine (inside.accounts.unfinished_iff key).mpr ⟨fun ended => ?_, unfinished⟩
  exact (inside.accounts.new key ended).2 List.mem_cons_self

/-- The outcome with which a synthesis ended is that of a build, and what was finished after the
build stays so. -/
theorem Trace.exists_build_of_ended
    {events : List SchemaEvent}
    {key : SchemaKey}
    {outcome : Except SynthesisError SchemaNode}
    (trace : source.Trace table events later)
    (ended : .ended key outcome ∈ events) :
    ∃ before built, (source.build (source.synthesize · key.version) key.id).run.run before =
        (outcome, built) ∧ built.Keeps later := by
  induction trace with
  | nothing table => exact absurd ended List.not_mem_nil
  | report => exact nomatch List.mem_singleton.mp ended
  | synthesis unfinished inactive inside ends inductionHypothesis =>
      -- a build that ended inside is older than the outer one, which is settled last
      have keeps := SchemaTable.Keeps.settled (inside.finished?_eq_none_of_begin unfinished)
      rcases List.mem_append.mp ended with earlier | last
      · obtain ⟨before, built, built_eq, keepsInside⟩ := inductionHypothesis earlier
        exact ⟨before, built, built_eq, keepsInside.trans (keeps _)⟩
      · cases List.mem_singleton.mp last
        exact ⟨_, _, ends, keeps _⟩
  | append first second firstHypothesis secondHypothesis =>
      rcases List.mem_append.mp ended with earlier | later
      · obtain ⟨before, built, built_eq, keeps⟩ := firstHypothesis earlier
        exact ⟨before, built, built_eq, keeps.trans second.keeps⟩
      · exact secondHypothesis later

/-- A request changes no answers, whatever is active and however deep requests may be nested. -/
theorem extends_run_synthesizeWithin
    (source : SchemaSource)
    (version : String)
    (levels : Nat)
    (id : TypeId)
    (table : SchemaTable) :
    table.Extends ((source.synthesizeWithin version levels id).run table).2 := by
  induction levels generalizing id table with
  | zero => exact .refl table
  | succ levels inductionHypothesis =>
      cases unfinished : table.finished? ⟨id, version⟩ with
      | some node =>
          rw [run_synthesizeWithin_of_finished levels unfinished]
          exact .refl table
      | none =>
          by_cases active : ⟨id, version⟩ ∈ table.active
          · rw [run_synthesizeWithin_of_active levels unfinished active]
            exact .refl table
          · rw [run_synthesizeWithin_of_new levels unfinished active]
            have built := run_build_preserves source id
              (source.synthesizeWithin version levels) (table.begin ⟨id, version⟩)
              (fun later => (table.begin ⟨id, version⟩).Extends later)
              (fun later diagnostics _ extended => extended.trans (.report later diagnostics))
              (fun target _ later extended => extended.trans (inductionHypothesis target later))
              (.refl _)
            refine ⟨by simp [settledBuild, built.active], fun key known => ?_⟩
            -- what is settled was not known before, so its answer is the only new one
            have other : (⟨id, version⟩ : SchemaKey) ≠ key := by
              rintro rfl
              exact known.elim (fun finished => by simp [unfinished] at finished) active
            rw [settledBuild, SchemaTable.finished?_settled, if_neg other]
            exact built.stays key (known.imp_right (List.mem_cons_of_mem _))

/-- What a request is answered with is finished, unless it is a reference. -/
theorem finished?_of_isReference_eq_false
    (id : TypeId)
    (table : SchemaTable) :
    let after := (source.synthesize id version).run table
    after.1.isReference = false → after.2.finished? ⟨id, version⟩ = some after.1 := by
  intro after notReference
  cases unfinished : table.finished? ⟨id, version⟩ with
  | some node =>
      have same : after = (node, table) := run_synthesize_of_finished unfinished
      rw [same]
      exact unfinished
  | none =>
      by_cases active : ⟨id, version⟩ ∈ table.active
      · have same : after = (SchemaNode.referenceTo id, table) :=
          run_synthesize_of_active unfinished active
        rw [same] at notReference
        cases notReference
      · have same : after = source.settledBuild _ version id table :=
          run_synthesizeWithin_of_new source.graph.size unfinished active
        rw [same, settledBuild, SchemaTable.finished?_settled, if_pos rfl]

end SchemaSource

/-! ## Attempts that unions do not fail

The rules for builds that succeed need to know what is active. Here the tables are those in which
some build of a run began, so nothing is known about them, and the reason of a failure counts. -/

/-- An attempt that keeps what is finished and that fails, if it does, for another reason than a
member of a union. If it succeeds, the table and the result satisfy a postcondition. -/
def SchemaAttempt.Leaves
    {Result : Type}
    (attempt : SchemaAttempt Result)
    (post : SchemaTable → Result → Prop) : Prop :=
  ∀ table : SchemaTable,
    let after := attempt.run.run table
    table.Keeps after.2 ∧ (∀ result, after.1 = .ok result → post after.2 result) ∧
      ∀ member, after.1 ≠ .error (.unknownUnionMember member)

namespace SchemaAttempt

variable {Result Next : Type}

/-- An attempt in two steps fails in the first one or in the second one. -/
theorem eq_error_of_run_bind
    {attempt : SchemaAttempt Result}
    {next : Result → SchemaAttempt Next}
    {table later : SchemaTable}
    {error : SynthesisError}
    (failed : (attempt >>= next).run.run table = (.error error, later)) :
    attempt.run.run table = (.error error, later) ∨
      ∃ result between, attempt.run.run table = (.ok result, between) ∧
        (next result).run.run between = (.error error, later) := by
  rw [run_bind_eq] at failed
  generalize attempt.run.run table = after at failed
  obtain ⟨outcome, between⟩ := after
  cases outcome with
  | error own =>
      cases failed
      exact .inl rfl
  | ok result => exact .inr ⟨result, between, rfl, failed⟩

theorem leaves_mk_pure
    (outcome : Except SynthesisError Result)
    (known : ∀ member, outcome ≠ .error (.unknownUnionMember member)) :
    Leaves (ExceptT.mk (pure outcome)) fun _ result => outcome = .ok result :=
  fun table => ⟨.refl table, fun _ succeeded => succeeded, known⟩

theorem leaves_throw
    {error : SynthesisError}
    (known : ∀ member, error ≠ .unknownUnionMember member)
    (post : SchemaTable → Result → Prop) : Leaves (throw error) post :=
  fun table => ⟨.refl table, nofun, fun member same => known member (Except.error.inj same)⟩

theorem Leaves.run_ne
    {attempt : SchemaAttempt Result}
    {post : SchemaTable → Result → Prop}
    {table later : SchemaTable}
    (leaves : Leaves attempt post)
    (member : String) :
    attempt.run.run table ≠ (.error (.unknownUnionMember member), later) :=
  fun failed => (leaves table).2.2 member (congrArg Prod.fst failed)

theorem Leaves.mono
    {attempt : SchemaAttempt Result}
    {post weaker : SchemaTable → Result → Prop}
    (leaves : Leaves attempt post)
    (weaken : ∀ table result, post table result → weaker table result) :
    Leaves attempt weaker := by
  intro table
  obtain ⟨keeps, succeeds, known⟩ := leaves table
  exact ⟨keeps, fun result succeeded => weaken _ result (succeeds result succeeded), known⟩

theorem Leaves.bind
    {attempt : SchemaAttempt Result}
    {next : Result → SchemaAttempt Next}
    {post : SchemaTable → Result → Prop}
    {postNext : Result → SchemaTable → Next → Prop}
    (leaves : Leaves attempt post)
    (leavesNext : ∀ result, Leaves (next result) (postNext result)) :
    Leaves (attempt >>= next) fun table result =>
      ∃ before earlier, before.Keeps table ∧ post before earlier ∧ postNext earlier table result := by
  intro table
  obtain ⟨keeps, succeeds, known⟩ := leaves table
  dsimp only
  rw [run_bind_eq]
  generalize attempt.run.run table = after at keeps succeeds known
  obtain ⟨outcome, between⟩ := after
  cases outcome with
  | error error => exact ⟨keeps, nofun, fun member same => known member (by cases same; rfl)⟩
  | ok earlier =>
      obtain ⟨keepsNext, succeedsNext, knownNext⟩ := leavesNext earlier between
      exact ⟨keeps.trans keepsNext, fun result succeeded =>
        ⟨between, earlier, keepsNext, succeeds earlier rfl, succeedsNext result succeeded⟩,
        knownNext⟩

theorem leaves_request
    {source : SchemaSource}
    {version : String}
    (target : TypeId) :
    Leaves (ExceptT.lift (source.synthesize target version)) fun table node =>
      node.isReference = false → table.finished? ⟨target, version⟩ = some node := by
  intro table
  have extended := source.extends_run_synthesizeWithin version (source.graph.size + 1)
    target table
  refine ⟨extended.keeps, ?_, nofun⟩
  rintro node ⟨⟩
  exact SchemaSource.finished?_of_isReference_eq_false target table

/-- Markers fail a schema only because of keys by which lists are merged. -/
theorem leaves_marked (location : Location) (markers : Markers) (node : SchemaNode) :
    Leaves (SchemaSource.marked location markers node) fun _ _ => True := by
  have checked : ∀ (before : SchemaNode) member,
      (before.checkListKeys location).1 ≠ .error (.unknownUnionMember member) := by
    intro before member
    unfold SchemaNode.checkListKeys
    split
    · split
      · exact nofun
      · split <;> exact nofun
    · split <;> exact nofun
  exact fun table => ⟨(SchemaTable.Extends.report table _).keeps, fun _ _ => trivial,
    fun member failed => checked _ member failed⟩

end SchemaAttempt

/-! ## Fields -/

/-- A field is merged into a node: its key is a property, or the record that it embeds is finished
and all properties of this record are there. -/
inductive SchemaTable.Merged
    (table : SchemaTable)
    (version : String)
    (node : SchemaNode)
    (field : Field) : Prop where
  | own
      (notInline : field.inline = false)
      (isProperty : node.hasProperty field.key = true)
  | embedded
      {target : TypeId}
      {embedded : SchemaNode}
      (isInline : field.inline = true)
      (stripped : field.type.stripPointers = .named target)
      (finished : table.finished? ⟨target, version⟩ = some embedded)
      (subset : embedded.properties ⊆ node.properties)

theorem SchemaTable.Merged.mono
    {table later : SchemaTable}
    {version : String}
    {node extended : SchemaNode}
    {field : Field}
    (merged : table.Merged version node field)
    (keeps : table.Keeps later)
    (subset : node.properties ⊆ extended.properties) : later.Merged version extended field := by
  cases merged with
  | own notInline isProperty =>
      obtain ⟨schema, member⟩ := SchemaNode.hasProperty_eq_true_iff.mp isProperty
      exact .own notInline (SchemaNode.hasProperty_eq_true_iff.mpr ⟨schema, subset member⟩)
  | embedded isInline stripped finished isPart =>
      exact .embedded isInline stripped (keeps _ _ finished) (List.Subset.trans isPart subset)

namespace SchemaSource

open SchemaAttempt

variable {source : SchemaSource} {version : String}

theorem leaves_refSchema (reference : TypeRef) :
    Leaves (source.refSchema (source.synthesize · version) reference) fun _ _ => True := by
  have wrapped : ∀ node : SchemaNode, Leaves (pure node) fun _ _ => True := fun node =>
    (leaves_mk_pure (.ok node) nofun).mono fun _ _ _ => trivial
  induction reference with
  | scalar kind => exact wrapped _
  | named target =>
      unfold refSchema
      cases source.graph.resolve? target with
      | none => exact leaves_throw (by simp) _
      | some declaration => exact (leaves_request target).mono fun _ _ _ => trivial
  | list element inductionHypothesis =>
      exact (inductionHypothesis.bind fun _ => wrapped _).mono fun _ _ _ => trivial
  | map value inductionHypothesis =>
      exact (inductionHypothesis.bind fun _ => wrapped _).mono fun _ _ _ => trivial
  | pointer target inductionHypothesis => exact inductionHypothesis

/-- A record that is embedded is finished. -/
theorem leaves_embeddedSchema (field : Field) :
    Leaves (source.embeddedSchema (source.synthesize · version) field) fun table embedded =>
      ∃ target, field.type.stripPointers = .named target ∧
        table.finished? ⟨target, version⟩ = some embedded := by
  unfold embeddedSchema
  cases stripped : field.type.stripPointers with
  | named target =>
      dsimp only
      cases source.graph.resolve? target with
      | none => exact leaves_throw (by simp) _
      | some declaration =>
          dsimp only
          split
          · have checked : ∀ embedded : SchemaNode, Leaves
                (if embedded.isReference then throw (.recursiveInline field.name)
                  else return embedded)
                fun _ node => embedded = node ∧ embedded.isReference = false := by
              intro embedded
              split
              · exact leaves_throw (by simp) _
              · rename_i finished
                exact (leaves_mk_pure (.ok embedded) nofun).mono fun _ node same =>
                  ⟨Except.ok.inj same, Bool.eq_false_iff.mpr finished⟩
            refine ((leaves_request target).bind checked).mono ?_
            rintro table _ ⟨before, embedded, keeps, answered, rfl, notReference⟩
            exact ⟨target, rfl, keeps _ _ (answered notReference)⟩
          · exact leaves_throw (by simp) _
  | scalar kind => exact leaves_throw (by simp) _
  | list element => exact leaves_throw (by simp) _
  | map value => exact leaves_throw (by simp) _
  | pointer inner => exact leaves_throw (by simp) _

theorem addProperty_ne_unknownUnionMember
    (node : SchemaNode)
    (key : String)
    (schema : SchemaNode)
    (member : String) :
    addProperty node key schema ≠ .error (.unknownUnionMember member) := by
  unfold addProperty
  split <;> exact nofun

theorem addProperties_ne_unknownUnionMember
    (node : SchemaNode)
    (properties : List (String × SchemaNode))
    (member : String) :
    addProperties node properties ≠ .error (.unknownUnionMember member) := by
  induction properties generalizing node with
  | nil => exact nofun
  | cons property rest inductionHypothesis =>
      unfold addProperties
      split
      · rename_i error failed
        intro same
        cases same
        exact addProperty_ne_unknownUnionMember _ _ _ member failed
      · exact inductionHypothesis _

/-- A field that is added is merged, and the properties before it remain. -/
theorem leaves_addField (id : TypeId) (node : SchemaNode) (field : Field) :
    Leaves (source.addField (source.synthesize · version) id node field) fun table extended =>
      table.Merged version extended field ∧ node.properties ⊆ extended.properties := by
  unfold addField
  split
  · rename_i isInline
    have embedding : ∀ embedded, Leaves (ExceptT.mk (pure (embed node embedded)))
        fun _ extended => embed node embedded = .ok extended := fun embedded =>
      leaves_mk_pure _ fun member failed =>
        addProperties_ne_unknownUnionMember _ _ member (Except.map_eq_error_iff.mp failed)
    refine ((leaves_embeddedSchema field).bind embedding).mono ?_
    rintro table extended ⟨before, embedded, keeps, ⟨target, stripped, finished⟩, added⟩
    obtain ⟨withProperties, addedProperties, rfl⟩ := Except.exists_of_map_eq_ok added
    obtain ⟨required, demanded⟩ := exists_eq_foldl_requireOnce withProperties embedded.required
    rw [demanded, eq_of_addProperties addedProperties]
    exact ⟨.embedded isInline stripped (keeps _ _ finished) (List.subset_append_right _ _),
      List.subset_append_left _ _⟩
  · rename_i notInline
    refine ((leaves_refSchema field.type).bind fun unmarked =>
      (leaves_marked _ _ _).bind fun schema =>
        leaves_mk_pure _ (addProperty_ne_unknownUnionMember _ field.key schema)).mono ?_
    rintro table extended ⟨_, unmarked, -, -, _, schema, -, -, added⟩
    rw [eq_of_addProperty added]
    refine ⟨.own (Bool.eq_false_iff.mpr notInline) (SchemaNode.hasProperty_eq_true_iff.mpr
      ⟨schema, List.mem_append_right _ List.mem_cons_self⟩), ?_⟩
    split <;> exact List.subset_append_left _ _

/-- All fields that are added are merged. -/
theorem leaves_addFields (id : TypeId) (node : SchemaNode) (fields : List Field) :
    Leaves (source.addFields (source.synthesize · version) id node fields) fun table extended =>
      (∀ field ∈ fields, table.Merged version extended field) ∧
        node.properties ⊆ extended.properties := by
  induction fields generalizing node with
  | nil =>
      refine (leaves_mk_pure (.ok node) nofun).mono fun table extended same => ?_
      cases same
      exact ⟨fun _ member => absurd member List.not_mem_nil, List.Subset.refl _⟩
  | cons field rest inductionHypothesis =>
      refine ((leaves_addField id node field).bind inductionHypothesis).mono ?_
      rintro table extended ⟨before, next, keeps, ⟨merged, subset⟩, mergedRest, subsetRest⟩
      rw [List.forall_mem_cons]
      exact ⟨⟨merged.mono keeps subsetRest, mergedRest⟩, List.Subset.trans subset subsetRest⟩

end SchemaSource

/-! ## Records -/

namespace SchemaNode

variable {node : SchemaNode} {skipped : List String} {member : String}

theorem not_mem_skipped_of_unionMembers
    {keys members : List String}
    (failed : node.unionMembers skipped members keys = .error (.unknownUnionMember member)) :
    member ∈ keys ∧ member ∉ skipped ∧ node.hasProperty member = false := by
  induction keys generalizing members with
  | nil => cases failed
  | cons key rest inductionHypothesis =>
      unfold unionMembers at failed
      split at failed
      · exact (inductionHypothesis failed).imp_left (List.mem_cons_of_mem key)
      · rename_i isKept
        split at failed
        · exact (inductionHypothesis failed).imp_left (List.mem_cons_of_mem key)
        · rename_i isUnknown
          cases failed
          exact ⟨List.mem_cons_self, isKept, Bool.eq_false_iff.mpr isUnknown⟩

theorem unionConflict?_ne_unknownUnionMember
    (policy : UnionPolicy)
    (members : List String)
    (groups : List UnionGroup)
    (member : String) :
    unionConflict? policy members groups ≠ some (.unknownUnionMember member) := by
  intro conflict
  induction groups with
  | nil => cases conflict
  | cons group rest inductionHypothesis =>
      rw [unionConflict?] at conflict
      by_cases differ : members.filter (· ∈ group.members) ≠ [] ∧ group.policy ≠ policy
      · rw [if_pos differ] at conflict
        cases conflict
      · rw [if_neg differ] at conflict
        exact inductionHypothesis conflict

theorem unites_of_addUnionMarker
    {marker : Marker}
    (failed : node.addUnionMarker skipped marker = .error (.unknownUnionMember member)) :
    ∃ policy, marker.Unites skipped policy member ∧ node.hasProperty member = false := by
  unfold addUnionMarker at failed
  split at failed
  · cases failed
  · rename_i policy demands
    split at failed
    · rename_i error isError
      cases failed
      obtain ⟨listed, isKept, unknown⟩ := not_mem_skipped_of_unionMembers isError
      exact ⟨policy, ⟨demands, listed, isKept⟩, unknown⟩
    · unfold addUnion at failed
      split at failed
      · cases failed
      · split at failed
        · rename_i error isError
          cases failed
          exact absurd isError (unionConflict?_ne_unknownUnionMember _ _ _ member)
        · split at failed <;> cases failed

/-- A member that is reported as unknown is one that a marker unites and that is no property. -/
theorem exists_unites_of_addUnions
    {markers : Markers}
    (failed : node.addUnions skipped markers = .error (.unknownUnionMember member)) :
    ∃ marker ∈ markers, ∃ policy, marker.Unites skipped policy member ∧
      node.hasProperty member = false := by
  induction markers generalizing node with
  | nil => cases failed
  | cons marker rest inductionHypothesis =>
      unfold addUnions at failed
      split at failed
      · rename_i error isError
        cases failed
        exact ⟨marker, List.mem_cons_self, unites_of_addUnionMarker isError⟩
      · rename_i next added
        obtain ⟨other, isMarker, policy, unites, unknown⟩ := inductionHypothesis failed
        refine ⟨other, List.mem_cons_of_mem marker isMarker, policy, unites, ?_⟩
        have recorded := (addUnionMarker_eq_ok_iff.mp added).2.2
        cases described : marker.union? skipped with
        | none =>
            rw [described] at recorded
            rwa [recorded, Option.elim_none] at unknown
        | some group =>
            rw [described] at recorded
            rwa [recorded, Option.elim_some, hasProperty_record] at unknown

end SchemaNode

namespace SchemaSource

open SchemaAttempt

variable {source : SchemaSource} {version : String}

/-- A record that fails because of a member of a union has merged all kept fields into a node that
lacks the member. -/
theorem exists_merged_of_recordSchema
    {id : TypeId}
    {fields : List Field}
    {member : String}
    {before later : SchemaTable}
    (failed : (source.recordSchema (source.synthesize · version) id fields).run.run before =
      (.error (.unknownUnionMember member), later)) :
    ∃ withFields : SchemaNode, withFields.hasProperty member = false ∧
      (∀ field ∈ fields.filter fun field => !source.isSkipped id field,
        later.Merged version withFields field) ∧
      ∃ marker ∈ source.index.declaration id, ∃ policy,
        marker.Unites ((fields.filter (source.isSkipped id)).map unionName) policy member := by
  rcases eq_error_of_run_bind failed with failed | ⟨withFields, between, added, failed⟩
  · exact absurd failed ((leaves_addFields _ _ _).run_ne _)
  · have merged := ((leaves_addFields _ _ _ before).2.1 withFields (congrArg Prod.fst added)).1
    rw [added] at merged
    obtain rfl : between = later := congrArg Prod.snd failed
    obtain ⟨marker, isMarker, policy, unites, unknown⟩ :=
      SchemaNode.exists_unites_of_addUnions (congrArg Prod.fst failed)
    exact ⟨withFields, unknown, merged, marker, isMarker, policy, unites⟩

/-- Only a record fails because of a member of a union. -/
theorem exists_merged_of_build
    {id : TypeId}
    {member : String}
    {before later : SchemaTable}
    (failed : (source.build (source.synthesize · version) id).run.run before =
      (.error (.unknownUnionMember member), later)) :
    ∃ declaration withFields, source.graph.resolve? id = some declaration ∧
      withFields.hasProperty member = false ∧
      (∀ field ∈ source.keptFields declaration, later.Merged version withFields field) ∧
      ∃ marker ∈ source.index.declaration declaration.id, ∃ policy,
        marker.Unites (source.skippedNames declaration) policy member := by
  unfold build at failed
  cases resolved : source.graph.resolve? id with
  | none =>
      rw [resolved] at failed
      cases failed
  | some declaration =>
      rw [resolved] at failed
      rcases eq_error_of_run_bind failed with failed | ⟨_, _, -, failed⟩
      · unfold keptFields skippedNames Declaration.fields
        refine ⟨declaration, ?_⟩
        cases shape : declaration.shape with
        | record fields =>
            rw [shape] at failed
            obtain ⟨withFields, unknown, merged, united⟩ := exists_merged_of_recordSchema failed
            exact ⟨withFields, rfl, unknown, merged, united⟩
        | synonym target =>
            rw [shape] at failed
            exact absurd failed ((leaves_refSchema target).run_ne _)
        | enumeration base members =>
            rw [shape] at failed
            cases failed
        | scalar kind =>
            rw [shape] at failed
            cases failed
      · exact absurd failed ((leaves_marked _ _ _).run_ne _)

/-! ## What records contribute -/

section Contributions

variable {table : SchemaTable} {key : SchemaKey}

/-- The schema of a record that did not fail has the properties that the record contributes. -/
theorem Settled.describes
    (settled : source.Settled table)
    {node : SchemaNode}
    (finished : table.finished? key = some node)
    (unfailed : table.hasFailed key = false) :
    source.Describes table key node :=
  settled.induction (source.Describes table)
    (fun _ _ _ made answers => describes_of_madeFrom made answers) finished unfailed

theorem Contributes.exists_record
    {embeds : TypeId → Prop}
    {id : TypeId}
    {property : String}
    (contributes : source.Contributes embeds id property) :
    ∃ declaration, source.graph.resolve? id = some declaration ∧
      declaration.shape.isRecord = true := by
  cases contributes with
  | own resolved isKept notInline => exact ⟨_, resolved, isRecord_of_mem_keptFields isKept⟩
  | embedded resolved isKept isInline stripped allowed contributes =>
      exact ⟨_, resolved, isRecord_of_mem_keptFields isKept⟩

/-- A node into which all kept fields are merged has the properties that the record contributes. -/
theorem Settled.hasProperty_of_merged
    (settled : source.Settled table)
    {declaration : Declaration}
    (resolved : source.graph.resolve? key.id = some declaration)
    {node : SchemaNode}
    (merged : ∀ field ∈ source.keptFields declaration, table.Merged key.version node field)
    {property : String}
    (contributes : source.Contributes
      (fun target => table.hasFailed ⟨target, key.version⟩ = false) key.id property) :
    node.hasProperty property = true := by
  cases contributes with
  | own same isKept notInline =>
      cases resolved.symm.trans same
      cases merged _ isKept with
      | own _ isProperty => exact isProperty
      | embedded isInline _ _ _ =>
          rw [notInline] at isInline
          cases isInline
  | embedded same isKept isInline stripped unfailed contributes =>
      cases resolved.symm.trans same
      cases merged _ isKept with
      | own notInline _ =>
          rw [isInline] at notInline
          cases notInline
      | embedded _ strippedAgain finished subset =>
          cases stripped.symm.trans strippedAgain
          obtain ⟨target, resolvedTarget, isRecord⟩ := contributes.exists_record
          have described :=
            (settled.describes finished unfailed target resolvedTarget isRecord property).mpr
              contributes
          obtain ⟨schema, isProperty⟩ := SchemaNode.hasProperty_eq_true_iff.mp described
          exact SchemaNode.hasProperty_eq_true_iff.mpr ⟨schema, subset isProperty⟩

/-- A member for whose sake a record failed is united by a marker and not contributed by the record.
-/
theorem Settled.not_contributes_of_ended
    (settled : source.Settled table)
    {events : List SchemaEvent}
    {member : String}
    (trace : source.Trace {} events table)
    (ended : .ended key (.error (.unknownUnionMember member)) ∈ events) :
    ∃ declaration, source.graph.resolve? key.id = some declaration ∧
      (∃ marker ∈ source.index.declaration declaration.id, ∃ policy,
        marker.Unites (source.skippedNames declaration) policy member) ∧
      ¬ source.Contributes (fun target => table.hasFailed ⟨target, key.version⟩ = false) key.id
        member := by
  obtain ⟨before, built, failed, keeps⟩ := trace.exists_build_of_ended ended
  obtain ⟨declaration, withFields, resolved, unknown, merged, united⟩ :=
    exists_merged_of_build failed
  refine ⟨declaration, resolved, united, fun contributes => ?_⟩
  have mergedLater : ∀ field ∈ source.keptFields declaration,
      table.Merged key.version withFields field := fun field isKept =>
    (merged field isKept).mono keeps (List.Subset.refl _)
  rw [settled.hasProperty_of_merged resolved mergedLater contributes] at unknown
  cases unknown

/-- What the markers of a record that did not fail unite is contributed by the record, and its unions
are those that the markers describe. -/
theorem Settled.contributes_of_unites
    (settled : source.Settled table)
    {node : SchemaNode}
    {declaration : Declaration}
    (resolved : source.graph.resolve? key.id = some declaration)
    (isRecord : declaration.shape.isRecord = true)
    (finished : table.finished? key = some node)
    (unfailed : table.hasFailed key = false) :
    (∀ marker ∈ source.index.declaration declaration.id, ∀ policy member,
        marker.Unites (source.skippedNames declaration) policy member →
          source.Contributes (fun target => table.hasFailed ⟨target, key.version⟩ = false) key.id
            member) ∧
      ∀ group, group ∈ node.unions ↔ ∃ marker ∈ source.index.declaration declaration.id,
        marker.union? (source.skippedNames declaration) = some group := by
  obtain ⟨schemaOf, made, -⟩ := settled.exists_madeFrom finished unfailed
  obtain ⟨withFields, extended, fresh, added, sameProperties, sameUnions⟩ :=
    exists_addUnions_of_plainFrom resolved isRecord made.plain
  constructor
  · intro marker isMarker policy member unites
    refine (settled.describes finished unfailed declaration resolved isRecord member).mp ?_
    obtain ⟨known, -, isExtended⟩ := SchemaNode.addUnions_eq_ok_iff.mp added
    rw [SchemaNode.hasProperty, sameProperties, isExtended, SchemaNode.properties_foldl_record]
    exact known marker isMarker policy member unites
  · intro group
    rw [sameUnions, SchemaNode.unions_addUnions fresh added, List.mem_eraseDups,
      Markers.mem_unions_iff]

end Contributions

end SchemaSource
end MarkerManifests
