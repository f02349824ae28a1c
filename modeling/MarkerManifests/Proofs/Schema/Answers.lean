import MarkerManifests.Proofs.Schema.Plain

/-!
# What schemas are built from

The requests of a build are answered by finished schemas and by references to active ones, and
answers never change afterwards, so they can all be read off the table that the build leaves. A
schema whose build succeeds is the one that the plain recursion makes of these answers. Finished
answers are older than the schema that is built from them. So whatever the plain recursion carries
over from the schemas of the declarations that are referred to holds of every schema in a table.
-/

namespace MarkerManifests

/-! ## Answers of a table -/

namespace SchemaTable

/-- The schema is finished or active, so that a request for it changes nothing. -/
def Knows (table : SchemaTable) (key : SchemaKey) : Prop :=
  (table.finished? key).isSome ∨ key ∈ table.active

/-- The answer to a request for a known schema. -/
def answer (table : SchemaTable) (key : SchemaKey) : SchemaNode :=
  (table.finished? key).getD (SchemaNode.referenceTo key.id)

/-- A later table, in which requests for known schemas are answered as before. -/
structure Extends (table later : SchemaTable) : Prop where
  active : later.active = table.active
  stays : ∀ key, table.Knows key → later.finished? key = table.finished? key

/-- Schemas for declarations at a version that agree with all answers of a table. -/
def AnswersAs
    (table : SchemaTable)
    (version : String)
    (schemaOf : TypeId → SchemaNode) : Prop :=
  ∀ target, table.Knows ⟨target, version⟩ → schemaOf target = table.answer ⟨target, version⟩

variable {table between later : SchemaTable} {key : SchemaKey} {version : String}

theorem Extends.refl (table : SchemaTable) : table.Extends table :=
  ⟨rfl, fun _ _ => rfl⟩

theorem Extends.report (table : SchemaTable) (diagnostics : Diagnostics) :
    table.Extends (table.report diagnostics) :=
  ⟨rfl, fun _ _ => rfl⟩

theorem Extends.knows (extended : table.Extends later) (known : table.Knows key) :
    later.Knows key := by
  unfold Knows
  rw [extended.stays key known, extended.active]
  exact known

theorem Extends.trans (first : table.Extends between) (second : between.Extends later) :
    table.Extends later :=
  ⟨second.active.trans first.active, fun key known =>
    (second.stays key (first.knows known)).trans (first.stays key known)⟩

/-- What agrees with a later table agrees with an earlier one. -/
theorem Extends.answersAs
    (extended : table.Extends later)
    {schemaOf : TypeId → SchemaNode}
    (answers : later.AnswersAs version schemaOf) :
    table.AnswersAs version schemaOf := by
  intro target known
  rw [answers target (extended.knows known), answer, extended.stays _ known, answer]

/-! ### Tables in which a build has ended -/

variable {outcome : Except SynthesisError SchemaNode} {other : SchemaKey}

theorem Knows.settled (known : table.Knows other) : (table.settled key outcome).Knows other := by
  unfold Knows at known ⊢
  rw [finished?_settled, active_settled]
  by_cases same : key = other
  · exact .inl (by rw [if_pos same]; rfl)
  · rw [if_neg same]
    exact known.imp_right fun active => (List.mem_erase_of_ne (Ne.symm same)).mpr active

theorem hasFailed_of_settled (unfailed : (table.settled key outcome).hasFailed other = false) :
    table.hasFailed other = false := by
  rw [hasFailed_settled, Bool.or_eq_false_iff] at unfailed
  exact unfailed.1

theorem exists_eq_ok_of_settled (unfailed : (table.settled key outcome).hasFailed key = false) :
    ∃ node, outcome = .ok node := by
  cases outcome with
  | ok node => exact ⟨node, rfl⟩
  | error error =>
      rw [hasFailed_settled, decide_eq_true rfl, Bool.true_and, Bool.or_eq_false_iff] at unfailed
      cases unfailed.2

end SchemaTable

/-- A run changes no answers. -/
theorem SchemaSource.Trace.extends
    {source : SchemaSource}
    {events : List SchemaEvent}
    {table later : SchemaTable}
    (trace : source.Trace table events later) :
    table.Extends later where
  active := trace.accounts.active
  stays := by
    intro key known
    cases finished : table.finished? key with
    | some node => exact trace.finished?_of_finished finished
    | none =>
        have active : key ∈ table.active := by simpa [SchemaTable.Knows, finished] using known
        refine (trace.accounts.unfinished_iff key).mpr ⟨fun ended => ?_, finished⟩
        exact (trace.accounts.new key ended).2 active

namespace SchemaSource

variable {source : SchemaSource} {version : String} {id : TypeId} {table : SchemaTable}

/-- After a request its schema is known, and the request was answered as the table says. -/
theorem run_synthesize_eq_answer
    (id : TypeId)
    (activeAt : table.ActiveAt source version) :
    let after := (source.synthesize id version).run table
    table.Extends after.2 ∧ after.2.Knows ⟨id, version⟩ ∧
      after.1 = after.2.answer ⟨id, version⟩ := by
  obtain ⟨events, trace⟩ := exists_trace_of_activeAt id table activeAt
  refine ⟨trace.extends, ?_⟩
  unfold SchemaTable.Knows SchemaTable.answer
  cases finished : table.finished? ⟨id, version⟩ with
  | some node =>
      rw [run_synthesize_of_finished finished]
      simp [finished]
  | none =>
      by_cases active : ⟨id, version⟩ ∈ table.active
      · rw [run_synthesize_of_active finished active]
        simp [finished, active]
      · rw [run_synthesize_of_new activeAt finished active, settledBuild]
        simp [SchemaTable.finished?_settled]

end SchemaSource

/-! ## Attempts and their answers -/

theorem Synthesis.run_bind_eq
    {Result Next : Type}
    (step : Synthesis Result)
    (next : Result → Synthesis Next)
    (table : SchemaTable) :
    (step >>= next).run table = (next (step.run table).1).run (step.run table).2 := rfl

theorem SchemaAttempt.run_bind_eq
    {Result Next : Type}
    (attempt : SchemaAttempt Result)
    (next : Result → SchemaAttempt Next)
    (table : SchemaTable) :
    (attempt >>= next).run.run table =
      match attempt.run.run table with
      | (.ok result, between) => (next result).run.run between
      | (.error error, between) => (.error error, between) := by
  rw [ExceptT.run_bind, Synthesis.run_bind_eq]
  generalize attempt.run.run table = after
  obtain ⟨outcome, between⟩ := after
  cases outcome <;> rfl

/-- An attempt that changes no answers. If it succeeds, it has asked for all targets that are
declared, and its result satisfies a postcondition that may refer to schemas that agree with all
answers. -/
def SchemaAttempt.Yields
    {Result : Type}
    (source : SchemaSource)
    (version : String)
    (schemaOf : TypeId → SchemaNode)
    (targets : List TypeId)
    (attempt : SchemaAttempt Result)
    (post : Result → Prop) : Prop :=
  ∀ table : SchemaTable, table.ActiveAt source version →
    let after := attempt.run.run table
    table.Extends after.2 ∧ ∀ result, after.1 = .ok result →
      (∀ target ∈ targets, (source.graph.resolve? target).isSome →
        after.2.Knows ⟨target, version⟩) ∧
      (after.2.AnswersAs version schemaOf → post result)

namespace SchemaAttempt

open SchemaSource

variable {Result Next : Type}
variable {source : SchemaSource} {version : String} {schemaOf : TypeId → SchemaNode}
variable {targets others : List TypeId}

theorem yields_mk_pure (outcome : Except SynthesisError Result) :
    Yields source version schemaOf [] (ExceptT.mk (pure outcome))
      fun result => outcome = .ok result :=
  fun table _ => ⟨.refl table, fun _ succeeded =>
    ⟨fun _ member => absurd member List.not_mem_nil, fun _ => succeeded⟩⟩

theorem Yields.mono
    {attempt : SchemaAttempt Result}
    {post weaker : Result → Prop}
    (yields : Yields source version schemaOf targets attempt post)
    (fewer : ∀ target ∈ others, target ∈ targets)
    (weaken : ∀ result, post result → weaker result) :
    Yields source version schemaOf others attempt weaker := by
  intro table activeAt
  obtain ⟨extended, succeeds⟩ := yields table activeAt
  refine ⟨extended, fun result succeeded => ?_⟩
  obtain ⟨known, holds⟩ := succeeds result succeeded
  exact ⟨fun target member => known target (fewer target member),
    fun answers => weaken result (holds answers)⟩

/-- What follows an attempt asks for further targets and sees the same answers. -/
theorem Yields.bind
    {attempt : SchemaAttempt Result}
    {next : Result → SchemaAttempt Next}
    {post : Result → Prop}
    {postNext : Result → Next → Prop}
    (yields : Yields source version schemaOf targets attempt post)
    (yieldsNext : ∀ result, Yields source version schemaOf others (next result)
      (postNext result)) :
    Yields source version schemaOf (targets ++ others) (attempt >>= next)
      fun result => ∃ earlier, post earlier ∧ postNext earlier result := by
  intro table activeAt
  obtain ⟨extended, succeeds⟩ := yields table activeAt
  dsimp only
  rw [run_bind_eq]
  generalize attempt.run.run table = after at extended succeeds
  obtain ⟨outcome, between⟩ := after
  cases outcome with
  | error error => exact ⟨extended, fun _ failed => by cases failed⟩
  | ok earlier =>
      obtain ⟨known, holds⟩ := succeeds earlier rfl
      obtain ⟨extendedNext, succeedsNext⟩ :=
        yieldsNext earlier between (ActiveAt_congr extended.active activeAt)
      refine ⟨extended.trans extendedNext, fun result succeeded => ?_⟩
      obtain ⟨knownNext, holdsNext⟩ := succeedsNext result succeeded
      refine ⟨fun target member declared => ?_, fun answers => ?_⟩
      · rcases List.mem_append.mp member with first | second
        · exact extendedNext.knows (known target first declared)
        · exact knownNext target second declared
      · exact ⟨earlier, holds (extendedNext.answersAs answers), holdsNext answers⟩

/-- What follows may ask for nothing. -/
theorem Yields.andThen
    {attempt : SchemaAttempt Result}
    {next : Result → SchemaAttempt Next}
    {post : Result → Prop}
    {postNext : Result → Next → Prop}
    (yields : Yields source version schemaOf targets attempt post)
    (yieldsNext : ∀ result, Yields source version schemaOf [] (next result) (postNext result)) :
    Yields source version schemaOf targets (attempt >>= next)
      fun result => ∃ earlier, post earlier ∧ postNext earlier result :=
  List.append_nil targets ▸ yields.bind yieldsNext

theorem yields_throw
    (error : SynthesisError)
    (targets : List TypeId)
    (post : Result → Prop) :
    Yields source version schemaOf targets (throw error) post :=
  fun table _ => ⟨.refl table, fun _ failed => by cases failed⟩

/-- A request is answered as the table says afterwards. -/
theorem yields_request (target : TypeId) :
    Yields source version schemaOf [target] (ExceptT.lift (source.synthesize target version))
      fun node => node = schemaOf target := by
  intro table activeAt
  obtain ⟨extended, known, answered⟩ := source.run_synthesize_eq_answer target activeAt
  refine ⟨extended, fun node succeeded => ⟨fun other member _ => ?_, fun answers => ?_⟩⟩
  · rw [List.mem_singleton.mp member]
    exact known
  · cases succeeded
    exact answered.trans (answers target known).symm

theorem yields_marked
    (location : Location)
    (markers : Markers)
    (node : SchemaNode) :
    Yields source version schemaOf [] (marked location markers node)
      fun result => (node.applyMarkers location markers).1 = .ok result :=
  fun table _ => ⟨.report table _, fun _ succeeded =>
    ⟨fun _ member => absurd member List.not_mem_nil, fun _ => succeeded⟩⟩

end SchemaAttempt

theorem TypeRef.targets_of_stripPointers_eq_named
    {reference : TypeRef}
    {target : TypeId}
    (stripped : reference.stripPointers = .named target) :
    reference.targets = [target] := by
  induction reference with
  | named other =>
      cases stripped
      rfl
  | pointer inner inductionHypothesis => exact inductionHypothesis stripped
  | scalar kind => cases stripped
  | list element => cases stripped
  | map value => cases stripped

namespace SchemaSource

open SchemaAttempt

variable {source : SchemaSource} {version : String} {schemaOf : TypeId → SchemaNode}

/-! ## Builds and their answers -/

/-- What a field embeds is no reference. -/
def EmbedsFinished (schemaOf : TypeId → SchemaNode) (field : Field) : Prop :=
  field.inline = true → ∀ target, field.type.stripPointers = .named target →
    (schemaOf target).isReference = false

/-- What the plain recursion makes of schemas for other declarations, where no reference is
embedded. -/
structure MadeFrom
    (source : SchemaSource)
    (schemaOf : TypeId → SchemaNode)
    (id : TypeId)
    (node : SchemaNode) : Prop where
  plain : source.plainFrom schemaOf id = .ok node
  embeds : ∀ declaration, source.graph.resolve? id = some declaration →
    ∀ field ∈ source.keptFields declaration, EmbedsFinished schemaOf field

theorem yields_refSchema (reference : TypeRef) :
    Yields source version schemaOf reference.targets
      (source.refSchema (source.synthesize · version) reference)
      fun node => source.plainRef schemaOf reference = .ok node := by
  induction reference with
  | scalar kind => exact yields_mk_pure (.ok _)
  | named target =>
      unfold refSchema plainRef
      cases resolved : source.graph.resolve? target with
      | none => exact yields_throw _ _ _
      | some declaration =>
          exact (yields_request target).mono (fun _ member => member) fun node same => same ▸ rfl
  | list element inductionHypothesis =>
      refine (inductionHypothesis.andThen fun node => yields_mk_pure (.ok node.array)).mono
        (fun _ member => member) ?_
      rintro node ⟨inner, made, wrapped⟩
      rw [plainRef, made]
      exact wrapped
  | map value inductionHypothesis =>
      refine (inductionHypothesis.andThen fun node => yields_mk_pure (.ok node.map)).mono
        (fun _ member => member) ?_
      rintro node ⟨inner, made, wrapped⟩
      rw [plainRef, made]
      exact wrapped
  | pointer target inductionHypothesis => exact inductionHypothesis

/-- What passes the check for references is no reference. -/
theorem yields_unlessReference (error : SynthesisError) (embedded : SchemaNode) :
    Yields source version schemaOf []
      (if embedded.isReference then throw error else return embedded)
      fun node => embedded = node ∧ embedded.isReference = false := by
  split
  · exact yields_throw _ _ _
  · rename_i finished
    exact (yields_mk_pure (.ok embedded)).mono (fun _ member => member) fun node same =>
      ⟨Except.ok.inj same, Bool.eq_false_iff.mpr finished⟩

theorem yields_embeddedSchema (field : Field) :
    Yields source version schemaOf field.type.targets
      (source.embeddedSchema (source.synthesize · version) field)
      fun node => source.plainEmbedded schemaOf field = .ok node ∧
        ∀ target, field.type.stripPointers = .named target →
          (schemaOf target).isReference = false := by
  unfold embeddedSchema plainEmbedded
  cases stripped : field.type.stripPointers with
  | named target =>
      dsimp only
      rw [TypeRef.targets_of_stripPointers_eq_named stripped]
      cases source.graph.resolve? target with
      | none => exact yields_throw _ _ _
      | some declaration =>
          dsimp only
          split
          · refine ((yields_request target).andThen
              (yields_unlessReference (.recursiveInline field.name))).mono
                (fun _ member => member) ?_
            rintro node ⟨embedded, rfl, rfl, finished⟩
            refine ⟨rfl, fun other same => ?_⟩
            cases same
            exact finished
          · exact yields_throw _ _ _
  | scalar kind => exact yields_throw _ _ _
  | list element => exact yields_throw _ _ _
  | map value => exact yields_throw _ _ _
  | pointer inner => exact yields_throw _ _ _

theorem yields_addField (id : TypeId) (node : SchemaNode) (field : Field) :
    Yields source version schemaOf field.type.targets
      (source.addField (source.synthesize · version) id node field)
      fun extended => source.plainField schemaOf id node field = .ok extended ∧
        EmbedsFinished schemaOf field := by
  unfold addField plainField
  split
  · refine ((yields_embeddedSchema field).andThen fun embedded =>
      yields_mk_pure (embed node embedded)).mono (fun _ member => member) ?_
    rintro extended ⟨embedded, ⟨made, finished⟩, added⟩
    exact ⟨Except.bind_eq_ok_iff.mpr ⟨embedded, made, added⟩, fun _ => finished⟩
  · rename_i notInline
    refine ((yields_refSchema field.type).andThen fun unmarked =>
      (yields_marked _ _ _).andThen fun schema => yields_mk_pure _).mono (fun _ member => member) ?_
    rintro extended ⟨unmarked, made, schema, applied, added⟩
    refine ⟨Except.bind_eq_ok_iff.mpr ⟨unmarked, made, ?_⟩, fun isInline => ?_⟩
    · exact Except.bind_eq_ok_iff.mpr ⟨schema, applied, added⟩
    · exact absurd isInline notInline

theorem yields_addFields (id : TypeId) (node : SchemaNode) (fields : List Field) :
    Yields source version schemaOf (fields.flatMap (·.type.targets))
      (source.addFields (source.synthesize · version) id node fields)
      fun extended => fields.foldlM (source.plainField schemaOf id) node = .ok extended ∧
        ∀ field ∈ fields, EmbedsFinished schemaOf field := by
  induction fields generalizing node with
  | nil =>
      refine (yields_mk_pure (.ok node)).mono (fun _ member => member) fun extended same => ?_
      exact ⟨same, fun _ member => absurd member List.not_mem_nil⟩
  | cons field rest inductionHypothesis =>
      refine ((yields_addField id node field).bind fun next =>
        inductionHypothesis next).mono (fun target member => ?_) ?_
      · rwa [List.flatMap_cons] at member
      · rintro extended ⟨next, ⟨added, finished⟩, folded, finishedRest⟩
        rw [List.foldlM_cons, List.forall_mem_cons]
        exact ⟨Except.bind_eq_ok_iff.mpr ⟨next, added, folded⟩, finished, finishedRest⟩

theorem yields_declarationSchema (declaration : Declaration) :
    Yields source version schemaOf (source.followed declaration)
      (source.declarationSchema (source.synthesize · version) declaration)
      fun node => (do
          let unmarked ← source.plainShape schemaOf declaration.id declaration.shape
          ((source.withDescription declaration.doc unmarked).applyMarkers
            (.declaration declaration.id) (source.index.declaration declaration.id)).1) =
              .ok node ∧
        ∀ field ∈ source.keptFields declaration, EmbedsFinished schemaOf field := by
  have shaped : Yields source version schemaOf (source.followed declaration)
      (source.shapeSchema (source.synthesize · version) declaration.id declaration.shape)
      fun node => source.plainShape schemaOf declaration.id declaration.shape = .ok node ∧
        ∀ field ∈ source.keptFields declaration, EmbedsFinished schemaOf field := by
    unfold followed keptFields Declaration.fields
    cases declaration.shape with
    | record fields =>
        refine ((yields_addFields _ _ _).andThen fun node => yields_mk_pure _).mono
          (fun _ member => member) ?_
        rintro node ⟨withFields, ⟨added, finished⟩, addedUnions⟩
        exact ⟨Except.bind_eq_ok_iff.mpr ⟨withFields, added, addedUnions⟩, finished⟩
    | synonym target =>
        exact (yields_refSchema target).mono (fun _ member => member) fun node made =>
          ⟨made, fun _ member => absurd member List.not_mem_nil⟩
    | enumeration base members =>
        exact (yields_mk_pure (.ok _)).mono (fun _ member => member) fun node made =>
          ⟨made, fun _ member => absurd member List.not_mem_nil⟩
    | scalar kind =>
        exact (yields_mk_pure (.ok _)).mono (fun _ member => member) fun node made =>
          ⟨made, fun _ member => absurd member List.not_mem_nil⟩
  refine (shaped.andThen fun node => yields_marked _ _ _).mono (fun _ member => member) ?_
  rintro node ⟨unmarked, ⟨made, finished⟩, applied⟩
  exact ⟨Except.bind_eq_ok_iff.mpr ⟨unmarked, made, applied⟩, finished⟩

/-- A build that succeeds has asked for everything that the declaration refers to, and gives what
the plain recursion makes of the answers. -/
theorem yields_build
    {id : TypeId}
    {declaration : Declaration}
    (resolved : source.graph.resolve? id = some declaration) :
    Yields source version schemaOf (source.followed declaration)
      (source.build (source.synthesize · version) id)
      fun node => source.MadeFrom schemaOf id node := by
  unfold build
  rw [resolved]
  refine (yields_declarationSchema declaration).mono (fun _ member => member)
    fun node ⟨plain, finished⟩ => ⟨?_, fun other same => ?_⟩
  · rw [plainFrom, resolved]
    exact plain
  · cases resolved.symm.trans same
    exact finished

/-! ## What a table is built from -/

/-- A schema is made from references and from schemas of a list. -/
def MadeOf
    (source : SchemaSource)
    (older : List (SchemaKey × SchemaNode))
    (key : SchemaKey)
    (node : SchemaNode) : Prop :=
  ∃ schemaOf, source.MadeFrom schemaOf key.id node ∧
    ∀ target, source.References key.id target →
      schemaOf target = SchemaNode.referenceTo target ∨
        (⟨target, key.version⟩, schemaOf target) ∈ older

/-- The schemas of a table that did not fail are made from older ones, and what they refer to is
known. -/
structure Grounded (source : SchemaSource) (table : SchemaTable) : Prop where
  made : ∀ newer key node older, table.finished = newer ++ (key, node) :: older →
    table.hasFailed key = false → source.MadeOf older key node
  known : ∀ key node, (key, node) ∈ table.finished → table.hasFailed key = false →
    ∀ target, source.References key.id target → table.Knows ⟨target, key.version⟩

theorem grounded_empty (source : SchemaSource) : source.Grounded {} where
  made := by
    intro newer key node older split
    exact absurd split.symm (List.append_ne_nil_of_right_ne_nil _ (List.cons_ne_nil _ _))
  known := fun _ _ member => absurd member List.not_mem_nil

theorem Grounded.begin
    {table : SchemaTable}
    (grounded : source.Grounded table)
    (key : SchemaKey) :
    source.Grounded (table.begin key) where
  made := grounded.made
  known := fun other node member unfailed target refers =>
    (grounded.known other node member unfailed target refers).imp_right
      (List.mem_cons_of_mem key)

theorem Grounded.report
    {table : SchemaTable}
    (grounded : source.Grounded table)
    (diagnostics : Diagnostics) :
    source.Grounded (table.report diagnostics) :=
  ⟨grounded.made, grounded.known⟩

/-- A build that ends leaves a grounded table, if what it built is made from the answers of the
table. -/
theorem Grounded.settled
    {table : SchemaTable}
    (grounded : source.Grounded table)
    (key : SchemaKey)
    (outcome : Except SynthesisError SchemaNode)
    (made : ∀ node, outcome = .ok node →
      source.MadeFrom (fun target => table.answer ⟨target, key.version⟩) key.id node ∧
        ∀ target, source.References key.id target → table.Knows ⟨target, key.version⟩) :
    source.Grounded (table.settled key outcome) := by
  have finished : (table.settled key outcome).finished =
      (key, SchemaNode.ofOutcome outcome) :: table.finished := by
    cases outcome <;> rfl
  refine ⟨fun newer other node older split unfailed => ?_,
    fun other node member unfailed target refers => ?_⟩
  · rw [finished] at split
    cases newer with
    | cons newest newer =>
        exact grounded.made newer other node older (List.cons.inj split).2
          (SchemaTable.hasFailed_of_settled unfailed)
    | nil =>
        obtain ⟨newest, rfl⟩ := List.cons.inj split
        obtain ⟨rfl, rfl⟩ := Prod.mk.inj newest
        obtain ⟨node, rfl⟩ := SchemaTable.exists_eq_ok_of_settled unfailed
        refine ⟨_, (made node rfl).1, fun target refers => ?_⟩
        unfold SchemaTable.answer
        cases found : table.finished? ⟨target, key.version⟩ with
        | none => exact .inl rfl
        | some answered => exact .inr (SchemaTable.mem_finished_of_finished? found)
  · rw [finished] at member
    apply SchemaTable.Knows.settled
    rcases List.mem_cons.mp member with newest | older
    · cases newest
      obtain ⟨node, rfl⟩ := SchemaTable.exists_eq_ok_of_settled unfailed
      exact (made node rfl).2 target refers
    · exact grounded.known other node older (SchemaTable.hasFailed_of_settled unfailed) target
        refers

/-- A request leaves a grounded table. The induction is on the number of declarations that are
not active. -/
theorem Grounded.synthesize
    {table : SchemaTable}
    (grounded : source.Grounded table)
    (activeAt : table.ActiveAt source version)
    (id : TypeId) :
    source.Grounded ((source.synthesize id version).run table).2 := by
  revert grounded
  refine request_induction (fun id table node finished grounded => ?_)
    (fun id table unfinished active grounded => ?_)
    (fun id table activeAt unfinished inactive answers grounded => ?_) id table activeAt
  · rw [run_synthesize_of_finished finished]
    exact grounded
  · rw [run_synthesize_of_active unfinished active]
    exact grounded
  · rw [run_synthesize_of_new activeAt unfinished inactive]
    have inside := run_build_preserves source id
      (source.synthesize · version) (table.begin ⟨id, version⟩)
      (fun later => later.active = ⟨id, version⟩ :: table.active ∧ source.Grounded later)
      (fun later diagnostics _ ⟨same, grounded⟩ => ⟨same, grounded.report diagnostics⟩)
      (fun target refers later ⟨same, grounded⟩ =>
        ⟨by rw [active_run_synthesize, same], answers target refers later same grounded⟩)
      ⟨rfl, grounded.begin _⟩
    refine inside.2.settled _ _ fun node succeeded => ?_
    cases resolved : source.graph.resolve? id with
    | none =>
        rw [build, resolved] at succeeded
        cases succeeded
    | some declaration =>
        have activeNow : (table.begin ⟨id, version⟩).ActiveAt source version :=
          ActiveAt_begin activeAt inactive (by rw [resolved]; rfl)
        obtain ⟨known, made⟩ := (yields_build resolved _ activeNow).2 node succeeded
        refine ⟨made fun target _ => rfl, ?_⟩
        rintro target ⟨declared, other, same, followed⟩
        cases resolved.symm.trans same
        exact known target followed declared

/-- A table between two calls that start from an empty table. Its schemas are made from what it
says. -/
structure Settled (source : SchemaSource) (table : SchemaTable) : Prop where
  runs : source.RunsFrom {} table
  grounded : source.Grounded table

/-- A request between two calls is answered by the finished schema. -/
theorem Settled.synthesize
    {table : SchemaTable}
    (settled : source.Settled table)
    (id : TypeId)
    (version : String) :
    let after := (source.synthesize id version).run table
    source.Settled after.2 ∧ after.2.finished? ⟨id, version⟩ = some after.1 := by
  have activeAt := activeAt_of_idle source version settled.runs.1
  have runs := settled.runs.synthesize id version
  refine ⟨⟨runs, settled.grounded.synthesize activeAt id⟩, ?_⟩
  obtain ⟨-, known, answered⟩ := source.run_synthesize_eq_answer id activeAt
  rw [answered, SchemaTable.answer]
  rcases known with finished | active
  · obtain ⟨node, found⟩ := Option.isSome_iff_exists.mp finished
    rw [found, Option.getD_some]
  · rw [runs.1] at active
    exact absurd active List.not_mem_nil

theorem Settled.calls
    {table : SchemaTable}
    (settled : source.Settled table)
    (calls : List SchemaCall) :
    source.Settled (calls.foldl source.performed table) :=
  foldl_performed_preserves (fun id version _ settled => (settled.synthesize id version).1)
    calls settled

theorem settled_performedAll (source : SchemaSource) (calls : List SchemaCall) :
    source.Settled (source.performedAll calls) :=
  Settled.calls ⟨⟨rfl, [], .nothing _⟩, source.grounded_empty⟩ calls

/-- A failed declaration has the schema of unknown objects. -/
theorem Settled.eq_opaqueObject
    {table : SchemaTable}
    (settled : source.Settled table)
    {key : SchemaKey}
    {node : SchemaNode}
    (finished : table.finished? key = some node)
    (failed : table.hasFailed key = true) :
    node = SchemaNode.opaqueObject := by
  obtain ⟨idle, events, trace⟩ := settled.runs
  rw [(trace.ledger idle).opaqueNode key failed] at finished
  exact (Option.some.inj finished).symm

theorem Settled.nodup_keys
    {table : SchemaTable}
    (settled : source.Settled table) :
    (table.finished.map (·.1)).Nodup := by
  obtain ⟨-, events, trace⟩ := settled.runs
  rw [trace.accounts.finishedKeys]
  exact (List.append_nil _).symm ▸ List.nodup_reverse.mpr trace.accounts.distinct

/-- A schema that did not fail is made from finished schemas and references, and everything that
its declaration refers to is finished. -/
theorem Settled.exists_madeFrom
    {table : SchemaTable}
    (settled : source.Settled table)
    {key : SchemaKey}
    {node : SchemaNode}
    (finished : table.finished? key = some node)
    (unfailed : table.hasFailed key = false) :
    ∃ schemaOf, source.MadeFrom schemaOf key.id node ∧
      ∀ target, source.References key.id target →
        (table.finished? ⟨target, key.version⟩).isSome ∧
          (schemaOf target = SchemaNode.referenceTo target ∨
            table.finished? ⟨target, key.version⟩ = some (schemaOf target)) := by
  have member := SchemaTable.mem_finished_of_finished? finished
  obtain ⟨newer, older, split⟩ := List.append_of_mem member
  obtain ⟨schemaOf, made, answers⟩ :=
    settled.grounded.made newer key node older split unfailed
  refine ⟨schemaOf, made, fun target refers => ⟨?_, ?_⟩⟩
  · refine (settled.grounded.known key node member unfailed target refers).resolve_right ?_
    rw [settled.runs.1]
    exact List.not_mem_nil
  · refine (answers target refers).imp_right fun isOlder => ?_
    rw [SchemaTable.finished?_eq_some_iff settled.nodup_keys, split]
    exact List.mem_append_right _ (List.mem_cons_of_mem _ isOlder)

end SchemaSource

/-! ## Induction on the schemas of a table -/

/-- What a request was answered with: a reference, the schema of unknown objects of a declaration
that failed, or a schema with a property. -/
inductive SchemaTable.Answered
    (table : SchemaTable)
    (holds : SchemaKey → SchemaNode → Prop)
    (key : SchemaKey) : SchemaNode → Prop where
  | reference : Answered table holds key (SchemaNode.referenceTo key.id)
  | failed (failed : table.hasFailed key = true) :
      Answered table holds key SchemaNode.opaqueObject
  | schema
      {node : SchemaNode}
      (unfailed : table.hasFailed key = false)
      (inherits : holds key node) :
      Answered table holds key node

/-- What the plain recursion carries over from the schemas of the declarations that are referred to
holds of every schema that did not fail. The induction is on the list of finished schemas, in which
answers stand behind what is made from them. -/
theorem SchemaSource.Settled.induction
    {source : SchemaSource}
    {table : SchemaTable}
    (settled : source.Settled table)
    (holds : SchemaKey → SchemaNode → Prop)
    (step : ∀ key node schemaOf, source.MadeFrom schemaOf key.id node →
      (∀ target, source.References key.id target →
        table.Answered holds ⟨target, key.version⟩ (schemaOf target)) →
      holds key node)
    {key : SchemaKey}
    {node : SchemaNode}
    (finished : table.finished? key = some node)
    (unfailed : table.hasFailed key = false) :
    holds key node := by
  have suffix : ∀ older newer, table.finished = newer ++ older →
      ∀ key node, (key, node) ∈ older → table.hasFailed key = false → holds key node := by
    intro older
    induction older with
    | nil => exact fun _ _ _ _ member => absurd member List.not_mem_nil
    | cons entry older inductionHypothesis =>
        intro newer split key node member unfailed
        have olderHold := inductionHypothesis (newer ++ [entry])
          (by rw [split, List.append_assoc, List.singleton_append])
        rcases List.mem_cons.mp member with rfl | member
        · obtain ⟨schemaOf, made, answers⟩ :=
            settled.grounded.made newer key node older split unfailed
          refine step key node schemaOf made fun target refers => ?_
          rcases answers target refers with isReference | isOlder
          · rw [isReference]
            exact .reference
          · cases outcome : table.hasFailed ⟨target, key.version⟩ with
            | false => exact .schema outcome (olderHold _ _ isOlder outcome)
            | true =>
                have answered : table.finished? ⟨target, key.version⟩ = some (schemaOf target) :=
                  (SchemaTable.finished?_eq_some_iff settled.nodup_keys).mpr
                    (split ▸ List.mem_append_right _ (List.mem_cons_of_mem _ isOlder))
                rw [settled.eq_opaqueObject answered outcome]
                exact .failed outcome
        · exact olderHold key node member unfailed
  exact suffix table.finished [] rfl key node (SchemaTable.mem_finished_of_finished? finished)
    unfailed

end MarkerManifests
