import MarkerManifests.Proofs.Schema.Answers
import MarkerManifests.Schema.Resource

/-!
# Termination of synthesis

When a request for a schema has an answer, by the rules of synthesis alone: a finished schema and a
reference to an active one are answers, and a schema is built once everything that its build asks
for has an answer. The rules do not bound how deep requests are nested, so a request that would go
on forever has no answer. Whatever the graph is and whatever the table holds, every request has
exactly one answer, which is the one that synthesis gives; so the bound of synthesis is never
reached.
-/

namespace MarkerManifests

namespace SchemaAttempt

variable {Result Next : Type} {first second : SchemaAttempt Result} {table : SchemaTable}

/-- What follows an attempt depends on its run only. -/
theorem run_bind_congr
    (same : first.run.run table = second.run.run table)
    {firstNext secondNext : Result → SchemaAttempt Next}
    (sameNext : ∀ result between, first.run.run table = (.ok result, between) →
      (firstNext result).run.run between = (secondNext result).run.run between) :
    (first >>= firstNext).run.run table = (second >>= secondNext).run.run table := by
  rw [run_bind_eq, run_bind_eq, ← same]
  cases ran : first.run.run table with
  | mk outcome between =>
      cases outcome with
      | ok result => exact sameNext result between ran
      | error error => rfl

end SchemaAttempt

namespace SchemaSource

variable {source : SchemaSource} {version : String} {id target : TypeId}
  {table later : SchemaTable}

/-! ## What a build asks for -/

/-- The synthesis of a reference asks for the declaration that is named in it, if there is one. -/
def RefAsks (source : SchemaSource) (type : TypeRef) (target : TypeId) : Prop :=
  target ∈ type.targets ∧ (source.graph.resolve? target).isSome

/-- A field asks for what its type names. An embedded field asks only for a record. -/
def FieldAsks (source : SchemaSource) (field : Field) (target : TypeId) : Prop :=
  if field.inline then
    field.type.stripPointers = .named target ∧
      ∃ declaration, source.graph.resolve? target = some declaration ∧
        declaration.shape.isRecord = true
  else
    source.RefAsks field.type target

/-- Fields ask one after the other, each in the table that those before it leave. After a field that
fails, nothing more is asked for. -/
inductive FieldsAsk
    (source : SchemaSource)
    (named : TypeId → Synthesis SchemaNode)
    (id : TypeId) :
    SchemaNode → SchemaTable → List Field → TypeId → SchemaTable → Prop
  | here
      {node : SchemaNode}
      {table : SchemaTable}
      {field : Field}
      {rest : List Field}
      {target : TypeId}
      (asks : source.FieldAsks field target) :
      FieldsAsk source named id node table (field :: rest) target table
  | after
      {node extended : SchemaNode}
      {table between later : SchemaTable}
      {field : Field}
      {rest : List Field}
      {target : TypeId}
      (added : (source.addField named id node field).run.run table = (.ok extended, between))
      (asks : FieldsAsk source named id extended between rest target later) :
      FieldsAsk source named id node table (field :: rest) target later

/-- The build of a declaration that starts from a table asks for a target in a later table, where
its requests are answered by the given function. -/
inductive Asks
    (source : SchemaSource)
    (named : TypeId → Synthesis SchemaNode)
    (id : TypeId)
    (table : SchemaTable) : TypeId → SchemaTable → Prop
  | ofRecord
      {declaration : Declaration}
      {fields : List Field}
      {target : TypeId}
      {later : SchemaTable}
      (resolved : source.graph.resolve? id = some declaration)
      (isRecord : declaration.shape = .record fields)
      (asks : source.FieldsAsk named declaration.id (SchemaNode.ofType .object) table
        (fields.filter fun field => !source.isSkipped declaration.id field) target later) :
      Asks source named id table target later
  | ofSynonym
      {declaration : Declaration}
      {type : TypeRef}
      {target : TypeId}
      (resolved : source.graph.resolve? id = some declaration)
      (isSynonym : declaration.shape = .synonym type)
      (asks : source.RefAsks type target) :
      Asks source named id table target table

/-! ### Only what is asked for matters -/

variable {first second : TypeId → Synthesis SchemaNode}

theorem run_refSchema_congr
    {type : TypeRef}
    (same : ∀ target, source.RefAsks type target →
      (first target).run table = (second target).run table) :
    (source.refSchema first type).run.run table =
      (source.refSchema second type).run.run table := by
  induction type with
  | scalar kind => rfl
  | named target =>
      unfold refSchema
      cases resolved : source.graph.resolve? target with
      | none => rfl
      | some declaration =>
          have answer := same target ⟨List.mem_singleton_self target, by rw [resolved]; rfl⟩
          exact congrArg (fun answer => (Except.ok answer.1, answer.2)) answer
  | list element inductionHypothesis =>
      exact SchemaAttempt.run_bind_congr (inductionHypothesis same) fun _ _ _ => rfl
  | map value inductionHypothesis =>
      exact SchemaAttempt.run_bind_congr (inductionHypothesis same) fun _ _ _ => rfl
  | pointer inner inductionHypothesis => exact inductionHypothesis same

theorem run_embeddedSchema_congr
    {field : Field}
    (same : ∀ target declaration, field.type.stripPointers = .named target →
      source.graph.resolve? target = some declaration → declaration.shape.isRecord = true →
      (first target).run table = (second target).run table) :
    (source.embeddedSchema first field).run.run table =
      (source.embeddedSchema second field).run.run table := by
  unfold embeddedSchema
  split
  · rename_i target isNamed
    cases resolved : source.graph.resolve? target with
    | none => rfl
    | some declaration =>
        dsimp only
        split
        · rename_i isRecord
          refine SchemaAttempt.run_bind_congr ?_ fun _ _ _ => rfl
          exact congrArg (fun answer => (Except.ok answer.1, answer.2))
            (same target declaration isNamed resolved isRecord)
        · rfl
  · rfl

theorem run_addField_congr
    (id : TypeId)
    (node : SchemaNode)
    {field : Field}
    (same : ∀ target, source.FieldAsks field target →
      (first target).run table = (second target).run table) :
    (source.addField first id node field).run.run table =
      (source.addField second id node field).run.run table := by
  unfold addField
  split
  · rename_i isInline
    refine SchemaAttempt.run_bind_congr (run_embeddedSchema_congr ?_) fun _ _ _ => rfl
    intro target declaration isNamed resolved isRecord
    refine same target ?_
    rw [FieldAsks, if_pos isInline]
    exact ⟨isNamed, declaration, resolved, isRecord⟩
  · rename_i notInline
    refine SchemaAttempt.run_bind_congr (run_refSchema_congr fun target asks => ?_)
      fun _ _ _ => rfl
    refine same target ?_
    rwa [FieldAsks, if_neg notInline]

theorem run_addFields_congr
    {node : SchemaNode}
    {fields : List Field}
    (same : ∀ target later, source.FieldsAsk first id node table fields target later →
      source.FieldsAsk second id node table fields target later →
      (first target).run later = (second target).run later) :
    (source.addFields first id node fields).run.run table =
      (source.addFields second id node fields).run.run table := by
  induction fields generalizing node table with
  | nil => rfl
  | cons field rest inductionHypothesis =>
      have sameField : (source.addField first id node field).run.run table =
          (source.addField second id node field).run.run table :=
        run_addField_congr id node fun target asks => same target table (.here asks) (.here asks)
      refine SchemaAttempt.run_bind_congr sameField fun extended between added => ?_
      exact inductionHypothesis fun target later asksFirst asksSecond =>
        same target later (.after added asksFirst) (.after (sameField ▸ added) asksSecond)

/-- Builds that start from one table have the same outcome and leave the same table, if what both
ask for is answered alike. -/
theorem run_build_congr_of_asks
    (same : ∀ target later, source.Asks first id table target later →
      source.Asks second id table target later →
      (first target).run later = (second target).run later) :
    (source.build first id).run.run table = (source.build second id).run.run table := by
  unfold build
  cases resolved : source.graph.resolve? id with
  | none => rfl
  | some declaration =>
      refine SchemaAttempt.run_bind_congr ?_ fun _ _ _ => rfl
      cases shape : declaration.shape with
      | record fields =>
          refine SchemaAttempt.run_bind_congr (run_addFields_congr ?_) fun _ _ _ => rfl
          exact fun target later asksFirst asksSecond => same target later
            (.ofRecord resolved shape asksFirst) (.ofRecord resolved shape asksSecond)
      | synonym type =>
          exact run_refSchema_congr fun target asks => same target table
            (.ofSynonym resolved shape asks) (.ofSynonym resolved shape asks)
      | enumeration base members => rfl
      | scalar kind => rfl

/-! ## Answers -/

/-- A request at a version for the schema of a declaration, made in a table, has an answer: a node
and a table. A build has an answer only if everything that it asks for has one. -/
inductive Answers (source : SchemaSource) (version : String) :
    TypeId → SchemaTable → SchemaNode × SchemaTable → Prop
  | finished
      {id : TypeId}
      {table : SchemaTable}
      {node : SchemaNode}
      (finished : table.finished? ⟨id, version⟩ = some node) :
      Answers source version id table (node, table)
  | active
      {id : TypeId}
      {table : SchemaTable}
      (unfinished : table.finished? ⟨id, version⟩ = none)
      (active : ⟨id, version⟩ ∈ table.active) :
      Answers source version id table (SchemaNode.referenceTo id, table)
  | built
      {id : TypeId}
      {table : SchemaTable}
      {named : TypeId → Synthesis SchemaNode}
      (unfinished : table.finished? ⟨id, version⟩ = none)
      (inactive : ⟨id, version⟩ ∉ table.active)
      (answers : ∀ target later, source.Asks named id (table.begin ⟨id, version⟩) target later →
        Answers source version target later ((named target).run later)) :
      Answers source version id table (source.settledBuild named version id table)

/-- A request has at most one answer. -/
theorem Answers.unique
    {answer other : SchemaNode × SchemaTable}
    (first : source.Answers version id table answer)
    (second : source.Answers version id table other) :
    answer = other := by
  induction first generalizing other with
  | finished isFinished =>
      cases second with
      | finished isOther => rw [Option.some.inj (isFinished.symm.trans isOther)]
      | active unfinished => cases isFinished.symm.trans unfinished
      | built unfinished => cases isFinished.symm.trans unfinished
  | active unfinished isActive =>
      cases second with
      | finished isFinished => cases isFinished.symm.trans unfinished
      | active => rfl
      | built _ inactive => exact absurd isActive inactive
  | built unfinished inactive _ inductionHypothesis =>
      cases second with
      | finished isFinished => cases isFinished.symm.trans unfinished
      | active _ isActive => exact absurd isActive inactive
      | built _ _ answers =>
          have sameBuild := run_build_congr_of_asks fun target later asksFirst asksSecond =>
            inductionHypothesis target later asksFirst (answers target later asksSecond)
          rw [settledBuild, sameBuild, settledBuild]

/-! ## Every request has an answer -/

variable {named : TypeId → Synthesis SchemaNode}

/-- What requests leave active, a field leaves active. -/
theorem active_run_addField
    (keeps : ∀ target table, ((named target).run table).2.active = table.active)
    (id : TypeId)
    (node : SchemaNode)
    (field : Field)
    (table : SchemaTable) :
    ((source.addField named id node field).run.run table).2.active = table.active := by
  have related : Synthesis.Related (fun left right => left.active = table.active ∧ left = right)
      (source.addField named id node field).run (source.addField named id node field).run := by
    refine related_addField id node field ?_ fun target _ _ => ?_
    · rintro - schema left right ⟨same, rfl⟩
      exact ⟨same, rfl⟩
    · rintro left right ⟨same, rfl⟩
      exact ⟨rfl, (keeps target left).trans same, rfl⟩
  exact (related ⟨rfl, rfl⟩).2.1

theorem FieldsAsk.active_eq
    {node : SchemaNode}
    {fields : List Field}
    (asks : source.FieldsAsk named id node table fields target later)
    (keeps : ∀ target table, ((named target).run table).2.active = table.active) :
    later.active = table.active := by
  induction asks with
  | here => rfl
  | @after node _ table _ _ field _ _ added _ inductionHypothesis =>
      have kept := source.active_run_addField keeps id node field table
      rw [added] at kept
      exact inductionHypothesis.trans kept

/-- A build asks only in tables in which the same schemas are active as in the one it starts
from. -/
theorem Asks.active_eq
    (asks : source.Asks named id table target later)
    (keeps : ∀ target table, ((named target).run table).2.active = table.active) :
    later.active = table.active := by
  cases asks with
  | ofRecord _ _ asks => exact asks.active_eq keeps
  | ofSynonym => rfl

/-- Only the build of a declaration asks for anything. -/
theorem Asks.isSome_resolve?
    (asks : source.Asks named id table target later) :
    (source.graph.resolve? id).isSome := by
  cases asks with
  | ofRecord resolved => exact Option.isSome_of_mem resolved
  | ofSynonym resolved => exact Option.isSome_of_mem resolved

/-- The declarations that are not active at a version. -/
def inactive (source : SchemaSource) (version : String) (table : SchemaTable) :
    List Declaration :=
  source.graph.declarations.filter fun declaration => ⟨declaration.id, version⟩ ∉ table.active

/-- There are fewer inactive declarations after one of them became active. -/
theorem length_inactive_lt
    (declared : (source.graph.resolve? id).isSome)
    (isInactive : ⟨id, version⟩ ∉ table.active)
    (same : later.active = ⟨id, version⟩ :: table.active) :
    (source.inactive version later).length < (source.inactive version table).length := by
  obtain ⟨declaration, resolved⟩ := Option.isSome_iff_exists.mp declared
  obtain ⟨isDeclared, rfl⟩ := TypeGraph.resolve?_eq_some_iff.mp resolved
  have removed : source.inactive version later =
      (source.inactive version table).filter (·.id ≠ declaration.id) := by
    rw [inactive, inactive, List.filter_filter, same]
    refine List.filter_congr fun other _ => ?_
    simp
  rw [removed, List.length_filter_lt_length_iff_exists]
  exact ⟨declaration, List.mem_filter.mpr ⟨isDeclared, by simpa using isInactive⟩, by simp⟩

/-- With more levels than declarations are inactive, what synthesis gives is an answer. -/
theorem answers_synthesizeWithin
    {levels : Nat}
    (enough : (source.inactive version table).length < levels) :
    source.Answers version id table ((source.synthesizeWithin version levels id).run table) := by
  induction levels generalizing id table with
  | zero => cases enough
  | succ levels inductionHypothesis =>
      cases isFinished : table.finished? ⟨id, version⟩ with
      | some node =>
          rw [run_synthesizeWithin_of_finished levels isFinished]
          exact .finished isFinished
      | none =>
          by_cases isActive : ⟨id, version⟩ ∈ table.active
          · rw [run_synthesizeWithin_of_active levels isFinished isActive]
            exact .active isFinished isActive
          · rw [run_synthesizeWithin_of_new levels isFinished isActive]
            refine .built isFinished isActive fun target later asks => inductionHypothesis ?_
            have same : later.active = ⟨id, version⟩ :: table.active :=
              asks.active_eq (active_run_synthesizeWithin levels)
            have fewer := length_inactive_lt asks.isSome_resolve? isActive same
            omega

/-- Every request has exactly one answer, which is what synthesis gives. -/
theorem answers_iff_eq_run
    {answer : SchemaNode × SchemaTable} :
    source.Answers version id table answer ↔
      answer = (source.synthesize id version).run table := by
  have gives : source.Answers version id table ((source.synthesize id version).run table) :=
    answers_synthesizeWithin (Nat.lt_succ_of_le (List.length_filter_le _ _))
  exact ⟨fun answers => answers.unique gives, fun same => same ▸ gives⟩

/-! ## Calls -/

/-- Requests for the schemas of declarations, made one after the other, have answers. -/
inductive AnswersEach (source : SchemaSource) (version : String) :
    List TypeId → SchemaTable → List (TypeId × SchemaNode) × SchemaTable → Prop
  | nothing
      {table : SchemaTable} :
      AnswersEach source version [] table ([], table)
  | next
      {id : TypeId}
      {rest : List TypeId}
      {table : SchemaTable}
      {answer : SchemaNode × SchemaTable}
      {others : List (TypeId × SchemaNode) × SchemaTable}
      (answers : source.Answers version id table answer)
      (answersRest : AnswersEach source version rest answer.2 others) :
      AnswersEach source version (id :: rest) table ((id, answer.1) :: others.1, others.2)

theorem run_synthesizeEach_cons
    (id : TypeId)
    (rest : List TypeId)
    (table : SchemaTable) :
    (source.synthesizeEach version (id :: rest)).run table =
      let answer := (source.synthesize id version).run table
      let others := (source.synthesizeEach version rest).run answer.2
      ((id, answer.1) :: others.1, others.2) := rfl

theorem answersEach_iff_eq_run
    {ids : List TypeId}
    {answer : List (TypeId × SchemaNode) × SchemaTable} :
    source.AnswersEach version ids table answer ↔
      answer = (source.synthesizeEach version ids).run table := by
  constructor
  · intro answers
    induction answers with
    | nothing => rfl
    | next answers _ inductionHypothesis =>
        rw [run_synthesizeEach_cons]
        dsimp only
        rw [← answers_iff_eq_run.mp answers, ← inductionHypothesis]
  · rintro rfl
    induction ids generalizing table with
    | nil => exact .nothing
    | cons id rest inductionHypothesis =>
        exact .next (answers_iff_eq_run.mpr rfl) inductionHypothesis

/-- The root of a resource whose schema was requested. -/
def requestedRoot
    (source : SchemaSource)
    (declaration : Declaration)
    (version : String)
    (answer : SchemaNode × SchemaTable) : ResourceRoot where
  version := version
  id := declaration.id
  markers := source.index.declaration declaration.id
  schema := answer.1
  failed := answer.2.hasFailed ⟨declaration.id, version⟩

/-- The collection of roots ends: for each resource with a group and a version, the request for its
schema has an answer. -/
inductive Collects (source : SchemaSource) :
    List ResourceFamily → Diagnostics → List (Package × Declaration) → SchemaTable →
      (List ResourceFamily × Diagnostics) × SchemaTable → Prop
  | nothing
      {families : List ResourceFamily}
      {diagnostics : Diagnostics}
      {table : SchemaTable} :
      Collects source families diagnostics [] table ((families, diagnostics), table)
  | passed
      {families : List ResourceFamily}
      {diagnostics : Diagnostics}
      {package : Package}
      {declaration : Declaration}
      {rest : List (Package × Declaration)}
      {table : SchemaTable}
      {result : (List ResourceFamily × Diagnostics) × SchemaTable}
      (noResource : source.isResource declaration = false)
      (collects : Collects source families diagnostics rest table result) :
      Collects source families diagnostics ((package, declaration) :: rest) table result
  | unplaced
      {families : List ResourceFamily}
      {diagnostics : Diagnostics}
      {package : Package}
      {declaration : Declaration}
      {rest : List (Package × Declaration)}
      {table : SchemaTable}
      {result : (List ResourceFamily × Diagnostics) × SchemaTable}
      (isResource : source.isResource declaration = true)
      (missing : source.index.groupVersion? package = none)
      (collects : Collects source families (diagnostics ++ [unversioned package declaration])
        rest table result) :
      Collects source families diagnostics ((package, declaration) :: rest) table result
  | requested
      {families : List ResourceFamily}
      {diagnostics : Diagnostics}
      {package : Package}
      {declaration : Declaration}
      {rest : List (Package × Declaration)}
      {group version : String}
      {table : SchemaTable}
      {answer : SchemaNode × SchemaTable}
      {result : (List ResourceFamily × Diagnostics) × SchemaTable}
      (isResource : source.isResource declaration = true)
      (found : source.index.groupVersion? package = some (group, version))
      (answers : source.Answers version declaration.id table answer)
      (collects : Collects source
        (ResourceFamily.addRoot group declaration.name
          (source.requestedRoot declaration version answer) families)
        diagnostics rest answer.2 result) :
      Collects source families diagnostics ((package, declaration) :: rest) table result

theorem run_collectRoots_cons
    (families : List ResourceFamily)
    (diagnostics : Diagnostics)
    (package : Package)
    (declaration : Declaration)
    (rest : List (Package × Declaration))
    (table : SchemaTable) :
    (source.collectRoots families diagnostics ((package, declaration) :: rest)).run table =
      if source.isResource declaration then
        match source.index.groupVersion? package with
        | none => (source.collectRoots families
            (diagnostics ++ [unversioned package declaration]) rest).run table
        | some (group, version) =>
          let answer := (source.synthesize declaration.id version).run table
          (source.collectRoots (ResourceFamily.addRoot group declaration.name
            (source.requestedRoot declaration version answer) families) diagnostics rest).run
            answer.2
      else (source.collectRoots families diagnostics rest).run table := by
  rw [collectRoots]
  split
  · cases source.index.groupVersion? package <;> rfl
  · rfl

theorem collects_iff_eq_run
    {families : List ResourceFamily}
    {diagnostics : Diagnostics}
    {entries : List (Package × Declaration)}
    {result : (List ResourceFamily × Diagnostics) × SchemaTable} :
    source.Collects families diagnostics entries table result ↔
      result = (source.collectRoots families diagnostics entries).run table := by
  constructor
  · intro collects
    induction collects with
    | nothing => rfl
    | passed noResource _ inductionHypothesis =>
        rw [run_collectRoots_cons, if_neg (by simp [noResource]), inductionHypothesis]
    | unplaced isResource missing _ inductionHypothesis =>
        rw [run_collectRoots_cons, if_pos isResource, missing, inductionHypothesis]
    | requested isResource found answers _ inductionHypothesis =>
        rw [run_collectRoots_cons, if_pos isResource, found]
        dsimp only
        rw [← answers_iff_eq_run.mp answers, inductionHypothesis]
  · rintro rfl
    induction entries generalizing families diagnostics table with
    | nil => exact .nothing
    | cons entry rest inductionHypothesis =>
        obtain ⟨package, declaration⟩ := entry
        rw [run_collectRoots_cons]
        split
        · rename_i isResource
          cases found : source.index.groupVersion? package with
          | none => exact .unplaced isResource found inductionHypothesis
          | some groupVersion =>
              exact .requested isResource found (answers_iff_eq_run.mpr rfl) inductionHypothesis
        · rename_i noResource
          exact .passed (by simpa using noResource) inductionHypothesis

/-- The resource definitions of a graph are made: the collection of their roots ends. -/
def Defines
    (source : SchemaSource)
    (table : SchemaTable)
    (result : (List ResourceDefinition × Diagnostics) × SchemaTable) : Prop :=
  ∃ families found, source.Collects [] [] (declarationsInPackages source.graph) table
      ((families, found), result.2) ∧
    result.1 = ((ResourceFamily.defineAll families).1,
      found ++ (ResourceFamily.defineAll families).2)

theorem defines_iff_eq_run
    {result : (List ResourceDefinition × Diagnostics) × SchemaTable} :
    source.Defines table result ↔ result = source.defineResources.run table := by
  have ran : source.defineResources.run table =
      let collected := (source.collectRoots [] [] (declarationsInPackages source.graph)).run table
      (((ResourceFamily.defineAll collected.1.1).1,
        collected.1.2 ++ (ResourceFamily.defineAll collected.1.1).2), collected.2) := rfl
  rw [ran]
  constructor
  · rintro ⟨families, found, collects, isResult⟩
    rw [← collects_iff_eq_run.mp collects]
    exact Prod.ext isResult rfl
  · rintro rfl
    exact ⟨_, _, collects_iff_eq_run.mpr rfl, rfl⟩

/-- Synthesis terminates on every graph. Whatever the declarations refer to and whatever the table
holds, so in particular after any calls, a request for a schema, the requests for all schemas and
the assembly of the resource definitions each have exactly one answer by rules that bound neither
the number nor the nesting of requests. It is the answer that synthesis gives. -/
theorem answers_iff_eq_run_of_every_call (source : SchemaSource) (table : SchemaTable) :
    (∀ id version answer, source.Answers version id table answer ↔
      answer = (source.synthesize id version).run table) ∧
    (∀ version answer, source.AnswersEach version (source.graph.declarations.map (·.id)) table
        answer ↔
      answer = (source.synthesizeAll version).run table) ∧
    ∀ result, source.Defines table result ↔ result = source.defineResources.run table :=
  ⟨fun _ _ _ => answers_iff_eq_run, fun _ _ => answersEach_iff_eq_run, fun _ => defines_iff_eq_run⟩

end SchemaSource
end MarkerManifests
