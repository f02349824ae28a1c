import MarkerManifests.Proofs.Webhook.Check
import MarkerManifests.Proofs.Webhook.Lifecycle

/-!
# What is wrong with a request

There are nine conditions for a request, which are independent of the order in which they are
checked. The order only decides which fault is reported: it is that of the first condition that is
not met. Where all are met, the texts of the request name what it is resolved to.
-/

namespace MarkerManifests

namespace SideEffects

theorem ofWord?_eq_none_iff
    {word : String} :
    ofWord? word = .none ↔ word ∉ ["None", "NoneOnDryRun", "Some", "Unknown"] := by
  rw [ofWord?, List.find?_eq_none]
  simp only [decide_eq_true_eq]
  simp [SideEffects.word, @eq_comm _ word]

theorem exists_word_eq_iff
    {word : String} :
    (∃ effects : SideEffects, effects.word = word) ↔
      word ∈ ["None", "NoneOnDryRun", "Some", "Unknown"] := by
  rw [← not_iff_not, ← ofWord?_eq_none_iff, Option.eq_none_iff_forall_ne_some, not_exists]
  exact forall_congr' fun effects => not_congr ofWord?_eq_some_iff.symm

theorem isLegacy_iff
    {effects : SideEffects} :
    effects.isLegacy = true ↔ effects.word ∈ ["Some", "Unknown"] := by
  cases effects <;> decide

theorem not_isLegacy_iff
    {effects : SideEffects} :
    effects.isLegacy = false ↔ effects.word ∉ ["Some", "Unknown"] := by
  rw [← isLegacy_iff, Bool.not_eq_true]

end SideEffects

namespace WebhookRequest

/-! ## Conditions -/

/-- The conditions for a request. -/
inductive Condition where
  | surfaces
  | sideEffects
  | timeout
  | reviewVersions
  | client
  | failurePolicy
  | matchPolicy
  | reinvocationPolicy
  | operations

/-- The conditions in the order in which their faults count. -/
def Condition.inOrder : List Condition :=
  [surfaces, sideEffects, timeout, reviewVersions, client, failurePolicy, matchPolicy,
    reinvocationPolicy, operations]

theorem Condition.mem_inOrder (condition : Condition) : condition ∈ inOrder := by
  cases condition <;> simp [inOrder]

/-- The names of the operations. -/
def admissionOperations : List String :=
  ["CREATE", "UPDATE", "DELETE", "CONNECT", "*"]

/-- A verb names an operation in any case. -/
def NamesOperation (verb operation : String) : Prop :=
  operation ∈ admissionOperations ∧ folded verb = folded operation

/-- A request meets a condition. -/
def Meets (request : WebhookRequest) : Condition → Prop
  | .surfaces => ∀ version ∈ request.surfaces, version = "v1" ∨ version = "v1beta1"
  | .sideEffects =>
    request.sideEffects ∈ ["None", "NoneOnDryRun", "Some", "Unknown"] ∧
      ("v1" ∈ request.surfaces → request.sideEffects ∉ ["Some", "Unknown"])
  | .timeout => 1 ≤ request.timeoutSeconds ∧ request.timeoutSeconds ≤ 30
  | .reviewVersions => ∃ version ∈ request.reviewVersions, version ≠ ""
  | .client => request.path.isSome ↔ request.url = none
  | .failurePolicy => ∀ word ∈ request.failurePolicy, folded word ∈ ["fail", "ignore"]
  | .matchPolicy => ∀ word ∈ request.matchPolicy, word ∈ ["Exact", "Equivalent"]
  | .reinvocationPolicy => ∀ word ∈ request.reinvocationPolicy,
    request.kind = .mutating ∧ word ∈ ["Never", "IfNeeded"]
  | .operations => ∀ verb ∈ request.verbs, ∃ operation, NamesOperation verb operation

/-- What is wrong with a request that does not meet a condition. -/
inductive HasFault (request : WebhookRequest) : Condition → WebhookError → Prop where
  /-- The first unknown version counts. -/
  | unknownSurface
      {before after : List String}
      {version : String}
      (listed : request.surfaces = before ++ version :: after)
      (known : ∀ earlier ∈ before, earlier = "v1" ∨ earlier = "v1beta1")
      (isUnknown : ¬ (version = "v1" ∨ version = "v1beta1")) :
      HasFault request .surfaces (.unknownSurface version)
  | invalidSideEffects
      (invalid : request.sideEffects ∉ ["None", "NoneOnDryRun", "Some", "Unknown"]) :
      HasFault request .sideEffects (.invalidSideEffects request.sideEffects)
  | legacySideEffects
      (current : "v1" ∈ request.surfaces)
      (legacy : request.sideEffects ∈ ["Some", "Unknown"]) :
      HasFault request .sideEffects (.legacySideEffects request.sideEffects)
  | timeoutOutOfRange
      (outside : ¬ (1 ≤ request.timeoutSeconds ∧ request.timeoutSeconds ≤ 30)) :
      HasFault request .timeout (.timeoutOutOfRange request.timeoutSeconds)
  | noReviewVersions
      (none : ∀ version ∈ request.reviewVersions, version = "") :
      HasFault request .reviewVersions .noReviewVersions
  | conflictingClients
      {path url : String}
      (hasPath : request.path = some path)
      (hasUrl : request.url = some url) :
      HasFault request .client (.conflictingClients path url)
  | missingClient
      (noPath : request.path = none)
      (noUrl : request.url = none) :
      HasFault request .client .missingClient
  | invalidFailurePolicy
      {word : String}
      (given : request.failurePolicy = some word)
      (invalid : folded word ∉ ["fail", "ignore"]) :
      HasFault request .failurePolicy (.invalidFailurePolicy word)
  | invalidMatchPolicy
      {word : String}
      (given : request.matchPolicy = some word)
      (invalid : word ∉ ["Exact", "Equivalent"]) :
      HasFault request .matchPolicy (.invalidMatchPolicy word)
  /-- On the wrong list it does not matter what the policy is. -/
  | reinvocationOnValidating
      {word : String}
      (given : request.reinvocationPolicy = some word)
      (validating : request.kind = .validating) :
      HasFault request .reinvocationPolicy .reinvocationOnValidating
  | invalidReinvocationPolicy
      {word : String}
      (given : request.reinvocationPolicy = some word)
      (mutating : request.kind = .mutating)
      (invalid : word ∉ ["Never", "IfNeeded"]) :
      HasFault request .reinvocationPolicy (.invalidReinvocationPolicy word)
  /-- The first verb that names no operation counts. -/
  | invalidOperation
      {before after : List String}
      {verb : String}
      (listed : request.verbs = before ++ verb :: after)
      (named : ∀ earlier ∈ before, ∃ operation, NamesOperation earlier operation)
      (invalid : ∀ operation, ¬ NamesOperation verb operation) :
      HasFault request .operations (.invalidOperation verb)

/-- The fault of the first condition that a request does not meet. -/
def FirstFault (request : WebhookRequest) (error : WebhookError) : Prop :=
  ∃ earlier condition later, Condition.inOrder = earlier ++ condition :: later ∧
    (∀ other ∈ earlier, request.Meets other) ∧ request.HasFault condition error

/-- What the texts of a request name. -/
structure Names (request : WebhookRequest) (policies : WebhookPolicies) : Prop where
  sideEffects : policies.sideEffects.word = request.sideEffects
  failurePolicy : ∀ word ∈ request.failurePolicy,
    folded word = folded policies.failurePolicy.word
  failsByDefault : request.failurePolicy = none → policies.failurePolicy = .fail
  matchPolicy : request.matchPolicy = policies.matchPolicy.map MatchPolicy.word
  reinvocationPolicy :
    request.reinvocationPolicy = policies.reinvocationPolicy.map ReinvocationPolicy.word
  /-- The operations stand in the order of the verbs. -/
  operations : List.Forall₂ NamesOperation request.verbs policies.operations

variable {request : WebhookRequest} {error : WebhookError}

/-! ## Single checks -/

theorem operation?_eq_some_iff
    {verb operation : String} :
    operation? verb = some operation ↔ NamesOperation verb operation := by
  have create : folded "CREATE" = "create" := by decide
  have update : folded "UPDATE" = "update" := by decide
  have delete : folded "DELETE" = "delete" := by decide
  have connect : folded "CONNECT" = "connect" := by decide
  have any : folded "*" = "*" := by decide
  simp only [NamesOperation, admissionOperations, List.mem_cons, List.not_mem_nil, or_false]
  constructor
  · unfold operation?
    grind
  · rintro ⟨rfl | rfl | rfl | rfl | rfl, same⟩ <;> simp [operation?, *]

theorem operation?_eq_none_iff
    {verb : String} :
    operation? verb = none ↔ ¬ ∃ operation, NamesOperation verb operation := by
  simp only [← operation?_eq_some_iff, Option.eq_none_iff_forall_ne_some, ne_eq, not_exists]

theorem checkSurfaces_eq_error_iff :
    request.checkSurfaces = .error error ↔ request.HasFault .surfaces error := by
  have outcome : request.checkSurfaces = .error error ↔
      ∃ version, (request.surfaces.find? fun version =>
        !([currentSurface, legacySurface].contains version)) = some version ∧
          .unknownSurface version = error := by
    unfold checkSurfaces
    split
    · rename_i version found
      simp only [found, Except.error.injEq, Option.some.injEq, exists_eq_left']
    · rename_i found
      simp only [found, reduceCtorEq, false_and, exists_false]
  rw [outcome]
  constructor
  · rintro ⟨version, found, rfl⟩
    obtain ⟨isUnknown, before, after, listed, known⟩ := List.find?_eq_some_iff_append.mp found
    refine .unknownSurface listed (fun earlier member => ?_) ?_
    · simpa [currentSurface, legacySurface, or_iff_not_imp_left] using known earlier member
    · simpa [currentSurface, legacySurface] using isUnknown
  · intro fault
    cases fault with
    | unknownSurface listed known isUnknown =>
        refine ⟨_, List.find?_eq_some_iff_append.mpr
          ⟨?_, _, _, listed, fun earlier member => ?_⟩, rfl⟩
        · simpa [currentSurface, legacySurface] using isUnknown
        · simpa [currentSurface, legacySurface, or_iff_not_imp_left] using known earlier member

theorem checkSideEffects_eq_error_iff :
    request.checkSideEffects = .error error ↔ request.HasFault .sideEffects error := by
  unfold checkSideEffects targetsCurrent
  cases found : SideEffects.ofWord? request.sideEffects with
  | none =>
      have invalid := SideEffects.ofWord?_eq_none_iff.mp found
      constructor
      · rintro ⟨⟩
        exact .invalidSideEffects invalid
      · intro fault
        cases fault with
        | invalidSideEffects => rfl
        | legacySideEffects current legacy =>
            exact absurd (List.mem_of_mem_drop (i := 2) legacy) invalid
  | some effects =>
      have isWord := SideEffects.ofWord?_eq_some_iff.mp found
      have valid := SideEffects.exists_word_eq_iff.mp ⟨effects, isWord⟩
      have refused : (request.surfaces.contains currentSurface && effects.isLegacy) = true ↔
          "v1" ∈ request.surfaces ∧ request.sideEffects ∈ ["Some", "Unknown"] := by
        rw [Bool.and_eq_true, List.contains_iff_mem, SideEffects.isLegacy_iff, isWord]
        rfl
      simp only [refused]
      split
      · rename_i isRefused
        constructor
        · rintro ⟨⟩
          exact .legacySideEffects isRefused.1 isRefused.2
        · intro fault
          cases fault with
          | invalidSideEffects invalid => exact absurd valid invalid
          | legacySideEffects => rfl
      · rename_i isPermitted
        refine iff_of_false nofun fun fault => ?_
        cases fault with
        | invalidSideEffects invalid => exact invalid valid
        | legacySideEffects current legacy => exact isPermitted ⟨current, legacy⟩

theorem checkTimeout_eq_error_iff :
    request.checkTimeout = .error error ↔ request.HasFault .timeout error := by
  unfold checkTimeout
  split
  · rename_i inside
    refine iff_of_false nofun fun fault => ?_
    cases fault with
    | timeoutOutOfRange outside => exact outside inside
  · rename_i outside
    constructor
    · rintro ⟨⟩
      exact .timeoutOutOfRange outside
    · rintro ⟨⟩
      rfl

theorem checkReviewVersions_eq_error_iff :
    request.checkReviewVersions = .error error ↔ request.HasFault .reviewVersions error := by
  unfold checkReviewVersions
  split
  · rename_i unversioned
    constructor
    · rintro ⟨⟩
      exact .noReviewVersions (by simpa using unversioned)
    · rintro ⟨⟩
      rfl
  · rename_i versioned
    refine iff_of_false nofun fun fault => ?_
    cases fault with
    | noReviewVersions unversioned => exact versioned (by simpa using unversioned)

theorem checkClient_eq_error_iff :
    request.checkClient = .error error ↔ request.HasFault .client error := by
  unfold checkClient
  split
  · rename_i path url hasPath hasUrl
    constructor
    · rintro ⟨⟩
      exact .conflictingClients hasPath hasUrl
    · intro fault
      cases fault <;> simp_all
  · rename_i noPath noUrl
    constructor
    · rintro ⟨⟩
      exact .missingClient noPath noUrl
    · intro fault
      cases fault <;> simp_all
  · refine iff_of_false nofun fun fault => ?_
    cases fault <;> simp_all

theorem checkFailurePolicy_eq_error_iff :
    request.checkFailurePolicy = .error error ↔ request.HasFault .failurePolicy error := by
  unfold checkFailurePolicy
  constructor
  · intro failed
    split at failed
    · cases failed
    · rename_i word given
      split at failed
      · cases failed
      · split at failed
        · cases failed
        · cases failed
          exact .invalidFailurePolicy given (by simp [*])
  · intro fault
    cases fault with
    | invalidFailurePolicy given invalid =>
        rw [List.mem_pair, not_or] at invalid
        simp [given, invalid]

theorem checkMatchPolicy_eq_error_iff :
    request.checkMatchPolicy = .error error ↔ request.HasFault .matchPolicy error := by
  unfold checkMatchPolicy
  constructor
  · intro failed
    split at failed
    · cases failed
    · rename_i word given
      split at failed
      · cases failed
      · split at failed
        · cases failed
        · cases failed
          exact .invalidMatchPolicy given (by simp [*])
  · intro fault
    cases fault with
    | invalidMatchPolicy given invalid =>
        rw [List.mem_pair, not_or] at invalid
        simp [given, invalid]

theorem checkReinvocationPolicy_eq_error_iff :
    request.checkReinvocationPolicy = .error error ↔
      request.HasFault .reinvocationPolicy error := by
  unfold checkReinvocationPolicy
  constructor
  · intro failed
    split at failed
    · cases failed
    · rename_i word given
      cases isKind : request.kind with
      | validating =>
          rw [if_pos isKind] at failed
          cases failed
          exact .reinvocationOnValidating given isKind
      | mutating =>
          rw [if_neg (by simp [isKind])] at failed
          split at failed
          · cases failed
          · split at failed
            · cases failed
            · cases failed
              exact .invalidReinvocationPolicy given isKind (by simp [*])
  · intro fault
    cases fault with
    | reinvocationOnValidating given validating => simp [given, validating]
    | invalidReinvocationPolicy given mutating invalid =>
        rw [List.mem_pair, not_or] at invalid
        simp [given, mutating, invalid]

/-- The first verb that names no operation ends the check. -/
theorem checkOperations_eq_error_iff_find?
    {verbs : List String} :
    checkOperations verbs = .error error ↔
      ∃ verb, verbs.find? (operation? · = none) = some verb ∧ .invalidOperation verb = error := by
  induction verbs with
  | nil => simp [checkOperations]
  | cons verb rest inductionHypothesis =>
      rw [checkOperations]
      cases named : operation? verb with
      | none => simp [List.find?_cons_of_pos, named]
      | some operation =>
          rw [List.find?_cons_of_neg (by simp [named]), ← inductionHypothesis]
          exact Except.map_eq_error_iff

theorem checkOperations_eq_error_iff :
    checkOperations request.verbs = .error error ↔ request.HasFault .operations error := by
  rw [checkOperations_eq_error_iff_find?]
  constructor
  · rintro ⟨verb, found, rfl⟩
    obtain ⟨invalid, before, after, listed, named⟩ := List.find?_eq_some_iff_append.mp found
    refine .invalidOperation listed (fun earlier member => ?_) ?_
    · simpa [operation?_eq_none_iff] using named earlier member
    · simpa [operation?_eq_none_iff] using invalid
  · intro fault
    cases fault with
    | invalidOperation listed named invalid =>
        refine ⟨_, List.find?_eq_some_iff_append.mpr
          ⟨?_, _, _, listed, fun earlier member => ?_⟩, rfl⟩
        · simpa [operation?_eq_none_iff] using invalid
        · simpa [operation?_eq_none_iff] using named earlier member

/-! ## All checks -/

/-- What the check of a condition says. -/
def verdict (request : WebhookRequest) : Condition → Except WebhookError Unit
  | .surfaces => request.checkSurfaces
  | .sideEffects => request.checkSideEffects.map fun _ => ()
  | .timeout => request.checkTimeout
  | .reviewVersions => request.checkReviewVersions
  | .client => request.checkClient
  | .failurePolicy => request.checkFailurePolicy.map fun _ => ()
  | .matchPolicy => request.checkMatchPolicy.map fun _ => ()
  | .reinvocationPolicy => request.checkReinvocationPolicy.map fun _ => ()
  | .operations => (checkOperations request.verbs).map fun _ => ()

theorem verdict_eq_error_iff
    {condition : Condition} :
    request.verdict condition = .error error ↔ request.HasFault condition error := by
  cases condition with
  | surfaces => exact checkSurfaces_eq_error_iff
  | sideEffects => exact Except.map_eq_error_iff.trans checkSideEffects_eq_error_iff
  | timeout => exact checkTimeout_eq_error_iff
  | reviewVersions => exact checkReviewVersions_eq_error_iff
  | client => exact checkClient_eq_error_iff
  | failurePolicy => exact Except.map_eq_error_iff.trans checkFailurePolicy_eq_error_iff
  | matchPolicy => exact Except.map_eq_error_iff.trans checkMatchPolicy_eq_error_iff
  | reinvocationPolicy => exact Except.map_eq_error_iff.trans checkReinvocationPolicy_eq_error_iff
  | operations => exact Except.map_eq_error_iff.trans checkOperations_eq_error_iff

theorem exists_sideEffects_iff :
    (∃ effects : SideEffects, effects.word = request.sideEffects ∧
      (currentSurface ∈ request.surfaces → effects.isLegacy = false)) ↔
      request.Meets .sideEffects := by
  rw [Meets, ← SideEffects.exists_word_eq_iff]
  constructor
  · rintro ⟨effects, isWord, permitted⟩
    rw [SideEffects.not_isLegacy_iff, isWord] at permitted
    exact ⟨⟨effects, isWord⟩, permitted⟩
  · rintro ⟨⟨effects, isWord⟩, permitted⟩
    rw [← isWord, ← SideEffects.not_isLegacy_iff] at permitted
    exact ⟨effects, isWord, permitted⟩

theorem exists_failurePolicy_iff :
    (∃ policy : FailurePolicy,
      (∀ word ∈ request.failurePolicy, folded word = folded policy.word) ∧
        (request.failurePolicy = none → policy = .fail)) ↔
      request.Meets .failurePolicy := by
  have fail : folded FailurePolicy.fail.word = "fail" := by decide
  have ignore : folded FailurePolicy.ignore.word = "ignore" := by decide
  rw [Meets]
  cases request.failurePolicy with
  | none => exact iff_of_true ⟨.fail, nofun, fun _ => rfl⟩ nofun
  | some word =>
      simp only [Option.mem_some_iff, forall_eq', reduceCtorEq, false_imp_iff, and_true]
      constructor
      · rintro ⟨_ | _, same⟩ <;> simp [*]
      · intro valid
        rcases List.mem_pair.mp valid with same | same
        · exact ⟨.fail, same.trans fail.symm⟩
        · exact ⟨.ignore, same.trans ignore.symm⟩

theorem exists_matchPolicy_iff :
    (∃ policy : Option MatchPolicy, request.matchPolicy = policy.map MatchPolicy.word) ↔
      request.Meets .matchPolicy := by
  rw [Meets]
  cases request.matchPolicy with
  | none => exact iff_of_true ⟨none, rfl⟩ nofun
  | some word =>
      simp only [Option.mem_some_iff, forall_eq']
      constructor
      · rintro ⟨_ | _ | _, same⟩ <;> cases same <;> simp [MatchPolicy.word]
      · intro valid
        rcases List.mem_pair.mp valid with rfl | rfl
        · exact ⟨some .exact, rfl⟩
        · exact ⟨some .equivalent, rfl⟩

theorem exists_reinvocationPolicy_iff :
    (∃ policy : Option ReinvocationPolicy,
      request.reinvocationPolicy = policy.map ReinvocationPolicy.word ∧
        (policy.isSome → request.kind = .mutating)) ↔
      request.Meets .reinvocationPolicy := by
  rw [Meets]
  cases request.reinvocationPolicy with
  | none => exact iff_of_true ⟨none, rfl, nofun⟩ nofun
  | some word =>
      simp only [Option.mem_some_iff, forall_eq']
      constructor
      · rintro ⟨_ | _ | _, same, mutating⟩ <;> cases same <;>
          exact ⟨mutating rfl, by simp [ReinvocationPolicy.word]⟩
      · rintro ⟨mutating, valid⟩
        rcases List.mem_pair.mp valid with rfl | rfl
        · exact ⟨some .never, rfl, fun _ => mutating⟩
        · exact ⟨some .ifNeeded, rfl, fun _ => mutating⟩

theorem verdict_eq_ok_iff
    {condition : Condition} :
    request.verdict condition = .ok () ↔ request.Meets condition := by
  cases condition with
  | surfaces => exact checkSurfaces_eq_ok_iff
  | sideEffects =>
      rw [verdict, Except.map_eq_ok_unit_iff, ← exists_sideEffects_iff]
      simp only [checkSideEffects_eq_ok_iff]
  | timeout => exact checkTimeout_eq_ok_iff
  | reviewVersions => exact checkReviewVersions_eq_ok_iff
  | client => exact checkClient_eq_ok_iff
  | failurePolicy =>
      rw [verdict, Except.map_eq_ok_unit_iff, ← exists_failurePolicy_iff]
      simp only [checkFailurePolicy_eq_ok_iff]
  | matchPolicy =>
      rw [verdict, Except.map_eq_ok_unit_iff, ← exists_matchPolicy_iff]
      simp only [checkMatchPolicy_eq_ok_iff]
  | reinvocationPolicy =>
      rw [verdict, Except.map_eq_ok_unit_iff, ← exists_reinvocationPolicy_iff]
      simp only [checkReinvocationPolicy_eq_ok_iff]
  | operations =>
      rw [verdict, Except.map_eq_ok_unit_iff, Meets, ← exists_forall₂_iff]
      simp only [checkOperations_eq_ok_iff, operation?_eq_some_iff]

/-- A request is checked by checking the conditions in their order. -/
theorem map_check (request : WebhookRequest) :
    request.check.map (fun _ => ()) = forM Condition.inOrder request.verdict := by
  simp only [Condition.inOrder, List.forM_cons, List.forM_nil, verdict, Except.map_bind_const,
    check, Except.map_bind]
  rfl

theorem exists_check_eq_ok_iff :
    (∃ policies, request.check = .ok policies) ↔ ∀ condition, request.Meets condition := by
  rw [← Except.map_eq_ok_unit_iff, map_check, Except.forM_eq_ok_iff]
  simp only [Condition.mem_inOrder, forall_const, verdict_eq_ok_iff]

/-- A request that meets the conditions is resolved to what its texts name. -/
theorem check_eq_ok_iff_names
    {policies : WebhookPolicies} :
    request.check = .ok policies ↔
      (∀ condition, request.Meets condition) ∧ request.Names policies := by
  constructor
  · intro checked
    have resolves := check_eq_ok_iff.mp checked
    refine ⟨exists_check_eq_ok_iff.mp ⟨policies, checked⟩, resolves.sideEffects,
      resolves.failurePolicy, resolves.failsByDefault, resolves.matchPolicy,
      resolves.reinvocationPolicy, ?_⟩
    simpa only [operation?_eq_some_iff] using resolves.operations
  · rintro ⟨meets, names⟩
    have permitted := (meets .sideEffects).2
    rw [← names.sideEffects, ← SideEffects.not_isLegacy_iff] at permitted
    refine check_eq_ok_iff.mpr ⟨meets .surfaces, names.sideEffects, permitted, meets .timeout,
      meets .reviewVersions, meets .client, names.failurePolicy, names.failsByDefault,
      names.matchPolicy, names.reinvocationPolicy, fun given => ?_, ?_⟩
    · obtain ⟨policy, isPolicy⟩ := Option.isSome_iff_exists.mp given
      have isGiven := names.reinvocationPolicy
      rw [isPolicy] at isGiven
      exact (meets .reinvocationPolicy _ isGiven).1
    · simpa only [operation?_eq_some_iff] using names.operations

theorem check_eq_error_iff : request.check = .error error ↔ request.FirstFault error := by
  have failed : request.check.map (fun _ => ()) = .error error ↔ request.check = .error error :=
    Except.map_eq_error_iff
  rw [← failed, map_check, Except.forM_eq_error_iff]
  simp only [verdict_eq_ok_iff, verdict_eq_error_iff, FirstFault]

/-- The texts of a request that passes name what it is resolved to, and nothing else. -/
theorem names_iff_eq
    {policies other : WebhookPolicies}
    (checked : request.check = .ok policies) :
    request.Names other ↔ other = policies := by
  have meets := (check_eq_ok_iff_names.mp checked).1
  rw [← and_iff_right (b := request.Names other) meets, ← check_eq_ok_iff_names, checked,
    Except.ok.injEq, eq_comm]

end WebhookRequest

/-! ## Checked records -/

namespace WebhookRecord

/-- What is decided about a record, with the record after this. -/
structure Decides (record : WebhookRecord) (result : Except WebhookError Unit × WebhookRecord) :
    Prop where
  passes : result.1 = .ok () ↔ ∀ condition, record.request.Meets condition
  fails : ∀ error, result.1 = .error error ↔ record.request.FirstFault error
  /-- All fields are written, each with what the texts of the request name. -/
  resolved : result.1 = .ok () → ∃ policies,
    (∀ other, record.request.Names other ↔ other = policies) ∧
      result.2.resolution = (some policies.sideEffects, policies.failurePolicy,
        policies.matchPolicy, policies.reinvocationPolicy, policies.operations)
  /-- A fault leaves every field as it was, whatever was found before it. -/
  unresolved : ∀ error, result.1 = .error error → result.2.resolution = record.resolution
  request : result.2.request = record.request

theorem decides_perform
    {record : WebhookRecord}
    (parsed : record.state = .parsed) :
    record.Decides (record.perform .validate) := by
  rw [perform_validate_of_parsed parsed]
  cases checked : record.request.check with
  | ok policies =>
      have meets := WebhookRequest.exists_check_eq_ok_iff.mp ⟨policies, checked⟩
      refine ⟨iff_of_true rfl meets, fun error => iff_of_false nofun fun fault => ?_,
        fun _ => ⟨policies, fun other => WebhookRequest.names_iff_eq checked, rfl⟩, nofun, rfl⟩
      cases checked.symm.trans (WebhookRequest.check_eq_error_iff.mpr fault)
  | error error =>
      refine ⟨iff_of_false nofun fun meets => ?_, fun other => ?_, nofun, fun _ _ => rfl, rfl⟩
      · obtain ⟨policies, passed⟩ := WebhookRequest.exists_check_eq_ok_iff.mpr meets
        cases checked.symm.trans passed
      · rw [← WebhookRequest.check_eq_error_iff, checked, Except.error.injEq, Except.error.injEq]

end WebhookRecord

/-! ## Checked entries -/

namespace WebhookEntry

/-- What is decided about an entry, with the entry after this. -/
structure Decides (entry : WebhookEntry) (result : Except WebhookError Unit × WebhookEntry) :
    Prop where
  passes : result.1 = .ok () ↔ ∀ condition, entry.request.Meets condition
  fails : ∀ error, result.1 = .error error ↔ entry.request.FirstFault error
  /-- The resolved values are those that the texts of the request name, which are no others. -/
  resolved : result.1 = .ok () → ∃ policies,
    (∀ other, entry.request.Names other ↔ other = policies) ∧
      result.2.resolution = (some policies.sideEffects, policies.failurePolicy,
        policies.matchPolicy, policies.reinvocationPolicy, policies.operations)
  /-- A fault leaves everything as it was resolved before. -/
  unresolved : ∀ error, result.1 = .error error → result.2.resolution = entry.resolution
  request : result.2.request = entry.request

/-- Exactly the record of an entry tells what is decided about the entry. -/
theorem decides_iff_record
    {entry : WebhookEntry}
    {result : Except WebhookError Unit × WebhookEntry} :
    Decides entry result ↔ entry.record.Decides (result.1, result.2.record) :=
  ⟨fun ⟨passes, fails, resolved, unresolved, request⟩ =>
      ⟨passes, fails, resolved, unresolved, request⟩,
    fun ⟨passes, fails, resolved, unresolved, request⟩ =>
      ⟨passes, fails, resolved, unresolved, request⟩⟩

/-- Checking a parsed entry decides whether its request meets all conditions. Checking a parsed
record of the same request decides this too, and writes either all fields or none of them. -/
theorem decides_validate
    {entry : WebhookEntry}
    (parsed : entry.state = .parsed) :
    Decides entry entry.validate ∧
      ∀ record : WebhookRecord, record.state = .parsed → record.request = entry.request →
        record.Decides (record.perform .validate) := by
  have checked : entry.record.Decides (entry.record.perform .validate) :=
    WebhookRecord.decides_perform parsed
  rw [perform_record] at checked
  exact ⟨decides_iff_record.mpr checked, fun record isParsed _ =>
    WebhookRecord.decides_perform isParsed⟩

/-- An entry of whose faults the timeout is the first one. -/
def hastyEntry : WebhookEntry :=
  { checkEntry with
    request := { checkEntry.request with
      path := none
      timeoutSeconds := 0
      verbs := ["Create", "list"] } }

theorem decides_hastyEntry :
    hastyEntry.state = .parsed ∧
      Decides hastyEntry hastyEntry.validate ∧
      hastyEntry.record.Decides (hastyEntry.record.perform .validate) ∧
      hastyEntry.validate.1 = .error (.timeoutOutOfRange 0) := by
  have parsed : hastyEntry.state = .parsed := rfl
  obtain ⟨decides, written⟩ := decides_validate parsed
  exact ⟨rfl, decides, written hastyEntry.record rfl rfl, by rfl⟩

end WebhookEntry
end MarkerManifests
