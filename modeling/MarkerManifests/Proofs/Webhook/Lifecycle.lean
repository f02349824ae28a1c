import Mathlib.Data.List.Induction
import MarkerManifests.Proofs.Text.Cutting
import MarkerManifests.Proofs.Webhook.Greedy
import MarkerManifests.Proofs.Webhook.Record

/-!
# The life of an entry

Every call asks an entry to move from one state to another. A call that finds the entry in another
state is refused and changes nothing, so whatever is called in whatever order, an entry is either as
it was parsed, validated, validated and then accepted, or rejected at once. The log tells which of
these it is, and what the request was resolved to can be seen only where a check was passed.

The same holds of the record of an entry, whose fields are written one after the other: after every
call it is the record of the entry, so no call leaves it half written.
-/

namespace MarkerManifests

/-! ## Refusals -/

/-- Whether an error says that an entry is in the wrong state. -/
def WebhookError.isRefusal : WebhookError → Bool
  | invalidTransition _ _ => true
  | terminalState _ => true
  | _ => false

namespace WebhookRequest

/-- A check that never ends with a refusal. -/
def FindsFaults {Result : Type} (outcome : Except WebhookError Result) : Prop :=
  ∀ error, outcome = .error error → error.isRefusal = false

theorem FindsFaults.bind
    {Result Next : Type}
    {outcome : Except WebhookError Result}
    {next : Result → Except WebhookError Next}
    (first : FindsFaults outcome)
    (later : ∀ result, FindsFaults (next result)) :
    FindsFaults (outcome >>= next) := by
  cases outcome with
  | error found =>
      rintro _ ⟨⟩
      exact first found rfl
  | ok result => exact later result

theorem findsFaults_ok {Result : Type} (result : Result) :
    FindsFaults (.ok result : Except WebhookError Result) :=
  fun _ failed => nomatch failed

theorem findsFaults_checkOperations (verbs : List String) :
    FindsFaults (checkOperations verbs) := by
  induction verbs with
  | nil => exact findsFaults_ok []
  | cons verb rest inductionHypothesis =>
      rw [checkOperations]
      cases operation? verb with
      | none =>
          rintro error ⟨⟩
          rfl
      | some operation =>
          intro error failed
          cases checked : checkOperations rest with
          | error found =>
              rw [checked] at failed
              exact inductionHypothesis error (checked.trans failed)
          | ok operations =>
              rw [checked] at failed
              cases failed

/-- What is wrong with a request is never that its entry is in the wrong state. -/
theorem findsFaults_check (request : WebhookRequest) : FindsFaults request.check := by
  unfold check
  refine .bind ?_ fun _ => .bind ?_ fun _ => .bind ?_ fun _ => .bind ?_ fun _ =>
    .bind ?_ fun _ => .bind ?_ fun _ => .bind ?_ fun _ => .bind ?_ fun _ =>
    .bind (findsFaults_checkOperations request.verbs) fun _ => findsFaults_ok _
  -- each of the other checks names its fault itself
  all_goals
    grind [FindsFaults, WebhookError.isRefusal, checkSurfaces, checkSideEffects, checkTimeout,
      checkReviewVersions, checkClient, checkFailurePolicy, checkMatchPolicy,
      checkReinvocationPolicy]

end WebhookRequest

/-! ## One call -/

namespace WebhookEntry

/-- The result of a call and the entry after it. -/
def perform (entry : WebhookEntry) : WebhookCall → Except WebhookError Unit × WebhookEntry
  | .validate => entry.validate
  | .accept => entry.accept
  | .reject reason => entry.reject reason

/-- The entry after calls. -/
def performAll (entry : WebhookEntry) (calls : List WebhookCall) : WebhookEntry :=
  calls.foldl (fun entry call => (entry.perform call).2) entry

/-- What a call does with an entry that is in the right state for it. -/
inductive Moves (entry : WebhookEntry) :
    WebhookCall → Except WebhookError Unit × WebhookEntry → Prop where
  | passes
      {policies : WebhookPolicies}
      (parsed : entry.stage = .parsed)
      (checked : entry.request.check = .ok policies) :
      Moves entry .validate (.ok (), entry.move (.validated policies) "all checks passed")
  | fails
      {error : WebhookError}
      (parsed : entry.stage = .parsed)
      (checked : entry.request.check = .error error) :
      Moves entry .validate (.error error, entry.move (.rejected error) error.message)
  | enters
      {policies : WebhookPolicies}
      (validated : entry.stage = .validated policies) :
      Moves entry .accept (.ok (), entry.move (.accepted policies) "placed in output list")
  | leaves
      (reason : WebhookError)
      (parsed : entry.stage = .parsed) :
      Moves entry (.reject reason) (.ok (), entry.move (.rejected reason) reason.message)

variable {entry : WebhookEntry} {call : WebhookCall}

/-- A call moves an entry that is in the right state for it. -/
theorem moves_perform (starts : entry.state = call.source) :
    Moves entry call (entry.perform call) := by
  obtain ⟨request, stage, transitions⟩ := entry
  cases stage <;> cases call <;> try cases starts
  case parsed.validate =>
    cases checked : request.check with
    | ok policies =>
        rw [perform, validate]
        simp only [checked]
        exact .passes rfl checked
    | error error =>
        rw [perform, validate]
        simp only [checked]
        exact .fails rfl checked
  case parsed.reject reason => exact .leaves reason rfl
  case validated.accept policies => exact .enters rfl

/-- A call that finds an entry in another state is refused and leaves the entry as it is. -/
theorem perform_of_ne (elsewhere : entry.state ≠ call.source) :
    entry.perform call = (.error (refusal entry.state call.target), entry) := by
  obtain ⟨request, stage, transitions⟩ := entry
  cases stage <;> cases call <;> first | exact absurd rfl elsewhere | rfl

/-- In a terminal state every call is refused, and the entry stays as it is. -/
theorem perform_of_isTerminal
    (terminal : entry.state.isTerminal = true)
    (call : WebhookCall) :
    entry.perform call = (.error (.terminalState entry.state), entry) := by
  rw [perform_of_ne (WebhookCall.ne_source_of_isTerminal terminal call), refusal, if_pos terminal]

/-- A call that ends with a refusal leaves the entry as it is: what a check finds is none. -/
theorem perform_of_isRefusal
    {error : WebhookError}
    (failed : (entry.perform call).1 = .error error)
    (isRefusal : error.isRefusal = true) :
    (entry.perform call).2 = entry := by
  by_cases starts : entry.state = call.source
  · have moves := moves_perform starts
    generalize entry.perform call = result at moves failed
    cases moves with
    | passes parsed checked => cases failed
    | fails parsed checked =>
        cases failed
        rw [WebhookRequest.findsFaults_check _ _ checked] at isRefusal
        cases isRefusal
    | enters validated => cases failed
    | leaves reason parsed => cases failed
  · rw [perform_of_ne starts]

/-- A call writes the record of an entry to the record of the entry after the call, and it ends with
the same result. -/
theorem perform_record (entry : WebhookEntry) (call : WebhookCall) :
    entry.record.perform call = ((entry.perform call).1, (entry.perform call).2.record) := by
  by_cases starts : entry.state = call.source
  · have moves := moves_perform starts
    obtain ⟨request, stage, transitions⟩ := entry
    generalize WebhookEntry.perform _ call = result at moves ⊢
    cases moves with
    | passes parsed checked =>
        obtain rfl : stage = .parsed := parsed
        have isChecked : request.check = _ := checked
        rw [WebhookRecord.perform_validate_of_parsed rfl, record, isChecked]
        rfl
    | fails parsed checked =>
        obtain rfl : stage = .parsed := parsed
        have isChecked : request.check = _ := checked
        rw [WebhookRecord.perform_validate_of_parsed rfl, record, isChecked]
        rfl
    | enters validated =>
        obtain rfl : stage = _ := validated
        exact WebhookRecord.perform_accept_of_validated rfl
    | leaves reason parsed =>
        obtain rfl : stage = .parsed := parsed
        exact WebhookRecord.perform_reject_of_parsed rfl reason
  · have refused : entry.record.state ≠ call.source := starts
    rw [perform_of_ne starts, WebhookRecord.perform_of_ne refused]
    rfl

/-! ## Any calls -/

/-- Calls write the record of an entry to the record of the entry after the calls. -/
theorem performAll_record (entry : WebhookEntry) (calls : List WebhookCall) :
    entry.record.performAll calls = (entry.performAll calls).record := by
  induction calls generalizing entry with
  | nil => rfl
  | cons call rest inductionHypothesis =>
      have first : (entry.record.perform call).2 = (entry.perform call).2.record := by
        rw [perform_record]
      rw [WebhookRecord.performAll, List.foldl_cons, first]
      exact inductionHypothesis (entry.perform call).2

/-- The record of a marker is that of its entry. -/
theorem ofMarker_record
    {marker : Marker}
    {first : WebhookEntry}
    (made : ofMarker marker = .ok first) :
    WebhookRecord.ofMarker marker = .ok first.record := by
  obtain ⟨request, isRequest, rfl⟩ := Except.exists_of_map_eq_ok made
  rw [WebhookRecord.ofMarker, isRequest]
  rfl

/-- What calls make of the entry of a request. -/
inductive Reached (request : WebhookRequest) : WebhookEntry → Prop where
  | parsed : Reached request { request }
  | validated
      {policies : WebhookPolicies}
      (checked : request.check = .ok policies) :
      Reached request
        (({ request } : WebhookEntry).move (.validated policies) "all checks passed")
  | accepted
      {policies : WebhookPolicies}
      (checked : request.check = .ok policies) :
      Reached request (accepted request policies)
  | rejected (reason : WebhookError) :
      Reached request (({ request } : WebhookEntry).move (.rejected reason) reason.message)

namespace Reached

variable {request : WebhookRequest}

/-- A parsed entry was not moved before. -/
theorem eq_parsed
    (reached : Reached request entry)
    (parsed : entry.stage = .parsed) :
    entry = { request } := by
  cases reached with
  | parsed => rfl
  | validated => cases parsed
  | accepted => cases parsed
  | rejected => cases parsed

/-- A validated entry was moved by its check only. -/
theorem eq_validated
    {policies : WebhookPolicies}
    (reached : Reached request entry)
    (validated : entry.stage = .validated policies) :
    request.check = .ok policies ∧
      entry = ({ request } : WebhookEntry).move (.validated policies) "all checks passed" := by
  cases reached with
  | parsed => cases validated
  | validated checked =>
      cases validated
      exact ⟨checked, rfl⟩
  | accepted => cases validated
  | rejected => cases validated

/-- One more call. -/
theorem perform
    (reached : Reached request entry)
    (call : WebhookCall) :
    Reached request (entry.perform call).2 := by
  by_cases starts : entry.state = call.source
  · have moves := moves_perform starts
    generalize entry.perform call = result at moves
    cases moves with
    | passes parsed checked =>
        obtain rfl := reached.eq_parsed parsed
        exact .validated checked
    | fails parsed checked =>
        obtain rfl := reached.eq_parsed parsed
        exact .rejected _
    | enters validated =>
        obtain ⟨checked, rfl⟩ := reached.eq_validated validated
        exact .accepted checked
    | leaves reason parsed =>
        obtain rfl := reached.eq_parsed parsed
        exact .rejected reason
  · rw [perform_of_ne starts]
    exact reached

end Reached

/-- Any number of calls in any order. -/
theorem reached_performAll (request : WebhookRequest) (calls : List WebhookCall) :
    Reached request (({ request } : WebhookEntry).performAll calls) := by
  induction calls using List.reverseRecOn with
  | nil => exact .parsed
  | append_singleton earlier call inductionHypothesis =>
      rw [performAll, List.foldl_append]
      exact inductionHypothesis.perform call

/-! ## What holds after any calls -/

end WebhookEntry

/-- Exactly a rejected entry has a reason for it. -/
theorem Stage.isSome_rejection?_iff (stage : Stage) :
    stage.rejection?.isSome ↔ stage.state = .rejected := by
  cases stage <;> simp [rejection?, state]

namespace WebhookEntry

variable {entry : WebhookEntry} {request : WebhookRequest}

/-- Changes of state that lead from one state to another, each beginning where the one before it
ends. -/
def Connects (source target : EntryState) : List Transition → Prop
  | [] => source = target
  | transition :: rest => transition.source = source ∧ Connects transition.target target rest

/-- The states between which a log moves. -/
def steps (entry : WebhookEntry) : List (EntryState × EntryState) :=
  entry.transitions.map fun transition => (transition.source, transition.target)

/-- What a check has to resolve: the side effects, the policies and the operations. -/
def resolution (entry : WebhookEntry) :
    Option SideEffects × FailurePolicy × Option MatchPolicy × Option ReinvocationPolicy ×
      List String :=
  (entry.sideEffects, entry.failurePolicy, entry.matchPolicy, entry.reinvocationPolicy,
    entry.operations)

/-- What holds of an entry that was made of a first one by calls. -/
structure Lifecycle (first entry : WebhookEntry) : Prop where
  /-- What was asked for stays the same. -/
  request : entry.request = first.request
  /-- The log leads from the first state to the present one. -/
  connected : Connects .parsed entry.state entry.transitions
  /-- There are four logs. -/
  log : entry.steps ∈ [
    [],
    [(.parsed, .validated)],
    [(.parsed, .validated), (.validated, .accepted)],
    [(.parsed, .rejected)]]
  /-- Exactly the rejected entries have a reason for it. -/
  rejection : entry.stage.rejection?.isSome ↔ entry.state = .rejected
  /-- Nothing is resolved in the other states. -/
  unresolved : entry.state ≠ .validated → entry.state ≠ .accepted →
    entry.resolution = first.resolution
  /-- A validated entry, accepted or not, has passed the check, and has what it resolved. -/
  resolved : entry.state = .validated ∨ entry.state = .accepted →
    ∃ policies, first.request.check = .ok policies ∧
      entry.resolution = (some policies.sideEffects, policies.failurePolicy,
        policies.matchPolicy, policies.reinvocationPolicy, policies.operations)
  /-- A refused call leaves the entry as it is. -/
  refused : ∀ call error, (entry.perform call).1 = .error error → error.isRefusal = true →
    (entry.perform call).2 = entry
  /-- Accepted and rejected entries refuse every call. -/
  terminal : entry.state = .accepted ∨ entry.state = .rejected →
    ∀ call, (entry.perform call).1 = .error (.terminalState entry.state)

theorem Reached.lifecycle (reached : Reached request entry) : Lifecycle { request } entry := by
  have rejection := entry.stage.isSome_rejection?_iff
  have refused : ∀ call error, (entry.perform call).1 = .error error →
      error.isRefusal = true → (entry.perform call).2 = entry :=
    fun _ _ => perform_of_isRefusal
  have terminal : entry.state = .accepted ∨ entry.state = .rejected →
      ∀ call, (entry.perform call).1 = .error (.terminalState entry.state) := by
    intro ended call
    have isTerminal : entry.state.isTerminal = true := by
      rcases ended with isState | isState <;> rw [isState] <;> rfl
    rw [perform_of_isTerminal isTerminal]
  cases reached with
  | parsed =>
      refine ⟨rfl, rfl, .head _, rejection, fun _ _ => rfl, fun passed => ?_, refused, terminal⟩
      rcases passed with isState | isState <;> cases isState
  | @validated policies checked =>
      exact ⟨rfl, ⟨rfl, rfl⟩, .tail _ (.head _), rejection, fun differs => absurd rfl differs,
        fun _ => ⟨policies, checked, rfl⟩, refused, terminal⟩
  | @accepted policies checked =>
      exact ⟨rfl, ⟨rfl, rfl, rfl⟩, .tail _ (.tail _ (.head _)), rejection,
        fun _ differs => absurd rfl differs, fun _ => ⟨policies, checked, rfl⟩, refused, terminal⟩
  | rejected reason =>
      refine ⟨rfl, ⟨rfl, rfl⟩, .tail _ (.tail _ (.tail _ (.head _))), rejection, fun _ _ => rfl,
        fun passed => ?_, refused, terminal⟩
      rcases passed with isState | isState <;> cases isState

end WebhookEntry

namespace WebhookRecord

/-- What a check has to resolve: the side effects, the policies and the operations. -/
def resolution (record : WebhookRecord) :
    Option SideEffects × FailurePolicy × Option MatchPolicy × Option ReinvocationPolicy ×
      List String :=
  (record.sideEffects, record.failurePolicy, record.matchPolicy, record.reinvocationPolicy,
    record.operations)

/-- What holds of a record that was made of a first one by calls. -/
structure Lifecycle (first record : WebhookRecord) : Prop where
  /-- What was asked for stays the same. -/
  request : record.request = first.request
  /-- The log leads from the first state to the present one. -/
  connected : WebhookEntry.Connects .parsed record.state record.transitions
  /-- There are four logs. -/
  log : record.transitions.map (fun transition => (transition.source, transition.target)) ∈ [
    [],
    [(.parsed, .validated)],
    [(.parsed, .validated), (.validated, .accepted)],
    [(.parsed, .rejected)]]
  /-- Exactly the rejected records have a reason for it. -/
  rejection : record.rejection.isSome ↔ record.state = .rejected
  /-- In the other states every field is as it was first. -/
  unresolved : record.state ≠ .validated → record.state ≠ .accepted →
    record.resolution = first.resolution
  /-- A validated record, accepted or not, has passed the check, and all fields are written. -/
  resolved : record.state = .validated ∨ record.state = .accepted →
    ∃ policies, first.request.check = .ok policies ∧
      record.resolution = (some policies.sideEffects, policies.failurePolicy,
        policies.matchPolicy, policies.reinvocationPolicy, policies.operations)
  /-- A refused call writes nothing. -/
  refused : ∀ call error, (record.perform call).1 = .error error → error.isRefusal = true →
    (record.perform call).2 = record
  /-- Accepted and rejected records refuse every call. -/
  terminal : record.state = .accepted ∨ record.state = .rejected →
    ∀ call, (record.perform call).1 = .error (.terminalState record.state)

end WebhookRecord

namespace WebhookEntry

/-- The record of an entry lives as the entry does. -/
theorem Lifecycle.record
    {first : WebhookEntry}
    (lifecycle : Lifecycle first entry) :
    WebhookRecord.Lifecycle first.record entry.record where
  request := lifecycle.request
  connected := lifecycle.connected
  log := lifecycle.log
  rejection := lifecycle.rejection
  unresolved := lifecycle.unresolved
  resolved := lifecycle.resolved
  refused := by
    intro call error failed isRefusal
    rw [perform_record] at failed ⊢
    exact congrArg WebhookEntry.record (lifecycle.refused call error failed isRefusal)
  terminal := by
    intro ended call
    rw [perform_record]
    exact lifecycle.terminal ended call

/-- Whatever is called on the entry of a marker, and in whatever order, its log is one of four
chains that end in its state, it has a reason for a rejection exactly if it was rejected, nothing is
resolved unless a check was passed, and refused calls change nothing. After the same calls, the
record of the marker, whose fields are written one after the other, is the record of the entry, and
the same holds of it. -/
theorem lifecycle_performAll
    {marker : Marker}
    {first : WebhookEntry}
    (made : ofMarker marker = .ok first)
    (calls : List WebhookCall) :
    Lifecycle first (first.performAll calls) ∧
      ∃ record, WebhookRecord.ofMarker marker = .ok record ∧
        record.performAll calls = (first.performAll calls).record ∧
        WebhookRecord.Lifecycle record (record.performAll calls) := by
  have ofRecord := ofMarker_record made
  obtain ⟨request, -, rfl⟩ := Except.exists_of_map_eq_ok made
  have lifecycle := (reached_performAll request calls).lifecycle
  have written := performAll_record { request } calls
  exact ⟨lifecycle, _, ofRecord, written, written ▸ lifecycle.record⟩

/-- A webhook that is called at a path. -/
def checkMarker : Marker :=
  ⟨"webhook", .package "hooks", .webhook,
    [("name", .string "m.example.com"), ("path", .string "/check"), ("verbs", .list ["create"]),
      ("sideEffects", .string "None"), ("admissionReviewVersions", .list ["v1"])]⟩

/-- The entry of the webhook. -/
def checkEntry : WebhookEntry where
  request := {
    kind := .validating
    name := "m.example.com"
    path := some "/check"
    url := none
    groups := []
    versions := []
    resources := []
    verbs := ["create"]
    timeoutSeconds := 10
    reviewVersions := ["v1"]
    surfaces := ["v1"]
    namespaceSelector := none
    objectSelector := none
    sideEffects := "None"
    failurePolicy := none
    matchPolicy := none
    reinvocationPolicy := none }

/-- The entry is accepted by the second and the fourth call; all others are refused. -/
theorem lifecycle_checkEntry :
    let calls : List WebhookCall :=
      [.accept, .validate, .reject .missingClient, .accept, .validate, .reject .missingClient]
    ofMarker checkMarker = .ok checkEntry ∧
      Lifecycle checkEntry (checkEntry.performAll calls) ∧
      (checkEntry.performAll calls).steps = [(.parsed, .validated), (.validated, .accepted)] ∧
      ∃ record, WebhookRecord.ofMarker checkMarker = .ok record ∧
        record.performAll calls = (checkEntry.performAll calls).record := by
  intro calls
  have made : ofMarker checkMarker = .ok checkEntry := by decide +kernel
  obtain ⟨lifecycle, record, isRecord, written, -⟩ := lifecycle_performAll made calls
  exact ⟨made, lifecycle, by decide +kernel, record, isRecord, written⟩

end WebhookEntry
end MarkerManifests
