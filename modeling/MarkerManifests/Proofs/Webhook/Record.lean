import MarkerManifests.Webhook.Record

/-!
# Records of entries

Whatever stage an entry has, its record has every field as the stage says. Each step writes the
record of an entry to the record of the entry after the step, whether the step fails or not. So
nothing is half written, and no field is written where a check fails.
-/

namespace MarkerManifests

/-- The record in which every field is as the entry has it. -/
def WebhookEntry.record (entry : WebhookEntry) : WebhookRecord where
  state := entry.state
  request := entry.request
  sideEffects := entry.sideEffects
  failurePolicy := entry.failurePolicy
  matchPolicy := entry.matchPolicy
  reinvocationPolicy := entry.reinvocationPolicy
  operations := entry.operations
  rejection := entry.stage.rejection?
  transitions := entry.transitions

/-- A call that asks a webhook to move. -/
inductive WebhookCall where
  | validate
  | accept
  | reject (reason : WebhookError)

namespace WebhookCall

/-- The state in which a webhook has to be for a call to move it. -/
def source : WebhookCall → EntryState
  | validate => .parsed
  | accept => .validated
  | reject _ => .parsed

/-- The state to which a call is to move a webhook. -/
def target : WebhookCall → EntryState
  | validate => .validated
  | accept => .accepted
  | reject _ => .rejected

/-- No call moves a webhook out of a terminal state. -/
theorem ne_source_of_isTerminal
    {state : EntryState}
    (terminal : state.isTerminal = true)
    (call : WebhookCall) :
    state ≠ call.source := by
  rintro rfl
  cases call <;> cases terminal

end WebhookCall

namespace WebhookRecord

/-- The result of a step on a record, and the record after it. -/
def after (record : WebhookRecord) (step : RecordStep Unit) :
    Except WebhookError Unit × WebhookRecord :=
  step.run.run record

/-- The record with the fields that a request is resolved to. -/
def withPolicies (record : WebhookRecord) (policies : WebhookPolicies) : WebhookRecord :=
  { record with
    sideEffects := some policies.sideEffects
    failurePolicy := policies.failurePolicy
    matchPolicy := policies.matchPolicy
    reinvocationPolicy := policies.reinvocationPolicy
    operations := policies.operations }

/-- The record after a change of state. -/
def moved (record : WebhookRecord) (target : EntryState) (reason : String) : WebhookRecord :=
  { record with
    state := target
    transitions := record.transitions ++ [⟨record.state, target, reason⟩] }

variable {record : WebhookRecord}

/-- A step that writes all policies of a check that passes, and nothing if the check fails. -/
def Writes
    (record : WebhookRecord)
    (step : RecordStep Unit)
    (check : Except WebhookError WebhookPolicies) : Prop :=
  record.after step =
    match check with
    | .ok policies => (.ok (), record.withPolicies policies)
    | .error error => (.error error, record)

theorem Writes.bind
    {Result : Type}
    {outcome : Except WebhookError Result}
    {next : Result → RecordStep Unit}
    {check : Result → Except WebhookError WebhookPolicies}
    (writes : ∀ result, record.Writes (next result) (check result)) :
    record.Writes (checking outcome >>= next) (outcome >>= check) := by
  cases outcome with
  | error error => rfl
  | ok result => exact writes result

/-- The fields are checked before the first of them is written. -/
theorem writes_resolve (record : WebhookRecord) (request : WebhookRequest) :
    record.Writes (resolve request) request.check := by
  unfold resolve WebhookRequest.check
  refine .bind fun _ => .bind fun _ => .bind fun _ => .bind fun _ => .bind fun _ => .bind fun _ =>
    .bind fun _ => .bind fun _ => .bind fun _ => ?_
  rfl

/-! ## Calls -/

/-- The step of a call. -/
def step : WebhookCall → RecordStep Unit
  | .validate => validate
  | .accept => accept
  | .reject reason => reject reason

/-- The result of a call and the record after it. -/
def perform (record : WebhookRecord) (call : WebhookCall) :
    Except WebhookError Unit × WebhookRecord :=
  record.after (step call)

/-- The record after calls. -/
def performAll (record : WebhookRecord) (calls : List WebhookCall) : WebhookRecord :=
  calls.foldl (fun record call => (record.perform call).2) record

/-- A step goes on in the state that it requires only. -/
theorem after_requireState
    {expected target : EntryState}
    (next : RecordStep Unit) :
    record.after (do requireState expected target; next) =
      if record.state.isTerminal then (.error (.terminalState record.state), record)
      else if record.state ≠ expected then
        (.error (.invalidTransition record.state target), record)
      else record.after next := by
  change record.after ((if record.state.isTerminal then throw (.terminalState record.state)
    else if record.state ≠ expected then throw (.invalidTransition record.state target)
    else pure () : RecordStep Unit) >>= fun _ => next) = _
  split
  · rfl
  · split <;> rfl

theorem after_requireState_of_ne
    {expected target : EntryState}
    (elsewhere : record.state ≠ expected)
    (next : RecordStep Unit) :
    record.after (do requireState expected target; next) =
      (.error (WebhookEntry.refusal record.state target), record) := by
  rw [after_requireState, if_pos elsewhere, WebhookEntry.refusal]
  split <;> rfl

theorem after_requireState_of_eq
    {expected target : EntryState}
    (starts : record.state = expected)
    (continues : expected.isTerminal = false)
    (next : RecordStep Unit) :
    record.after (do requireState expected target; next) = record.after next := by
  rw [after_requireState, starts, continues, if_neg Bool.false_ne_true, if_neg (not_not_intro rfl)]

/-- A call that finds a record in another state is refused and writes nothing. -/
theorem perform_of_ne
    {call : WebhookCall}
    (elsewhere : record.state ≠ call.source) :
    record.perform call = (.error (WebhookEntry.refusal record.state call.target), record) := by
  cases call <;> exact after_requireState_of_ne elsewhere _

theorem after_get (next : WebhookRecord → RecordStep Unit) :
    record.after (get >>= next) = record.after (next record) := rfl

theorem after_lift
    (first : RecordStep Unit)
    (next : Except WebhookError Unit → RecordStep Unit) :
    record.after (ExceptT.lift first.run >>= next) =
      (record.after first).2.after (next (record.after first).1) := rfl

/-- A check of a parsed record is settled in the record that the check leaves. -/
theorem perform_validate_eq_settle (parsed : record.state = .parsed) :
    record.perform .validate =
      (record.after (resolve record.request)).2.after
        (settle (record.after (resolve record.request)).1) := by
  rw [perform, step, validate, after_requireState_of_eq parsed rfl, after_get, after_lift]

/-- What a check of a parsed record leads to: all policies are written if it passes, and none of
them if it fails. -/
theorem perform_validate_of_parsed (parsed : record.state = .parsed) :
    record.perform .validate =
      match record.request.check with
      | .ok policies =>
        (.ok (), (record.withPolicies policies).moved .validated "all checks passed")
      | .error error =>
        (.error error, { record.moved .rejected error.message with rejection := some error }) := by
  have writes := writes_resolve record record.request
  unfold Writes at writes
  rw [perform_validate_eq_settle parsed, writes]
  cases record.request.check with
  | ok policies => rfl
  | error error => rfl

theorem perform_accept_of_validated (validated : record.state = .validated) :
    record.perform .accept = (.ok (), record.moved .accepted "placed in output list") :=
  after_requireState_of_eq validated rfl _

theorem perform_reject_of_parsed
    (parsed : record.state = .parsed)
    (reason : WebhookError) :
    record.perform (.reject reason) =
      (.ok (), { record.moved .rejected reason.message with rejection := some reason }) :=
  after_requireState_of_eq parsed rfl _

end WebhookRecord
end MarkerManifests
