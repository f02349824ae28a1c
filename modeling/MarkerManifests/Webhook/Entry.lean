import MarkerManifests.Webhook.Request

/-!
# Webhook entries

An entry is a request on its way into a list. It is parsed, validated and accepted in this order, or
it is rejected before it is validated. Accepted and rejected entries do not change any more, and
every change is recorded.
-/

namespace MarkerManifests

/-- How far an entry has come. -/
inductive Stage where
  | parsed
  | validated (policies : WebhookPolicies)
  | accepted (policies : WebhookPolicies)
  | rejected (reason : WebhookError)
  deriving DecidableEq

namespace Stage

/-- The state of a stage. -/
def state : Stage → EntryState
  | parsed => .parsed
  | validated _ => .validated
  | accepted _ => .accepted
  | rejected _ => .rejected

/-- What the request was resolved to; before it is validated there is nothing. -/
def policies? : Stage → Option WebhookPolicies
  | validated policies => some policies
  | accepted policies => some policies
  | _ => none

/-- Why the entry was rejected. -/
def rejection? : Stage → Option WebhookError
  | rejected reason => some reason
  | _ => none

end Stage

/-- A change of state. -/
structure Transition where
  source : EntryState
  target : EntryState
  reason : String
  deriving DecidableEq

/-- A request on its way into a list. -/
structure WebhookEntry where
  request : WebhookRequest
  stage : Stage := .parsed
  /-- The changes of state in order. -/
  transitions : List Transition := []
  deriving DecidableEq

namespace WebhookEntry

/-- The state of an entry. -/
def state (entry : WebhookEntry) : EntryState :=
  entry.stage.state

/-- The entry of a marker. -/
def ofMarker (marker : Marker) : Except WebhookError WebhookEntry :=
  (WebhookRequest.ofMarker marker).map fun request => { request }

/-- The failure policy, which is to fail as long as nothing else is resolved. -/
def failurePolicy (entry : WebhookEntry) : FailurePolicy :=
  (entry.stage.policies?.map (·.failurePolicy)).getD .fail

/-- The resolved side effects. -/
def sideEffects (entry : WebhookEntry) : Option SideEffects :=
  entry.stage.policies?.map (·.sideEffects)

/-- The resolved match policy. -/
def matchPolicy (entry : WebhookEntry) : Option MatchPolicy :=
  entry.stage.policies?.bind (·.matchPolicy)

/-- The resolved reinvocation policy. -/
def reinvocationPolicy (entry : WebhookEntry) : Option ReinvocationPolicy :=
  entry.stage.policies?.bind (·.reinvocationPolicy)

/-- The resolved operations. -/
def operations (entry : WebhookEntry) : List String :=
  (entry.stage.policies?.map (·.operations)).getD []

/-- Moves an entry to a stage and records why. -/
def move (entry : WebhookEntry) (stage : Stage) (reason : String) : WebhookEntry :=
  { entry with
    stage := stage
    transitions := entry.transitions ++ [⟨entry.state, stage.state, reason⟩] }

/-- Why an entry does not move from a state to another one. -/
def refusal (source target : EntryState) : WebhookError :=
  if source.isTerminal then .terminalState source else .invalidTransition source target

/-- Checks the request of a parsed entry, which is validated or rejected by this. -/
def validate (entry : WebhookEntry) : Except WebhookError Unit × WebhookEntry :=
  match entry.stage with
  | .parsed =>
    match entry.request.check with
    | .ok policies => (.ok (), entry.move (.validated policies) "all checks passed")
    | .error error => (.error error, entry.move (.rejected error) error.message)
  | stage => (.error (refusal stage.state .validated), entry)

/-- Accepts a validated entry. -/
def accept (entry : WebhookEntry) : Except WebhookError Unit × WebhookEntry :=
  match entry.stage with
  | .validated policies => (.ok (), entry.move (.accepted policies) "placed in output list")
  | stage => (.error (refusal stage.state .accepted), entry)

/-- Rejects a parsed entry without checking its request. -/
def reject (entry : WebhookEntry) (reason : WebhookError) :
    Except WebhookError Unit × WebhookEntry :=
  match entry.stage with
  | .parsed => (.ok (), entry.move (.rejected reason) reason.message)
  | stage => (.error (refusal stage.state .rejected), entry)

end WebhookEntry
end MarkerManifests
