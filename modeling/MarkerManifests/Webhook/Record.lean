import MarkerManifests.Webhook.Entry

/-!
# Webhook records

A webhook as one record with a field for everything that is known of it. The fields are written one
after the other, and what was written before a step fails remains, so it is up to the steps that no
field is written too early and that what is resolved, the state and the log fit together.
-/

namespace MarkerManifests

/-- A webhook with its state, what its request was resolved to and its log. -/
structure WebhookRecord where
  state : EntryState := .parsed
  /-- What is asked for, as it is written. -/
  request : WebhookRequest
  sideEffects : Option SideEffects := none
  failurePolicy : FailurePolicy := .fail
  matchPolicy : Option MatchPolicy := none
  reinvocationPolicy : Option ReinvocationPolicy := none
  operations : List String := []
  /-- Why the webhook was rejected. -/
  rejection : Option WebhookError := none
  /-- The changes of state in order. -/
  transitions : List Transition := []
  deriving DecidableEq

/-- A step that writes a record and may fail; what it wrote before it failed remains. -/
abbrev RecordStep := ExceptT WebhookError (StateM WebhookRecord)

namespace WebhookRecord

/-- The record of a marker. -/
def ofMarker (marker : Marker) : Except WebhookError WebhookRecord :=
  (WebhookRequest.ofMarker marker).map fun request => { request }

/-- A check that writes nothing. -/
def checking {Result : Type} (outcome : Except WebhookError Result) : RecordStep Result :=
  ExceptT.mk (pure outcome)

/-- Refuses to go on in another state than the expected one. -/
def requireState (expected target : EntryState) : RecordStep Unit := do
  let record ← get
  if record.state.isTerminal then
    throw (.terminalState record.state)
  else if record.state ≠ expected then
    throw (.invalidTransition record.state target)

/-- Writes a change of state to the log, and then the state. -/
def move (target : EntryState) (reason : String) : RecordStep Unit := do
  modify fun record => { record with
    transitions := record.transitions ++ [⟨record.state, target, reason⟩] }
  modify fun record => { record with state := target }

/-- Checks a request and writes what it is resolved to, field by field. -/
def resolve (request : WebhookRequest) : RecordStep Unit := do
  checking request.checkSurfaces
  let sideEffects ← checking request.checkSideEffects
  checking request.checkTimeout
  checking request.checkReviewVersions
  checking request.checkClient
  let failurePolicy ← checking request.checkFailurePolicy
  let matchPolicy ← checking request.checkMatchPolicy
  let reinvocationPolicy ← checking request.checkReinvocationPolicy
  let operations ← checking (WebhookRequest.checkOperations request.verbs)
  modify fun record => { record with sideEffects := some sideEffects }
  modify fun record => { record with failurePolicy := failurePolicy }
  modify fun record => { record with matchPolicy := matchPolicy }
  modify fun record => { record with reinvocationPolicy := reinvocationPolicy }
  modify fun record => { record with operations := operations }

/-- Writes the state that follows from the outcome of a check, and why the check failed. -/
def settle : Except WebhookError Unit → RecordStep Unit
  | .ok () => move .validated "all checks passed"
  | .error error => do
    move .rejected error.message
    modify fun record => { record with rejection := some error }
    throw error

/-- Checks a parsed webhook, which is validated or rejected by this. -/
def validate : RecordStep Unit := do
  requireState .parsed .validated
  let record ← get
  settle (← ExceptT.lift (resolve record.request).run)

/-- Accepts a validated webhook. -/
def accept : RecordStep Unit := do
  requireState .validated .accepted
  move .accepted "placed in output list"

/-- Rejects a parsed webhook without checking its request. -/
def reject (reason : WebhookError) : RecordStep Unit := do
  requireState .parsed .rejected
  move .rejected reason.message
  modify fun record => { record with rejection := some reason }

end WebhookRecord
end MarkerManifests
