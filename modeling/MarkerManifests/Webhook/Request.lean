import MarkerManifests.Marker.Basic
import MarkerManifests.Webhook.Selector

/-!
# Webhook requests

What a marker asks of an admission webhook, as it is written. Checking a request resolves its texts
into policies, or finds the first thing that is wrong with it.
-/

namespace MarkerManifests

/-- The lists of webhooks. -/
inductive WebhookKind where
  /-- Webhooks that may change objects. -/
  | mutating
  /-- Webhooks that may only refuse objects. -/
  | validating
  deriving DecidableEq

/-- The word for a list. -/
def WebhookKind.word : WebhookKind → String
  | mutating => "mutating"
  | validating => "validating"

/-- What else happens when a webhook is called. -/
inductive SideEffects where
  | none
  | noneOnDryRun
  | some
  | unknown
  deriving DecidableEq

namespace SideEffects

/-- The word for side effects. -/
def word : SideEffects → String
  | none => "None"
  | noneOnDryRun => "NoneOnDryRun"
  | some => "Some"
  | unknown => "Unknown"

/-- The side effects with a word. -/
def ofWord? (word : String) : Option SideEffects :=
  [none, noneOnDryRun, some, unknown].find? (SideEffects.word · = word)

/-- Whether the side effects are refused by the current surface. -/
def isLegacy : SideEffects → Bool
  | some => true
  | unknown => true
  | _ => false

end SideEffects

/-- What happens to an object when a call fails. -/
inductive FailurePolicy where
  | fail
  | ignore
  deriving DecidableEq

/-- The word for a failure policy. -/
def FailurePolicy.word : FailurePolicy → String
  | fail => "Fail"
  | ignore => "Ignore"

/-- How the versions of requests are matched. -/
inductive MatchPolicy where
  | exact
  | equivalent
  deriving DecidableEq

/-- The word for a match policy. -/
def MatchPolicy.word : MatchPolicy → String
  | exact => "Exact"
  | equivalent => "Equivalent"

/-- Whether a webhook is called again after later changes. -/
inductive ReinvocationPolicy where
  | never
  | ifNeeded
  deriving DecidableEq

/-- The word for a reinvocation policy. -/
def ReinvocationPolicy.word : ReinvocationPolicy → String
  | never => "Never"
  | ifNeeded => "IfNeeded"

/-- The states of an entry. -/
inductive EntryState where
  | parsed
  | validated
  | accepted
  | rejected
  deriving DecidableEq

namespace EntryState

/-- The word for a state. -/
def word : EntryState → String
  | parsed => "PARSED"
  | validated => "VALIDATED"
  | accepted => "ACCEPTED"
  | rejected => "REJECTED"

/-- Whether an entry never leaves the state. -/
def isTerminal : EntryState → Bool
  | accepted => true
  | rejected => true
  | _ => false

end EntryState

/-- Why a webhook is rejected, or why an entry does not change its state. -/
inductive WebhookError where
  | selector (argument : String) (error : SelectorError)
  | invalidSideEffects (word : String)
  | legacySideEffects (word : String)
  | timeoutOutOfRange (seconds : Int64)
  | noReviewVersions
  | conflictingClients (path url : String)
  | missingClient
  | invalidFailurePolicy (word : String)
  | invalidMatchPolicy (word : String)
  | invalidReinvocationPolicy (word : String)
  | reinvocationOnValidating
  | invalidOperation (verb : String)
  | unknownSurface (version : String)
  | duplicateName (kind : WebhookKind) (name : String)
  | invalidTransition (source target : EntryState)
  | terminalState (state : EntryState)
  deriving DecidableEq

/-- The wording of an error. -/
def WebhookError.message : WebhookError → String
  | selector argument error => s!"{argument}: {error.message}"
  | invalidSideEffects word =>
    "sideEffects " ++ Text.displayed word ++ " is not one of None, NoneOnDryRun, Some, Unknown"
  | legacySideEffects word =>
    s!"sideEffects {word} is not allowed for v1 webhooks; use None or NoneOnDryRun"
  | timeoutOutOfRange seconds =>
    "timeoutSeconds " ++ String.ofList (Integer.render seconds) ++ " is outside the range 1..=30"
  | noReviewVersions => "admissionReviewVersions must list at least one version"
  | conflictingClients path url =>
    "webhook sets both path " ++ Text.displayed path ++ " and url " ++ Text.displayed url
  | missingClient => "webhook sets neither path nor url"
  | invalidFailurePolicy word =>
    "failurePolicy " ++ Text.displayed word ++ " is not one of Fail, Ignore"
  | invalidMatchPolicy word =>
    "matchPolicy " ++ Text.displayed word ++ " is not one of Exact, Equivalent"
  | invalidReinvocationPolicy word =>
    "reinvocationPolicy " ++ Text.displayed word ++ " is not one of Never, IfNeeded"
  | reinvocationOnValidating => "reinvocationPolicy is only allowed on mutating webhooks"
  | invalidOperation verb => "verb " ++ Text.displayed verb ++ " is not an admission operation"
  | unknownSurface version =>
    "webhookVersions entry " ++ Text.displayed version ++ " is not one of v1, v1beta1"
  | duplicateName kind name =>
    kind.word ++ " webhook name " ++ Text.displayed name ++ " is already taken"
  | invalidTransition source target =>
    s!"invalid webhook transition: {source.word} -> {target.word}"
  | terminalState state => s!"webhook entry is in terminal state {state.word}"

/-- What a marker asks of a webhook. -/
structure WebhookRequest where
  kind : WebhookKind
  name : String
  /-- The path at the configured service. -/
  path : Option String
  /-- The address of a webhook outside the configured service. -/
  url : Option String
  groups : List String
  versions : List String
  resources : List String
  verbs : List String
  timeoutSeconds : Int64
  reviewVersions : List String
  /-- The versions of the surface for which the webhook is published. -/
  surfaces : List String
  namespaceSelector : Option LabelSelector
  objectSelector : Option LabelSelector
  sideEffects : String
  failurePolicy : Option String
  matchPolicy : Option String
  reinvocationPolicy : Option String
  deriving DecidableEq

/-- What a checked request resolves to. -/
structure WebhookPolicies where
  sideEffects : SideEffects
  failurePolicy : FailurePolicy
  matchPolicy : Option MatchPolicy
  reinvocationPolicy : Option ReinvocationPolicy
  operations : List String
  deriving DecidableEq

namespace WebhookRequest

/-- The current version of the surface. -/
def currentSurface : String := "v1"

/-- The legacy version of the surface. -/
def legacySurface : String := "v1beta1"

/-- The timeout of a request that names none. -/
def defaultTimeout : Int64 := 10

/-- The selector of an argument, if the marker has the argument. -/
def selectorOf (marker : Marker) (argument : String) :
    Except WebhookError (Option LabelSelector) :=
  match marker.record? argument with
  | none => .ok none
  | some record =>
    match LabelSelector.ofRecord record with
    | .ok selector => .ok (some selector)
    | .error error => .error (.selector argument error)

/-- The surfaces that a marker lists, or the current one if it lists none. -/
def surfacesOf (marker : Marker) : List String :=
  match marker.list "webhookVersions" with
  | [] => [currentSurface]
  | listed => listed

/-- The request of a marker. -/
def ofMarker (marker : Marker) : Except WebhookError WebhookRequest :=
  match selectorOf marker "namespaceSelector" with
  | .error error => .error error
  | .ok namespaceSelector =>
    match selectorOf marker "objectSelector" with
    | .error error => .error error
    | .ok objectSelector => .ok {
        kind := if marker.flag "mutating" then .mutating else .validating
        name := (marker.string? "name").getD ""
        path := marker.string? "path"
        url := marker.string? "url"
        groups := marker.list "groups"
        versions := marker.list "versions"
        resources := marker.list "resources"
        verbs := marker.list "verbs"
        timeoutSeconds := (marker.integer? "timeoutSeconds").getD defaultTimeout
        reviewVersions := marker.list "admissionReviewVersions"
        surfaces := surfacesOf marker
        namespaceSelector
        objectSelector
        sideEffects := (marker.string? "sideEffects").getD ""
        failurePolicy := marker.string? "failurePolicy"
        matchPolicy := marker.string? "matchPolicy"
        reinvocationPolicy := marker.string? "reinvocationPolicy" }

/-- Whether the webhook is published for the current surface. -/
def targetsCurrent (request : WebhookRequest) : Bool :=
  request.surfaces.contains currentSurface

/-- The text with its capital letters of the basic alphabet made small. -/
def folded (text : String) : String :=
  String.ofList (text.toList.map Char.toLower)

/-- The operation that a verb names, in any case. -/
def operation? (verb : String) : Option String :=
  if folded verb = "create" then some "CREATE"
  else if folded verb = "update" then some "UPDATE"
  else if folded verb = "delete" then some "DELETE"
  else if folded verb = "connect" then some "CONNECT"
  else if folded verb = "*" then some "*"
  else none

/-- Checks that every surface is known. -/
def checkSurfaces (request : WebhookRequest) : Except WebhookError Unit :=
  match request.surfaces.find? fun version =>
      !([currentSurface, legacySurface].contains version) with
  | some version => .error (.unknownSurface version)
  | none => .ok ()

/-- Resolves the side effects. -/
def checkSideEffects (request : WebhookRequest) : Except WebhookError SideEffects :=
  match SideEffects.ofWord? request.sideEffects with
  | none => .error (.invalidSideEffects request.sideEffects)
  | some effects =>
    if request.targetsCurrent && effects.isLegacy then
      .error (.legacySideEffects request.sideEffects)
    else
      .ok effects

/-- Checks the timeout. -/
def checkTimeout (request : WebhookRequest) : Except WebhookError Unit :=
  if 1 ≤ request.timeoutSeconds ∧ request.timeoutSeconds ≤ 30 then .ok ()
  else .error (.timeoutOutOfRange request.timeoutSeconds)

/-- Checks that a review version is named. -/
def checkReviewVersions (request : WebhookRequest) : Except WebhookError Unit :=
  if request.reviewVersions.all (· = "") then .error .noReviewVersions else .ok ()

/-- Checks that the webhook is reached in exactly one way. -/
def checkClient (request : WebhookRequest) : Except WebhookError Unit :=
  match request.path, request.url with
  | some path, some url => .error (.conflictingClients path url)
  | none, none => .error .missingClient
  | _, _ => .ok ()

/-- Resolves the failure policy, which is written in any case. -/
def checkFailurePolicy (request : WebhookRequest) : Except WebhookError FailurePolicy :=
  match request.failurePolicy with
  | none => .ok .fail
  | some word =>
    if folded word = "fail" then .ok .fail
    else if folded word = "ignore" then .ok .ignore
    else .error (.invalidFailurePolicy word)

/-- Resolves the match policy. -/
def checkMatchPolicy (request : WebhookRequest) : Except WebhookError (Option MatchPolicy) :=
  match request.matchPolicy with
  | none => .ok none
  | some word =>
    if word = "Exact" then .ok (some .exact)
    else if word = "Equivalent" then .ok (some .equivalent)
    else .error (.invalidMatchPolicy word)

/-- Resolves the reinvocation policy, which only a webhook that changes objects has. -/
def checkReinvocationPolicy (request : WebhookRequest) :
    Except WebhookError (Option ReinvocationPolicy) :=
  match request.reinvocationPolicy with
  | none => .ok none
  | some word =>
    if request.kind = .validating then .error .reinvocationOnValidating
    else if word = "Never" then .ok (some .never)
    else if word = "IfNeeded" then .ok (some .ifNeeded)
    else .error (.invalidReinvocationPolicy word)

/-- Resolves verbs. -/
def checkOperations : List String → Except WebhookError (List String)
  | [] => .ok []
  | verb :: rest =>
    match operation? verb with
    | none => .error (.invalidOperation verb)
    | some operation => (checkOperations rest).map (operation :: ·)

/-- Checks a request and resolves its texts. The first fault counts. -/
def check (request : WebhookRequest) : Except WebhookError WebhookPolicies := do
  request.checkSurfaces
  let sideEffects ← request.checkSideEffects
  request.checkTimeout
  request.checkReviewVersions
  request.checkClient
  let failurePolicy ← request.checkFailurePolicy
  let matchPolicy ← request.checkMatchPolicy
  let reinvocationPolicy ← request.checkReinvocationPolicy
  let operations ← checkOperations request.verbs
  return { sideEffects, failurePolicy, matchPolicy, reinvocationPolicy, operations }

end WebhookRequest
end MarkerManifests
