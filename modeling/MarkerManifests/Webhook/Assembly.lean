import MarkerManifests.Marker.Index
import MarkerManifests.Vocabulary.Webhook
import MarkerManifests.Webhook.Entry

/-!
# Lists of webhooks

The webhooks of an index in two lists, in source order. The first valid webhook with a name keeps
the name in its list; later ones with the name and webhooks that are not valid are reported and left
out.
-/

namespace MarkerManifests

/-- Accepted webhooks. -/
structure WebhookLists where
  mutating : List WebhookEntry := []
  validating : List WebhookEntry := []
  deriving DecidableEq

namespace WebhookLists

/-- The list of a kind. -/
def ofKind (lists : WebhookLists) : WebhookKind → List WebhookEntry
  | .mutating => lists.mutating
  | .validating => lists.validating

/-- The webhooks of both lists. -/
def entries (lists : WebhookLists) : List WebhookEntry :=
  lists.mutating ++ lists.validating

/-- The names of the webhooks of both lists. -/
def names (lists : WebhookLists) : List String :=
  lists.entries.map (·.request.name)

/-- Whether a name is taken in the list of a kind. -/
def isTaken (lists : WebhookLists) (kind : WebhookKind) (name : String) : Bool :=
  (lists.ofKind kind).any (·.request.name = name)

/-- Appends an entry to the list of its kind. -/
def add (lists : WebhookLists) (entry : WebhookEntry) : WebhookLists :=
  match entry.request.kind with
  | .mutating => { lists with mutating := lists.mutating ++ [entry] }
  | .validating => { lists with validating := lists.validating ++ [entry] }

/-- The accepted entry of a request whose name is not taken and which passes its checks. -/
def acceptEntry (lists : WebhookLists) (entry : WebhookEntry) : Except WebhookError WebhookEntry :=
  let request := entry.request
  if lists.isTaken request.kind request.name then
    .error (.duplicateName request.kind request.name)
  else
    match entry.validate with
    | (.error error, _) => .error error
    | (.ok (), validated) =>
      match validated.accept with
      | (.error error, _) => .error error
      | (.ok (), accepted) => .ok accepted

/-- The kind of diagnostic that reports an error: a malformed selector is a malformed marker. -/
def diagnosticKind : WebhookError → DiagnosticKind
  | .selector _ _ => .syntactic
  | _ => .semantic

/-- The accepted entry of a marker. -/
def acceptMarker (lists : WebhookLists) (marker : Marker) : Except WebhookError WebhookEntry :=
  match WebhookEntry.ofMarker marker with
  | .error error => .error error
  | .ok entry => lists.acceptEntry entry

/-- Adds the webhooks of markers and reports those that are left out. -/
def addMarkers (lists : WebhookLists) (diagnostics : Diagnostics) :
    Markers → WebhookLists × Diagnostics
  | [] => (lists, diagnostics)
  | marker :: rest =>
    match lists.acceptMarker marker with
    | .ok entry => (lists.add entry).addMarkers diagnostics rest
    | .error error =>
      lists.addMarkers
        (diagnostics ++ [⟨diagnosticKind error, marker.location, error.message⟩]) rest

/-- The webhook markers of an index that are switched on, in source order. -/
def activeMarkers (index : MarkerIndex) (gates : Gate.State) : Markers :=
  ((index.consumedBy .webhook).named Vocabulary.webhook).filter fun marker =>
    match marker.gate? "featureGate" with
    | some expr => expr.eval gates
    | none => true

/-- The webhooks of an index and the diagnostics of those that are left out. -/
def assemble (index : MarkerIndex) (gates : Gate.State) : WebhookLists × Diagnostics :=
  addMarkers {} [] (activeMarkers index gates)

end WebhookLists
end MarkerManifests
