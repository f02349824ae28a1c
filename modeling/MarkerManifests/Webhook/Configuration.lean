import MarkerManifests.Webhook.Assembly

/-!
# Webhook configurations

The documents that publish webhooks: for each list one document for every version of the surface,
the current version first and others in the order in which they are first listed.
-/

namespace MarkerManifests

/-- The names that configurations use. -/
structure WebhookNames where
  configuration : String := "webhook-configuration"
  service : String := "webhook-service"
  serviceNamespace : String := "system"
  deriving DecidableEq

/-- How a webhook is reached. -/
inductive WebhookClient where
  | service (name namespaceName : String) (path : Option String)
  | url (address : String)
  deriving DecidableEq

/-- A webhook as it is published. -/
structure PublishedWebhook where
  name : String
  reviewVersions : List String
  client : WebhookClient
  failurePolicy : FailurePolicy
  matchPolicy : Option MatchPolicy
  namespaceSelector : Option LabelSelector
  objectSelector : Option LabelSelector
  reinvocationPolicy : Option ReinvocationPolicy
  groups : List String
  versions : List String
  operations : List String
  resources : List String
  sideEffects : Option SideEffects
  timeoutSeconds : Int64
  deriving DecidableEq

/-- A document of webhooks. -/
structure WebhookConfiguration where
  kind : WebhookKind
  /-- The version of the surface. -/
  surface : String
  name : String
  webhooks : List PublishedWebhook
  deriving DecidableEq

namespace WebhookClient

/-- How the webhook of a request is reached: at its address, or at its path at the service. -/
def ofRequest (names : WebhookNames) (request : WebhookRequest) : WebhookClient :=
  match request.url with
  | some address => .url address
  | none => .service names.service names.serviceNamespace request.path

/-- Writes how a webhook is reached. -/
def toJson : WebhookClient → Json
  | service name namespaceName path => .object [("service", .object ([
      ("name", .string name),
      ("namespace", .string namespaceName)] ++
      Json.optionEntry "path" .string path))]
  | url address => .object [("url", .string address)]

end WebhookClient

namespace PublishedWebhook

/-- The published form of an entry. -/
def ofEntry (names : WebhookNames) (entry : WebhookEntry) : PublishedWebhook where
  name := entry.request.name
  reviewVersions := entry.request.reviewVersions
  client := .ofRequest names entry.request
  failurePolicy := entry.failurePolicy
  matchPolicy := entry.matchPolicy
  namespaceSelector := entry.request.namespaceSelector
  objectSelector := entry.request.objectSelector
  reinvocationPolicy := entry.reinvocationPolicy
  groups := entry.request.groups
  versions := entry.request.versions
  operations := entry.operations
  resources := entry.request.resources
  sideEffects := entry.sideEffects
  timeoutSeconds := entry.request.timeoutSeconds

/-- Writes a webhook. -/
def toJson (webhook : PublishedWebhook) : Json :=
  .object ([
    ("name", .string webhook.name),
    ("admissionReviewVersions", .strings webhook.reviewVersions),
    ("clientConfig", webhook.client.toJson),
    ("failurePolicy", .string webhook.failurePolicy.word)] ++
    Json.optionEntry "matchPolicy" (fun policy => .string policy.word) webhook.matchPolicy ++
    Json.optionEntry "namespaceSelector" LabelSelector.toJson webhook.namespaceSelector ++
    Json.optionEntry "objectSelector" LabelSelector.toJson webhook.objectSelector ++
    Json.optionEntry "reinvocationPolicy" (fun policy => .string policy.word)
      webhook.reinvocationPolicy ++
    [("rules", .array [.object [
      ("apiGroups", .strings webhook.groups),
      ("apiVersions", .strings webhook.versions),
      ("operations", .strings webhook.operations),
      ("resources", .strings webhook.resources)]])] ++
    Json.optionEntry "sideEffects" (fun effects => .string effects.word) webhook.sideEffects ++
    [("timeoutSeconds", .number (.ofInt64 webhook.timeoutSeconds))])

end PublishedWebhook

namespace WebhookConfiguration

/-- The version of the documents for a version of the surface. -/
def apiVersion (configuration : WebhookConfiguration) : String :=
  "admissionregistration.k8s.io/" ++ configuration.surface

/-- The word for the kind of the documents of a list. -/
def kindWord : WebhookKind → String
  | .mutating => "MutatingWebhookConfiguration"
  | .validating => "ValidatingWebhookConfiguration"

/-- Writes a document of webhooks. -/
def toJson (configuration : WebhookConfiguration) : Json :=
  .object [
    ("apiVersion", .string configuration.apiVersion),
    ("kind", .string (kindWord configuration.kind)),
    ("metadata", .object [("name", .string configuration.name)]),
    ("webhooks", .array (configuration.webhooks.map PublishedWebhook.toJson))]

end WebhookConfiguration

namespace WebhookLists

/-- The versions of the surface that entries list, without those seen before. -/
def surfacesFrom (seen : List String) : List String → List String
  | [] => []
  | version :: rest =>
    if seen.contains version then surfacesFrom seen rest
    else version :: surfacesFrom (version :: seen) rest

/-- The versions of the surface for which there may be documents, the current one first. -/
def surfaces (entries : List WebhookEntry) : List String :=
  WebhookRequest.currentSurface ::
    surfacesFrom [WebhookRequest.currentSurface] (entries.flatMap (·.request.surfaces))

/-- The published forms of entries for a version of the surface. An entry is published as often as
it lists the version. -/
def published (names : WebhookNames) (entries : List WebhookEntry) (version : String) :
    List PublishedWebhook :=
  entries.flatMap fun entry =>
    (entry.request.surfaces.filter (· = version)).map fun _ => .ofEntry names entry

/-- The documents of one list; there is none without webhooks. -/
def configurationsOf (names : WebhookNames) (kind : WebhookKind) (entries : List WebhookEntry) :
    List WebhookConfiguration :=
  ((surfaces entries).map fun version =>
    ⟨kind, version, names.configuration, published names entries version⟩).filter
      fun configuration => !configuration.webhooks.isEmpty

/-- The documents of both lists. -/
def configurations (lists : WebhookLists) (names : WebhookNames) : List WebhookConfiguration :=
  configurationsOf names .mutating (lists.mutating.filter (·.state = .accepted)) ++
    configurationsOf names .validating (lists.validating.filter (·.state = .accepted))

end WebhookLists
end MarkerManifests
