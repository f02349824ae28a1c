import MarkerManifests.Proofs.Webhook.Check
import MarkerManifests.Proofs.Webhook.Greedy
import MarkerManifests.Webhook.Configuration

/-!
# Published webhooks

Every document that is made from an index is one that its version of the surface takes. A request is
checked once, for all the surfaces that it lists, and the documents are made of accepted entries
only; so what the check grants holds in each document in which the webhook is published.
-/

namespace MarkerManifests

/-! ## What the surface takes -/

/-- A webhook that the documents of a version and of a list may contain. -/
structure PublishedWebhook.IsValid
    (webhook : PublishedWebhook)
    (apiVersion : String)
    (kind : WebhookKind) : Prop where
  timeout : 1 ≤ webhook.timeoutSeconds ∧ webhook.timeoutSeconds ≤ 30
  /-- The client that is written has either a service or an address. -/
  client : (webhook.client.toJson.field? "service").isSome ↔
    webhook.client.toJson.field? "url" = none
  /-- The service is called at a path. -/
  path : ∀ name namespaceName path,
    webhook.client = .service name namespaceName path → path.isSome
  reviewed : ∃ version ∈ webhook.reviewVersions, version ≠ ""
  /-- There are side effects, and the current version does not take the legacy ones. -/
  sideEffects : ∃ effects, webhook.sideEffects = some effects ∧
    (apiVersion = "admissionregistration.k8s.io/v1" → effects = .none ∨ effects = .noneOnDryRun)
  reinvoked : webhook.reinvocationPolicy.isSome → kind = .mutating

/-- A document that its version of the surface takes. -/
structure WebhookConfiguration.IsValid (configuration : WebhookConfiguration) : Prop where
  version : configuration.apiVersion = "admissionregistration.k8s.io/v1" ∨
    configuration.apiVersion = "admissionregistration.k8s.io/v1beta1"
  nonempty : configuration.webhooks ≠ []
  webhooks : ∀ webhook ∈ configuration.webhooks,
    webhook.IsValid configuration.apiVersion configuration.kind

namespace WebhookConfiguration

variable {configuration : WebhookConfiguration}

theorem apiVersion_eq_append_iff
    {version : String} :
    configuration.apiVersion = "admissionregistration.k8s.io/" ++ version ↔
      configuration.surface = version :=
  String.append_right_inj _

theorem apiVersion_eq_current_iff :
    configuration.apiVersion = "admissionregistration.k8s.io/v1" ↔
      configuration.surface = WebhookRequest.currentSurface := by
  rw [← apiVersion_eq_append_iff]
  exact Eq.congr_right (by decide)

theorem apiVersion_eq_legacy_iff :
    configuration.apiVersion = "admissionregistration.k8s.io/v1beta1" ↔
      configuration.surface = WebhookRequest.legacySurface := by
  rw [← apiVersion_eq_append_iff]
  exact Eq.congr_right (by decide)

end WebhookConfiguration

theorem WebhookClient.isSome_service_iff (client : WebhookClient) :
    (client.toJson.field? "service").isSome ↔ client.toJson.field? "url" = none := by
  cases client <;> simp [toJson, Json.field?, Entries.get?]

/-- A request is sent to the service exactly if it has no address, and then at its path. -/
theorem WebhookClient.ofRequest_eq_service_iff
    {names : WebhookNames}
    {request : WebhookRequest}
    {name namespaceName : String}
    {path : Option String} :
    ofRequest names request = service name namespaceName path ↔
      request.url = none ∧ names.service = name ∧ names.serviceNamespace = namespaceName ∧
        request.path = path := by
  unfold ofRequest
  cases request.url <;> simp

theorem SideEffects.isLegacy_eq_false_iff
    {effects : SideEffects} :
    effects.isLegacy = false ↔ effects = .none ∨ effects = .noneOnDryRun := by
  cases effects <;> decide

/-! ## Accepted entries -/

/-- What is published of an accepted request is valid for every surface that the request lists. -/
theorem WebhookRequest.Resolves.isValid
    {request : WebhookRequest}
    {policies : WebhookPolicies}
    (resolves : request.Resolves policies)
    {configuration : WebhookConfiguration}
    (listed : configuration.surface ∈ request.surfaces)
    (isKind : request.kind = configuration.kind)
    (names : WebhookNames) :
    (PublishedWebhook.ofEntry names (.accepted request policies)).IsValid
      configuration.apiVersion configuration.kind where
  timeout := resolves.timeout
  client := WebhookClient.isSome_service_iff _
  path := by
    intro name namespaceName path isService
    obtain ⟨noAddress, -, -, rfl⟩ := WebhookClient.ofRequest_eq_service_iff.mp isService
    exact resolves.reached.mpr noAddress
  reviewed := resolves.reviewed
  sideEffects := by
    refine ⟨policies.sideEffects, rfl, fun isCurrent => ?_⟩
    rw [← SideEffects.isLegacy_eq_false_iff]
    apply resolves.permitted
    rwa [← WebhookConfiguration.apiVersion_eq_current_iff.mp isCurrent]
  reinvoked := fun hasPolicy => isKind.symm.trans (resolves.reinvoked hasPolicy)

namespace WebhookLists

/-! ## Documents -/

variable {names : WebhookNames} {kind : WebhookKind} {entries : List WebhookEntry}
  {configuration : WebhookConfiguration}

theorem mem_published_iff
    {version : String}
    {webhook : PublishedWebhook} :
    webhook ∈ published names entries version ↔
      ∃ entry ∈ entries, version ∈ entry.request.surfaces ∧ webhook = .ofEntry names entry := by
  simp only [published, List.mem_flatMap, List.mem_map, List.mem_filter, decide_eq_true_eq]
  constructor
  · rintro ⟨entry, member, _, ⟨listed, rfl⟩, rfl⟩
    exact ⟨entry, member, listed, rfl⟩
  · rintro ⟨entry, member, listed, rfl⟩
    exact ⟨entry, member, version, ⟨listed, rfl⟩, rfl⟩

/-- A document of a list has some webhooks, and they are those published for its surface. -/
theorem eq_published_of_mem_configurationsOf
    (member : configuration ∈ configurationsOf names kind entries) :
    configuration.kind = kind ∧ configuration.webhooks ≠ [] ∧
      configuration.webhooks = published names entries configuration.surface := by
  obtain ⟨isMade, nonempty⟩ := List.mem_filter.mp member
  obtain ⟨version, -, rfl⟩ := List.mem_map.mp isMade
  exact ⟨rfl, by simpa using nonempty, rfl⟩

theorem mem_configurations_iff
    {lists : WebhookLists} :
    configuration ∈ lists.configurations names ↔
      ∃ kind, configuration ∈
        configurationsOf names kind ((lists.ofKind kind).filter (·.state = .accepted)) := by
  rw [configurations, List.mem_append]
  constructor
  · rintro (inMutating | inValidating)
    · exact ⟨.mutating, inMutating⟩
    · exact ⟨.validating, inValidating⟩
  · rintro ⟨kind, inKind⟩
    cases kind with
    | mutating => exact .inl inKind
    | validating => exact .inr inKind

/-- The webhooks of a document are those of checked requests of its kind that list its surface. -/
theorem exists_resolves_of_mem_webhooks
    {index : MarkerIndex}
    {gates : Gate.State}
    (member : configuration ∈ (assemble index gates).1.configurations names)
    {webhook : PublishedWebhook}
    (isWebhook : webhook ∈ configuration.webhooks) :
    ∃ request policies, webhook = .ofEntry names (.accepted request policies) ∧
      request.kind = configuration.kind ∧ configuration.surface ∈ request.surfaces ∧
        request.Resolves policies := by
  obtain ⟨kind, inKind⟩ := mem_configurations_iff.mp member
  obtain ⟨rfl, -, arePublished⟩ := eq_published_of_mem_configurationsOf inKind
  rw [arePublished, mem_published_iff] at isWebhook
  obtain ⟨entry, isEntry, listed, rfl⟩ := isWebhook
  obtain ⟨request, policies, rfl, isKind, checked⟩ :=
    (greedyRun_addMarkers _).exists_accepted (List.mem_of_mem_filter isEntry)
  exact ⟨request, policies, rfl, isKind, listed, WebhookRequest.check_eq_ok_iff.mp checked⟩

/-- Every document that is made from an index is valid for its version of the surface. -/
theorem isValid_of_mem_configurations
    (index : MarkerIndex)
    (gates : Gate.State)
    (names : WebhookNames)
    {configuration : WebhookConfiguration}
    (member : configuration ∈ (assemble index gates).1.configurations names) :
    configuration.IsValid := by
  obtain ⟨kind, inKind⟩ := mem_configurations_iff.mp member
  have nonempty := (eq_published_of_mem_configurationsOf inKind).2.1
  refine ⟨?_, nonempty, fun webhook isWebhook => ?_⟩
  · -- a document has a webhook, whose request was checked for the surface of the document
    obtain ⟨webhook, isWebhook⟩ := List.exists_mem_of_ne_nil _ nonempty
    obtain ⟨request, policies, -, -, listed, resolves⟩ :=
      exists_resolves_of_mem_webhooks member isWebhook
    exact (resolves.surfaces _ listed).imp WebhookConfiguration.apiVersion_eq_current_iff.mpr
      WebhookConfiguration.apiVersion_eq_legacy_iff.mpr
  · obtain ⟨request, policies, rfl, isKind, listed, resolves⟩ :=
      exists_resolves_of_mem_webhooks member isWebhook
    exact resolves.isValid listed isKind names

/-- An index with a webhook for both versions of the surface, and one that neither version takes
because it lists the current one as well as legacy side effects. -/
def twoSurfaces : MarkerIndex where
  entries := [(.package "hooks", [
    ⟨"webhook", .package "hooks", .webhook,
      [("name", .string "m.example.com"), ("mutating", .boolean true),
        ("path", .string "/mutate"), ("verbs", .list ["create", "*"]),
        ("timeoutSeconds", .integer 30), ("admissionReviewVersions", .list ["", "v1"]),
        ("webhookVersions", .list ["v1beta1", "v1"]), ("sideEffects", .string "NoneOnDryRun"),
        ("reinvocationPolicy", .string "IfNeeded")]⟩,
    ⟨"webhook", .package "hooks", .webhook,
      [("name", .string "legacy.example.com"), ("mutating", .boolean true),
        ("url", .string "https://example.com"), ("admissionReviewVersions", .list ["v1"]),
        ("webhookVersions", .list ["v1beta1", "v1"]), ("sideEffects", .string "Some")]⟩])]

/-- The document for the legacy version. -/
def legacyDocument : WebhookConfiguration where
  kind := .mutating
  surface := "v1beta1"
  name := "hooks"
  webhooks := [{
    name := "m.example.com"
    reviewVersions := ["", "v1"]
    client := .service "webhook-service" "system" (some "/mutate")
    failurePolicy := .fail
    matchPolicy := none
    namespaceSelector := none
    objectSelector := none
    reinvocationPolicy := some .ifNeeded
    groups := []
    versions := []
    operations := ["CREATE", "*"]
    resources := []
    sideEffects := some .noneOnDryRun
    timeoutSeconds := 30 }]

/-- The names of the documents of the index. -/
def hooks : WebhookNames where
  configuration := "hooks"

/-- The legacy document is the second of two, and valid. -/
theorem isValid_legacyDocument :
    legacyDocument ∈ (assemble twoSurfaces .empty).1.configurations hooks ∧
      ((assemble twoSurfaces .empty).1.configurations hooks).length = 2 ∧
      legacyDocument.IsValid := by
  have member : legacyDocument ∈ (assemble twoSurfaces .empty).1.configurations hooks := by
    decide +kernel
  exact ⟨member, by decide +kernel, isValid_of_mem_configurations twoSurfaces .empty hooks member⟩

end WebhookLists
end MarkerManifests
