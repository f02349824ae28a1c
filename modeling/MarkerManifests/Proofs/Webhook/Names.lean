import Mathlib.Data.List.Nodup
import MarkerManifests.Proofs.Webhook.Published

/-!
# Names in documents

A list of webhooks takes every name once, but a webhook is published as often as it lists the
version of a document. So the names in a document are distinct exactly if no webhook of its list
names the version twice; nothing that a request is checked for excludes this.
-/

namespace MarkerManifests
namespace WebhookLists

variable {names : WebhookNames} {entries : List WebhookEntry} {configuration : WebhookConfiguration}

/-- Every webhook stands in a document as often as it lists the version. -/
theorem map_name_published (names : WebhookNames) (entries : List WebhookEntry) (version : String) :
    (published names entries version).map (·.name) =
      entries.flatMap fun entry =>
        List.replicate (entry.request.surfaces.count version) entry.request.name := by
  rw [published, List.map_flatMap]
  refine congrArg (entries.flatMap ·) (funext fun entry => ?_)
  rw [List.map_map, List.count_eq_length_filter]
  exact List.map_const' ..

/-- Among webhooks with distinct names, the names in a document repeat only where a webhook lists
the version repeatedly. -/
theorem nodup_map_name_published_iff
    {version : String}
    (distinct : (entries.map (·.request.name)).Nodup) :
    ((published names entries version).map (·.name)).Nodup ↔
      ∀ entry ∈ entries, entry.request.surfaces.count version ≤ 1 := by
  have apart : entries.Pairwise (Function.onFun List.Disjoint fun entry =>
      List.replicate (entry.request.surfaces.count version) entry.request.name) := by
    refine (List.pairwise_map.mp distinct).imp fun {first second} differ name inFirst inSecond => ?_
    exact differ ((List.eq_of_mem_replicate inFirst).symm.trans (List.eq_of_mem_replicate inSecond))
  rw [map_name_published, List.nodup_flatMap, and_iff_left apart]
  simp only [List.nodup_replicate]

/-- All webhooks in the lists of an index are accepted, so a document has those of its list. -/
theorem webhooks_eq_published
    {index : MarkerIndex}
    {gates : Gate.State}
    (member : configuration ∈ (assemble index gates).1.configurations names) :
    configuration.webhooks =
      published names ((assemble index gates).1.ofKind configuration.kind)
        configuration.surface := by
  obtain ⟨kind, inKind⟩ := mem_configurations_iff.mp member
  obtain ⟨rfl, -, arePublished⟩ := eq_published_of_mem_configurationsOf inKind
  have accepted : ((assemble index gates).1.ofKind configuration.kind).filter
      (·.state = .accepted) = (assemble index gates).1.ofKind configuration.kind :=
    List.filter_eq_self.mpr fun entry listed =>
      decide_eq_true ((greedyRun_addMarkers _).state_eq_accepted listed)
  rw [arePublished, accepted]

/-- The names in a document that is made from an index are distinct exactly if no webhook of its
list names the version of the document twice. -/
theorem nodup_names_iff_listed_once
    (index : MarkerIndex)
    (gates : Gate.State)
    (names : WebhookNames)
    {configuration : WebhookConfiguration}
    (member : configuration ∈ (assemble index gates).1.configurations names) :
    (configuration.webhooks.map (·.name)).Nodup ↔
      ∀ entry ∈ (assemble index gates).1.ofKind configuration.kind,
        entry.request.surfaces.count configuration.surface ≤ 1 := by
  rw [webhooks_eq_published member]
  exact nodup_map_name_published_iff ((greedyRun_addMarkers _).nodup_names configuration.kind)

/-- An index with a webhook that lists the current version of the surface twice and the legacy one
once. -/
def surfaceListedTwice : MarkerIndex where
  entries := [(.package "hooks", [
    ⟨"webhook", .package "hooks", .webhook,
      [("name", .string "m.example.com"), ("path", .string "/check"), ("groups", .list ["apps"]),
        ("versions", .list ["v1"]), ("resources", .list ["deployments"]),
        ("verbs", .list ["create"]), ("sideEffects", .string "None"),
        ("admissionReviewVersions", .list ["v1"]),
        ("webhookVersions", .list ["v1", "v1beta1", "v1"])]⟩])]

/-- The webhook of the index as it is published. -/
def checkWebhook : PublishedWebhook where
  name := "m.example.com"
  reviewVersions := ["v1"]
  client := .service "webhook-service" "system" (some "/check")
  failurePolicy := .fail
  matchPolicy := none
  namespaceSelector := none
  objectSelector := none
  reinvocationPolicy := none
  groups := ["apps"]
  versions := ["v1"]
  operations := ["CREATE"]
  resources := ["deployments"]
  sideEffects := some .none
  timeoutSeconds := 10

/-- The legacy version is listed once, so its document has the name once. -/
theorem nodup_names_legacy_surface :
    let document : WebhookConfiguration := ⟨.validating, "v1beta1", "hooks", [checkWebhook]⟩
    document ∈ (assemble surfaceListedTwice .empty).1.configurations hooks ∧
      (document.webhooks.map (·.name)).Nodup := by
  intro document
  have member : document ∈ (assemble surfaceListedTwice .empty).1.configurations hooks := by
    decide +kernel
  exact ⟨member, (nodup_names_iff_listed_once surfaceListedTwice .empty hooks member).mpr
    (by decide +kernel)⟩

/-- The document for the current version has the name of the webhook twice. -/
theorem exists_repeated_webhook_name :
    ¬ ∀ (index : MarkerIndex) (gates : Gate.State) (names : WebhookNames),
      ∀ configuration ∈ (assemble index gates).1.configurations names,
        (configuration.webhooks.map (·.name)).Nodup := by
  intro distinct
  have twice := distinct surfaceListedTwice .empty hooks
    ⟨.validating, "v1", "hooks", [checkWebhook, checkWebhook]⟩ (by decide +kernel)
  revert twice
  decide

end WebhookLists
end MarkerManifests
