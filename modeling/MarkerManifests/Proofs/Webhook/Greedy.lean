import MarkerManifests.Proofs.Marker.Occurrence
import MarkerManifests.Webhook.Assembly
import Mathlib.Data.List.Forall2
import Mathlib.Data.List.Induction

/-!
# The first valid webhook wins

The lists of webhooks are made marker by marker: a marker enters the list of its kind if its
selectors parse, its name is free in that list and its fields pass their checks, and otherwise
it is reported once. So the lists keep the order of the markers, no name occurs twice in a list,
and a marker that does not enter could as well not be there.
-/

namespace MarkerManifests

/-! ## Requests and accepted entries -/

namespace WebhookRequest

/-- The arguments of a marker that are selectors. -/
def selectorArguments : List String :=
  ["namespaceSelector", "objectSelector"]

/-- Whether every selector that a marker has can be made. -/
def SelectorsParse (marker : Marker) : Prop :=
  ∀ argument ∈ selectorArguments, ∀ record, marker.record? argument = some record →
    ∃ selector, LabelSelector.ofRecord record = .ok selector

theorem exists_selectorOf_iff
    {marker : Marker}
    {argument : String} :
    (∃ selector, selectorOf marker argument = .ok selector) ↔
      ∀ record, marker.record? argument = some record →
        ∃ selector, LabelSelector.ofRecord record = .ok selector := by
  unfold selectorOf
  cases marker.record? argument with
  | none => simp
  | some record => cases made : LabelSelector.ofRecord record <;> simp [made]

/-- A marker has a request exactly if its selectors parse. -/
theorem exists_ofMarker_iff
    {marker : Marker} :
    (∃ request, ofMarker marker = .ok request) ↔ SelectorsParse marker := by
  have parse : SelectorsParse marker ↔
      (∃ selector, selectorOf marker "namespaceSelector" = .ok selector) ∧
        ∃ selector, selectorOf marker "objectSelector" = .ok selector := by
    simp [SelectorsParse, selectorArguments, exists_selectorOf_iff]
  rw [parse, ofMarker]
  cases selectorOf marker "namespaceSelector" with
  | error error => simp
  | ok namespaceSelector => cases selectorOf marker "objectSelector" <;> simp

end WebhookRequest

namespace WebhookEntry

/-- The entry of a request that was resolved to policies, after it was validated and accepted. -/
def accepted (request : WebhookRequest) (policies : WebhookPolicies) : WebhookEntry :=
  (({ request } : WebhookEntry).move (.validated policies) "all checks passed").move
    (.accepted policies) "placed in output list"

@[simp] theorem request_accepted (request : WebhookRequest) (policies : WebhookPolicies) :
    (accepted request policies).request = request := rfl

@[simp] theorem state_accepted (request : WebhookRequest) (policies : WebhookPolicies) :
    (accepted request policies).state = .accepted := rfl

end WebhookEntry

/-! ## The rule for one marker -/

namespace WebhookLists

@[simp] theorem ofKind_empty (kind : WebhookKind) : ofKind {} kind = [] := by
  cases kind <;> rfl

theorem ofKind_add (lists : WebhookLists) (entry : WebhookEntry) (kind : WebhookKind) :
    (lists.add entry).ofKind kind =
      if entry.request.kind = kind then lists.ofKind kind ++ [entry] else lists.ofKind kind := by
  unfold add
  cases entry.request.kind <;> cases kind <;> rfl

/-- An entry stands at the end of the list of its kind, and the other list is as before. -/
structure Appends
    (lists : WebhookLists)
    (entry : WebhookEntry)
    (after : WebhookLists) : Prop where
  last : after.ofKind entry.request.kind = lists.ofKind entry.request.kind ++ [entry]
  others : ∀ kind, kind ≠ entry.request.kind → after.ofKind kind = lists.ofKind kind

theorem appends_add (lists : WebhookLists) (entry : WebhookEntry) :
    lists.Appends entry (lists.add entry) where
  last := by rw [ofKind_add, if_pos rfl]
  others kind isOther := by rw [ofKind_add, if_neg isOther.symm]

theorem Appends.last_accepted
    {lists after : WebhookLists}
    {request : WebhookRequest}
    {policies : WebhookPolicies}
    (appends : lists.Appends (.accepted request policies) after) :
    after.ofKind request.kind = lists.ofKind request.kind ++ [.accepted request policies] :=
  appends.last

theorem mem_entries_iff
    {lists : WebhookLists}
    {entry : WebhookEntry} :
    entry ∈ lists.entries ↔ ∃ kind, entry ∈ lists.ofKind kind := by
  rw [entries, List.mem_append]
  constructor
  · rintro (inMutating | inValidating)
    · exact ⟨.mutating, inMutating⟩
    · exact ⟨.validating, inValidating⟩
  · rintro ⟨kind, inKind⟩
    cases kind with
    | mutating => exact .inl inKind
    | validating => exact .inr inKind

/-- A marker that enters lists, with what its request is resolved to. -/
structure Admits
    (lists : WebhookLists)
    (marker : Marker)
    (request : WebhookRequest)
    (policies : WebhookPolicies) : Prop where
  /-- The selectors parse. -/
  parsed : WebhookRequest.ofMarker marker = .ok request
  /-- No webhook of the same kind was accepted with the name before. -/
  untaken : ∀ earlier ∈ lists.ofKind request.kind, earlier.request.name ≠ request.name
  /-- The fields pass their checks. -/
  checked : request.check = .ok policies

theorem isTaken_eq_false_iff
    {lists : WebhookLists}
    {kind : WebhookKind}
    {name : String} :
    lists.isTaken kind name = false ↔
      ∀ earlier ∈ lists.ofKind kind, earlier.request.name ≠ name := by
  simp [isTaken]

theorem acceptEntry_parsed (lists : WebhookLists) (request : WebhookRequest) :
    lists.acceptEntry { request } =
      if lists.isTaken request.kind request.name then
        .error (.duplicateName request.kind request.name)
      else
        request.check.map (WebhookEntry.accepted request) := by
  unfold acceptEntry
  dsimp only
  split
  · rfl
  · cases checked : request.check <;> simp [WebhookEntry.validate, checked] <;> rfl

/-- A marker is accepted exactly if it enters by the rule. -/
theorem acceptMarker_eq_ok_iff
    {lists : WebhookLists}
    {marker : Marker}
    {entry : WebhookEntry} :
    lists.acceptMarker marker = .ok entry ↔
      ∃ request policies, lists.Admits marker request policies ∧
        entry = .accepted request policies := by
  unfold acceptMarker WebhookEntry.ofMarker
  cases parsed : WebhookRequest.ofMarker marker with
  | error error =>
      refine iff_of_false (by simp [Except.map]) ?_
      rintro ⟨request, policies, admits, -⟩
      cases parsed.symm.trans admits.parsed
  | ok request =>
      simp only [Except.map, acceptEntry_parsed]
      constructor
      · intro accepted
        split at accepted
        · cases accepted
        · rename_i untaken
          cases checked : request.check with
          | error error => rw [checked] at accepted; cases accepted
          | ok policies =>
              rw [checked] at accepted
              cases accepted
              exact ⟨request, policies, ⟨parsed,
                isTaken_eq_false_iff.mp (Bool.eq_false_iff.mpr untaken), checked⟩, rfl⟩
      · rintro ⟨other, policies, admits, rfl⟩
        cases parsed.symm.trans admits.parsed
        rw [isTaken_eq_false_iff.mpr admits.untaken, admits.checked]
        rfl

/-! ## The fold over markers -/

/-- The lists that markers make by the rule, one marker after the other, with the diagnostics of
the markers that do not enter. -/
inductive GreedyRun : Markers → WebhookLists → Diagnostics → Prop where
  | nothing : GreedyRun [] {} []
  | enters
      {markers : Markers}
      {lists after : WebhookLists}
      {diagnostics : Diagnostics}
      {marker : Marker}
      {request : WebhookRequest}
      {policies : WebhookPolicies}
      (before : GreedyRun markers lists diagnostics)
      (admits : lists.Admits marker request policies)
      (appends : lists.Appends (.accepted request policies) after) :
      GreedyRun (markers ++ [marker]) after diagnostics
  | leftOut
      {markers : Markers}
      {lists : WebhookLists}
      {diagnostics : Diagnostics}
      {marker : Marker}
      {diagnostic : Diagnostic}
      (before : GreedyRun markers lists diagnostics)
      (refused : ∀ request policies, ¬ lists.Admits marker request policies)
      (located : diagnostic.location = marker.location) :
      GreedyRun (markers ++ [marker]) lists (diagnostics ++ [diagnostic])

theorem addMarkers_append
    (lists : WebhookLists)
    (diagnostics : Diagnostics)
    (markers others : Markers) :
    lists.addMarkers diagnostics (markers ++ others) =
      (lists.addMarkers diagnostics markers).1.addMarkers
        (lists.addMarkers diagnostics markers).2 others := by
  induction markers generalizing lists diagnostics with
  | nil => rfl
  | cons marker rest inductionHypothesis =>
      simp only [List.cons_append, addMarkers]
      cases lists.acceptMarker marker with
      | ok entry => exact inductionHypothesis _ _
      | error error => exact inductionHypothesis _ _

/-- What is reported does not matter for what is accepted. -/
theorem fst_addMarkers_congr
    (lists : WebhookLists)
    (diagnostics others : Diagnostics)
    (markers : Markers) :
    (lists.addMarkers diagnostics markers).1 = (lists.addMarkers others markers).1 := by
  induction markers generalizing lists diagnostics others with
  | nil => rfl
  | cons marker rest inductionHypothesis =>
      simp only [addMarkers]
      cases lists.acceptMarker marker with
      | ok entry => exact inductionHypothesis _ _ _
      | error error => exact inductionHypothesis _ _ _

theorem greedyRun_addMarkers (markers : Markers) :
    GreedyRun markers (addMarkers {} [] markers).1 (addMarkers {} [] markers).2 := by
  induction markers using List.reverseRecOn with
  | nil => exact .nothing
  | append_singleton markers marker before =>
      rw [addMarkers_append]
      simp only [addMarkers]
      cases outcome : (addMarkers {} [] markers).1.acceptMarker marker with
      | ok entry =>
          obtain ⟨request, policies, admits, rfl⟩ := acceptMarker_eq_ok_iff.mp outcome
          exact .enters before admits (appends_add _ _)
      | error error =>
          refine .leftOut before (fun request policies admits => ?_) rfl
          have accepted := acceptMarker_eq_ok_iff.mpr ⟨request, policies, admits, rfl⟩
          cases outcome.symm.trans accepted

namespace GreedyRun

variable {markers : Markers} {lists : WebhookLists} {diagnostics : Diagnostics}

/-- The entries of each list are those of some of the markers, in their order. -/
theorem exists_sublist
    (run : GreedyRun markers lists diagnostics)
    (kind : WebhookKind) :
    ∃ entered : Markers, entered.Sublist markers ∧
      List.Forall₂ (fun marker entry =>
        WebhookRequest.ofMarker marker = .ok entry.request ∧ entry.request.kind = kind)
        entered (lists.ofKind kind) := by
  induction run with
  | nothing => exact ⟨[], .refl [], by rw [ofKind_empty]; exact .nil⟩
  | @enters markers lists after diagnostics marker request policies before admits appends
      inductionHypothesis =>
      obtain ⟨entered, sublist, entries⟩ := inductionHypothesis
      by_cases isKind : kind = request.kind
      · subst isKind
        rw [appends.last_accepted]
        exact ⟨entered ++ [marker], sublist.append (.refl _),
          List.rel_append entries (.cons ⟨admits.parsed, rfl⟩ .nil)⟩
      · refine ⟨entered, sublist.trans (List.sublist_append_left _ _), ?_⟩
        rw [appends.others kind isKind]
        exact entries
  | leftOut before refused located inductionHypothesis =>
      obtain ⟨entered, sublist, entries⟩ := inductionHypothesis
      exact ⟨entered, sublist.trans (List.sublist_append_left _ _), entries⟩

theorem nodup_names
    (run : GreedyRun markers lists diagnostics)
    (kind : WebhookKind) :
    ((lists.ofKind kind).map (·.request.name)).Nodup := by
  induction run with
  | nothing => simp
  | @enters markers lists after diagnostics marker request policies before admits appends
      inductionHypothesis =>
      by_cases isKind : kind = request.kind
      · subst isKind
        rw [appends.last_accepted, List.map_append, List.nodup_append]
        refine ⟨inductionHypothesis, by simp, fun name taken other isNew same => ?_⟩
        obtain ⟨earlier, listed, rfl⟩ := List.mem_map.mp taken
        exact admits.untaken earlier listed (same.trans (by simpa using isNew))
      · rw [appends.others kind isKind]
        exact inductionHypothesis
  | leftOut before refused located inductionHypothesis => exact inductionHypothesis

/-- The entries of a list are accepted ones whose requests passed their checks. -/
theorem exists_accepted
    (run : GreedyRun markers lists diagnostics)
    {kind : WebhookKind}
    {entry : WebhookEntry}
    (listed : entry ∈ lists.ofKind kind) :
    ∃ request policies, entry = .accepted request policies ∧ request.kind = kind ∧
      request.check = .ok policies := by
  induction run with
  | nothing => simp at listed
  | @enters markers lists after diagnostics marker request policies before admits appends
      inductionHypothesis =>
      by_cases isKind : kind = request.kind
      · subst isKind
        rw [appends.last_accepted] at listed
        rcases List.mem_append.mp listed with old | new
        · exact inductionHypothesis old
        · exact ⟨request, policies, List.mem_singleton.mp new, rfl, admits.checked⟩
      · rw [appends.others kind isKind] at listed
        exact inductionHypothesis listed
  | leftOut before refused located inductionHypothesis => exact inductionHypothesis listed

theorem state_eq_accepted
    (run : GreedyRun markers lists diagnostics)
    {kind : WebhookKind}
    {entry : WebhookEntry}
    (listed : entry ∈ lists.ofKind kind) :
    entry.state = .accepted := by
  obtain ⟨request, policies, rfl, -⟩ := run.exists_accepted listed
  exact WebhookEntry.state_accepted request policies

end GreedyRun

/-! ## Markers in an index -/

open Classical in
/-- The active markers are the webhook markers of the index whose gate holds. -/
theorem activeMarkers_eq_filter (index : MarkerIndex) (gates : Gate.State) :
    activeMarkers index gates = index.markers.filter fun marker =>
      decide (marker.consumer = .webhook ∧ marker.name = Vocabulary.webhook ∧
        marker.IsUngated gates) := by
  rw [activeMarkers, Markers.named, index.consumedBy_eq_filter, List.filter_filter,
    List.filter_filter]
  apply List.filter_congr
  intro marker _
  unfold Marker.IsUngated
  rw [Bool.eq_iff_iff]
  cases marker.gate? "featureGate" with
  | none => simp [and_comm]
  | some expr => simp [and_comm]

/-- Whether an occurrence of a marker enters a list, given what precedes it. -/
def Enters (gates : Gate.State) (occurrence : MarkerOccurrence) : Prop :=
  occurrence.marker.consumer = .webhook ∧ occurrence.marker.name = Vocabulary.webhook ∧
    occurrence.marker.IsUngated gates ∧
      ∃ request policies,
        (assemble occurrence.preceding gates).1.Admits occurrence.marker request policies

/-- Erasing an occurrence that does not enter changes no list. -/
theorem fst_assemble_erased
    {gates : Gate.State}
    {occurrence : MarkerOccurrence}
    (leftOut : ¬ Enters gates occurrence) :
    (assemble occurrence.erased gates).1 = (assemble occurrence.index gates).1 := by
  classical
  rw [assemble, assemble, activeMarkers_eq_filter, activeMarkers_eq_filter,
    occurrence.markers_index, occurrence.markers_erased, List.filter_append,
    List.filter_append, List.filter_cons]
  split
  · rename_i active
    obtain ⟨isWebhook, isNamed, ungated⟩ := decide_eq_true_iff.mp active
    -- the lists before the occurrence are the same, and it adds a diagnostic to them only
    rw [addMarkers_append, addMarkers_append, ← activeMarkers_eq_filter]
    simp only [addMarkers]
    cases outcome : (addMarkers {} [] (activeMarkers occurrence.preceding gates)).1.acceptMarker
        occurrence.marker with
    | ok entry =>
        obtain ⟨request, policies, admits, -⟩ := acceptMarker_eq_ok_iff.mp outcome
        exact absurd ⟨isWebhook, isNamed, ungated, request, policies, admits⟩ leftOut
    | error error => exact fst_addMarkers_congr _ _ _ _
  · rfl

/-- What holds of the lists that are made from an index. -/
structure FirstValidWins
    (index : MarkerIndex)
    (gates : Gate.State)
    (lists : WebhookLists)
    (diagnostics : Diagnostics) : Prop where
  /-- The active markers enter one after the other by the rule, or are reported once. -/
  run : GreedyRun (activeMarkers index gates) lists diagnostics
  /-- A marker has a request exactly if its selectors parse. -/
  parsed : ∀ marker,
    (∃ request, WebhookRequest.ofMarker marker = .ok request) ↔
      WebhookRequest.SelectorsParse marker
  /-- The active markers are those of the index that ask for a webhook and whose gate holds, in
  the order of the index. -/
  active : (activeMarkers index gates).Sublist index.markers ∧
    ∀ marker, marker ∈ activeMarkers index gates ↔
      marker ∈ index.markers ∧ marker.consumer = .webhook ∧
        marker.name = Vocabulary.webhook ∧ marker.IsUngated gates
  /-- Each list has the order of the markers. -/
  order : ∀ kind, ∃ entered : Markers, entered.Sublist (activeMarkers index gates) ∧
    List.Forall₂ (fun marker entry =>
      WebhookRequest.ofMarker marker = .ok entry.request ∧ entry.request.kind = kind)
      entered (lists.ofKind kind)
  /-- No name occurs twice in a list. -/
  names : ∀ kind, ((lists.ofKind kind).map (·.request.name)).Nodup
  accepted : ∀ entry ∈ lists.entries, entry.state = .accepted
  /-- A marker that does not enter may be erased. -/
  erasable : ∀ occurrence : MarkerOccurrence, occurrence.index = index →
    ¬ Enters gates occurrence → (assemble occurrence.erased gates).1 = lists

end WebhookLists
end MarkerManifests
