import MarkerManifests.Marker.Line
import MarkerManifests.Proofs.Text.Cutting
import Mathlib.Data.List.TakeWhile

/-!
# What marker lines refer to

The candidates for the name of a marker are the text before the first equals sign and what is left
of it when parts are cut off at its last colon, again and again. The longest candidate that is
registered for the kind of comment is the name, and what was cut off are the arguments. If there is
none, the longest one that is registered for another kind of comment is reported, and without such a
candidate the line belongs to somebody else.
-/

namespace MarkerManifests

/-- The kinds of comments in their order are determined by which they are. -/
theorem Applicability.eq_filter_of_sublist_all
    {kinds : List Applicability}
    {belongs : Applicability → Bool}
    (inOrder : kinds.Sublist all)
    (exactly : ∀ kind, kind ∈ kinds ↔ belongs kind = true) :
    kinds = all.filter belongs := by
  have distinct : all.Nodup := by decide
  have sameMembers : kinds.Perm (all.filter belongs) := by
    rw [List.perm_ext_iff_of_nodup (distinct.sublist inOrder) (distinct.filter belongs)]
    intro kind
    have isKind : kind ∈ all := by cases kind <;> decide
    simp [exactly kind, isKind]
  have own : kinds.filter belongs = kinds :=
    List.filter_eq_self.mpr fun kind member => (exactly kind).mp member
  exact (own ▸ inOrder.filter belongs).eq_of_length sameMembers.length_eq

namespace Registry

/-! ## Candidates -/

/-- A marker's text, the text before its first equals sign, and the text after the sign if there is
one. -/
inductive HasHead : List Char → List Char → Option (List Char) → Prop where
  | bare
      {body : List Char}
      (noEquals : '=' ∉ body) :
      HasHead body body none
  | value
      {name : List Char}
      (noEquals : '=' ∉ name)
      (value : List Char) :
      HasHead (name ++ '=' :: value) name (some value)

/-- A text and what is left of it when parts are cut off at its last colon, again and again. -/
inductive Shortens : List Char → List (List Char) → Prop where
  | whole
      {name : List Char}
      (noColon : ':' ∉ name) :
      Shortens name [name]
  | cut
      {shorter part : List Char}
      {candidates : List (List Char)}
      (noColon : ':' ∉ part)
      (shortens : Shortens shorter candidates) :
      Shortens (shorter ++ ':' :: part) ((shorter ++ ':' :: part) :: candidates)

/-- The candidates for the name of a marker, longest first. -/
def AreCandidates (body : List Char) (candidates : List (List Char)) : Prop :=
  ∃ name value, HasHead body name value ∧ Shortens name candidates

theorem beginnings_append (separator : Char) (text others : List Char) :
    beginnings separator (text ++ others) =
      beginnings separator text ++ (beginnings separator others).map (text ++ ·) := by
  induction text with
  | nil => simp [beginnings]
  | cons character text inductionHypothesis =>
      rw [List.cons_append, beginnings, beginnings, inductionHypothesis]
      split <;> simp [Function.comp_def]

theorem beginnings_of_not_mem
    {separator : Char}
    {text : List Char}
    (absent : separator ∉ text) :
    beginnings separator text = [] := by
  induction text with
  | nil => rfl
  | cons character text inductionHypothesis =>
      rw [List.mem_cons, not_or] at absent
      rw [beginnings, inductionHypothesis absent.2, if_neg (Ne.symm absent.1)]
      rfl

theorem head_append
    {name : List Char}
    (noEquals : '=' ∉ name)
    (value : List Char) :
    head (name ++ '=' :: value) = name := by
  have before : ∀ character ∈ name, decide (character ≠ '=') = true := by
    intro character member
    exact decide_eq_true fun same => noEquals (same ▸ member)
  rw [head, List.takeWhile_append_of_pos before, List.takeWhile_cons_of_neg (by simp),
    List.append_nil]

theorem head_of_not_mem
    {name : List Char}
    (noEquals : '=' ∉ name) :
    head name = name := by
  rw [head, List.takeWhile_eq_self_iff]
  intro character member
  exact decide_eq_true fun same => noEquals (same ▸ member)

theorem hasHead_head (body : List Char) :
    HasHead body (head body) ((Text.cutFirst? '=' body).map (·.2)) := by
  cases cut : Text.cutFirst? '=' body with
  | none =>
      have noEquals := Text.cutFirst?_eq_none_iff.mp cut
      rw [head_of_not_mem noEquals]
      exact .bare noEquals
  | some parts =>
      obtain ⟨name, value⟩ := parts
      obtain ⟨rfl, noEquals⟩ := Text.cutFirst?_eq_some cut
      rw [head_append noEquals]
      exact .value noEquals value

theorem HasHead.eq_head
    {body name : List Char}
    {value : Option (List Char)}
    (hasHead : HasHead body name value) :
    name = head body := by
  cases hasHead with
  | bare noEquals => exact (head_of_not_mem noEquals).symm
  | value noEquals value => exact (head_append noEquals value).symm

/-- The beginnings before colons, in descending length, are what is left of a text. -/
theorem Shortens.eq_beginnings
    {name : List Char}
    {candidates : List (List Char)}
    (shortens : Shortens name candidates) :
    candidates = name :: (beginnings ':' name).reverse := by
  induction shortens with
  | whole noColon => rw [beginnings_of_not_mem noColon, List.reverse_nil]
  | cut noColon shortens inductionHypothesis =>
      rw [inductionHypothesis, beginnings_append, beginnings, beginnings_of_not_mem noColon]
      simp

/-- Parts can be cut off until no colon is left. -/
theorem exists_shortens (name : List Char) : ∃ candidates, Shortens name candidates := by
  by_cases noColon : ':' ∉ name
  · exact ⟨_, .whole noColon⟩
  · -- the first colon of the reversed text is the last one
    rw [not_not, ← List.mem_reverse] at noColon
    obtain ⟨part, shorter, reversed, absent⟩ := List.eq_append_cons_of_mem noColon
    have shape : name = shorter.reverse ++ ':' :: part.reverse := by
      rw [← List.reverse_reverse name, reversed]
      simp
    have _ : shorter.reverse.length < name.length := by
      rw [shape, List.length_append, List.length_cons]
      omega
    obtain ⟨candidates, shortens⟩ := exists_shortens shorter.reverse
    have noColonInPart : ':' ∉ part.reverse := fun member => absent (List.mem_reverse.mp member)
    rw [shape]
    exact ⟨_, .cut noColonInPart shortens⟩
termination_by name.length

/-- There is one list of candidates: the head and the shorter names. -/
theorem areCandidates_iff
    {body : List Char}
    {candidates : List (List Char)} :
    AreCandidates body candidates ↔ candidates = head body :: shorterNames body := by
  constructor
  · rintro ⟨name, value, hasHead, shortens⟩
    rw [shortens.eq_beginnings, hasHead.eq_head, shorterNames]
  · rintro rfl
    obtain ⟨candidates, shortens⟩ := exists_shortens (head body)
    have same := shortens.eq_beginnings
    subst same
    exact ⟨head body, _, hasHead_head body, shortens⟩

theorem mem_beginnings
    {separator : Char}
    {text beginning : List Char}
    (member : beginning ∈ beginnings separator text) :
    ∃ rest, text = beginning ++ separator :: rest := by
  induction text generalizing beginning with
  | nil => cases member
  | cons character rest inductionHypothesis =>
      rw [beginnings] at member
      have later : beginning ∈ (beginnings separator rest).map (character :: ·) →
          ∃ more, character :: rest = beginning ++ separator :: more := by
        intro isLater
        obtain ⟨shorter, inRest, rfl⟩ := List.mem_map.mp isLater
        obtain ⟨more, same⟩ := inductionHypothesis inRest
        exact ⟨more, by rw [same, List.cons_append]⟩
      split at member
      · rename_i isSeparator
        rcases List.mem_cons.mp member with rfl | isLater
        · exact ⟨rest, by rw [isSeparator, List.nil_append]⟩
        · exact later isLater
      · exact later member

/-- A colon and further text follow a shorter name. -/
theorem exists_eq_append_of_mem_shorterNames
    {body name : List Char}
    (member : name ∈ shorterNames body) :
    ∃ text, body = name ++ ':' :: text := by
  obtain ⟨rest, headShape⟩ := mem_beginnings (List.mem_reverse.mp member)
  obtain ⟨after, bodyShape⟩ : ∃ after, body = head body ++ after := by
    rw [head]
    exact ⟨_, (List.takeWhile_append_dropWhile (p := (· ≠ '='))).symm⟩
  refine ⟨rest ++ after, bodyShape.trans ?_⟩
  rw [headShape, List.append_assoc, List.cons_append]

/-! ## What is registered -/

variable {registry : Registry} {applicability : Applicability} {location : Location}
  {body : List Char}

/-- None of the candidates is registered for any kind of comment. -/
def IsForeign (registry : Registry) (body : List Char) : Prop :=
  ∃ candidates, AreCandidates body candidates ∧
    ∀ name ∈ candidates, ∀ kind, registry.lookup? (String.ofList name) kind = none

/-- The name of the marker, which is the longest candidate that is registered for the kind of
comment, with its definition and with the arguments that follow it. -/
inductive Refers (registry : Registry) (applicability : Applicability) (body : List Char) :
    List Char → Definition → ArgumentForm → List Char → Prop where
  | bare
      {name : List Char}
      {definition : Definition}
      (hasHead : HasHead body name none)
      (isDefined : registry.lookup? (String.ofList name) applicability = some definition) :
      Refers registry applicability body name definition .bare []
  | value
      {name value : List Char}
      {definition : Definition}
      (hasHead : HasHead body name (some value))
      (isDefined : registry.lookup? (String.ofList name) applicability = some definition) :
      Refers registry applicability body name definition .value value
  | named
      {name text : List Char}
      {longer shorter : List (List Char)}
      {definition : Definition}
      (areCandidates : AreCandidates body (longer ++ name :: shorter))
      (isShorter : longer ≠ [])
      (isLongest : ∀ other ∈ longer,
        registry.lookup? (String.ofList other) applicability = none)
      (isDefined : registry.lookup? (String.ofList name) applicability = some definition)
      (follows : body = name ++ ':' :: text) :
      Refers registry applicability body name definition .named text

/-- The name is the longest candidate that is registered at all, but only for other kinds of
comments, which are the allowed ones. -/
structure StandsElsewhere
    (registry : Registry)
    (applicability : Applicability)
    (body name : List Char)
    (allowed : List Applicability) : Prop where
  /-- No candidate is registered for the kind of comment. -/
  notHere : ∀ candidates, AreCandidates body candidates → ∀ other ∈ candidates,
    registry.lookup? (String.ofList other) applicability = none
  isLongest : ∃ longer shorter, AreCandidates body (longer ++ name :: shorter) ∧
    ∀ other ∈ longer, ∀ kind, registry.lookup? (String.ofList other) kind = none
  isRegistered : allowed ≠ []
  inOrder : allowed.Sublist Applicability.all
  exactly : ∀ kind, kind ∈ allowed ↔ (registry.lookup? (String.ofList name) kind).isSome

/-- What is read from the text of a marker. -/
inductive Outcome (registry : Registry) (location : Location) (body : List Char) :
    Except Diagnostic (Option Marker) → Prop where
  | marker
      {name text : List Char}
      {definition : Definition}
      {form : ArgumentForm}
      {arguments : List (String × Argument)}
      (refers : registry.Refers location.applicability body name definition form text)
      (isRead : definition.readArguments form text = .ok arguments) :
      Outcome registry location body
        (.ok (some ⟨String.ofList name, location, definition.consumer, arguments⟩))
  | malformed
      {name text : List Char}
      {definition : Definition}
      {form : ArgumentForm}
      {error : ArgumentError}
      (refers : registry.Refers location.applicability body name definition form text)
      (failed : definition.readArguments form text = .error error) :
      Outcome registry location body (.error (malformed location body error))
  | notAllowed
      {name : List Char}
      {allowed : List Applicability}
      (standsElsewhere :
        registry.StandsElsewhere location.applicability body name allowed) :
      Outcome registry location body (.error (notAllowed location (String.ofList name) allowed))
  | foreign (isForeign : registry.IsForeign body) :
      Outcome registry location body (.ok none)

/-! ## Resolving -/

theorem lookup?_eq_some
    {text : String}
    {definition : Definition}
    (found : registry.lookup? text applicability = some definition) :
    definition ∈ registry.definitions ∧ definition.name = text := by
  have isKey : definition.key = (text, applicability) := by
    simpa [lookup?] using List.find?_some found
  exact ⟨List.mem_of_find?_eq_some found, congrArg Prod.fst isKey⟩

theorem applicabilitiesOf_eq_nil_iff {name : String} :
    registry.applicabilitiesOf name = [] ↔ ∀ kind, registry.lookup? name kind = none := by
  rw [applicabilitiesOf, List.filter_eq_nil_iff]
  constructor
  · intro nowhere kind
    have isKind : kind ∈ Applicability.all := by cases kind <;> decide
    simpa using nowhere kind isKind
  · intro nowhere kind _
    simp [nowhere kind]

theorem named?_eq_none_iff {name : List Char} :
    registry.named? applicability body name = none ↔
      registry.lookup? (String.ofList name) applicability = none := by
  simp [named?]

theorem elsewhere?_eq_none_iff {name : List Char} :
    registry.elsewhere? name = none ↔
      ∀ kind, registry.lookup? (String.ofList name) kind = none := by
  rw [← applicabilitiesOf_eq_nil_iff]
  unfold elsewhere?
  split
  · rename_i none
    exact iff_of_true rfl none
  · rename_i some
    exact iff_of_false nofun some

theorem elsewhere?_eq_some_iff {name : List Char} {resolution : Resolution} :
    registry.elsewhere? name = some resolution ↔
      registry.applicabilitiesOf (String.ofList name) ≠ [] ∧
        resolution = .elsewhere (String.ofList name)
          (registry.applicabilitiesOf (String.ofList name)) := by
  unfold elsewhere?
  split
  · rename_i none
    exact iff_of_false nofun fun both => both.1 none
  · rename_i some
    exact ⟨fun same => ⟨some, (Option.some.inj same).symm⟩, fun both => congrArg _ both.2.symm⟩

/-- If the head is not registered for the kind of comment, the shorter names come next, and then
all candidates for other kinds. -/
theorem resolve_of_lookup?_head
    (notHead : registry.lookup? (String.ofList (head body)) applicability = none) :
    registry.resolve applicability body =
      ((shorterNames body).findSome? (registry.named? applicability body)).getD
        (((head body :: shorterNames body).findSome? registry.elsewhere?).getD .unknown) := by
  rw [resolve, notHead]
  dsimp only
  split
  · rename_i found
    rw [found]
    rfl
  · rename_i none
    rw [none]
    rfl

theorem resolve_bare
    {name : List Char}
    {definition : Definition}
    (found : registry.lookup? (String.ofList name) applicability = some definition)
    (noEquals : '=' ∉ name) :
    registry.resolve applicability name = .found definition .bare [] := by
  rw [resolve, head_of_not_mem noEquals, found, Text.cutFirst?_of_not_mem noEquals]

theorem resolve_value
    {name : List Char}
    {definition : Definition}
    (found : registry.lookup? (String.ofList name) applicability = some definition)
    (noEquals : '=' ∉ name)
    (value : List Char) :
    registry.resolve applicability (name ++ '=' :: value) = .found definition .value value := by
  rw [resolve, head_append noEquals, found, Text.cutFirst?_append noEquals]

/-- The reader finds the name that the text refers to. -/
theorem Refers.resolve_eq_found
    {name text : List Char}
    {definition : Definition}
    {form : ArgumentForm}
    (refers : registry.Refers applicability body name definition form text) :
    registry.resolve applicability body = .found definition form text := by
  cases refers with
  | bare hasHead isDefined =>
      cases hasHead with
      | bare noEquals => exact resolve_bare isDefined noEquals
  | value hasHead isDefined =>
      cases hasHead with
      | value noEquals => exact resolve_value isDefined noEquals _
  | named areCandidates isShorter isLongest isDefined follows =>
      rename_i longer shorter
      obtain ⟨first, others, rfl⟩ := List.exists_cons_of_ne_nil isShorter
      obtain ⟨isHead, areShorter⟩ := List.cons.inj (areCandidates_iff.mp areCandidates)
      rw [List.forall_mem_cons, isHead] at isLongest
      have found : (shorterNames body).findSome? (registry.named? applicability body) =
          some (.found definition .named text) := by
        refine List.findSome?_eq_some_iff.mpr ⟨others, name, shorter, areShorter.symm, ?_, ?_⟩
        · rw [named?, isDefined, follows]
          simp
        · exact fun other member => named?_eq_none_iff.mpr (isLongest.2 other member)
      rw [resolve_of_lookup?_head isLongest.1, found]
      rfl

/-- A shorter name that is found for the kind of comment is the longest one after the head. -/
theorem refers_of_findSome?_named
    {text : List Char}
    {definition : Definition}
    {form : ArgumentForm}
    (notHead : registry.lookup? (String.ofList (head body)) applicability = none)
    (isNamed : (shorterNames body).findSome? (registry.named? applicability body) =
      some (.found definition form text)) :
    ∃ name, registry.Refers applicability body name definition form text := by
  obtain ⟨longer, name, shorter, areShorter, isFound, areNot⟩ :=
    List.findSome?_eq_some_iff.mp isNamed
  obtain ⟨other, isDefined, found⟩ := Option.map_eq_some_iff.mp isFound
  cases found
  have inShorter : name ∈ shorterNames body :=
    areShorter ▸ List.mem_append_right _ List.mem_cons_self
  obtain ⟨text, follows⟩ := exists_eq_append_of_mem_shorterNames inShorter
  have isText : body.drop (name.length + 1) = text := by
    rw [follows]
    simp
  have areCandidates : AreCandidates body ((head body :: longer) ++ name :: shorter) :=
    areCandidates_iff.mpr (congrArg _ areShorter.symm)
  refine ⟨name, .named areCandidates (List.cons_ne_nil _ _) ?_ isDefined ?_⟩
  · refine List.forall_mem_cons.mpr ⟨notHead, fun other member => ?_⟩
    exact named?_eq_none_iff.mp (areNot other member)
  · rwa [isText]

/-- A marker of another kind of comment is never what the reader finds. -/
theorem findSome?_elsewhere_ne_found
    {names : List (List Char)}
    {text : List Char}
    {definition : Definition}
    {form : ArgumentForm} :
    (names.findSome? registry.elsewhere?).getD .unknown ≠ .found definition form text := by
  intro same
  cases isElsewhere : names.findSome? registry.elsewhere? with
  | none =>
      rw [isElsewhere] at same
      cases same
  | some resolution =>
      obtain ⟨-, name, -, -, found, -⟩ := List.findSome?_eq_some_iff.mp isElsewhere
      rw [isElsewhere, (elsewhere?_eq_some_iff.mp found).2] at same
      cases same

/-- What the reader finds is what the text refers to. -/
theorem refers_of_resolve
    {text : List Char}
    {definition : Definition}
    {form : ArgumentForm}
    (resolved : registry.resolve applicability body = .found definition form text) :
    ∃ name, registry.Refers applicability body name definition form text := by
  cases isHead : registry.lookup? (String.ofList (head body)) applicability with
  | some found =>
      have hasHead := hasHead_head body
      rw [resolve, isHead] at resolved
      dsimp only at resolved
      split at resolved
      · rename_i cut
        cases resolved
        rw [cut] at hasHead
        exact ⟨_, .value hasHead isHead⟩
      · rename_i cut
        cases resolved
        rw [cut] at hasHead
        exact ⟨_, .bare hasHead isHead⟩
  | none =>
      rw [resolve_of_lookup?_head isHead] at resolved
      cases isNamed : (shorterNames body).findSome? (registry.named? applicability body) with
      | some resolution =>
          rw [isNamed, Option.getD_some] at resolved
          exact refers_of_findSome?_named isHead (resolved ▸ isNamed)
      | none =>
          rw [isNamed] at resolved
          exact absurd resolved findSome?_elsewhere_ne_found

/-- Unless the reader finds a marker, no candidate is registered for the kind of comment. -/
theorem lookup?_eq_none_of_resolve
    {resolution : Resolution}
    (resolved : registry.resolve applicability body = resolution)
    (notFound : ∀ definition form text, resolution ≠ .found definition form text) :
    ∀ name ∈ head body :: shorterNames body,
      registry.lookup? (String.ofList name) applicability = none := by
  have notHead : registry.lookup? (String.ofList (head body)) applicability = none := by
    rw [Option.eq_none_iff_forall_ne_some]
    intro definition isHead
    rw [resolve, isHead] at resolved
    dsimp only at resolved
    split at resolved <;> exact notFound _ _ _ resolved.symm
  refine List.forall_mem_cons.mpr ⟨notHead, fun name member => ?_⟩
  rw [resolve_of_lookup?_head notHead] at resolved
  cases isNamed : (shorterNames body).findSome? (registry.named? applicability body) with
  | none => exact named?_eq_none_iff.mp (List.findSome?_eq_none_iff.mp isNamed name member)
  | some resolution =>
      obtain ⟨-, other, -, -, isFound, -⟩ := List.findSome?_eq_some_iff.mp isNamed
      obtain ⟨definition, -, rfl⟩ := Option.map_eq_some_iff.mp isFound
      rw [isNamed] at resolved
      exact absurd resolved.symm (notFound _ _ _)

/-- If no candidate is registered for the kind of comment, other kinds decide. -/
theorem resolve_of_forall_lookup?
    (notHere : ∀ name ∈ head body :: shorterNames body,
      registry.lookup? (String.ofList name) applicability = none) :
    registry.resolve applicability body =
      ((head body :: shorterNames body).findSome? registry.elsewhere?).getD .unknown := by
  rw [List.forall_mem_cons] at notHere
  have noName : (shorterNames body).findSome? (registry.named? applicability body) = none :=
    List.findSome?_eq_none_iff.mpr fun name member => named?_eq_none_iff.mpr (notHere.2 name member)
  rw [resolve_of_lookup?_head notHere.1, noName]
  rfl

theorem isForeign_iff :
    registry.IsForeign body ↔
      ∀ name ∈ head body :: shorterNames body, ∀ kind,
        registry.lookup? (String.ofList name) kind = none := by
  simp only [IsForeign, areCandidates_iff, exists_eq_left]

theorem resolve_eq_unknown_iff :
    registry.resolve applicability body = .unknown ↔ registry.IsForeign body := by
  rw [isForeign_iff]
  constructor
  · intro resolved
    have notHere := lookup?_eq_none_of_resolve resolved nofun
    rw [resolve_of_forall_lookup? notHere] at resolved
    cases isElsewhere : (head body :: shorterNames body).findSome? registry.elsewhere? with
    | none =>
        exact fun name member =>
          elsewhere?_eq_none_iff.mp (List.findSome?_eq_none_iff.mp isElsewhere name member)
    | some resolution =>
        obtain ⟨-, name, -, -, found, -⟩ := List.findSome?_eq_some_iff.mp isElsewhere
        rw [isElsewhere, (elsewhere?_eq_some_iff.mp found).2] at resolved
        cases resolved
  · intro nowhere
    have noName : (head body :: shorterNames body).findSome? registry.elsewhere? = none :=
      List.findSome?_eq_none_iff.mpr fun name member =>
        elsewhere?_eq_none_iff.mpr (nowhere name member)
    rw [resolve_of_forall_lookup? fun name member => nowhere name member applicability, noName]
    rfl

theorem mem_applicabilitiesOf {name : String} {kind : Applicability} :
    kind ∈ registry.applicabilitiesOf name ↔ (registry.lookup? name kind).isSome = true := by
  have isKind : kind ∈ Applicability.all := by cases kind <;> decide
  simp [applicabilitiesOf, isKind]

theorem standsElsewhere_of_resolve
    {name : String}
    {allowed : List Applicability}
    (resolved : registry.resolve applicability body = .elsewhere name allowed) :
    ∃ text, name = String.ofList text ∧
      registry.StandsElsewhere applicability body text allowed := by
  have notHere := lookup?_eq_none_of_resolve resolved nofun
  rw [resolve_of_forall_lookup? notHere] at resolved
  cases isElsewhere : (head body :: shorterNames body).findSome? registry.elsewhere? with
  | none =>
      rw [isElsewhere] at resolved
      cases resolved
  | some resolution =>
      obtain ⟨longer, text, shorter, areCandidates, found, areNot⟩ :=
        List.findSome?_eq_some_iff.mp isElsewhere
      obtain ⟨isRegistered, rfl⟩ := elsewhere?_eq_some_iff.mp found
      rw [isElsewhere] at resolved
      cases resolved
      refine ⟨text, rfl, ?_, ⟨longer, shorter, ?_, ?_⟩, isRegistered, List.filter_sublist, ?_⟩
      · intro candidates areAll
        rwa [areCandidates_iff.mp areAll]
      · exact areCandidates_iff.mpr areCandidates.symm
      · exact fun other member => elsewhere?_eq_none_iff.mp (areNot other member)
      · exact fun kind => mem_applicabilitiesOf

theorem StandsElsewhere.resolve_eq_elsewhere
    {name : List Char}
    {allowed : List Applicability}
    (standsElsewhere : registry.StandsElsewhere applicability body name allowed) :
    registry.resolve applicability body = .elsewhere (String.ofList name) allowed := by
  obtain ⟨notHere, ⟨longer, shorter, areCandidates, isLongest⟩, isRegistered, inOrder, exactly⟩ :=
    standsElsewhere
  have areAllowed : allowed = registry.applicabilitiesOf (String.ofList name) :=
    Applicability.eq_filter_of_sublist_all inOrder exactly
  have shape := areCandidates_iff.mp areCandidates
  have found : (head body :: shorterNames body).findSome? registry.elsewhere? =
      some (.elsewhere (String.ofList name) allowed) := by
    refine List.findSome?_eq_some_iff.mpr ⟨longer, name, shorter, shape.symm, ?_, ?_⟩
    · rw [elsewhere?_eq_some_iff, ← areAllowed]
      exact ⟨isRegistered, rfl⟩
    · exact fun other member => elsewhere?_eq_none_iff.mpr (isLongest other member)
  have notHereAtAll := notHere _ areCandidates
  rw [shape] at notHereAtAll
  rw [resolve_of_forall_lookup? notHereAtAll, found]
  rfl

/-! ## Reading -/

theorem Refers.lookup?_eq
    {name text : List Char}
    {definition : Definition}
    {form : ArgumentForm}
    (refers : registry.Refers applicability body name definition form text) :
    registry.lookup? (String.ofList name) applicability = some definition := by
  cases refers with
  | bare _ isDefined => exact isDefined
  | value _ isDefined => exact isDefined
  | named _ _ _ isDefined _ => exact isDefined

/-- The name of a definition is the name that was looked up. -/
theorem Refers.name_eq
    {name text : List Char}
    {definition : Definition}
    {form : ArgumentForm}
    (refers : registry.Refers applicability body name definition form text) :
    definition.name = String.ofList name :=
  (lookup?_eq_some refers.lookup?_eq).2

theorem lookup?_of_resolve
    {text : List Char}
    {definition : Definition}
    {form : ArgumentForm}
    (resolved : registry.resolve applicability body = .found definition form text) :
    registry.lookup? definition.name applicability = some definition := by
  obtain ⟨name, refers⟩ := refers_of_resolve resolved
  rw [refers.name_eq]
  exact refers.lookup?_eq

/-- The reader gives the marker that a line refers to, with its arguments. -/
theorem readBody_eq_some_iff
    {marker : Marker} :
    registry.readBody location body = .ok (some marker) ↔
      ∃ definition form text, registry.resolve location.applicability body =
          .found definition form text ∧
        definition.readArguments form text = .ok marker.arguments ∧
        marker = ⟨definition.name, location, definition.consumer, marker.arguments⟩ := by
  unfold readBody
  constructor
  · intro isRead
    split at isRead
    · cases isRead
    · cases isRead
    · rename_i definition form text resolved
      split at isRead
      · cases isRead
      · rename_i arguments found
        cases isRead
        exact ⟨definition, form, text, resolved, found, rfl⟩
  · rintro ⟨definition, form, text, resolved, found, same⟩
    rw [resolved]
    dsimp only
    rw [found]
    exact congrArg (fun marker => Except.ok (some marker)) same.symm

/-- Something is read from every text. -/
theorem outcome_readBody (registry : Registry) (location : Location) (body : List Char) :
    Outcome registry location body (registry.readBody location body) := by
  unfold readBody
  cases resolved : registry.resolve location.applicability body with
  | unknown => exact .foreign (resolve_eq_unknown_iff.mp resolved)
  | elsewhere name allowed =>
      obtain ⟨text, rfl, standsElsewhere⟩ := standsElsewhere_of_resolve resolved
      exact .notAllowed standsElsewhere
  | found definition form text =>
      obtain ⟨name, refers⟩ := refers_of_resolve resolved
      dsimp only
      split
      · rename_i failed
        exact .malformed refers failed
      · rename_i isRead
        rw [refers.name_eq]
        exact .marker refers isRead

/-- What is read from a text is determined by what the text refers to. -/
theorem Outcome.readBody_eq
    {outcome : Except Diagnostic (Option Marker)}
    (isOutcome : Outcome registry location body outcome) :
    registry.readBody location body = outcome := by
  unfold readBody
  cases isOutcome with
  | marker refers isRead =>
      rw [refers.resolve_eq_found]
      dsimp only
      rw [isRead, refers.name_eq]
  | malformed refers failed =>
      rw [refers.resolve_eq_found]
      dsimp only
      rw [failed]
  | notAllowed standsElsewhere => rw [standsElsewhere.resolve_eq_elsewhere]
  | foreign isForeign => rw [resolve_eq_unknown_iff.mpr isForeign]

theorem readBody_eq_iff {outcome : Except Diagnostic (Option Marker)} :
    registry.readBody location body = outcome ↔ Outcome registry location body outcome :=
  ⟨fun isRead => isRead ▸ outcome_readBody registry location body, Outcome.readBody_eq⟩

/-- Three names of which each one goes on where the one before it ends. -/
def limits : Registry where
  definitions := [
    { name := "limit", applicability := .field, consumer := .schema },
    { name := "limit:upper", applicability := .field, consumer := .schema,
      parameters := [⟨"most:of", .string, false⟩, ⟨"strict", .boolean, true⟩] },
    { name := "limit:upper:most", applicability := .package, consumer := .schema }]
  distinct := by decide

end Registry
end MarkerManifests
