import MarkerManifests.Proofs.Schema.Unions

/-!
# What compositions demand

Unions are published twice: as groups, and as compositions of clauses, each of which demands one
key. The first union of a kind is composed in the node itself and the later ones below `allOf`, and
unions of at most one member are not composed at all. Whatever keys an object has, it satisfies the
compositions exactly if it satisfies the groups.
-/

namespace MarkerManifests

/-- In a list without repetitions exactly one element passes a test if one is counted. -/
theorem countP_eq_one_iff_existsUnique
    {Element : Type}
    {elements : List Element}
    {passes : Element → Bool}
    (distinct : elements.Nodup) :
    elements.countP passes = 1 ↔ ∃! element, element ∈ elements ∧ passes element = true := by
  rw [List.countP_eq_length_filter, List.length_eq_one_iff]
  constructor
  · rintro ⟨only, filtered⟩
    have passing : ∀ element, element ∈ elements ∧ passes element = true ↔ element = only := by
      intro element
      rw [← List.mem_filter, filtered, List.mem_singleton]
    exact ⟨only, (passing only).mpr rfl, fun element => (passing element).mp⟩
  · rintro ⟨only, isOnly, unique⟩
    refine ⟨only, List.perm_singleton.mp ?_⟩
    rw [List.perm_ext_iff_of_nodup (distinct.filter _) (List.nodup_singleton only)]
    intro element
    rw [List.mem_filter, List.mem_singleton]
    exact ⟨unique element, fun same => same ▸ isOnly⟩

namespace SchemaNode

/-! ## Reading a schema for keys -/

mutual

/-- Whether an object satisfies a schema, as far as the schema speaks of keys. The object is given by
a test for the keys that are present. -/
def accepts (present : String → Bool) : SchemaNode → Bool
  | ⟨keywords, _, _, _, oneOf, anyOf, allOf⟩ =>
    keywords.required.all present &&
      (oneOf.isEmpty || countAccepting present oneOf == 1) &&
      (anyOf.isEmpty || countAccepting present anyOf != 0) &&
      countAccepting present allOf == allOf.length

/-- How many of several schemas an object satisfies. -/
def countAccepting (present : String → Bool) : List SchemaNode → Nat
  | [] => 0
  | node :: rest => countAccepting present rest + if accepts present node then 1 else 0

end

/-- An object satisfies the compositions of a node: exactly one member, at least one member and
every member. -/
structure Composes (present : String → Bool) (node : SchemaNode) : Prop where
  oneOf : node.oneOf ≠ [] → node.oneOf.countP (accepts present) = 1
  anyOf : node.anyOf ≠ [] → ∃ member ∈ node.anyOf, member.accepts present = true
  allOf : ∀ member ∈ node.allOf, member.accepts present = true

variable {present : String → Bool} {node : SchemaNode}

theorem countAccepting_eq_countP (nodes : List SchemaNode) :
    countAccepting present nodes = nodes.countP (accepts present) := by
  induction nodes with
  | nil => rfl
  | cons node rest inductionHypothesis =>
      rw [countAccepting, List.countP_cons, inductionHypothesis]

/-- An object satisfies a node if it has the required keys and satisfies the compositions. -/
theorem accepts_iff :
    node.accepts present = true ↔
      (∀ key ∈ node.required, present key = true) ∧ node.Composes present := by
  obtain ⟨keywords, properties, items, additional, oneOf, anyOf, allOf⟩ := node
  simp only [accepts, countAccepting_eq_countP, Bool.and_eq_true, Bool.or_eq_true,
    List.all_eq_true, beq_iff_eq, bne_iff_ne, List.isEmpty_iff, List.countP_eq_length]
  constructor
  · rintro ⟨⟨⟨required, exactly⟩, atLeast⟩, every⟩
    refine ⟨required, exactly.resolve_left, fun nonempty => ?_, every⟩
    exact List.countP_pos_iff.mp (Nat.pos_of_ne_zero (atLeast.resolve_left nonempty))
  · rintro ⟨required, exactly, atLeast, every⟩
    refine ⟨⟨⟨required, or_iff_not_imp_left.mpr exactly⟩,
      or_iff_not_imp_left.mpr fun nonempty => ?_⟩, every⟩
    exact Nat.pos_iff_ne_zero.mp (List.countP_pos_iff.mpr (atLeast nonempty))

/-! ## Clauses -/

@[simp] theorem accepts_clause (key : String) :
    ({ required := [key] } : SchemaNode).accepts present = present key := by
  simp [accepts, countAccepting]

theorem countP_clauses (members : List String) :
    (clauses members).countP (accepts present) = members.countP present := by
  rw [clauses, List.countP_map]
  exact List.countP_congr fun key _ => by simp

theorem clauses_ne_nil {members : List String} (nonempty : members ≠ []) :
    clauses members ≠ [] := by
  simpa [clauses] using nonempty

end SchemaNode

/-! ## Unions and compositions -/

/-- An object satisfies a union. Nothing is demanded for unions of at most one member. -/
def UnionGroup.IsMet (present : String → Bool) (group : UnionGroup) : Prop :=
  match group.policy with
  | .exactlyOne => ∃! key, key ∈ group.members ∧ present key = true
  | .atLeastOne => ∃ key ∈ group.members, present key = true
  | .atMostOne => True

theorem UnionGroup.isMet_iff {present : String → Bool} (group : UnionGroup) :
    group.IsMet present ↔
      (group.policy = .exactlyOne → ∃! key, key ∈ group.members ∧ present key = true) ∧
        (group.policy = .atLeastOne → ∃ key ∈ group.members, present key = true) := by
  obtain ⟨policy, members⟩ := group
  cases policy <;> simp [IsMet]

namespace SchemaNode

/-- An object satisfies the compositions of a node exactly if it satisfies the unions. -/
def Mirrors (present : String → Bool) (node : SchemaNode) : Prop :=
  node.Composes present ↔ ∀ group ∈ node.unions, group.IsMet present

variable {present : String → Bool} {node extended : SchemaNode}

theorem composes_iff :
    node.Composes present ↔
      (node.oneOf ≠ [] → node.oneOf.countP (accepts present) = 1) ∧
        (node.anyOf ≠ [] → ∃ member ∈ node.anyOf, member.accepts present = true) ∧
        ∀ member ∈ node.allOf, member.accepts present = true :=
  ⟨fun ⟨exactly, atLeast, every⟩ => ⟨exactly, atLeast, every⟩,
    fun ⟨exactly, atLeast, every⟩ => ⟨exactly, atLeast, every⟩⟩

/-- Clauses below `oneOf` demand exactly one of the members. -/
theorem countP_clauses_eq_one_iff {members : List String} (distinct : members.Nodup) :
    (clauses members).countP (accepts present) = 1 ↔
      UnionGroup.IsMet present ⟨.exactlyOne, members⟩ := by
  rw [countP_clauses]
  exact countP_eq_one_iff_existsUnique distinct

/-- Clauses below `anyOf` demand at least one of the members. -/
theorem exists_clauses_accepts_iff {members : List String} :
    (∃ member ∈ clauses members, member.accepts present = true) ↔
      UnionGroup.IsMet present ⟨.atLeastOne, members⟩ := by
  simp [clauses, UnionGroup.IsMet]

/-- The first union of exactly one member is composed in the node itself. -/
theorem composes_oneOf
    {members : List String}
    (first : node.oneOf = [])
    (nonempty : members ≠ [])
    (distinct : members.Nodup) :
    ({ node with oneOf := clauses members } : SchemaNode).Composes present ↔
      node.Composes present ∧ UnionGroup.IsMet present ⟨.exactlyOne, members⟩ := by
  rw [composes_iff, composes_iff, ← countP_clauses_eq_one_iff distinct]
  have isComposed := clauses_ne_nil nonempty
  constructor
  · rintro ⟨exactly, others⟩
    exact ⟨⟨fun nonempty => absurd first nonempty, others⟩, exactly isComposed⟩
  · rintro ⟨⟨-, others⟩, exactly⟩
    exact ⟨fun _ => exactly, others⟩

/-- The first union of at least one member is composed in the node itself. -/
theorem composes_anyOf
    {members : List String}
    (first : node.anyOf = [])
    (nonempty : members ≠ []) :
    ({ node with anyOf := clauses members } : SchemaNode).Composes present ↔
      node.Composes present ∧ UnionGroup.IsMet present ⟨.atLeastOne, members⟩ := by
  rw [composes_iff, composes_iff, ← exists_clauses_accepts_iff]
  have isComposed := clauses_ne_nil nonempty
  constructor
  · rintro ⟨exactly, atLeast, every⟩
    exact ⟨⟨exactly, fun nonempty => absurd first nonempty, every⟩, atLeast isComposed⟩
  · rintro ⟨⟨exactly, -, every⟩, atLeast⟩
    exact ⟨exactly, fun _ => atLeast, every⟩

/-- Later unions are composed in nodes of their own, which are demanded too. -/
theorem composes_allOf {further : SchemaNode} :
    ({ node with allOf := node.allOf ++ [further] } : SchemaNode).Composes present ↔
      node.Composes present ∧ further.accepts present = true := by
  simp only [composes_iff, List.forall_mem_append, List.forall_mem_singleton, and_assoc]

/-- A node that demands no keys and composes one union accepts what the union accepts. -/
theorem accepts_iff_of_composes
    {further : SchemaNode}
    {demand : Prop}
    (undemanding : further.required = [])
    (composes : further.Composes present ↔ ({} : SchemaNode).Composes present ∧ demand) :
    further.accepts present = true ↔ demand := by
  have satisfied : ({} : SchemaNode).Composes present :=
    ⟨fun nonempty => absurd rfl nonempty, fun nonempty => absurd rfl nonempty, nofun⟩
  rw [accepts_iff, undemanding, composes]
  exact ⟨fun accepted => accepted.2.2, fun demanded => ⟨nofun, satisfied, demanded⟩⟩

/-- A composition adds the demand of its union, in the node itself or below `allOf`. -/
theorem composes_compose
    {group : UnionGroup}
    (nonempty : group.members ≠ [])
    (distinct : group.members.Nodup) :
    (node.compose group.policy group.members).Composes present ↔
      node.Composes present ∧ group.IsMet present := by
  obtain ⟨policy, members⟩ := group
  cases policy with
  | atMostOne => exact (and_iff_left trivial).symm
  | exactlyOne =>
      by_cases first : node.oneOf = []
      · rw [compose, if_pos (List.isEmpty_iff.mpr first)]
        exact composes_oneOf first nonempty distinct
      · rw [compose, if_neg (mt List.isEmpty_iff.mp first), composes_allOf,
          accepts_iff_of_composes rfl (composes_oneOf rfl nonempty distinct)]
  | atLeastOne =>
      by_cases first : node.anyOf = []
      · rw [compose, if_pos (List.isEmpty_iff.mpr first)]
        exact composes_anyOf first nonempty
      · rw [compose, if_neg (mt List.isEmpty_iff.mp first), composes_allOf,
          accepts_iff_of_composes rfl (composes_anyOf rfl nonempty)]

/-- Recording a union keeps the compositions in step with the unions. -/
theorem Mirrors.record
    {group : UnionGroup}
    (nonempty : group.members ≠ [])
    (distinct : group.members.Nodup)
    (mirrors : node.Mirrors present) : (node.record group).Mirrors present := by
  unfold SchemaNode.record
  split
  · exact mirrors
  · have composed : (node.compose group.policy group.members).Composes present ↔
        node.Composes present ∧ group.IsMet present := composes_compose nonempty distinct
    have sameCompositions : ({ node.compose group.policy group.members with
        unions := node.unions ++ [group] } : SchemaNode).Composes present ↔
        (node.compose group.policy group.members).Composes present := by
      rw [composes_iff, composes_iff]
    rw [Mirrors, sameCompositions, composed, List.forall_mem_append, List.forall_mem_singleton]
    exact and_congr_left' mirrors

theorem Mirrors.foldl_record
    {groups : List UnionGroup}
    (sound : ∀ group ∈ groups, group.members ≠ [] ∧ group.members.Nodup)
    (mirrors : node.Mirrors present) : (groups.foldl SchemaNode.record node).Mirrors present := by
  induction groups generalizing node with
  | nil => exact mirrors
  | cons group rest inductionHypothesis =>
      rw [List.forall_mem_cons] at sound
      obtain ⟨⟨nonempty, distinct⟩, soundLater⟩ := sound
      exact inductionHypothesis soundLater (mirrors.record nonempty distinct)

/-- Whatever the markers of a record are and whatever was left out, the compositions that they give
to a node without compositions demand what the recorded unions demand: an object satisfies them
exactly if it has one key of every union of exactly one member and some key of every union of at
least one member. -/
theorem composes_addUnions_iff
    (node extended : SchemaNode)
    (skipped : List String)
    (markers : Markers)
    (oneOf : node.oneOf = [])
    (anyOf : node.anyOf = [])
    (allOf : node.allOf = [])
    (fresh : node.unions = [])
    (added : node.addUnions skipped markers = .ok extended)
    (present : String → Bool) :
    extended.Composes present ↔
      (∀ group ∈ extended.unions, group.policy = .exactlyOne →
          ∃! key, key ∈ group.members ∧ present key = true) ∧
        ∀ group ∈ extended.unions, group.policy = .atLeastOne →
          ∃ key ∈ group.members, present key = true := by
  have uncomposed : node.Mirrors present := by
    rw [Mirrors, composes_iff, oneOf, anyOf, allOf, fresh]
    simp
  have sound : ∀ group ∈ markers.unions skipped, group.members ≠ [] ∧ group.members.Nodup := by
    intro group isDescribed
    obtain ⟨marker, -, described⟩ := Markers.mem_unions_iff.mp isDescribed
    exact ⟨(Marker.union?_eq_some_iff.mp described).2.2, Marker.nodup_members_of_union? described⟩
  have mirrors : extended.Mirrors present :=
    (addUnions_eq_ok_iff.mp added).2.2 ▸ uncomposed.foldl_record sound
  rw [← forall₂_and]
  exact mirrors.trans (forall₂_congr fun group _ => group.isMet_iff)

/-- Two unions of each kind that demands a member, one of them twice, and a union that demands
none. -/
def transportMarkers : Markers :=
  [unionMarker Vocabulary.exactlyOneOf ["git", "ftp", "oci", "git"],
    unionMarker Vocabulary.atLeastOneOf ["sum", "size"],
    unionMarker Vocabulary.exactlyOneOf ["token", "key"],
    unionMarker Vocabulary.atMostOneOf ["proxy"],
    unionMarker Vocabulary.exactlyOneOf ["git", "oci"],
    unionMarker Vocabulary.atLeastOneOf ["size", "age"]]

/-- A record with keys for all unions. -/
def transportNode : SchemaNode where
  type := some .object
  properties :=
    ["git", "oci", "sum", "size", "token", "key", "proxy", "age"].map fun key =>
      (key, ofType .string)

/-- Two unions are composed in the node itself and two below `allOf`. One of each kind is met by one
key, and a second key for the first union violates the compositions. -/
theorem composes_addUnions_iff_transport :
    ∃ extended, transportNode.addUnions ["ftp"] transportMarkers = .ok extended ∧
      extended.oneOf.length = 2 ∧ extended.anyOf.length = 2 ∧ extended.allOf.length = 2 ∧
      extended.Composes (· ∈ ["git", "token", "size"]) ∧
      ¬ extended.Composes (· ∈ ["git", "oci", "token", "size"]) := by
  have added : ∃ extended, transportNode.addUnions ["ftp"] transportMarkers = .ok extended ∧
      extended.oneOf.length = 2 ∧ extended.anyOf.length = 2 ∧ extended.allOf.length = 2 ∧
      extended.unions = [⟨.exactlyOne, ["git", "oci"]⟩, ⟨.atLeastOne, ["sum", "size"]⟩,
        ⟨.exactlyOne, ["token", "key"]⟩, ⟨.atMostOne, ["proxy"]⟩,
        ⟨.atLeastOne, ["size", "age"]⟩] := ⟨_, rfl, by decide +kernel⟩
  obtain ⟨extended, added, oneOf, anyOf, allOf, unions⟩ := added
  have demands := composes_addUnions_iff transportNode extended ["ftp"] transportMarkers
    rfl rfl rfl rfl added
  refine ⟨extended, added, oneOf, anyOf, allOf, (demands _).mpr ?_, fun composes => ?_⟩
  · rw [unions]
    simp [ExistsUnique]
  · obtain ⟨only, -, unique⟩ := ((demands _).mp composes).1 ⟨.exactlyOne, ["git", "oci"]⟩
      (unions ▸ List.mem_cons_self) rfl
    have same := (unique "git" (by decide)).trans (unique "oci" (by decide)).symm
    exact absurd same (by decide)

end SchemaNode
end MarkerManifests
