import MarkerManifests.Proofs.Ordered.FirstOccurrences
import MarkerManifests.Schema.Union
import Mathlib.Data.List.Lattice

/-!
# Recording unions

The markers of a record are read one after the other, and each union is compared only with those
that are recorded already. What comes of it can be said without an order: every marker describes at
most one union, the markers are accepted if all members are properties and all unions agree with
each other, and then the described unions are recorded, each once.
-/

namespace MarkerManifests

/-! ## Unions that markers describe -/

namespace UnionGroup

/-- Two unions agree if they demand the same number of members or share none. -/
def Agrees (group other : UnionGroup) : Prop :=
  group.policy = other.policy ∨ group.members.Disjoint other.members

/-- Unions that agree with each other and with those before them. -/
def AllAgree (before groups : List UnionGroup) : Prop :=
  ∀ group ∈ groups, ∀ other ∈ before ++ groups, group.Agrees other

variable {group other : UnionGroup}

theorem Agrees.refl (group : UnionGroup) : group.Agrees group :=
  .inl rfl

theorem Agrees.symm (agrees : group.Agrees other) : other.Agrees group :=
  agrees.imp Eq.symm List.Disjoint.symm

/-- The first union is compared with those before it, and the later ones also with the first. -/
theorem allAgree_cons_iff
    {before between rest : List UnionGroup}
    (mem_between : ∀ other, other ∈ between ↔ other ∈ before ∨ other = group) :
    AllAgree before (group :: rest) ↔
      (∀ other ∈ before, group.Agrees other) ∧ AllAgree between rest := by
  unfold AllAgree
  simp only [List.forall_mem_cons, List.forall_mem_append, mem_between]
  constructor
  · rintro ⟨⟨old, -, -⟩, later⟩
    refine ⟨old, fun first member => ⟨?_, (later first member).2.2⟩⟩
    rintro other (isOld | rfl)
    · exact (later first member).1 other isOld
    · exact (later first member).2.1
  · rintro ⟨old, later⟩
    have withGroup : ∀ first ∈ rest, first.Agrees group := fun first member =>
      (later first member).1 group (.inr rfl)
    refine ⟨⟨old, .refl group, fun first member => (withGroup first member).symm⟩,
      fun first member => ⟨?_, withGroup first member, (later first member).2⟩⟩
    exact fun other isOld => (later first member).1 other (.inl isOld)

end UnionGroup

namespace Marker

/-- A marker makes a key a member of a union with a policy, unless the key was left out. -/
structure Unites
    (skipped : List String)
    (marker : Marker)
    (policy : UnionPolicy)
    (key : String) : Prop where
  demands : UnionPolicy.ofMarker? marker.name = some policy
  listed : key ∈ marker.list Definition.unnamed
  isKept : key ∉ skipped

/-- The keys that a marker lists and that were not left out, without repetitions. -/
def unitedKeys (skipped : List String) (marker : Marker) : List String :=
  ((marker.list Definition.unnamed).filter (· ∉ skipped)).eraseDups

/-- The union that a marker describes, if it has members. -/
def union? (skipped : List String) (marker : Marker) : Option UnionGroup :=
  if marker.unitedKeys skipped = [] then none
  else (UnionPolicy.ofMarker? marker.name).map fun policy => ⟨policy, marker.unitedKeys skipped⟩

variable {skipped : List String} {marker : Marker}

theorem mem_unitedKeys_iff {key : String} :
    key ∈ marker.unitedKeys skipped ↔ key ∈ marker.list Definition.unnamed ∧ key ∉ skipped := by
  simp [unitedKeys]

theorem union?_of_ofMarker?_eq_none (demandsNothing : UnionPolicy.ofMarker? marker.name = none) :
    marker.union? skipped = none := by
  rw [union?, demandsNothing]
  split <;> rfl

theorem union?_of_ofMarker?_eq_some
    {policy : UnionPolicy}
    (demands : UnionPolicy.ofMarker? marker.name = some policy) :
    marker.union? skipped =
      if marker.unitedKeys skipped = [] then none
      else some ⟨policy, marker.unitedKeys skipped⟩ := by
  rw [union?, demands]
  rfl

theorem union?_eq_some_iff {group : UnionGroup} :
    marker.union? skipped = some group ↔
      UnionPolicy.ofMarker? marker.name = some group.policy ∧
        group.members = marker.unitedKeys skipped ∧ group.members ≠ [] := by
  obtain ⟨policy, members⟩ := group
  cases demands : UnionPolicy.ofMarker? marker.name with
  | none =>
      rw [union?_of_ofMarker?_eq_none demands]
      exact iff_of_false nofun fun described => nomatch described.1
  | some demanded =>
      rw [union?_of_ofMarker?_eq_some demands]
      by_cases empty : marker.unitedKeys skipped = []
      · rw [if_pos empty, empty]
        exact iff_of_false nofun fun ⟨_, same, nonempty⟩ => nonempty same
      · rw [if_neg empty, Option.some.injEq, Option.some.injEq, UnionGroup.mk.injEq]
        constructor
        · rintro ⟨rfl, rfl⟩
          exact ⟨rfl, rfl, empty⟩
        · rintro ⟨rfl, rfl, -⟩
          exact ⟨rfl, rfl⟩

/-- The members of the union of a marker are the keys that the marker unites. -/
theorem unites_iff {policy : UnionPolicy} {key : String} :
    marker.Unites skipped policy key ↔
      ∃ group, marker.union? skipped = some group ∧ group.policy = policy ∧
        key ∈ group.members := by
  constructor
  · rintro ⟨demands, listed, isKept⟩
    have member := mem_unitedKeys_iff.mpr ⟨listed, isKept⟩
    exact ⟨⟨policy, _⟩, union?_eq_some_iff.mpr ⟨demands, rfl, List.ne_nil_of_mem member⟩, rfl,
      member⟩
  · rintro ⟨group, described, rfl, member⟩
    obtain ⟨demands, same, -⟩ := union?_eq_some_iff.mp described
    obtain ⟨listed, isKept⟩ := mem_unitedKeys_iff.mp (same ▸ member)
    exact ⟨demands, listed, isKept⟩

theorem nodup_members_of_union? {group : UnionGroup} (described : marker.union? skipped = some group) :
    group.members.Nodup := by
  rw [(union?_eq_some_iff.mp described).2.1]
  exact nodup_eraseDups _

end Marker

namespace Markers

/-- The unions that markers describe, in order. -/
def unions (skipped : List String) (markers : Markers) : List UnionGroup :=
  markers.filterMap (·.union? skipped)

/-- Two markers unite a key with different policies. -/
def Clash (skipped : List String) (markers : Markers) : Prop :=
  ∃ first ∈ markers, ∃ second ∈ markers, ∃ policy other key,
    first.Unites skipped policy key ∧ second.Unites skipped other key ∧ policy ≠ other

variable {skipped : List String} {markers : Markers}

theorem mem_unions_iff {group : UnionGroup} :
    group ∈ markers.unions skipped ↔ ∃ marker ∈ markers, marker.union? skipped = some group :=
  List.mem_filterMap

/-- Markers clash if the unions that they describe do not all agree. -/
theorem clash_iff :
    markers.Clash skipped ↔
      ∃ group ∈ markers.unions skipped, ∃ other ∈ markers.unions skipped,
        ¬ group.Agrees other := by
  constructor
  · rintro ⟨first, isFirst, second, isSecond, policy, other, key, unites, unitesToo, differ⟩
    obtain ⟨group, described, rfl, member⟩ := Marker.unites_iff.mp unites
    obtain ⟨group', described', rfl, member'⟩ := Marker.unites_iff.mp unitesToo
    refine ⟨group, mem_unions_iff.mpr ⟨first, isFirst, described⟩, group',
      mem_unions_iff.mpr ⟨second, isSecond, described'⟩, ?_⟩
    rintro (same | disjoint)
    · exact differ same
    · exact disjoint member member'
  · rintro ⟨group, isGroup, other, isOther, disagree⟩
    obtain ⟨first, isFirst, described⟩ := mem_unions_iff.mp isGroup
    obtain ⟨second, isSecond, described'⟩ := mem_unions_iff.mp isOther
    rw [UnionGroup.Agrees, not_or, List.disjoint_left] at disagree
    obtain ⟨differ, shared⟩ := disagree
    push Not at shared
    obtain ⟨key, member, member'⟩ := shared
    exact ⟨first, isFirst, second, isSecond, _, _, key,
      Marker.unites_iff.mpr ⟨group, described, rfl, member⟩,
      Marker.unites_iff.mpr ⟨other, described', rfl, member'⟩, differ⟩

end Markers

namespace SchemaNode

variable {node extended : SchemaNode} {skipped : List String} {markers : Markers}

/-- Some marker unites a key that is not a property. -/
def LacksMember (node : SchemaNode) (skipped : List String) (markers : Markers) : Prop :=
  ∃ marker ∈ markers, ∃ policy key,
    marker.Unites skipped policy key ∧ node.hasProperty key = false

/-! ## One marker -/

/-- The keys of a list are accepted if those that were not left out are properties, and then they
are added once. -/
theorem unionMembers_eq_ok_iff
    {keys members result : List String}
    (distinct : members.Nodup) :
    node.unionMembers skipped members keys = .ok result ↔
      (∀ key ∈ keys, key ∉ skipped → node.hasProperty key = true) ∧
        result = (members ++ keys.filter (· ∉ skipped)).eraseDups := by
  induction keys generalizing members with
  | nil =>
      rw [List.filter_nil, List.append_nil, eraseDups_of_nodup distinct]
      exact ⟨fun same => ⟨nofun, (Except.ok.inj same).symm⟩, fun same => congrArg _ same.2.symm⟩
  | cons key rest inductionHypothesis =>
      rw [unionMembers, List.forall_mem_cons]
      by_cases isSkipped : key ∈ skipped
      · rw [if_pos isSkipped, inductionHypothesis distinct]
        simp [isSkipped]
      · rw [if_neg isSkipped]
        by_cases isProperty : node.hasProperty key = true
        · have added : (if key ∈ members then members else members ++ [key]) =
              (members ++ [key]).eraseDups := by
            rw [eraseDups_append_singleton, eraseDups_of_nodup distinct]
          rw [if_pos isProperty, added, inductionHypothesis (nodup_eraseDups _),
            eraseDups_eraseDups_append]
          simp [isProperty, isSkipped]
        · rw [if_neg isProperty]
          exact iff_of_false nofun fun accepted => isProperty (accepted.1.1 isSkipped)

theorem unionConflict?_eq_none_iff
    {policy : UnionPolicy}
    {members : List String}
    {groups : List UnionGroup} :
    unionConflict? policy members groups = none ↔
      ∀ group ∈ groups, UnionGroup.Agrees ⟨policy, members⟩ group := by
  induction groups with
  | nil => simp [unionConflict?]
  | cons group rest inductionHypothesis =>
      rw [List.forall_mem_cons, ← inductionHypothesis]
      have conflict : (members.filter (· ∈ group.members) ≠ [] ∧ group.policy ≠ policy) ↔
          ¬ UnionGroup.Agrees ⟨policy, members⟩ group := by
        rw [UnionGroup.Agrees, not_or, List.disjoint_left, ne_eq, List.filter_eq_nil_iff]
        simp [and_comm, eq_comm]
      rw [unionConflict?]
      by_cases agrees : UnionGroup.Agrees ⟨policy, members⟩ group
      · rw [if_neg fun both => conflict.mp both agrees]
        exact (and_iff_right agrees).symm
      · rw [if_pos (conflict.mpr agrees)]
        exact iff_of_false nofun fun both => agrees both.1

/-- Records a union with its composition, unless it is recorded already. -/
def record (node : SchemaNode) (group : UnionGroup) : SchemaNode :=
  if group ∈ node.unions then node
  else { node.compose group.policy group.members with unions := node.unions ++ [group] }

/-- A composition changes the compositions of a node and nothing else. -/
theorem exists_compose_eq
    (node : SchemaNode)
    (policy : UnionPolicy)
    (members : List String) :
    ∃ oneOf anyOf allOf, node.compose policy members = { node with oneOf, anyOf, allOf } := by
  cases policy with
  | atMostOne =>
      cases node
      exact ⟨_, _, _, rfl⟩
  | exactlyOne | atLeastOne =>
      unfold compose
      dsimp only
      split <;> exact ⟨_, _, _, rfl⟩

@[simp] theorem unions_compose (policy : UnionPolicy) (members : List String) :
    (node.compose policy members).unions = node.unions := by
  obtain ⟨oneOf, anyOf, allOf, composed⟩ := node.exists_compose_eq policy members
  rw [composed]

@[simp] theorem properties_compose (policy : UnionPolicy) (members : List String) :
    (node.compose policy members).properties = node.properties := by
  obtain ⟨oneOf, anyOf, allOf, composed⟩ := node.exists_compose_eq policy members
  rw [composed]

@[simp] theorem properties_record (group : UnionGroup) :
    (node.record group).properties = node.properties := by
  unfold record
  split
  · rfl
  · exact properties_compose _ _

@[simp] theorem hasProperty_record (group : UnionGroup) (key : String) :
    (node.record group).hasProperty key = node.hasProperty key := by
  rw [hasProperty, properties_record, hasProperty]

theorem unions_record (group : UnionGroup) :
    (node.record group).unions =
      if group ∈ node.unions then node.unions else node.unions ++ [group] := by
  unfold record
  split <;> rfl

theorem mem_unions_record {group other : UnionGroup} :
    other ∈ (node.record group).unions ↔ other ∈ node.unions ∨ other = group := by
  rw [unions_record]
  split
  · rename_i isRecorded
    exact (or_iff_left_of_imp fun same => same ▸ isRecorded).symm
  · rw [List.mem_append, List.mem_singleton]

theorem addUnion_eq_ok_iff
    {policy : UnionPolicy}
    {members : List String}
    (nonempty : members ≠ []) :
    node.addUnion policy members = .ok extended ↔
      (∀ group ∈ node.unions, UnionGroup.Agrees ⟨policy, members⟩ group) ∧
        extended = node.record ⟨policy, members⟩ := by
  rw [addUnion, if_neg nonempty, ← unionConflict?_eq_none_iff, record]
  cases unionConflict? policy members node.unions with
  | some error => exact iff_of_false nofun fun accepted => nomatch accepted.1
  | none =>
      dsimp only
      rw [unions_compose]
      split <;> simp [eq_comm]

/-- The keys that a union marker lists are accepted if those that it unites are properties. -/
theorem unionMembers_list_eq_ok_iff
    {marker : Marker}
    {policy : UnionPolicy}
    {result : List String}
    (demands : UnionPolicy.ofMarker? marker.name = some policy) :
    node.unionMembers skipped [] (marker.list Definition.unnamed) = .ok result ↔
      (∀ other key, marker.Unites skipped other key → node.hasProperty key = true) ∧
        result = marker.unitedKeys skipped := by
  rw [unionMembers_eq_ok_iff List.nodup_nil, List.nil_append]
  exact and_congr_left' ⟨fun known other key unites => known key unites.listed unites.isKept,
    fun known key listed isKept => known policy key ⟨demands, listed, isKept⟩⟩

/-- A marker is accepted if what it unites are properties and its union agrees with those that are
recorded, and then its union is recorded. -/
theorem addUnionMarker_eq_ok_iff {marker : Marker} :
    node.addUnionMarker skipped marker = .ok extended ↔
      (∀ policy key, marker.Unites skipped policy key → node.hasProperty key = true) ∧
        (∀ group ∈ marker.union? skipped, ∀ other ∈ node.unions, group.Agrees other) ∧
        extended = (marker.union? skipped).elim node node.record := by
  unfold addUnionMarker
  cases demands : UnionPolicy.ofMarker? marker.name with
  | none =>
      have nothing : ∀ policy key, ¬ marker.Unites skipped policy key := fun policy key unites =>
        nomatch demands.symm.trans unites.demands
      rw [Marker.union?_of_ofMarker?_eq_none demands]
      exact ⟨fun same => ⟨fun policy key unites => absurd unites (nothing policy key), nofun,
        (Except.ok.inj same).symm⟩, fun accepted => congrArg _ accepted.2.2.symm⟩
  | some policy =>
      dsimp only
      cases united : node.unionMembers skipped [] (marker.list Definition.unnamed) with
      | error error =>
          refine iff_of_false nofun fun accepted => ?_
          have succeeds := (unionMembers_list_eq_ok_iff demands).mpr ⟨accepted.1, rfl⟩
          cases united.symm.trans succeeds
      | ok members =>
          obtain ⟨known, rfl⟩ := (unionMembers_list_eq_ok_iff demands).mp united
          rw [and_iff_right known, Marker.union?_of_ofMarker?_eq_some demands]
          dsimp only
          by_cases empty : marker.unitedKeys skipped = []
          · rw [if_pos empty, addUnion, if_pos empty]
            exact ⟨fun added => ⟨nofun, (Except.ok.inj added).symm⟩,
              fun accepted => congrArg _ accepted.2.symm⟩
          · rw [if_neg empty]
            exact (addUnion_eq_ok_iff empty).trans (by simp)

/-! ## All markers -/

/-- Markers are accepted if what they unite are properties and their unions agree with each other
and with those that are recorded. Then their unions are recorded in order. -/
theorem addUnions_eq_ok_iff :
    node.addUnions skipped markers = .ok extended ↔
      (∀ marker ∈ markers, ∀ policy key, marker.Unites skipped policy key →
          node.hasProperty key = true) ∧
        UnionGroup.AllAgree node.unions (markers.unions skipped) ∧
        extended = (markers.unions skipped).foldl record node := by
  induction markers generalizing node with
  | nil =>
      exact ⟨fun same => ⟨nofun, nofun, (Except.ok.inj same).symm⟩,
        fun accepted => congrArg _ accepted.2.2.symm⟩
  | cons marker rest inductionHypothesis =>
      have bind : node.addUnions skipped (marker :: rest) = .ok extended ↔
          ∃ next, node.addUnionMarker skipped marker = .ok next ∧
            next.addUnions skipped rest = .ok extended := by
        rw [addUnions]
        cases node.addUnionMarker skipped marker with
        | error error => exact iff_of_false nofun nofun
        | ok next => simp
      simp only [bind, addUnionMarker_eq_ok_iff, inductionHypothesis, List.forall_mem_cons,
        Markers.unions, List.filterMap_cons]
      cases marker.union? skipped with
      | none =>
          constructor
          · rintro ⟨next, ⟨known, -, rfl⟩, knownLater, agree, recorded⟩
            exact ⟨⟨known, knownLater⟩, agree, recorded⟩
          · rintro ⟨⟨known, knownLater⟩, agree, recorded⟩
            exact ⟨node, ⟨known, nofun, rfl⟩, knownLater, agree, recorded⟩
      | some group =>
          have allAgree : UnionGroup.AllAgree node.unions
                (group :: rest.filterMap (·.union? skipped)) ↔ _ :=
            UnionGroup.allAgree_cons_iff fun _ => mem_unions_record
          constructor
          · rintro ⟨next, ⟨known, agrees, rfl⟩, knownLater, agree, recorded⟩
            simp only [Option.elim_some, hasProperty_record] at knownLater
            exact ⟨⟨known, knownLater⟩, allAgree.mpr ⟨agrees group rfl, agree⟩, recorded⟩
          · rintro ⟨⟨known, knownLater⟩, agree, recorded⟩
            obtain ⟨agrees, agreeLater⟩ := allAgree.mp agree
            refine ⟨node.record group, ⟨known, ?_, rfl⟩, ?_, agreeLater, recorded⟩
            · rintro _ ⟨⟩
              exact agrees
            · simpa only [hasProperty_record] using knownLater

/-- Unions that are recorded one after the other stand there once, in order. -/
theorem unions_foldl_record
    {groups : List UnionGroup}
    (distinct : node.unions.Nodup) :
    (groups.foldl record node).unions = (node.unions ++ groups).eraseDups := by
  induction groups generalizing node with
  | nil => rw [List.foldl_nil, List.append_nil, eraseDups_of_nodup distinct]
  | cons group rest inductionHypothesis =>
      have recorded : (node.record group).unions = (node.unions ++ [group]).eraseDups := by
        rw [unions_record, eraseDups_append_singleton, eraseDups_of_nodup distinct]
      rw [List.foldl_cons, inductionHypothesis (recorded ▸ nodup_eraseDups _), recorded,
        eraseDups_eraseDups_append, List.append_assoc, List.singleton_append]

theorem properties_foldl_record (groups : List UnionGroup) :
    (groups.foldl record node).properties = node.properties := by
  induction groups generalizing node with
  | nil => rfl
  | cons group rest inductionHypothesis =>
      rw [List.foldl_cons, inductionHypothesis, properties_record]

/-- Unions that are added change what is recorded and the compositions of a node, and nothing else.
-/
theorem exists_eq_of_addUnions
    (added : node.addUnions skipped markers = .ok extended) :
    ∃ unions oneOf anyOf allOf, extended = { node with unions, oneOf, anyOf, allOf } := by
  have recorded : ∀ groups : List UnionGroup, ∃ unions oneOf anyOf allOf,
      groups.foldl record node = { node with unions, oneOf, anyOf, allOf } := by
    intro groups
    induction groups using List.reverseRecOn with
    | nil =>
        cases node
        exact ⟨_, _, _, _, rfl⟩
    | append_singleton groups group inductionHypothesis =>
        obtain ⟨unions, oneOf, anyOf, allOf, same⟩ := inductionHypothesis
        rw [List.foldl_append, same, List.foldl_cons, List.foldl_nil, record]
        split
        · exact ⟨_, _, _, _, rfl⟩
        · obtain ⟨oneOf, anyOf, allOf, composed⟩ := exists_compose_eq _ group.policy group.members
          rw [composed]
          exact ⟨_, _, _, _, rfl⟩
  rw [(addUnions_eq_ok_iff.mp added).2.2]
  exact recorded _

/-! ## Markers in any order -/

/-- A node without unions gets the unions that the markers describe, each once. -/
theorem unions_addUnions
    (fresh : node.unions = [])
    (added : node.addUnions skipped markers = .ok extended) :
    extended.unions = (markers.unions skipped).eraseDups := by
  rw [(addUnions_eq_ok_iff.mp added).2.2, unions_foldl_record (fresh ▸ List.nodup_nil), fresh,
    List.nil_append]

/-- Markers are rejected if they unite what is no property, or if they clash. -/
theorem exists_addUnions_eq_error_iff (fresh : node.unions = []) :
    (∃ error, node.addUnions skipped markers = .error error) ↔
      node.LacksMember skipped markers ∨ markers.Clash skipped := by
  have outcome : (∃ error, node.addUnions skipped markers = .error error) ↔
      ¬ ∃ extended, node.addUnions skipped markers = .ok extended := by
    cases node.addUnions skipped markers <;> simp
  rw [outcome, Markers.clash_iff]
  constructor
  · intro rejected
    by_contra accepted
    rw [not_or] at accepted
    obtain ⟨known, agree⟩ := accepted
    refine rejected ⟨_, addUnions_eq_ok_iff.mpr ⟨fun marker isMarker policy key unites => ?_,
      fun group isGroup other isOther => ?_, rfl⟩⟩
    · by_contra unknown
      exact known ⟨marker, isMarker, policy, key, unites, Bool.eq_false_iff.mpr unknown⟩
    · rw [fresh, List.nil_append] at isOther
      by_contra disagree
      exact agree ⟨group, isGroup, other, isOther, disagree⟩
  · rintro reason ⟨extended, added⟩
    obtain ⟨known, agree, -⟩ := addUnions_eq_ok_iff.mp added
    rcases reason with ⟨marker, isMarker, policy, key, unites, unknown⟩ |
      ⟨group, isGroup, other, isOther, disagree⟩
    · rw [known marker isMarker policy key unites] at unknown
      cases unknown
    · exact disagree (agree group isGroup other (List.mem_append_right _ isOther))

theorem lacksMember_of_perm {others : Markers} (permuted : others.Perm markers) :
    node.LacksMember skipped others ↔ node.LacksMember skipped markers := by
  simp only [LacksMember, permuted.mem_iff]

theorem clash_of_perm {others : Markers} (permuted : others.Perm markers) :
    others.Clash skipped ↔ markers.Clash skipped := by
  simp only [Markers.Clash, permuted.mem_iff]

/-- Whether the unions of a node are accepted does not depend on the order of the markers: they are
rejected exactly if a marker lists a member that is neither left out nor a property, or if two
markers with different policies share a member that was not left out. The unions that are recorded
are those that the markers describe, none of them twice, and unions with different policies share
no members. Other orders of the markers give other orders of the same unions. -/
theorem addUnions_perm
    (node : SchemaNode)
    (skipped : List String)
    (markers : Markers)
    (fresh : node.unions = []) :
    ((∃ error, node.addUnions skipped markers = .error error) ↔
        node.LacksMember skipped markers ∨ markers.Clash skipped) ∧
      (∀ others : Markers, others.Perm markers →
        ((∃ error, node.addUnions skipped others = .error error) ↔
          ∃ error, node.addUnions skipped markers = .error error)) ∧
      ∀ extended, node.addUnions skipped markers = .ok extended →
        (∀ group, group ∈ extended.unions ↔
          ∃ marker ∈ markers, marker.union? skipped = some group) ∧
        extended.unions.Nodup ∧
        (∀ group ∈ extended.unions, ∀ other ∈ extended.unions,
          group.policy ≠ other.policy → group.members.Disjoint other.members) ∧
        ∀ others : Markers, others.Perm markers →
          ∃ permuted, node.addUnions skipped others = .ok permuted ∧
            permuted.unions.Perm extended.unions := by
  have rejected : ∀ markers : Markers,
      (∃ error, node.addUnions skipped markers = .error error) ↔
        node.LacksMember skipped markers ∨ markers.Clash skipped :=
    fun _ => exists_addUnions_eq_error_iff fresh
  have rejectedAlike : ∀ others : Markers, others.Perm markers →
      ((∃ error, node.addUnions skipped others = .error error) ↔
        ∃ error, node.addUnions skipped markers = .error error) := by
    intro others permuted
    rw [rejected, rejected, lacksMember_of_perm permuted, clash_of_perm permuted]
  refine ⟨rejected markers, rejectedAlike, fun extended added => ?_⟩
  have unions : extended.unions = (markers.unions skipped).eraseDups := unions_addUnions fresh added
  have distinct : extended.unions.Nodup := unions ▸ nodup_eraseDups _
  have described : ∀ group, group ∈ extended.unions ↔
      ∃ marker ∈ markers, marker.union? skipped = some group := fun group => by
    rw [unions, List.mem_eraseDups, Markers.mem_unions_iff]
  refine ⟨described, distinct, fun group isGroup other isOther differ => ?_,
    fun others permuted => ?_⟩
  · rw [unions, List.mem_eraseDups] at isGroup isOther
    have agrees := (addUnions_eq_ok_iff.mp added).2.1 group isGroup other
      (List.mem_append_right _ isOther)
    exact agrees.resolve_left differ
  · cases outcome : node.addUnions skipped others with
    | error error =>
        obtain ⟨_, failed⟩ := (rejectedAlike others permuted).mp ⟨error, outcome⟩
        rw [added] at failed
        cases failed
    | ok result =>
        have unionsToo := unions_addUnions fresh outcome
        refine ⟨result, rfl, (List.perm_ext_iff_of_nodup (unionsToo ▸ nodup_eraseDups _)
          distinct).mpr fun group => ?_⟩
        rw [described, unionsToo, List.mem_eraseDups, Markers.mem_unions_iff]
        simp only [permuted.mem_iff]

/-! ## A source with unions -/

/-- A marker of a union of keys. -/
def unionMarker (name : String) (keys : List String) : Marker where
  name
  location := .declaration ⟨"p", "Source"⟩
  consumer := .schema
  arguments := [(Definition.unnamed, .list keys)]

/-- A record with three kinds of sources and a checksum. -/
def sourceNode : SchemaNode where
  type := some .object
  properties := ["git", "oci", "url", "sum"].map fun key => (key, ofType .string)

/-- Two unions of a source. The first one is listed twice, once with a member that was left out. -/
def sourceMarkers : Markers :=
  [unionMarker Vocabulary.exactlyOneOf ["git", "ftp", "oci", "git"],
    unionMarker Vocabulary.atMostOneOf ["sum"],
    unionMarker Vocabulary.exactlyOneOf ["git", "oci"]]

/-- The unions of a source are accepted in either order. -/
theorem addUnions_perm_source :
    sourceNode.unions = [] ∧ ¬ sourceNode.LacksMember ["ftp"] sourceMarkers ∧
      ¬ sourceMarkers.Clash ["ftp"] ∧
      ∃ extended permuted, sourceNode.addUnions ["ftp"] sourceMarkers = .ok extended ∧
        extended.unions = [⟨.exactlyOne, ["git", "oci"]⟩, ⟨.atMostOne, ["sum"]⟩] ∧
        sourceNode.addUnions ["ftp"] sourceMarkers.reverse = .ok permuted ∧
        permuted.unions.Perm extended.unions := by
  obtain ⟨rejected, -, accepted⟩ := addUnions_perm sourceNode ["ftp"] sourceMarkers rfl
  have added : ∃ extended, sourceNode.addUnions ["ftp"] sourceMarkers = .ok extended ∧
      extended.unions = [⟨.exactlyOne, ["git", "oci"]⟩, ⟨.atMostOne, ["sum"]⟩] :=
    ⟨_, rfl, by decide +kernel⟩
  obtain ⟨extended, added, unions⟩ := added
  have fits : ¬ (sourceNode.LacksMember ["ftp"] sourceMarkers ∨ sourceMarkers.Clash ["ftp"]) := by
    rw [← rejected, added]
    exact fun ⟨_, failed⟩ => nomatch failed
  rw [not_or] at fits
  obtain ⟨permuted, addedToo, sameUnions⟩ :=
    (accepted extended added).2.2.2 _ (List.reverse_perm sourceMarkers)
  exact ⟨rfl, fits.1, fits.2, extended, permuted, added, unions, addedToo, sameUnions⟩

end SchemaNode
end MarkerManifests
