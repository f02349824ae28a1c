import Mathlib.Data.List.Induction
import Mathlib.Data.List.Nodup
import MarkerManifests.Schema.Node

/-!
# Positions in schemas

A position is the way from the root of a schema to one of its nodes. Equal nodes may stand at
different positions, so it is positions that a walk can miss or repeat.

The walk through a schema is a loop over a list that grows while it is scanned: every round scans
one node and adds its children at the end. The loop has as many rounds as the tree has nodes. A
position is added in the round that scans its parent, and there is one such round, so the loop meets
every position once. It meets them level by level, and hence every position after its parent.
-/

namespace MarkerManifests
namespace SchemaNode

/-! ## Positions -/

/-- The keywords that hold nodes. -/
inductive Applicator where
  | properties
  | items
  | additionalProperties
  | oneOf
  | anyOf
  | allOf
  deriving DecidableEq

/-- The keywords that hold nodes, in the order in which these are met. -/
def Applicator.all : List Applicator :=
  [properties, items, additionalProperties, oneOf, anyOf, allOf]

theorem Applicator.mem_all (keyword : Applicator) : keyword ∈ all := by
  cases keyword <;> decide

/-- The nodes that a keyword of a node holds, in their order. -/
def held (node : SchemaNode) : Applicator → List SchemaNode
  | .properties => node.properties.map (·.2)
  | .items => node.items.toList
  | .additionalProperties => node.additionalProperties.toList
  | .oneOf => node.oneOf
  | .anyOf => node.anyOf
  | .allOf => node.allOf

/-- A way from a node to one directly below it: the keyword that holds it, and its index there. -/
structure Branch where
  keyword : Applicator
  index : Nat
  deriving DecidableEq

/-- The branches that lead from the root to a node. -/
abbrev Position := List Branch

/-- The node at the end of a branch. -/
def child? (node : SchemaNode) (branch : Branch) : Option SchemaNode :=
  (node.held branch.keyword)[branch.index]?

/-- The node at a position. -/
def nodeAt? (root : SchemaNode) : Position → Option SchemaNode
  | [] => some root
  | branch :: rest => (root.child? branch).bind fun child => child.nodeAt? rest

/-- The branches of a node, in the order of its children. -/
def branches (node : SchemaNode) : List Branch :=
  Applicator.all.flatMap fun keyword =>
    (List.range (node.held keyword).length).map (Branch.mk keyword)

variable {node root : SchemaNode} {branch : Branch} {position : Position}

@[simp] theorem nodeAt?_nil (root : SchemaNode) : root.nodeAt? [] = some root := rfl

theorem nodeAt?_concat (root : SchemaNode) (position : Position) (branch : Branch) :
    root.nodeAt? (position ++ [branch]) =
      (root.nodeAt? position).bind fun node => node.child? branch := by
  induction position generalizing root with
  | nil => simp [nodeAt?]
  | cons first rest inductionHypothesis =>
      rw [List.cons_append, nodeAt?, nodeAt?, Option.bind_assoc]
      exact congrArg _ (funext inductionHypothesis)

theorem mem_branches_iff : branch ∈ node.branches ↔ (node.child? branch).isSome := by
  obtain ⟨keyword, index⟩ := branch
  simp [branches, child?, keyword.mem_all]

theorem nodup_branches (node : SchemaNode) : node.branches.Nodup := by
  refine List.nodup_flatMap.mpr ⟨fun keyword _ => List.nodup_range.map ?_, ?_⟩
  · exact fun _ _ same => (Branch.mk.inj same).2
  · refine List.Pairwise.imp (fun differ => ?_) (show Applicator.all.Nodup by decide)
    simp [Function.onFun, List.disjoint_left, differ.symm]

theorem children_eq_flatMap_held (node : SchemaNode) :
    node.children = Applicator.all.flatMap node.held := by
  simp [children, Applicator.all, held]

/-- The branches of a node lead to its children. -/
theorem map_child?_branches (node : SchemaNode) :
    node.branches.map node.child? = node.children.map some := by
  rw [branches, children_eq_flatMap_held, List.map_flatMap, List.map_flatMap]
  refine congrArg (List.flatMap · Applicator.all) (funext fun keyword => ?_)
  refine List.ext_getElem (by simp) fun index _ _ => ?_
  simp [child?]

/-- The positions directly below the position of a node. -/
def positionsBelow (node : SchemaNode) (position : Position) : List Position :=
  node.branches.map fun branch => position ++ [branch]

theorem mem_positionsBelow_iff {other : Position} :
    other ∈ node.positionsBelow position ↔
      ∃ branch, (node.child? branch).isSome ∧ position ++ [branch] = other := by
  simp [positionsBelow, mem_branches_iff]

theorem nodup_positionsBelow (node : SchemaNode) (position : Position) :
    (node.positionsBelow position).Nodup :=
  (nodup_branches node).map fun _ _ same => List.singleton_inj.mp (List.append_cancel_left same)

theorem map_nodeAt?_positionsBelow (isNode : root.nodeAt? position = some node) :
    (node.positionsBelow position).map root.nodeAt? = node.children.map some := by
  rw [positionsBelow, List.map_map, ← map_child?_branches]
  refine List.map_congr_left fun branch _ => ?_
  rw [Function.comp_apply, nodeAt?_concat, isNode, Option.bind_some]

/-! ## The number of nodes -/

/-- A node can be replaced by its children, which have one node less. -/
theorem sizeOfList_cons (node : SchemaNode) (rest : List SchemaNode) :
    sizeOfList (node :: rest) = sizeOfList (rest ++ node.children) + 1 := by
  rw [sizeOfList, sizeOfList_append, size_eq node]
  omega

theorem length_walkAll (nodes : List SchemaNode) : (walkAll nodes).length = sizeOfList nodes := by
  induction nodes using walkAll.induct with
  | case1 => simp [walkAll, sizeOfList]
  | case2 node rest inductionHypothesis =>
      rw [walkAll, List.length_cons, inductionHypothesis, sizeOfList_cons]

/-- The walk has as many nodes as the tree. -/
theorem length_walk (root : SchemaNode) : root.walk.length = root.size := by
  rw [walk, length_walkAll, sizeOfList, sizeOfList, Nat.add_zero]

/-! ## The loop -/

/-- The state of the loop: the nodes that were met, and how many of them were scanned. -/
structure Scan where
  met : List SchemaNode
  scanned : Nat

namespace Scan

/-- Before the first round only the root was met. -/
def start (root : SchemaNode) : Scan where
  met := [root]
  scanned := 0

/-- One round scans the next node and meets its children. There is none if all nodes were
scanned. -/
def next? (scan : Scan) : Option Scan :=
  scan.met[scan.scanned]?.map fun node => ⟨scan.met ++ node.children, scan.scanned + 1⟩

/-- The state after a number of rounds. -/
def rounds (scan : Scan) : Nat → Option Scan
  | 0 => some scan
  | count + 1 => scan.next?.bind fun after => after.rounds count

/-- There is one round for each node of the pending trees. -/
theorem rounds_sizeOfList (scanned pending : List SchemaNode) :
    rounds ⟨scanned ++ pending, scanned.length⟩ (sizeOfList pending) =
      some ⟨scanned ++ walkAll pending, scanned.length + sizeOfList pending⟩ := by
  induction pending using walkAll.induct generalizing scanned with
  | case1 => simp [rounds, walkAll, sizeOfList]
  | case2 node rest inductionHypothesis =>
      have round : next? ⟨scanned ++ node :: rest, scanned.length⟩ =
          some ⟨(scanned ++ [node]) ++ (rest ++ node.children), (scanned ++ [node]).length⟩ := by
        simp [next?]
      rw [sizeOfList_cons, rounds, round, Option.bind_some, inductionHypothesis, walkAll,
        List.length_append, List.length_singleton, List.append_assoc, List.singleton_append]
      congr 2
      omega

/-! ## Positions in the loop -/

/-- Positions are met level by level, and none of them is more than one level below a pending
one. -/
structure InLevels (scanned pending : List Position) : Prop where
  sorted : (scanned ++ pending).Pairwise fun earlier later => earlier.length ≤ later.length
  near : ∀ position ∈ scanned ++ pending, ∀ other ∈ pending, position.length ≤ other.length + 1

/-- The nodes that were met stand at positions of which some were scanned and the others are
pending. -/
structure Locates
    (root : SchemaNode)
    (scan : Scan)
    (scanned pending : List Position) : Prop where
  count : scanned.length = scan.scanned
  nodes : (scanned ++ pending).map root.nodeAt? = scan.met.map some
  first : (scanned ++ pending).head? = some []
  distinct : (scanned ++ pending).Nodup
  /-- A position is met when its parent is scanned, and not earlier. -/
  parents : ∀ position branch, position ++ [branch] ∈ scanned ++ pending → position ∈ scanned
  /-- Everything directly below a scanned position was met. -/
  closed : ∀ position ∈ scanned, ∀ branch,
    (root.nodeAt? (position ++ [branch])).isSome → position ++ [branch] ∈ scanned ++ pending
  inLevels : InLevels scanned pending

theorem locates_start (root : SchemaNode) : Locates root (start root) [] [[]] where
  count := rfl
  nodes := rfl
  first := rfl
  distinct := List.nodup_singleton []
  parents := by simp
  closed := by simp
  inLevels := ⟨List.pairwise_singleton _ _, by simp⟩

variable {scan after : Scan} {scanned pending others : List Position}

/-- A round scans the first pending position. -/
theorem Locates.exists_scanned
    (locates : Locates root scan scanned pending)
    (round : scan.next? = some after) :
    ∃ position others node, pending = position :: others ∧ root.nodeAt? position = some node ∧
      after = ⟨scan.met ++ node.children, scan.scanned + 1⟩ := by
  obtain ⟨node, isNext, rfl⟩ := Option.map_eq_some_iff.mp round
  have located : ((scanned ++ pending).map root.nodeAt?)[scan.scanned]? = some (some node) := by
    rw [locates.nodes, List.getElem?_map, isNext, Option.map_some]
  rw [← locates.count, List.getElem?_map, List.getElem?_append_right (Nat.le_refl _),
    Nat.sub_self] at located
  cases pending with
  | nil => cases located
  | cons position others => exact ⟨position, others, node, rfl, Option.some.inj located, rfl⟩

/-- What is added in a round goes behind everything that was met. -/
theorem append_positionsBelow (scanned others : List Position) (position : Position)
    (node : SchemaNode) :
    scanned ++ [position] ++ (others ++ node.positionsBelow position) =
      scanned ++ position :: others ++ node.positionsBelow position := by
  simp

/-- Added positions are one level below the one that is scanned, and no pending one is above that
one. -/
theorem InLevels.after_round
    (inLevels : InLevels scanned (position :: others))
    (node : SchemaNode) :
    InLevels (scanned ++ [position]) (others ++ node.positionsBelow position) := by
  have addedLength : ∀ other ∈ node.positionsBelow position,
      other.length = position.length + 1 := by
    intro other isAdded
    obtain ⟨branch, -, rfl⟩ := mem_positionsBelow_iff.mp isAdded
    rw [List.length_append, List.length_singleton]
  have metLength : ∀ other ∈ scanned ++ position :: others,
      other.length ≤ position.length + 1 :=
    fun other isMet => inLevels.near other isMet position List.mem_cons_self
  have pendingLength : ∀ other ∈ others ++ node.positionsBelow position,
      position.length ≤ other.length := by
    refine List.forall_mem_append.mpr ⟨?_, fun other isAdded => ?_⟩
    · exact (List.pairwise_cons.mp (List.pairwise_append.mp inLevels.sorted).2.1).1
    · rw [addedLength other isAdded]
      exact Nat.le_succ _
  constructor
  · rw [append_positionsBelow]
    refine List.pairwise_append.mpr ⟨inLevels.sorted, ?_, ?_⟩
    · refine List.pairwise_of_forall_mem_list fun left isLeft right isRight => Nat.le_of_eq ?_
      rw [addedLength left isLeft, addedLength right isRight]
    · intro earlier isMet later isAdded
      rw [addedLength later isAdded]
      exact metLength earlier isMet
  · rw [append_positionsBelow]
    intro earlier member later isPending
    have bound : earlier.length ≤ position.length + 1 := by
      rcases List.mem_append.mp member with isMet | isAdded
      · exact metLength earlier isMet
      · exact Nat.le_of_eq (addedLength earlier isAdded)
    exact Nat.le_trans bound (Nat.add_le_add_right (pendingLength later isPending) 1)

/-- The positions below a pending position were not met yet. -/
theorem Locates.not_mem_below
    (locates : Locates root scan scanned (position :: others)) :
    position ++ [branch] ∉ scanned ++ position :: others := by
  intro member
  have wasScanned := locates.parents position branch member
  exact (List.nodup_append.mp locates.distinct).2.2 position wasScanned position
    List.mem_cons_self rfl

/-- A round adds the positions below the scanned one. -/
theorem Locates.after_round
    (locates : Locates root scan scanned (position :: others))
    (isNode : root.nodeAt? position = some node) :
    Locates root ⟨scan.met ++ node.children, scan.scanned + 1⟩ (scanned ++ [position])
      (others ++ node.positionsBelow position) where
  count := by
    rw [List.length_append, locates.count]
    rfl
  nodes := by
    rw [append_positionsBelow, List.map_append, locates.nodes, map_nodeAt?_positionsBelow isNode,
      List.map_append]
  first := by
    rw [append_positionsBelow, List.head?_append, locates.first, Option.some_or]
  distinct := by
    rw [append_positionsBelow]
    refine List.nodup_append.mpr ⟨locates.distinct, nodup_positionsBelow node position, ?_⟩
    rintro earlier isMet _ isAdded rfl
    obtain ⟨branch, -, rfl⟩ := mem_positionsBelow_iff.mp isAdded
    exact locates.not_mem_below isMet
  parents := by
    intro other branch member
    rw [append_positionsBelow] at member
    rcases List.mem_append.mp member with wasMet | isAdded
    · exact List.mem_append_left _ (locates.parents other branch wasMet)
    · obtain ⟨_, -, same⟩ := mem_positionsBelow_iff.mp isAdded
      exact List.mem_append_right _ (List.mem_singleton.mpr (List.append_inj' same rfl).1.symm)
  closed := by
    intro other isScanned branch isSome
    rw [append_positionsBelow]
    rcases List.mem_append.mp isScanned with wasScanned | isPosition
    · exact List.mem_append_left _ (locates.closed other wasScanned branch isSome)
    · cases List.mem_singleton.mp isPosition
      rw [nodeAt?_concat, isNode, Option.bind_some] at isSome
      exact List.mem_append_right _ (mem_positionsBelow_iff.mpr ⟨branch, isSome, rfl⟩)
  inLevels := locates.inLevels.after_round node

/-- After any number of rounds the nodes that were met stand at positions. -/
theorem Locates.exists_after_rounds
    {count : Nat}
    (locates : Locates root scan scanned pending)
    (reached : scan.rounds count = some after) :
    ∃ scanned pending, Locates root after scanned pending := by
  induction count generalizing scan scanned pending with
  | zero =>
      cases reached
      exact ⟨scanned, pending, locates⟩
  | succ count inductionHypothesis =>
      obtain ⟨between, round, reached⟩ := Option.bind_eq_some_iff.mp reached
      obtain ⟨position, others, node, rfl, isNode, rfl⟩ := locates.exists_scanned round
      exact inductionHypothesis (locates.after_round isNode) reached

/-! ## After the last round -/

theorem rounds_start (root : SchemaNode) :
    (start root).rounds root.size = some ⟨root.walk, root.size⟩ := by
  simpa [start, walk, sizeOfList] using rounds_sizeOfList [] [root]

/-- If nothing is pending, then the positions of all nodes were met. -/
theorem Locates.mem_iff
    (locates : Locates root scan scanned []) :
    position ∈ scanned ↔ (root.nodeAt? position).isSome := by
  have nodes := locates.nodes
  have closed := locates.closed
  have first := locates.first
  rw [List.append_nil] at nodes closed first
  constructor
  · intro isMet
    have isNode : root.nodeAt? position ∈ scan.met.map some := nodes ▸ List.mem_map_of_mem isMet
    obtain ⟨node, -, isNode⟩ := List.mem_map.mp isNode
    rw [← isNode]
    rfl
  · induction position using List.reverseRecOn with
    | nil => exact fun _ => List.mem_of_mem_head? first
    | append_singleton parent branch inductionHypothesis =>
        intro isSome
        refine closed parent (inductionHypothesis ?_) branch isSome
        rw [nodeAt?_concat] at isSome
        exact Option.isSome_of_isSome_bind isSome

/-- If nothing is pending, then every position was met after its parent. -/
theorem Locates.mem_before
    {before later : List Position}
    (locates : Locates root scan scanned [])
    (split : scanned = before ++ (position ++ [branch]) :: later) :
    position ∈ before := by
  have isMet : position ∈ scanned := by
    refine locates.parents position branch ?_
    rw [List.append_nil, split]
    exact List.mem_append_right _ List.mem_cons_self
  have sorted := locates.inLevels.sorted
  have deeper : position.length < (position ++ [branch]).length := by simp
  rw [List.append_nil, split, List.pairwise_append] at sorted
  rw [split, List.mem_append, List.mem_cons] at isMet
  -- a parent that is met later would have to be on the same level or below
  rcases isMet with isBefore | same | isLater
  · exact isBefore
  · rw [← same] at deeper
    exact absurd deeper (Nat.lt_irrefl _)
  · have above := (List.pairwise_cons.mp sorted.2.1).1 position isLater
    exact absurd deeper (Nat.not_lt.mpr above)

end Scan

/-- When the loop has ended, all positions were scanned. -/
theorem exists_locates_walk (root : SchemaNode) :
    ∃ positions, Scan.Locates root ⟨root.walk, root.size⟩ positions [] := by
  obtain ⟨positions, pending, locates⟩ :=
    (Scan.locates_start root).exists_after_rounds (Scan.rounds_start root)
  have lengths := congrArg List.length locates.nodes
  rw [List.length_map, List.length_map, List.length_append, locates.count, length_walk] at lengths
  obtain rfl := List.length_eq_zero_iff.mp (Nat.add_eq_left.mp lengths)
  exact ⟨positions, locates⟩

/-- What the walk through a schema does, with the positions of the nodes that it meets. -/
structure WalksThrough (root : SchemaNode) (positions : List Position) : Prop where
  /-- After one round for each node the loop has ended. -/
  ends : (Scan.start root).rounds root.size = some ⟨root.walk, root.size⟩ ∧
    Scan.next? ⟨root.walk, root.size⟩ = none
  /-- Every node is met at its position. -/
  nodes : root.walk.map some = positions.map root.nodeAt?
  first : positions.head? = some []
  every : ∀ position, position ∈ positions ↔ (root.nodeAt? position).isSome
  once : positions.Nodup
  /-- What stands before a position contains that of its parent. -/
  parents : ∀ before position branch later,
    positions = before ++ (position ++ [branch]) :: later → position ∈ before
  levels : positions.Pairwise fun earlier later => earlier.length ≤ later.length
  length : root.walk.length = root.size

/-- The walk through a schema ends. It meets the root first and every position of the tree once,
each after its parent, so it has as many nodes as the tree. -/
theorem exists_positions_walk (root : SchemaNode) : ∃ positions, root.WalksThrough positions := by
  obtain ⟨positions, locates⟩ := exists_locates_walk root
  have ended : Scan.next? ⟨root.walk, root.size⟩ = none := by
    simp [Scan.next?, length_walk]
  refine ⟨positions, ⟨Scan.rounds_start root, ended⟩, ?_, ?_, fun _ => locates.mem_iff, ?_,
    fun _ _ _ _ => locates.mem_before, ?_, length_walk root⟩
  · simpa using locates.nodes.symm
  · simpa using locates.first
  · simpa using locates.distinct
  · simpa using locates.inLevels.sorted

/-- A map beside a list is met before the items of the list. -/
example :
    let root : SchemaNode := { ofType .object with
      properties := [("list", array (ofType .string)), ("map", map (ofType .integer))] }
    root.walk.map (·.type) =
      [some .object, some .array, some .object, some .string, some .integer] := by
  cbv

end SchemaNode
end MarkerManifests
