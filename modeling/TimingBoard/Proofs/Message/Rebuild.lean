import Mathlib.Data.List.Perm.Subperm
import TimingBoard.Proofs.Message.Growth

namespace TimingBoard.Message

/-! What the nested form of a message holds, for any ids and any parents.

`toRaw_rebuilds` says when there is none, and that otherwise it holds the places that can be reached
from the first root, each once, along edges of the message and in the order of the list. -/

open Relation

variable {message : Message}

/-- The node at `below` names the id of the node at `above` as its parent. -/
def Edge (message : Message) (above below : Nat) : Prop :=
  ∃ parent child, message.nodes[above]? = some parent ∧ message.nodes[below]? = some child ∧
    child.parent = parent.id

/-- The first place whose node has no parent in the list. -/
def FirstRoot (message : Message) (root : Nat) : Prop :=
  root < message.nodes.length ∧ (message.nodeAt root).parent ∉ message.ids ∧
    ∀ earlier < root, (message.nodeAt earlier).parent ∈ message.ids

theorem mem_next_iff {above below : Nat} : below ∈ message.next above ↔ message.Edge above below := by
  unfold next Edge
  cases message.nodes[above]? with
  | none => simp
  | some parent => simp [childrenOf, listed, List.mem_zipIdx_iff_getElem?]

theorem listed_ordered (message : Message) :
    message.listed.Pairwise fun first second => first.2 < second.2 := by
  have places : (message.listed.map (·.2)).Pairwise (· < ·) := by
    rw [listed, List.zipIdx_map_snd]
    exact List.pairwise_lt_range'
  exact List.pairwise_map.mp places

theorem next_ordered (message : Message) (place : Nat) :
    (message.next place).Pairwise (· < ·) := by
  unfold next
  cases message.nodes[place]? with
  | none => exact .nil
  | some node => exact List.pairwise_map.mpr (message.listed_ordered.filter _)

theorem isRoot_iff (unreserved : ∀ node ∈ message.nodes, node.id ≠ 0) (node : MessageNode) :
    message.isRoot node = true ↔ node.parent ∉ message.ids := by
  have zero : 0 ∉ message.ids := by
    intro member
    obtain ⟨other, listed, same⟩ := List.mem_map.mp member
    exact unreserved other listed same
  by_cases top : node.parent = 0
  · simp [isRoot, top, zero]
  · simp [isRoot, top]

theorem roots_eq_nil_iff (unreserved : ∀ node ∈ message.nodes, node.id ≠ 0) :
    message.roots = [] ↔ ∀ node ∈ message.nodes, node.parent ∈ message.ids := by
  rw [roots, List.filter_eq_nil_iff]
  constructor
  · intro noRoot node member
    obtain ⟨place, inside, found⟩ := List.getElem_of_mem member
    have listed : (node, place) ∈ message.listed :=
      mem_listed_iff.mpr (List.getElem?_eq_some_iff.mpr ⟨inside, found⟩)
    exact not_not.mp fun absent => noRoot _ listed ((isRoot_iff unreserved node).mpr absent)
  · intro all listed member root
    have inside := List.mem_of_getElem? (mem_listed_iff.mp member)
    exact (isRoot_iff unreserved listed.1).mp root (all listed.1 inside)

theorem firstRoot_of_roots (unreserved : ∀ node ∈ message.nodes, node.id ≠ 0) {root : Listed}
    {rest : List Listed} (found : message.roots = root :: rest) :
    root ∈ message.listed ∧ message.FirstRoot root.2 := by
  obtain ⟨before, after, split, noRoot, isRoot, -⟩ := List.filter_eq_cons_iff.mp found
  have listed : root ∈ message.listed := split ▸ by simp
  refine ⟨listed, lt_length_of_mem_listed listed, ?_, ?_⟩
  · rw [nodeAt_eq (mem_listed_iff.mp listed)]
    exact (isRoot_iff unreserved root.1).mp isRoot
  · intro earlier less
    have inside : earlier < message.nodes.length := less.trans (lt_length_of_mem_listed listed)
    have here : (message.nodes[earlier], earlier) ∈ message.listed :=
      mem_listed_iff.mpr (List.getElem?_eq_getElem inside)
    rw [nodeAt_eq (List.getElem?_eq_getElem inside)]
    have ordered := message.listed_ordered
    rw [split] at here ordered
    rcases List.mem_append.mp here with inBefore | later
    · exact not_not.mp fun absent => noRoot _ inBefore ((isRoot_iff unreserved _).mpr absent)
    · have after := (List.pairwise_append.mp ordered).2.1
      rcases List.mem_cons.mp later with rfl | inAfter
      · exact absurd less (Nat.lt_irrefl _)
      · have greater := (List.pairwise_cons.mp after).1 _ inAfter
        exact absurd less (Nat.lt_asymm greater)

/-- `raw` is the tree of `places`, which are the ones that can be reached from `root`. -/
structure Rebuilt (message : Message) (root : Nat) (places : PlaceTree) (raw : TimingTree) : Prop where
  firstRoot : message.FirstRoot root
  filled : raw = message.fill (message.nodeAt root).name places
  start : places.root = root
  once : places.places.Nodup
  reached : ∀ place, place ∈ places.places ↔ ReflTransGen message.Edge root place
  grown : places.Grown message.Edge
  /-- The walk ends by itself: a larger bound on its depth changes nothing. -/
  settled : ∀ depth, message.nodes.length ≤ depth →
    (message.grow (message.nodeAt root).name depth [] (message.nodeAt root, root)).1 = raw
  atMost : raw.nodeCount ≤ message.nodes.length
  whole : raw.nodeCount = message.nodes.length ↔
    ∀ place < message.nodes.length, ReflTransGen message.Edge root place

/-- At any depth that is enough, the tree that grows from a listed node is the one of the walk. -/
theorem grow_walk (producer : String) {root : Listed} (listed : root ∈ message.listed) :
    ∃ below after, Walk message.next [] [root.2] [.node root.2 below] after ∧
      ∀ depth, message.nodes.length ≤ depth →
        (message.grow producer depth [] root).1 = message.fill producer (.node root.2 below) := by
  obtain ⟨below, after, deeper, -⟩ := message.grow_growsAlong producer message.nodes.length [] root
    listed List.not_mem_nil message.unvisited_nil_le
  refine ⟨below, after, .enter List.not_mem_nil deeper .done, ?_⟩
  intro depth enough
  obtain ⟨other, otherAfter, otherDeeper, grown⟩ := message.grow_growsAlong producer depth [] root
    listed List.not_mem_nil (message.unvisited_nil_le.trans enough)
  obtain ⟨rfl, -⟩ := deeper.unique otherDeeper
  rw [grown]

theorem reachable_lt {root place : Nat} (inside : root < message.nodes.length)
    (path : ReflTransGen message.Edge root place) : place < message.nodes.length := by
  cases path with
  | refl => exact inside
  | tail _ edge =>
      obtain ⟨-, child, -, found, -⟩ := edge
      exact (List.getElem?_eq_some_iff.mp found).1

theorem rebuilt_of_roots (unreserved : ∀ node ∈ message.nodes, node.id ≠ 0) {root : Listed}
    {rest : List Listed} (found : message.roots = root :: rest) :
    ∃ places, message.Rebuilt root.2 places
      (message.grow root.1.name message.nodes.length [] root).1 := by
  obtain ⟨listed, first⟩ := firstRoot_of_roots unreserved found
  have here : message.nodeAt root.2 = root.1 := nodeAt_eq (mem_listed_iff.mp listed)
  obtain ⟨below, after, walk, grows⟩ := grow_walk root.1.name listed
  have once : (PlaceTree.node root.2 below).places.Nodup := by
    simpa [PlaceTree.placesEach] using walk.nodup.1
  have edges : (fun above below => below ∈ message.next above) = message.Edge := by
    funext above below
    exact propext mem_next_iff
  have reached (place : Nat) : place ∈ (PlaceTree.node root.2 below).places ↔
      ReflTransGen message.Edge root.2 place := by
    rw [← edges, ← walk.mem_places_iff_reachable place]
    simp [PlaceTree.placesEach]
  have inside : (PlaceTree.node root.2 below).places ⊆ List.range message.nodes.length :=
    fun place member => List.mem_range.mpr (reachable_lt first.1 ((reached place).mp member))
  have count := nodeCount_fill message root.1.name (.node root.2 below)
  have fits := once.subperm inside
  refine ⟨.node root.2 below, first, ?_, rfl, once, reached, ?_, ?_, ?_, ?_⟩
  · rw [here, grows _ (Nat.le_refl _)]
  · have grown := walk.grown message.next_ordered _ List.mem_cons_self
    rwa [edges] at grown
  · intro depth enough
    rw [here, grows depth enough, grows _ (Nat.le_refl _)]
  · rw [grows _ (Nat.le_refl _), count]
    simpa using fits.length_le
  · rw [grows _ (Nat.le_refl _), count]
    -- The places of the tree are some of all places, each once: as many of them are all of them.
    constructor
    · intro full place less
      have all := fits.perm_of_length_le (by simp [full])
      exact (reached place).mp (all.mem_iff.mpr (List.mem_range.mpr less))
    · intro all
      have every : List.range message.nodes.length ⊆ (PlaceTree.node root.2 below).places :=
        fun place member => (reached place).mpr (all place (List.mem_range.mp member))
      have more := (List.nodup_range.subperm every).length_le
      have less := fits.length_le
      simp only [List.length_range] at more less
      omega

/-- The first node with the reserved id has the label. -/
def FirstReserved (message : Message) (label : String) : Prop :=
  ∃ before node after, message.nodes = before ++ node :: after ∧
    (∀ earlier ∈ before, earlier.id ≠ 0) ∧ node.id = 0 ∧ node.name = label

theorem toRaw_of_reserved {node : MessageNode}
    (found : message.nodes.find? (·.id == 0) = some node) :
    message.toRaw = .error (.reservedId node.name) := by
  rw [toRaw, found]

theorem toRaw_of_unreserved (unreserved : ∀ node ∈ message.nodes, node.id ≠ 0) :
    message.roots = [] ∧ message.toRaw = .error .noRoot ∨
      ∃ root rest, message.roots = root :: rest ∧
        message.toRaw = .ok (message.grow root.1.name message.nodes.length [] root).1 := by
  have absent : message.nodes.find? (·.id == 0) = none :=
    List.find?_eq_none.mpr (by simpa using unreserved)
  cases found : message.roots with
  | nil => exact .inl ⟨rfl, by simp only [toRaw, absent, found]⟩
  | cons root rest => exact .inr ⟨root, rest, rfl, by simp only [toRaw, absent, found]⟩

theorem firstReserved_of_find? {node : MessageNode}
    (found : message.nodes.find? (·.id == 0) = some node) (label : String) :
    message.FirstReserved label ↔ node.name = label := by
  obtain ⟨reserved, before, after, split, earlier⟩ := List.find?_eq_some_iff_append.mp found
  constructor
  · rintro ⟨start, other, rest, otherSplit, otherEarlier, otherReserved, rfl⟩
    have again : message.nodes.find? (·.id == 0) = some other :=
      List.find?_eq_some_iff_append.mpr
        ⟨by simpa using otherReserved, start, rest, otherSplit, by simpa using otherEarlier⟩
    rw [found] at again
    rw [Option.some.inj again]
  · rintro rfl
    exact ⟨before, node, after, split, by simpa using earlier, by simpa using reserved, rfl⟩

/-- A message whose tree is not refused has one, and no message leaves the walk running. -/
theorem toRaw_rebuilds (message : Message) :
    (∀ label, message.toRaw = .error (.reservedId label) ↔ message.FirstReserved label) ∧
    (message.toRaw = .error .noRoot ↔
      (∀ node ∈ message.nodes, node.id ≠ 0) ∧ ∀ node ∈ message.nodes, node.parent ∈ message.ids) ∧
    ((∃ fault, message.toRaw = .error fault) ↔
      (∃ node ∈ message.nodes, node.id = 0) ∨
        ∀ node ∈ message.nodes, node.parent ∈ message.ids) ∧
    (∀ raw, message.toRaw = .ok raw → ∃ root places, message.Rebuilt root places raw) ∧
    SnapshotFault.noRoot.message = "message has no root node" := by
  cases found : message.nodes.find? (·.id == 0) with
  | some node =>
      have refused := toRaw_of_reserved found
      have reserved : node ∈ message.nodes ∧ node.id = 0 :=
        ⟨List.mem_of_find?_eq_some found, by simpa using List.find?_some found⟩
      refine ⟨?_, ?_, ?_, ?_, rfl⟩
      · intro label
        rw [firstReserved_of_find? found label, refused]
        simp
      · refine iff_of_false (by simp [refused]) ?_
        exact fun unreserved => unreserved.1 node reserved.1 reserved.2
      · exact iff_of_true ⟨_, refused⟩ (.inl ⟨node, reserved⟩)
      · simp [refused]
  | none =>
      have unreserved : ∀ node ∈ message.nodes, node.id ≠ 0 := by simpa using found
      have noLabel (label : String) : ¬message.FirstReserved label := by
        rintro ⟨before, node, after, split, -, reserved, -⟩
        exact unreserved node (by simp [split]) reserved
      have noReserved : ¬∃ node ∈ message.nodes, node.id = 0 := by simpa using unreserved
      have rootless := roots_eq_nil_iff unreserved
      rcases toRaw_of_unreserved unreserved with ⟨empty, refused⟩ | ⟨root, rest, first, built⟩
      · have orphanless := rootless.mp empty
        refine ⟨fun label => ?_, ?_, ?_, ?_, rfl⟩
        · exact iff_of_false (by simp [refused]) (noLabel label)
        · exact iff_of_true refused ⟨unreserved, orphanless⟩
        · exact iff_of_true ⟨_, refused⟩ (.inr orphanless)
        · simp [refused]
      · have orphan : ¬∀ node ∈ message.nodes, node.parent ∈ message.ids := by
          rw [← rootless, first]
          exact List.cons_ne_nil root rest
        refine ⟨fun label => ?_, ?_, ?_, ?_, rfl⟩
        · exact iff_of_false (by simp [built]) (noLabel label)
        · exact iff_of_false (by simp [built]) fun both => orphan both.2
        · exact iff_of_false (by simp [built]) (not_or.mpr ⟨noReserved, orphan⟩)
        · intro raw result
          obtain rfl := Except.ok.inj (built.symm.trans result)
          exact ⟨root.2, rebuilt_of_roots unreserved first⟩

end TimingBoard.Message
