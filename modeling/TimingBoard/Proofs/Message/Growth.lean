import TimingBoard.Message.Basic
import TimingBoard.Proofs.Message.Walk

namespace TimingBoard.Message

/-! Growing the tree of a message is a walk over the places of its nodes.

The depth that bounds the growth is never met: each step down visits one more place. -/

variable {message : Message} {producer : String}

/-- The node at a place of the list. -/
def nodeAt (message : Message) (place : Nat) : MessageNode :=
  message.nodes[place]?.getD ⟨0, "", .zero, 0, ""⟩

/-- The places of the nodes below the one at `place`. -/
def next (message : Message) (place : Nat) : List Nat :=
  match message.nodes[place]? with
  | some node => (message.childrenOf node.id).map (·.2)
  | none => []

mutual

/-- A tree of places with the nodes that the message lists there. -/
def fill (message : Message) (producer : String) : PlaceTree → TimingTree
  | .node place below =>
      ⟨producer, (message.nodeAt place).name, (message.nodeAt place).time,
        some (message.nodeAt place).comment, message.fillEach producer below⟩

def fillEach (message : Message) (producer : String) : List PlaceTree → List TimingTree
  | [] => []
  | tree :: rest => message.fill producer tree :: message.fillEach producer rest

end

mutual

theorem nodeCount_fill (message : Message) (producer : String) :
    (tree : PlaceTree) → (message.fill producer tree).nodeCount = tree.places.length
  | .node place below => by
      rw [fill, TimingTree.nodeCount, PlaceTree.places, List.length_cons,
        nodeCounts_fillEach message producer below]

theorem nodeCounts_fillEach (message : Message) (producer : String) :
    (trees : List PlaceTree) →
      TimingTree.nodeCounts (message.fillEach producer trees) =
        (PlaceTree.placesEach trees).length
  | [] => rfl
  | tree :: rest => by
      rw [fillEach, TimingTree.nodeCounts, PlaceTree.placesEach, List.length_append,
        nodeCount_fill message producer tree, nodeCounts_fillEach message producer rest]

end

theorem mem_listed_iff {listed : Listed} :
    listed ∈ message.listed ↔ message.nodes[listed.2]? = some listed.1 :=
  List.mem_zipIdx_iff_getElem?

theorem lt_length_of_mem_listed {listed : Listed} (member : listed ∈ message.listed) :
    listed.2 < message.nodes.length :=
  (List.getElem?_eq_some_iff.mp (mem_listed_iff.mp member)).1

theorem mem_listed_of_mem_childrenOf {id : Nat} {listed : Listed}
    (member : listed ∈ message.childrenOf id) : listed ∈ message.listed :=
  (List.mem_filter.mp member).1

theorem nodeAt_eq {node : MessageNode} {place : Nat} (found : message.nodes[place]? = some node) :
    message.nodeAt place = node := by
  rw [nodeAt, found, Option.getD_some]

theorem next_eq {node : MessageNode} {place : Nat} (found : message.nodes[place]? = some node) :
    message.next place = (message.childrenOf node.id).map (·.2) := by
  rw [next, found]

/-- How many places of the list are not visited yet. -/
def unvisited (message : Message) (visited : List Nat) : Nat :=
  (Finset.range message.nodes.length \ visited.toFinset).card

theorem unvisited_le {visited after : List Nat} (kept : visited ⊆ after) :
    message.unvisited after ≤ message.unvisited visited := by
  refine Finset.card_le_card (Finset.sdiff_subset_sdiff (Finset.Subset.refl _) ?_)
  intro place member
  exact List.mem_toFinset.mpr (kept (List.mem_toFinset.mp member))

theorem unvisited_cons_lt {visited : List Nat} {place : Nat} (inside : place < message.nodes.length)
    (fresh : place ∉ visited) : message.unvisited (place :: visited) < message.unvisited visited := by
  refine Finset.card_lt_card (Finset.ssubset_iff_subset_ne.mpr ⟨?_, ?_⟩)
  · intro other
    simp +contextual
  · intro same
    have removed : place ∉ Finset.range message.nodes.length \ (place :: visited).toFinset := by simp
    rw [same] at removed
    exact removed (by simp [inside, fresh])

theorem unvisited_nil_le (message : Message) : message.unvisited [] ≤ message.nodes.length := by
  simp [unvisited]

/-- With at most `room` unvisited places, `step` grows the tree below an unvisited node along the
walk. -/
def GrowsAlong (message : Message) (producer : String) (room : Nat)
    (step : List Nat → Listed → TimingTree × List Nat) : Prop :=
  ∀ visited child, child ∈ message.listed → child.2 ∉ visited → message.unvisited visited ≤ room →
    ∃ below inner, Walk message.next (child.2 :: visited) (message.next child.2) below inner ∧
      step visited child = (message.fill producer (.node child.2 below), inner)

theorem GrowsAlong.growEach {room : Nat} {step : List Nat → Listed → TimingTree × List Nat}
    (grows : message.GrowsAlong producer room step) (visited : List Nat) (pending : List Listed)
    (listed : ∀ child ∈ pending, child ∈ message.listed)
    (enough : message.unvisited visited ≤ room) :
    ∃ trees after, Walk message.next visited (pending.map (·.2)) trees after ∧
      growEach step visited pending = (message.fillEach producer trees, after) := by
  induction pending generalizing visited with
  | nil => exact ⟨[], visited, .done, rfl⟩
  | cons child rest ih =>
      obtain ⟨childListed, restListed⟩ := List.forall_mem_cons.mp listed
      by_cases seen : child.2 ∈ visited
      · obtain ⟨trees, after, walk, grown⟩ := ih visited restListed enough
        refine ⟨trees, after, .skip seen walk, ?_⟩
        simp only [Message.growEach, List.contains_eq_mem, seen, decide_true, if_true, grown]
      · obtain ⟨below, inner, deeper, stepped⟩ := grows visited child childListed seen enough
        have kept : visited ⊆ inner := fun place member =>
          deeper.mem_after_of_visited (List.mem_cons_of_mem _ member)
        obtain ⟨trees, after, walk, grown⟩ := ih inner restListed ((unvisited_le kept).trans enough)
        refine ⟨.node child.2 below :: trees, after, .enter seen deeper walk, ?_⟩
        simp only [Message.growEach, List.contains_eq_mem, seen, decide_false, Bool.false_eq_true,
          if_false, stepped, grown, fillEach]

/-- A depth of as many steps as there are unvisited places is enough. -/
theorem grow_growsAlong (message : Message) (producer : String) (depth : Nat) :
    message.GrowsAlong producer depth (message.grow producer depth) := by
  induction depth with
  | zero =>
      -- The unvisited node itself does not fit into the depth.
      intro visited child listed fresh enough
      have fewer := unvisited_cons_lt (lt_length_of_mem_listed listed) fresh
      omega
  | succ depth ih =>
      intro visited child listed fresh enough
      have fewer := unvisited_cons_lt (lt_length_of_mem_listed listed) fresh
      have found := mem_listed_iff.mp listed
      obtain ⟨below, inner, walk, grown⟩ := ih.growEach (child.2 :: visited)
        (message.childrenOf child.1.id) (fun _ => mem_listed_of_mem_childrenOf) (by omega)
      refine ⟨below, inner, by rwa [next_eq found], ?_⟩
      simp only [grow, grown, fill, nodeAt_eq found]

end TimingBoard.Message
