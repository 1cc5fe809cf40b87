import TimingBoard.Number.Binary64

namespace TimingBoard

/-! Trees of processing times.

A tree is one report of one producer: the root stands for the whole call and carries the producer's
name, the children stand for the calls inside it in their order. -/

structure TimingTree where
  /-- The producer. -/
  name : String
  label : String
  /-- Milliseconds spent in the call, its children included. -/
  time : Binary64
  comment : Option String
  children : List TimingTree

namespace TimingTree

instance : Inhabited TimingTree := ⟨⟨"", "", .zero, none, []⟩⟩

mutual

def nodeCount : TimingTree → Nat
  | ⟨_, _, _, _, children⟩ => nodeCounts children + 1

def nodeCounts : List TimingTree → Nat
  | [] => 0
  | tree :: rest => tree.nodeCount + nodeCounts rest

end

mutual

/-- Adds the times of `other` node by node.  Children are paired by position; a node without a
partner keeps its time, and a partner without a node is dropped. -/
def accumulate : TimingTree → TimingTree → TimingTree
  | ⟨name, label, time, comment, children⟩, other =>
      ⟨name, label, time + other.time, comment, accumulateEach children other.children⟩

def accumulateEach : List TimingTree → List TimingTree → List TimingTree
  | [], _ => []
  | tree :: rest, [] => tree :: rest
  | tree :: rest, other :: others => tree.accumulate other :: accumulateEach rest others

end

mutual

/-- Equality of shape, texts and the values of all times. -/
def eqv : TimingTree → TimingTree → Bool
  | ⟨name, label, time, comment, children⟩, other =>
      name == other.name && label == other.label && time.eqv other.time &&
        comment == other.comment && eqvEach children other.children

def eqvEach : List TimingTree → List TimingTree → Bool
  | [], [] => true
  | tree :: rest, other :: others => tree.eqv other && eqvEach rest others
  | _, _ => false

end

/-- The subtree at a path of child positions. -/
def subtree? (tree : TimingTree) : List Nat → Option TimingTree
  | [] => some tree
  | index :: rest => tree.children[index]?.bind fun child => child.subtree? rest

@[simp]
theorem accumulate_name (tree other : TimingTree) : (tree.accumulate other).name = tree.name := by
  cases tree; rfl

@[simp]
theorem accumulate_label (tree other : TimingTree) :
    (tree.accumulate other).label = tree.label := by
  cases tree; rfl

@[simp]
theorem accumulate_time (tree other : TimingTree) :
    (tree.accumulate other).time = tree.time + other.time := by
  cases tree; rfl

@[simp]
theorem accumulate_children (tree other : TimingTree) :
    (tree.accumulate other).children = accumulateEach tree.children other.children := by
  cases tree; rfl

end TimingTree

end TimingBoard
