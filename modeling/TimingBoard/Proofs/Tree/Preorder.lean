import TimingBoard.Tree.Snapshot

namespace TimingBoard.TimingTree

/-! The nodes of a tree, each with what is below it. -/

mutual

/-- All subtrees, parents first. -/
def preorder : TimingTree → List TimingTree
  | ⟨name, label, time, comment, children⟩ =>
      ⟨name, label, time, comment, children⟩ :: preorderEach children

def preorderEach : List TimingTree → List TimingTree
  | [] => []
  | tree :: rest => tree.preorder ++ preorderEach rest

end

/-- A tree of the producer in the form that `settle` gives to trees. -/
def Canonical (producer : String) (tree : TimingTree) : Prop :=
  ∀ node ∈ tree.preorder,
    node.name = producer ∧ isDuration node.time = true ∧ node.comment ≠ some ""

end TimingBoard.TimingTree
