import TimingBoard.Tree.Basic
import TimingBoard.Error

namespace TimingBoard.TimingTree

/-! Turning a raw snapshot into a tree: every time must be finite and not negative, every node takes
the producer's name from the root, and an empty comment is no comment. -/

/-- A duration that can have been measured.  Negative zero counts as zero. -/
def isDuration (time : Binary64) : Bool := time.isFinite && !time.lt .zero

def keptComment (comment : Option String) : Option String :=
  comment.filter (fun text => text ≠ "")

mutual

/-- Checks a node before the nodes below it. -/
def settle (producer : String) : TimingTree → Except SnapshotFault TimingTree
  | ⟨_, label, time, comment, children⟩ => do
      if !isDuration time then throw (.unusable label producer time)
      let children ← settleEach producer children
      pure ⟨producer, label, time, keptComment comment, children⟩

def settleEach (producer : String) : List TimingTree → Except SnapshotFault (List TimingTree)
  | [] => pure []
  | tree :: rest => do
      let first ← tree.settle producer
      let others ← settleEach producer rest
      pure (first :: others)

end

def ofSnapshot (raw : TimingTree) : Except SnapshotFault TimingTree := raw.settle raw.name

end TimingBoard.TimingTree
