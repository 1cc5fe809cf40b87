import TimingBoard.Aggregate.Roster
import TimingBoard.Tree.Json

namespace TimingBoard

/-! What is kept of the trees received so far: for each producer the latest tree, the worst case
and, when wanted, the node-wise total. -/

structure Aggregate where
  latest : Roster TimingTree
  /-- The tree with the longest root time; the first of several. -/
  worst : Roster TimingTree
  /-- Absent when totals are not tracked. -/
  total : Option (Roster TimingTree)
  count : Nat
  /-- Unix time of the last tree, in seconds. -/
  stamp : Option Int

namespace Aggregate

def new (tracksTotal : Bool) : Aggregate :=
  { latest := .empty
    worst := .empty
    total := if tracksTotal then some .empty else none
    count := 0
    stamp := none }

instance : Inhabited Aggregate := ⟨new false⟩

/-- A tree replaces the worst case only if its root time is longer. -/
def updateWorst (worst : Roster TimingTree) (tree : TimingTree) : Roster TimingTree :=
  match worst.get? tree.name with
  | some longest => if longest.time.lt tree.time then worst.insert tree.name tree else worst
  | none => worst.insert tree.name tree

/-- The first tree of a producer gives the total its shape. -/
def updateTotal (total : Roster TimingTree) (tree : TimingTree) : Roster TimingTree :=
  match total.get? tree.name with
  | some sum => total.insert tree.name (sum.accumulate tree)
  | none => total.insert tree.name tree

def apply (aggregate : Aggregate) (time : Int) (tree : TimingTree) : Aggregate :=
  { latest := aggregate.latest.insert tree.name tree
    worst := updateWorst aggregate.worst tree
    total := aggregate.total.map (updateTotal · tree)
    count := aggregate.count + 1
    stamp := some time }

def applyAll (aggregate : Aggregate) (time : Int) (trees : List TimingTree) : Aggregate :=
  trees.foldl (fun aggregate tree => aggregate.apply time tree) aggregate

def isEmpty (aggregate : Aggregate) : Bool := aggregate.worst.isEmpty

def worstJson (aggregate : Aggregate) : String := TimingTree.listToJson aggregate.worst.values

end Aggregate

end TimingBoard
