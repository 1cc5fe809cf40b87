import TimingBoard.Tree.Basic

namespace TimingBoard.TimingTree

/-! Sums of trees, path by path.

A sum has the nodes of its first term.  Another term adds to a node the time of its own node at the
same path, if it has one. -/

/-- What a node says, its time apart. -/
def heading (tree : TimingTree) : String × String × Option String × Nat :=
  (tree.name, tree.label, tree.comment, tree.children.length)

/-- Both trees have nodes at the same paths, and two nodes at one path differ only in their times. -/
def SameForm (tree other : TimingTree) : Prop :=
  ∀ path, (tree.subtree? path).map heading = (other.subtree? path).map heading

structure NodewiseSum (first : TimingTree) (later : List TimingTree) (sum : TimingTree) : Prop where
  form : sum.SameForm first
  /-- The terms of the sum at a path are the times there, in order, from the first tree on. -/
  times : ∀ path node, first.subtree? path = some node →
    (sum.subtree? path).map (·.time) =
      some ((later.filterMap (·.subtree? path)).foldl (fun time met => time + met.time) node.time)

theorem getElem?_accumulateEach (trees others : List TimingTree) (index : Nat) :
    (accumulateEach trees others)[index]? =
      trees[index]?.map fun tree => others[index]?.elim tree tree.accumulate := by
  induction trees generalizing others index with
  | nil => rfl
  | cons tree rest ih =>
      cases others with
      | nil =>
          have unpaired : (fun tree : TimingTree => (none : Option TimingTree).elim tree tree.accumulate) = id :=
            rfl
          simp only [accumulateEach, List.getElem?_nil, unpaired, Option.map_id, id]
      | cons other others =>
          cases index with
          | zero => rfl
          | succ index => exact ih others index

theorem length_accumulateEach (trees others : List TimingTree) :
    (accumulateEach trees others).length = trees.length := by
  induction trees generalizing others with
  | nil => rfl
  | cons tree rest ih =>
      cases others with
      | nil => rfl
      | cons other others => simp [accumulateEach, ih]

theorem heading_accumulate (tree other : TimingTree) :
    (tree.accumulate other).heading = tree.heading := by
  cases tree
  simp [heading, accumulate, length_accumulateEach]

theorem subtree?_accumulate (tree other : TimingTree) (path : List Nat) :
    (tree.accumulate other).subtree? path =
      (tree.subtree? path).map fun node => (other.subtree? path).elim node node.accumulate := by
  -- The path leads the induction: it descends in both trees at once, and ends where one lacks it.
  induction path generalizing tree other with
  | nil => rfl
  | cons index rest ih =>
      simp only [subtree?, accumulate_children, getElem?_accumulateEach]
      cases tree.children[index]? with
      | none => rfl
      | some child =>
          cases other.children[index]? with
          | none => simp
          | some partner => exact ih child partner

theorem subtree?_accumulate_of_none (tree : TimingTree) {other : TimingTree} {path : List Nat}
    (lacking : other.subtree? path = none) :
    (tree.accumulate other).subtree? path = tree.subtree? path := by
  rw [subtree?_accumulate, lacking]
  simp

/-- Below a path, a sum is the sum of what its terms have there. -/
theorem subtree?_foldl_accumulate (first : TimingTree) (later : List TimingTree)
    (path : List Nat) :
    (later.foldl accumulate first).subtree? path =
      (first.subtree? path).map fun node =>
        (later.filterMap (·.subtree? path)).foldl accumulate node := by
  induction later generalizing first with
  | nil => simp
  | cons other rest ih =>
      rw [List.foldl_cons, ih, subtree?_accumulate, Option.map_map]
      congr 1
      funext node
      cases met : other.subtree? path <;> simp [met]

theorem time_foldl_accumulate (first : TimingTree) (later : List TimingTree) :
    (later.foldl accumulate first).time =
      later.foldl (fun time met => time + met.time) first.time := by
  induction later generalizing first with
  | nil => rfl
  | cons other rest ih => rw [List.foldl_cons, ih, accumulate_time, List.foldl_cons]

theorem heading_foldl_accumulate (first : TimingTree) (later : List TimingTree) :
    (later.foldl accumulate first).heading = first.heading := by
  induction later generalizing first with
  | nil => rfl
  | cons other rest ih => rw [List.foldl_cons, ih, heading_accumulate]

theorem NodewiseSum.foldl_accumulate (first : TimingTree) (later : List TimingTree) :
    NodewiseSum first later (later.foldl accumulate first) where
  form path := by
    rw [subtree?_foldl_accumulate, Option.map_map]
    congr 1
    funext node
    exact heading_foldl_accumulate node _
  times path node found := by
    rw [subtree?_foldl_accumulate, found, Option.map_some, Option.map_some, time_foldl_accumulate]

end TimingBoard.TimingTree
