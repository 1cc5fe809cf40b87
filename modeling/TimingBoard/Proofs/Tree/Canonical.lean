import TimingBoard.Proofs.Tree.Preorder

namespace TimingBoard.TimingTree

/-! Checking a raw snapshot, told by its nodes in preorder.

The first node with an unusable time refuses the whole tree.  Without one, every node gets the
producer's name and loses an empty comment.  That form is canonical, and checking a canonical tree
changes nothing.  Sums of canonical trees keep what it says of names and comments. -/

mutual

/-- What becomes of a tree whose times can all be used. -/
def settled (producer : String) : TimingTree → TimingTree
  | ⟨_, label, time, comment, children⟩ =>
      ⟨producer, label, time, keptComment comment, settledEach producer children⟩

def settledEach (producer : String) : List TimingTree → List TimingTree
  | [] => []
  | tree :: rest => tree.settled producer :: settledEach producer rest

end

/-- The result, unless one of the nodes has an unusable time: then the first such node is the
fault. -/
def unlessUnusable (producer : String) (nodes : List TimingTree) (result : α) :
    Except SnapshotFault α :=
  match nodes.find? fun node => !isDuration node.time with
  | some node => .error (.unusable node.label producer node.time)
  | none => .ok result

variable {producer : String} {tree : TimingTree}

theorem unlessUnusable_cons_of_unusable {node : TimingTree} {rest : List TimingTree} {result : α}
    (unusable : isDuration node.time = false) :
    unlessUnusable producer (node :: rest) result =
      .error (.unusable node.label producer node.time) := by
  simp [unlessUnusable, unusable]

theorem unlessUnusable_cons_of_duration {node : TimingTree} {rest : List TimingTree} {result : α}
    (usable : isDuration node.time = true) :
    unlessUnusable producer (node :: rest) result = unlessUnusable producer rest result := by
  simp [unlessUnusable, usable]

theorem unlessUnusable_append (first rest : List TimingTree) (result : α) :
    unlessUnusable producer (first ++ rest) result =
      unlessUnusable producer first () >>= fun _ => unlessUnusable producer rest result := by
  simp only [unlessUnusable, List.find?_append]
  cases first.find? fun node => !isDuration node.time <;> rfl

theorem unlessUnusable_bind (nodes : List TimingTree) (value : α) (next : α → Except SnapshotFault β) :
    unlessUnusable producer nodes value >>= next =
      unlessUnusable producer nodes () >>= fun _ => next value := by
  simp only [unlessUnusable]
  cases nodes.find? fun node => !isDuration node.time <;> rfl

theorem unlessUnusable_bind_pure (nodes : List TimingTree) (value : α) (change : α → β) :
    (unlessUnusable producer nodes value >>= fun value => pure (change value)) =
      unlessUnusable producer nodes (change value) := by
  simp only [unlessUnusable]
  cases nodes.find? fun node => !isDuration node.time <;> rfl

theorem unlessUnusable_eq_ok_iff {nodes : List TimingTree} {value result : α} :
    unlessUnusable producer nodes value = .ok result ↔
      (∀ node ∈ nodes, isDuration node.time = true) ∧ value = result := by
  rw [unlessUnusable]
  cases found : nodes.find? fun node => !isDuration node.time with
  | some node =>
      have member := List.mem_of_find?_eq_some found
      have unusable : isDuration node.time = false := by simpa using List.find?_some found
      refine iff_of_false nofun fun both => ?_
      exact Bool.noConfusion (unusable.symm.trans (both.1 node member))
  | none =>
      have all : ∀ node ∈ nodes, isDuration node.time = true := by simpa using found
      rw [Except.ok.injEq]
      exact ⟨fun same => ⟨all, same⟩, fun both => both.2⟩

mutual

theorem settle_eq (producer : String) : (tree : TimingTree) →
    tree.settle producer = unlessUnusable producer tree.preorder (tree.settled producer)
  | ⟨name, label, time, comment, children⟩ => by
      rw [settle, preorder, settled, settleEach_eq producer children]
      cases usable : isDuration time with
      | false =>
          rw [unlessUnusable_cons_of_unusable usable]
          rfl
      | true =>
          rw [unlessUnusable_cons_of_duration usable]
          exact unlessUnusable_bind_pure (preorderEach children) (settledEach producer children)
            fun below => TimingTree.mk producer label time (keptComment comment) below

theorem settleEach_eq (producer : String) : (trees : List TimingTree) →
    settleEach producer trees =
      unlessUnusable producer (preorderEach trees) (settledEach producer trees)
  | [] => rfl
  | tree :: rest => by
      rw [settleEach, preorderEach, settledEach, unlessUnusable_append, settle_eq producer tree,
        settleEach_eq producer rest, unlessUnusable_bind]
      simp only [unlessUnusable_bind_pure]

end

theorem settle_eq_ok_iff {result : TimingTree} :
    tree.settle producer = .ok result ↔
      (∀ node ∈ tree.preorder, isDuration node.time = true) ∧ tree.settled producer = result := by
  rw [settle_eq, unlessUnusable_eq_ok_iff]

mutual

theorem preorder_settled (producer : String) : (tree : TimingTree) →
    (tree.settled producer).preorder = tree.preorder.map (·.settled producer)
  | ⟨_, _, _, _, children⟩ => by
      rw [settled, preorder, preorder, List.map_cons, settled, preorderEach_settledEach producer children]

theorem preorderEach_settledEach (producer : String) : (trees : List TimingTree) →
    preorderEach (settledEach producer trees) = (preorderEach trees).map (·.settled producer)
  | [] => rfl
  | tree :: rest => by
      rw [settledEach, preorderEach, preorderEach, List.map_append, preorder_settled producer tree,
        preorderEach_settledEach producer rest]

end

theorem keptComment_ne_empty (comment : Option String) : keptComment comment ≠ some "" := by
  simp [keptComment, Option.filter_eq_some_iff]

theorem settled_canonical (measured : ∀ node ∈ tree.preorder, isDuration node.time = true) :
    (tree.settled producer).Canonical producer := by
  rw [Canonical, preorder_settled, List.forall_mem_map]
  intro node member
  have time := measured node member
  cases node
  exact ⟨rfl, time, keptComment_ne_empty _⟩

theorem keptComment_eq_self {comment : Option String} (kept : comment ≠ some "") :
    keptComment comment = comment := by
  cases comment with
  | none => rfl
  | some text => simpa [keptComment, Option.filter] using kept

mutual

theorem settled_eq_self {producer : String} : (tree : TimingTree) → tree.Canonical producer →
    tree.settled producer = tree
  | ⟨_, _, _, _, children⟩, canonical => by
      obtain ⟨⟨rfl, -, kept⟩, below⟩ := List.forall_mem_cons.mp canonical
      rw [settled, settledEach_eq_self children below, keptComment_eq_self kept]

theorem settledEach_eq_self {producer : String} : (trees : List TimingTree) →
    (∀ node ∈ preorderEach trees,
      node.name = producer ∧ isDuration node.time = true ∧ node.comment ≠ some "") →
    settledEach producer trees = trees
  | [], _ => rfl
  | tree :: rest, canonical => by
      obtain ⟨first, later⟩ := List.forall_mem_append.mp canonical
      rw [settledEach, settled_eq_self tree first, settledEach_eq_self rest later]

end

theorem mem_preorder_self (tree : TimingTree) : tree ∈ tree.preorder := by
  cases tree
  exact List.mem_cons_self

/-- A tree in canonical form comes back as it is. -/
theorem ofSnapshot_of_canonical (canonical : tree.Canonical producer) :
    ofSnapshot tree = .ok tree := by
  have name : tree.name = producer := (canonical tree tree.mem_preorder_self).1
  rw [ofSnapshot, name, settle_eq_ok_iff]
  exact ⟨fun node member => (canonical node member).2.1, settled_eq_self tree canonical⟩

mutual

/-- A sum keeps the name and the comment of every node of its first term. -/
theorem preorder_accumulate : (tree other : TimingTree) →
    (tree.accumulate other).preorder.map (fun node => (node.name, node.comment)) =
      tree.preorder.map fun node => (node.name, node.comment)
  | ⟨_, _, _, _, children⟩, other => by
      rw [accumulate, preorder, preorder, List.map_cons, List.map_cons,
        preorderEach_accumulateEach children other.children]

theorem preorderEach_accumulateEach : (trees others : List TimingTree) →
    (preorderEach (accumulateEach trees others)).map (fun node => (node.name, node.comment)) =
      (preorderEach trees).map fun node => (node.name, node.comment)
  | [], _ => by rw [accumulateEach]
  | _ :: _, [] => by rw [accumulateEach]
  | tree :: rest, other :: others => by
      rw [accumulateEach, preorderEach, preorderEach, List.map_append, List.map_append,
        preorder_accumulate tree other, preorderEach_accumulateEach rest others]

end

/-- Every node has the producer's name and no empty comment. -/
def Attributed (producer : String) (tree : TimingTree) : Prop :=
  ∀ node ∈ tree.preorder, node.name = producer ∧ node.comment ≠ some ""

theorem Canonical.attributed (canonical : tree.Canonical producer) : tree.Attributed producer :=
  fun node member => ⟨(canonical node member).1, (canonical node member).2.2⟩

theorem Attributed.accumulate (attributed : tree.Attributed producer) (other : TimingTree) :
    (tree.accumulate other).Attributed producer := by
  have headings : ∀ heading ∈ tree.preorder.map fun node => (node.name, node.comment),
      heading.1 = producer ∧ heading.2 ≠ some "" := List.forall_mem_map.mpr attributed
  rw [← preorder_accumulate tree other] at headings
  exact List.forall_mem_map.mp headings

end TimingBoard.TimingTree
