import TimingBoard.Proofs.Tree.Grouping
import TimingBoard.Proofs.Tree.LabelPath

namespace TimingBoard

/-! The summarized outline has one entry for each label path of the tree.

Merging siblings brings together the nodes with one path, however they are spread over the tree:
descending by a label leads from the summary of a forest to the summary of all children below that
label. -/

theorem idxOf_filter_lt {α : Type} [BEq α] [LawfulBEq α] {keep : α → Bool} {values : List α} {one other : α}
    (kept : keep other = true)
    (before : (values.filter keep).idxOf one < (values.filter keep).idxOf other) :
    values.idxOf one < values.idxOf other := by
  induction values with
  | nil => exact absurd before (Nat.lt_irrefl _)
  | cons value rest ih =>
      by_cases first : value = one
      · subst first
        have apart : value ≠ other := by
          rintro rfl
          exact absurd before (Nat.lt_irrefl _)
        rw [List.idxOf_cons_self, List.idxOf_cons_ne rest apart]
        exact Nat.succ_pos _
      · by_cases second : value = other
        · subst second
          rw [List.filter_cons_of_pos kept, List.idxOf_cons_self] at before
          exact absurd before (Nat.not_lt_zero _)
        · rw [List.idxOf_cons_ne rest first, List.idxOf_cons_ne rest second]
          refine Nat.succ_lt_succ (ih ?_)
          by_cases stays : keep value = true
          · rw [List.filter_cons_of_pos stays, List.idxOf_cons_ne _ first,
              List.idxOf_cons_ne _ second] at before
            exact Nat.lt_of_succ_lt_succ before
          · rwa [List.filter_cons_of_neg stays] at before

/-- Without repetitions, values stand in the order of their first occurrences. -/
theorem eraseDups_pairwise_idxOf {α : Type} [BEq α] [LawfulBEq α] (values : List α) :
    values.eraseDups.Pairwise fun one other => values.idxOf one < values.idxOf other := by
  induction values using List.reverseRecOn with
  | nil => simp
  | append_singleton before value ih =>
      have known : ∀ {one}, one ∈ before → (before ++ [value]).idxOf one = before.idxOf one :=
        fun member => List.idxOf_append_of_mem member
      have kept : before.eraseDups.Pairwise fun one other =>
          (before ++ [value]).idxOf one < (before ++ [value]).idxOf other := by
        refine ih.imp_of_mem ?_
        intro one other oneIn otherIn below
        rwa [known (List.mem_eraseDups.mp oneIn), known (List.mem_eraseDups.mp otherIn)]
      rw [eraseDups_append_singleton]
      by_cases seen : value ∈ before
      · rwa [if_pos seen]
      · rw [if_neg seen, List.pairwise_append]
        refine ⟨kept, List.pairwise_singleton _ _, ?_⟩
        intro one oneIn other otherIn
        obtain rfl := List.mem_singleton.mp otherIn
        rw [known (List.mem_eraseDups.mp oneIn), List.idxOf_append_of_notMem seen]
        have inside := List.idxOf_lt_length_of_mem (List.mem_eraseDups.mp oneIn)
        omega

theorem pairwise_of_filter {α β : Type} [DecidableEq β] {key : α → β} {below : α → α → Prop}
    {values : List α}
    (each : ∀ shared, (values.filter fun value => key value = shared).Pairwise below) :
    values.Pairwise fun one other => key one = key other → below one other := by
  induction values with
  | nil => exact .nil
  | cons value rest ih =>
      refine List.pairwise_cons.mpr ⟨?_, ih ?_⟩
      · intro other member same
        have first := each (key value)
        rw [List.filter_cons_of_pos (by simp)] at first
        exact (List.pairwise_cons.mp first).1 other (List.mem_filter.mpr ⟨member, by simp [same]⟩)
      · intro shared
        exact (each shared).sublist ((List.sublist_cons_self value rest).filter _)

namespace Entry

variable {label : String} {path parent : List String} {trees : List TimingTree}

theorem under_eq (label : String) (trees : List TimingTree) :
    TimingTree.labelling.under label trees = (withLabel label trees).flatMap (·.children) :=
  rfl

/-- Below a label of a summary is the summary of what is below that label. -/
theorem under_mergeSiblings (label : String) (trees : List TimingTree) :
    labelling.under label (mergeSiblings (ofTrees trees)) =
      mergeSiblings (ofTrees (TimingTree.labelling.under label trees)) := by
  have own : labelling.under label (mergeSiblings (ofTrees trees)) =
      ((groups trees).filter fun entry => entry.label = label).flatMap (·.children) := by
    rw [mergeSiblings_ofTrees]
    rfl
  rw [own, filter_groups, under_eq]
  by_cases unseen : withLabel label trees = []
  · rw [if_pos unseen, unseen, List.flatMap_nil, List.flatMap_nil, ofTrees, mergeSiblings_nil]
  · rw [if_neg unseen, List.flatMap_singleton]
    rfl

theorem nodesAt_mergeSiblings (path : List String) (trees : List TimingTree) :
    nodesAt path (labelling.nodesOf (mergeSiblings (ofTrees trees))) =
      if nodesAt path (TimingTree.labelling.nodesOf trees) = [] then []
      else [group (path.getLastD "") (nodesAt path (TimingTree.labelling.nodesOf trees))] := by
  -- What lies below a label is no part of the forest but gathered from all over it, so the
  -- induction is on the path, for every forest.
  induction path generalizing trees with
  | nil => simp only [Labelling.nodesAt_nil, if_true]
  | cons label rest ih =>
      cases rest with
      | nil =>
          rw [Labelling.nodesAt_singleton, Labelling.nodesAt_singleton, mergeSiblings_ofTrees]
          exact filter_groups label trees
      | cons next more =>
          have inside : next :: more ≠ [] := List.cons_ne_nil next more
          rw [labelling.nodesAt_cons inside, TimingTree.labelling.nodesAt_cons inside, under_mergeSiblings]
          exact ih _

theorem pathsBelow_mergeSiblings (parent : List String) (trees : List TimingTree) :
    labelling.pathsBelow parent (mergeSiblings (ofTrees trees)) =
      (TimingTree.labelling.pathsBelow parent trees).eraseDups := by
  induction parent generalizing trees with
  | nil =>
      have labels : (groups trees).map (fun entry => [entry.label]) =
          (trees.map (·.label)).eraseDups.map ([·]) := by
        rw [groups, List.map_map]
        rfl
      have single : TimingTree.labelling.pathsBelow [] trees = (trees.map (·.label)).map ([·]) := by
        rw [Labelling.pathsBelow_nil, List.map_map]
        rfl
      rw [Labelling.pathsBelow_nil, single, eraseDups_map List.singleton_injective, ← labels,
        mergeSiblings_ofTrees]
      rfl
  | cons label rest ih =>
      rw [labelling.pathsBelow_cons, TimingTree.labelling.pathsBelow_cons, under_mergeSiblings, ih,
        eraseDups_map List.cons_injective]

theorem mem_pathsOf_iff {α : Type} (labelling : Labelling α) (forest : List α) :
    path ∈ labelling.pathsOf forest ↔ path ∈ labelling.pathsBelow path.dropLast forest := by
  simp [Labelling.pathsBelow]

/-- A summary of trees: an entry for each label path of their nodes. -/
structure Summarizes (entries : List Entry) (trees : List TimingTree) : Prop where
  once : (labelling.pathsOf entries).Nodup
  covers : ∀ path, path ∈ labelling.pathsOf entries ↔ path ∈ TimingTree.labelling.pathsOf trees
  /-- Entries below one entry stand in the order in which their paths first occur. -/
  ordered : (labelling.pathsOf entries).Pairwise fun one other => one.dropLast = other.dropLast →
    (TimingTree.labelling.pathsOf trees).idxOf one < (TimingTree.labelling.pathsOf trees).idxOf other
  /-- An entry counts the nodes with its path and sums their times in preorder. -/
  tallied : ∀ path entry, (path, entry) ∈ labelling.nodesOf entries → ∃ first rest,
    nodesAt path (TimingTree.labelling.nodesOf trees) = first :: rest ∧
      entry.count = (first :: rest).length ∧
      entry.time = rest.foldl (fun sum node => sum + node.time) first.time ∧
      entry.comment = (first :: rest).findSome? (·.comment)

theorem mergeSiblings_summarizes (trees : List TimingTree) :
    Summarizes (mergeSiblings (ofTrees trees)) trees where
  once := by
    rw [List.nodup_iff_count_le_one]
    intro path
    have siblings : (labelling.pathsOf (mergeSiblings (ofTrees trees))).count path =
        (labelling.pathsBelow path.dropLast (mergeSiblings (ofTrees trees))).count path := by
      rw [Labelling.pathsBelow, List.count_filter (by simp)]
    rw [siblings, pathsBelow_mergeSiblings]
    exact List.nodup_iff_count_le_one.mp (nodup_eraseDups _) path
  covers path := by
    rw [mem_pathsOf_iff, mem_pathsOf_iff, pathsBelow_mergeSiblings, List.mem_eraseDups]
  ordered := by
    -- The first occurrence is among siblings first, then among all paths.
    refine pairwise_of_filter fun parent => ?_
    have siblings := pathsBelow_mergeSiblings parent trees
    rw [Labelling.pathsBelow, Labelling.pathsBelow] at siblings
    rw [siblings]
    refine (eraseDups_pairwise_idxOf _).imp_of_mem ?_
    intro one other _ otherIn before
    exact idxOf_filter_lt (List.of_mem_filter (List.mem_eraseDups.mp otherIn)) before
  tallied path entry member := by
    have found : entry ∈ nodesAt path (labelling.nodesOf (mergeSiblings (ofTrees trees))) :=
      List.mem_map.mpr ⟨(path, entry), List.mem_filter.mpr ⟨member, by simp⟩, rfl⟩
    rw [nodesAt_mergeSiblings] at found
    cases met : nodesAt path (TimingTree.labelling.nodesOf trees) with
    | nil => simp [met] at found
    | cons first rest =>
        rw [met, if_neg (List.cons_ne_nil first rest)] at found
        obtain rfl := List.mem_singleton.mp found
        exact ⟨first, rest, rfl, rfl, rfl, rfl⟩

/-- The summarized outline of a tree shows its root as it is, and below it one entry for each label
path of the nodes below the root. -/
theorem ofRoot_summarizes (tree : TimingTree) :
    (∀ comments, tree.lines comments true = (ofRoot true tree).lines comments) ∧
      (ofRoot true tree).label = tree.label ∧ (ofRoot true tree).time = tree.time ∧
      (ofRoot true tree).count = 1 ∧ (ofRoot true tree).comment = tree.comment ∧
      (ofRoot true tree).children = mergeSiblings (ofTrees tree.children) ∧
      (TimingTree.labelling.nodesOf tree.children).map (·.2) =
        TimingTree.preorderEach tree.children ∧
      Summarizes (ofRoot true tree).children tree.children := by
  refine ⟨fun _ => rfl, rfl, rfl, rfl, rfl, rfl, ?_, mergeSiblings_summarizes tree.children⟩
  rw [← TimingTree.labelledEach_preorder, TimingTree.labelledEach_eq_flatMap]
  rfl

end Entry

end TimingBoard
