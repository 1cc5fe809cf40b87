import TimingBoard.Proofs.Tree.Preorder
import TimingBoard.Tree.Outline

namespace TimingBoard

/-! Label paths: the labels from the top of a forest down to one of its nodes.

Trees and entries are both read this way, so what holds of the paths of any kind of labelled node is
said once, of a `Labelling`. -/

structure Labelling (α : Type) where
  label : α → String
  children : α → List α
  /-- The node and all nodes below it in preorder, each with its path. -/
  labelled : α → List (List String × α)
  unfolds : ∀ node, labelled node =
    ([label node], node) ::
      ((children node).flatMap labelled).map fun below => (label node :: below.1, below.2)

/-- The nodes at a path, in their order. -/
def nodesAt {α : Type} (path : List String) (nodes : List (List String × α)) : List α :=
  (nodes.filter fun node => node.1 = path).map (·.2)

theorem nodesAt_append {α : Type} (path : List String) (first rest : List (List String × α)) :
    nodesAt path (first ++ rest) = nodesAt path first ++ nodesAt path rest := by
  simp [nodesAt]

theorem nodesAt_first {α : Type} (path other : List String) (node : α)
    (rest : List (List String × α)) :
    nodesAt path ((other, node) :: rest) =
      (if other = path then [node] else []) ++ nodesAt path rest := by
  by_cases same : other = path <;> simp [nodesAt, same]

theorem nodesAt_map_cons {α : Type} (label other : String) (path : List String)
    (nodes : List (List String × α)) :
    nodesAt (label :: path) (nodes.map fun below => (other :: below.1, below.2)) =
      if other = label then nodesAt path nodes else [] := by
  by_cases same : other = label <;> simp [nodesAt, List.filter_map, Function.comp_def, same]

namespace Labelling

variable {α : Type} (labelling : Labelling α) {label : String} {path : List String}

/-- All nodes of a forest in preorder. -/
def nodesOf (forest : List α) : List (List String × α) := forest.flatMap labelling.labelled

def pathsOf (forest : List α) : List (List String) := (labelling.nodesOf forest).map (·.1)

/-- The nodes right below those with a label. -/
def under (label : String) (forest : List α) : List α :=
  (forest.filter fun node => labelling.label node = label).flatMap labelling.children

/-- The paths right below a path, in preorder. -/
def pathsBelow (parent : List String) (forest : List α) : List (List String) :=
  (labelling.pathsOf forest).filter fun path => path.dropLast = parent

theorem nodesOf_cons (node : α) (rest : List α) :
    labelling.nodesOf (node :: rest) = labelling.labelled node ++ labelling.nodesOf rest :=
  List.flatMap_cons

theorem nodesOf_cons_unfolded (node : α) (rest : List α) :
    labelling.nodesOf (node :: rest) =
      ([labelling.label node], node) ::
        ((labelling.nodesOf (labelling.children node)).map
          (fun below => (labelling.label node :: below.1, below.2)) ++ labelling.nodesOf rest) := by
  rw [nodesOf_cons, labelling.unfolds]
  rfl

theorem nodesOf_append (first rest : List α) :
    labelling.nodesOf (first ++ rest) = labelling.nodesOf first ++ labelling.nodesOf rest :=
  List.flatMap_append

theorem pathsOf_cons (node : α) (rest : List α) :
    labelling.pathsOf (node :: rest) =
      [labelling.label node] ::
        (labelling.pathsOf (labelling.children node)).map (labelling.label node :: ·) ++
          labelling.pathsOf rest := by
  rw [pathsOf, nodesOf_cons, labelling.unfolds]
  simp [pathsOf, nodesOf, Function.comp_def]

theorem pathsBelow_append (parent : List String) (first rest : List α) :
    labelling.pathsBelow parent (first ++ rest) =
      labelling.pathsBelow parent first ++ labelling.pathsBelow parent rest := by
  rw [pathsBelow, pathsOf, nodesOf_append, List.map_append, List.filter_append]
  rfl

theorem under_cons (node : α) (rest : List α) :
    labelling.under label (node :: rest) =
      (if labelling.label node = label then labelling.children node else []) ++
        labelling.under label rest := by
  by_cases same : labelling.label node = label <;> simp [under, same]

theorem nil_not_mem_pathsOf (forest : List α) : [] ∉ labelling.pathsOf forest := by
  induction forest with
  | nil => exact List.not_mem_nil
  | cons node rest ih => simp [pathsOf_cons, ih]

theorem nodesAt_nil (forest : List α) : nodesAt [] (labelling.nodesOf forest) = [] := by
  have pathless : (labelling.nodesOf forest).filter (fun node => node.1 = []) = [] := by
    rw [List.filter_eq_nil_iff]
    intro node member top
    have path : node.1 ∈ labelling.pathsOf forest := List.mem_map_of_mem member
    rw [of_decide_eq_true top] at path
    exact labelling.nil_not_mem_pathsOf forest path
  rw [nodesAt, pathless]
  rfl

theorem nodesAt_labelled (node : α) :
    nodesAt (label :: path) (labelling.labelled node) =
      if labelling.label node = label then
        if path = [] then [node] else nodesAt path (labelling.nodesOf (labelling.children node))
      else [] := by
  have deeper := nodesAt_map_cons label (labelling.label node) path
    (labelling.nodesOf (labelling.children node))
  rw [labelling.unfolds, nodesAt_first, ← nodesOf, deeper]
  by_cases same : labelling.label node = label
  · by_cases top : path = []
    · subst top
      simp [same, labelling.nodesAt_nil]
    · simp [same, top, Ne.symm top]
  · simp [same]

/-- The nodes at the top with a label. -/
theorem nodesAt_singleton (forest : List α) :
    nodesAt [label] (labelling.nodesOf forest) =
      forest.filter fun node => labelling.label node = label := by
  induction forest with
  | nil => rfl
  | cons node rest ih =>
      rw [nodesOf_cons, nodesAt_append, nodesAt_labelled, ih]
      by_cases same : labelling.label node = label <;> simp [same]

/-- The nodes at a longer path, seen from below its first label. -/
theorem nodesAt_cons (inside : path ≠ []) (forest : List α) :
    nodesAt (label :: path) (labelling.nodesOf forest) =
      nodesAt path (labelling.nodesOf (labelling.under label forest)) := by
  induction forest with
  | nil => rfl
  | cons node rest ih =>
      rw [nodesOf_cons, nodesAt_append, nodesAt_labelled, ih, under_cons, nodesOf_append,
        nodesAt_append, if_neg inside]
      by_cases same : labelling.label node = label
      · rw [if_pos same, if_pos same]
      · rw [if_neg same, if_neg same]
        rfl

/-- A path ends with the label of the node that it leads to. -/
theorem getLast?_of_mem_nodesOf {path : List String} {node : α} {forest : List α}
    (member : (path, node) ∈ labelling.nodesOf forest) :
    path.getLast? = some (labelling.label node) := by
  have found : node ∈ nodesAt path (labelling.nodesOf forest) :=
    List.mem_map.mpr ⟨(path, node), List.mem_filter.mpr ⟨member, by simp⟩, rfl⟩
  clear member
  induction path generalizing forest with
  | nil => simp [labelling.nodesAt_nil] at found
  | cons label rest ih =>
      cases rest with
      | nil =>
          rw [labelling.nodesAt_singleton] at found
          have same := of_decide_eq_true (List.mem_filter.mp found).2
          rw [List.getLast?_singleton, same]
      | cons next more =>
          rw [labelling.nodesAt_cons (List.cons_ne_nil next more)] at found
          rw [List.getLast?_cons_cons]
          exact ih found

theorem dropLast_cons_of_mem {forest : List α} (member : path ∈ labelling.pathsOf forest)
    (label : String) : (label :: path).dropLast = label :: path.dropLast := by
  refine List.dropLast_cons_of_ne_nil ?_
  rintro rfl
  exact labelling.nil_not_mem_pathsOf forest member

/-- Which paths below a node lie right below another path. -/
theorem filter_map_cons (label other : String) (parent : List String) (forest : List α) :
    ((labelling.pathsOf forest).map (other :: ·)).filter (fun path => path.dropLast = label :: parent) =
      if other = label then (labelling.pathsBelow parent forest).map (label :: ·) else [] := by
  rw [List.filter_map]
  by_cases same : other = label
  · subst same
    rw [if_pos rfl, pathsBelow]
    congr 1
    refine List.filter_congr ?_
    intro path member
    simp [labelling.dropLast_cons_of_mem member]
  · rw [if_neg same, List.map_eq_nil_iff, List.filter_eq_nil_iff]
    intro path member
    simp [labelling.dropLast_cons_of_mem member, same]

theorem pathsBelow_nil (forest : List α) :
    labelling.pathsBelow [] forest = forest.map fun node => [labelling.label node] := by
  induction forest with
  | nil => rfl
  | cons node rest ih =>
      have deeper : ((labelling.pathsOf (labelling.children node)).map (labelling.label node :: ·)).filter
          (fun path => path.dropLast = []) = [] := by
        rw [List.filter_eq_nil_iff]
        intro path member
        obtain ⟨below, inside, rfl⟩ := List.mem_map.mp member
        simp [labelling.dropLast_cons_of_mem inside]
      rw [pathsBelow] at ih
      simp [pathsBelow, pathsOf_cons, deeper, ih]

theorem pathsBelow_cons (parent : List String) (forest : List α) :
    labelling.pathsBelow (label :: parent) forest =
      (labelling.pathsBelow parent (labelling.under label forest)).map (label :: ·) := by
  induction forest with
  | nil => rfl
  | cons node rest ih =>
      have deeper := labelling.filter_map_cons label (labelling.label node) parent
        (labelling.children node)
      rw [under_cons, pathsBelow_append, List.map_append, ← ih, pathsBelow, pathsOf_cons,
        List.cons_append, List.filter_cons_of_neg (by simp), List.filter_append, deeper]
      by_cases same : labelling.label node = label
      · rw [if_pos same, if_pos same]
        rfl
      · rw [if_neg same, if_neg same]
        rfl

end Labelling

namespace TimingTree

mutual

/-- The nodes of a tree in preorder, each with the labels from the root down to it. -/
def labelled : TimingTree → List (List String × TimingTree)
  | ⟨name, label, time, comment, children⟩ =>
      ([label], ⟨name, label, time, comment, children⟩) ::
        (labelledEach children).map fun below => (label :: below.1, below.2)

def labelledEach : List TimingTree → List (List String × TimingTree)
  | [] => []
  | tree :: rest => tree.labelled ++ labelledEach rest

end

theorem labelledEach_eq_flatMap (trees : List TimingTree) :
    labelledEach trees = trees.flatMap labelled := by
  induction trees with
  | nil => rfl
  | cons tree rest ih => rw [labelledEach, ih, List.flatMap_cons]

def labelling : Labelling TimingTree where
  label := label
  children := children
  labelled := labelled
  unfolds tree := by
    cases tree
    rw [labelled, labelledEach_eq_flatMap]

mutual

theorem labelled_preorder (tree : TimingTree) : tree.labelled.map (·.2) = tree.preorder := by
  obtain ⟨name, label, time, comment, children⟩ := tree
  rw [labelled, preorder, ← labelledEach_preorder children]
  simp [Function.comp_def]

theorem labelledEach_preorder (trees : List TimingTree) :
    (labelledEach trees).map (·.2) = preorderEach trees := by
  cases trees with
  | nil => rfl
  | cons tree rest =>
      rw [labelledEach, preorderEach, ← labelled_preorder tree, ← labelledEach_preorder rest,
        List.map_append]

end

end TimingTree

namespace Entry

mutual

/-- The entries of an outline from top to bottom, each with the labels that lead to it. -/
def labelled : Entry → List (List String × Entry)
  | ⟨label, time, count, comment, children⟩ =>
      ([label], ⟨label, time, count, comment, children⟩) ::
        (labelledEach children).map fun below => (label :: below.1, below.2)

def labelledEach : List Entry → List (List String × Entry)
  | [] => []
  | entry :: rest => entry.labelled ++ labelledEach rest

end

theorem labelledEach_eq_flatMap (entries : List Entry) :
    labelledEach entries = entries.flatMap labelled := by
  induction entries with
  | nil => rfl
  | cons entry rest ih => rw [labelledEach, ih, List.flatMap_cons]

def labelling : Labelling Entry where
  label := label
  children := children
  labelled := labelled
  unfolds entry := by
    cases entry
    rw [labelled, labelledEach_eq_flatMap]

mutual

theorem labelled_ofTree : (tree : TimingTree) →
    (ofTree tree).labelled = tree.labelled.map fun node => (node.1, ofTree node.2)
  | ⟨_, _, _, _, children⟩ => by
      rw [ofTree, labelled, TimingTree.labelled, labelledEach_ofTrees children]
      simp [ofTree]

theorem labelledEach_ofTrees : (trees : List TimingTree) →
    labelledEach (ofTrees trees) =
      (TimingTree.labelledEach trees).map fun node => (node.1, ofTree node.2)
  | [] => rfl
  | tree :: rest => by
      rw [ofTrees, labelledEach, TimingTree.labelledEach, labelled_ofTree tree, labelledEach_ofTrees rest,
        List.map_append]

end

theorem nodesOf_ofTrees (trees : List TimingTree) :
    labelling.nodesOf (ofTrees trees) =
      (TimingTree.labelling.nodesOf trees).map fun node => (node.1, ofTree node.2) := by
  have whole := labelledEach_ofTrees trees
  rwa [labelledEach_eq_flatMap, TimingTree.labelledEach_eq_flatMap] at whole

end Entry

end TimingBoard
