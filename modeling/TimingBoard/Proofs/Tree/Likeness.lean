import Mathlib.Data.List.Forall2
import TimingBoard.Proofs.Number.Fixed
import TimingBoard.Proofs.Tree.Preorder
import TimingBoard.Proofs.Tree.Stem

namespace TimingBoard

/-! Trees that look alike.

The full outline shows the shape of a tree, its labels, and its times to two places, and from its
lines all of that is read back, whatever the labels are. -/

theorem append_colon_inj {α : Type} {colon : α} {first second rest other : List α} (clean : colon ∉ rest)
    (otherClean : colon ∉ other) (same : first ++ colon :: rest = second ++ colon :: other) :
    first = second ∧ rest = other := by
  rcases List.append_eq_append_iff.mp same with ⟨between, rfl, tails⟩ | ⟨between, rfl, tails⟩
  · cases between with
    | nil => simpa using tails
    | cons head between =>
        obtain ⟨-, rfl⟩ := List.cons.inj tails
        simp at clean
  · cases between with
    | nil => simpa using tails.symm
    | cons head between =>
        obtain ⟨-, rfl⟩ := List.cons.inj tails
        simp at otherClean

theorem forall₂_of_map_eq {α β γ : Type} {f : α → γ} {g : β → γ} {first : List α} {second : List β}
    (same : first.map f = second.map g) : List.Forall₂ (fun x y => f x = g y) first second := by
  rwa [← List.forall₂_eq_eq_eq, List.forall₂_map_left_iff, List.forall₂_map_right_iff] at same

namespace TimingTree

/-- What a line of the full outline says about its node, but for a comment. -/
def figure (tree : TimingTree) : String := tree.label ++ ": " ++ tree.time.fixed 2 ++ " [ms]"

theorem figure_toList (tree : TimingTree) :
    tree.figure.toList =
      (tree.label.toList ++ ':' :: ' ' :: (tree.time.fixed 2).toList) ++ " [ms]".toList := by
  simp [figure, String.toList_append]

theorem figure_eq_iff {tree other : TimingTree} :
    tree.figure = other.figure ↔ tree.label = other.label ∧ tree.time.fixed 2 = other.time.fixed 2 := by
  constructor
  · intro same
    have spaced (time : Binary64) : ':' ∉ ' ' :: (time.fixed 2).toList := by
      simp [Binary64.colon_not_mem_fixed]
    have lists := congrArg String.toList same
    rw [figure_toList, figure_toList] at lists
    obtain ⟨label, time⟩ := append_colon_inj (spaced _) (spaced _) (List.append_cancel_right lists)
    exact ⟨String.toList_inj.mp label, String.toList_inj.mp (List.cons.inj time).2⟩
  · rintro ⟨label, time⟩
    rw [figure, figure, label, time]

mutual

/-- The same shape, and at each node the same label and the same time to two places. -/
def LooksLike : TimingTree → TimingTree → Prop
  | ⟨_, label, time, _, children⟩, other =>
      label = other.label ∧ time.fixed 2 = other.time.fixed 2 ∧ LookAlike children other.children

def LookAlike : List TimingTree → List TimingTree → Prop
  | [], [] => True
  | tree :: rest, other :: others => tree.LooksLike other ∧ LookAlike rest others
  | _, _ => False

end

/-- The figures of a forest below a line of that depth, each with the depth it is drawn at. -/
def figures (depth : Nat) (trees : List TimingTree) : List (Nat × String) :=
  (labelling.nodesOf trees).map fun node => (depth + node.1.length, node.2.figure)

theorem figures_cons (depth : Nat) (tree : TimingTree) (rest : List TimingTree) :
    figures depth (tree :: rest) =
      (depth + 1, tree.figure) :: (figures (depth + 1) tree.children ++ figures depth rest) := by
  rw [figures, labelling.nodesOf_cons_unfolded]
  simp [figures, labelling, Nat.add_assoc, Nat.add_comm 1]

/-- Lines that are not below a line of that depth, if there are any. -/
def Outside (depth : Nat) (lines : List (Nat × String)) : Prop :=
  ∀ line ∈ lines.head?, line.1 ≤ depth

theorem Outside.figures_append {depth : Nat} {later : List (Nat × String)} (outside : Outside depth later)
    (trees : List TimingTree) : Outside (depth + 1) (figures depth trees ++ later) := by
  cases trees with
  | nil => exact fun line first => Nat.le_succ_of_le (outside line first)
  | cons tree rest =>
      rw [figures_cons]
      intro line first
      cases first
      exact Nat.le_refl _

theorem Outside.ne_figures_append {depth : Nat} {later : List (Nat × String)} (outside : Outside depth later)
    (tree : TimingTree) (rest : List TimingTree) (others : List (Nat × String)) :
    later ≠ figures depth (tree :: rest) ++ others := by
  rintro rfl
  rw [figures_cons] at outside
  exact Nat.not_succ_le_self depth (outside _ rfl)

/-- A forest ends where the depth falls back, so the figures of two forests say how they are alike. -/
theorem lookAlike_of_figures (trees others : List TimingTree) (depth : Nat)
    {later otherLater : List (Nat × String)} (outside : Outside depth later)
    (otherOutside : Outside depth otherLater)
    (same : figures depth trees ++ later = figures depth others ++ otherLater) :
    LookAlike trees others ∧ later = otherLater := by
  match trees, others with
  | [], [] => exact ⟨trivial, same⟩
  | [], other :: others => exact absurd same (outside.ne_figures_append other others otherLater)
  | tree :: rest, [] => exact absurd same.symm (otherOutside.ne_figures_append tree rest later)
  | ⟨name, label, time, comment, children⟩ :: rest, other :: others =>
      rw [figures_cons, figures_cons, List.cons_append, List.cons_append, List.append_assoc,
        List.append_assoc] at same
      obtain ⟨first, below⟩ := List.cons.inj same
      obtain ⟨sameLabel, sameTime⟩ := figure_eq_iff.mp (congrArg Prod.snd first)
      -- The later siblings are what follows the children, and they are not below this line.
      obtain ⟨childrenAlike, siblings⟩ := lookAlike_of_figures children other.children (depth + 1)
        (outside.figures_append rest) (otherOutside.figures_append others) below
      obtain ⟨restAlike, ends⟩ := lookAlike_of_figures rest others depth outside otherOutside siblings
      exact ⟨⟨⟨sameLabel, sameTime, childrenAlike⟩, restAlike⟩, ends⟩

mutual

theorem length_preorder : (tree : TimingTree) → tree.preorder.length = tree.nodeCount
  | ⟨_, _, _, _, children⟩ => by
      rw [preorder, nodeCount, List.length_cons, length_preorderEach children]

theorem length_preorderEach : (trees : List TimingTree) → (preorderEach trees).length = nodeCounts trees
  | [] => rfl
  | tree :: rest => by
      rw [preorderEach, nodeCounts, List.length_append, length_preorder tree, length_preorderEach rest]

end

end TimingTree

namespace Entry

open TimingTree (LookAlike)

theorem describe_ofTree (comments : Bool) (tree : TimingTree) :
    (ofTree tree).describe comments = tree.figure ++ commentSuffix comments tree.comment := by
  cases tree
  simp [ofTree, describe, countSuffix, TimingTree.figure]

theorem describe_eq_of_figure {label other : String} {time otherTime : Binary64}
    {comment otherComment : Option String} {children others : List Entry} (same : label = other)
    (shown : time.fixed 2 = otherTime.fixed 2) :
    describe false ⟨label, time, 1, comment, children⟩ =
      describe false ⟨other, otherTime, 1, otherComment, others⟩ := by
  simp [describe, commentSuffix, same, shown]

mutual

theorem branch_eq_of_looksLike (lead : String) (isLast : Bool) : (tree other : TimingTree) →
    tree.LooksLike other → branch false lead isLast (ofTree tree) = branch false lead isLast (ofTree other)
  | ⟨_, _, _, _, children⟩, ⟨_, _, _, _, others⟩, ⟨label, time, below⟩ => by
      rw [ofTree, ofTree, branch, branch, describe_eq_of_figure label time,
        branches_eq_of_lookAlike _ children others below]

theorem branches_eq_of_lookAlike (lead : String) : (trees others : List TimingTree) →
    LookAlike trees others → branches false lead (ofTrees trees) = branches false lead (ofTrees others)
  | [], [], _ => rfl
  | tree :: rest, other :: others, ⟨first, later⟩ => by
      have below := branches_eq_of_lookAlike lead rest others later
      have ends : (ofTrees rest).isEmpty = (ofTrees others).isEmpty := by
        cases rest <;> cases others <;> first | rfl | exact later.elim
      rw [ofTrees, ofTrees, branches, branches, ends, branch_eq_of_looksLike lead _ tree other first, below]

end

theorem map_describe_rowsEach (comments : Bool) (trees : List TimingTree) :
    (rowsEach [] (ofTrees trees)).map (fun row => (row.1.depth, row.2.describe comments)) =
      (TimingTree.labelling.nodesOf trees).map fun node =>
        (node.1.length, node.2.figure ++ commentSuffix comments node.2.comment) := by
  have rows := congrArg (List.map (Prod.map id (describe comments))) (rowsEach_labelled [] (ofTrees trees))
  simpa [nodesOf_ofTrees, Function.comp_def, describe_ofTree] using rows

theorem map_depthText?_branches (trees : List TimingTree) :
    (branches false "" (ofTrees trees)).map Stem.depthText? = (TimingTree.figures 0 trees).map some := by
  have rows := congrArg (List.map some) (map_describe_rowsEach false trees)
  simp only [List.map_map, Function.comp_def, commentSuffix, String.append_empty] at rows
  rw [branches_top, List.map_map, TimingTree.figures, List.map_map]
  simpa only [Function.comp_def, rowText, Stem.depthText?_drawn, Nat.zero_add] using rows

/-- The line says what is to be said about the node, behind a stem unless the node is the root. -/
def Shows (comments : Bool) (line : String) (node : TimingTree) : Prop :=
  ∃ drawing, (drawing = "" ∨ ∃ stem : Stem, drawing = stem.drawn) ∧
    line = drawing ++ (node.figure ++ commentSuffix comments node.comment)

end Entry

namespace TimingTree

theorem lines_full (tree : TimingTree) (comments : Bool) :
    tree.lines comments false =
      (tree.figure ++ Entry.commentSuffix comments tree.comment) ::
        Entry.branches comments "" (Entry.ofTrees tree.children) := by
  rw [← Entry.describe_ofTree]
  cases tree
  rfl

theorem looksLike_of_lines {tree other : TimingTree} (same : tree.lines false false = other.lines false false) :
    tree.LooksLike other := by
  rw [lines_full, lines_full] at same
  obtain ⟨first, below⟩ := List.cons.inj same
  obtain ⟨label, time⟩ := figure_eq_iff.mp (by simpa [Entry.commentSuffix] using first)
  have figures : figures 0 tree.children = figures 0 other.children := by
    have texts := congrArg (List.map Stem.depthText?) below
    rw [Entry.map_depthText?_branches, Entry.map_depthText?_branches] at texts
    exact (List.map_inj_right fun _ _ => Option.some.inj).mp texts
  have outside : Outside 0 [] := nofun
  obtain ⟨children, -⟩ := lookAlike_of_figures tree.children other.children 0 outside outside
    (congrArg (· ++ []) figures)
  cases tree
  exact ⟨label, time, children⟩

theorem lines_eq_of_looksLike {tree other : TimingTree} (alike : tree.LooksLike other) :
    tree.lines false false = other.lines false false := by
  obtain ⟨name, label, time, comment, children⟩ := tree
  obtain ⟨sameLabel, sameTime, below⟩ := alike
  have figure : figure ⟨name, label, time, comment, children⟩ = other.figure :=
    figure_eq_iff.mpr ⟨sameLabel, sameTime⟩
  rw [lines_full, lines_full, figure, Entry.branches_eq_of_lookAlike "" children other.children below]
  rfl

theorem lines_show (tree : TimingTree) (comments : Bool) :
    List.Forall₂ (Entry.Shows comments) (tree.lines comments false) tree.preorder := by
  obtain ⟨name, label, time, comment, children⟩ := tree
  rw [lines_full, preorder]
  refine .cons ⟨"", .inl rfl, (String.empty_append).symm⟩ ?_
  rw [Entry.branches_top, ← labelledEach_preorder, labelledEach_eq_flatMap]
  have said := forall₂_of_map_eq (Entry.map_describe_rowsEach comments children)
  rw [List.forall₂_map_left_iff, List.forall₂_map_right_iff]
  refine said.imp fun row node same => ⟨row.1.drawn, .inr ⟨row.1, rfl⟩, ?_⟩
  exact congrArg (row.1.drawn ++ ·) (congrArg Prod.snd same)

/-- The full outline is faithful.  It has a line for each node, and two trees have the same one without
comments exactly when they have the same shape, labels, and times to two places. -/
theorem lines_faithful (tree : TimingTree) :
    (∀ other, tree.lines false false = other.lines false false ↔ tree.LooksLike other) ∧
      ∀ comments, (tree.lines comments false).length = tree.nodeCount ∧
        List.Forall₂ (Entry.Shows comments) (tree.lines comments false) tree.preorder := by
  refine ⟨fun other => ⟨looksLike_of_lines, lines_eq_of_looksLike⟩, fun comments => ?_⟩
  have shows := lines_show tree comments
  exact ⟨shows.length_eq.trans (length_preorder tree), shows⟩

end TimingTree

end TimingBoard
