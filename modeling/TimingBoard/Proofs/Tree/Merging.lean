import Mathlib.Data.Finset.Card
import TimingBoard.Proofs.Tree.Likeness
import TimingBoard.Proofs.Tree.Summary

namespace TimingBoard

/-! When summarizing merges anything.

A summary has one line for each label path, so it is the full outline when no path is that of two
nodes, and shorter otherwise. -/

namespace Entry

theorem upsert_of_unseen {label : String} {change : Entry → Entry} {fresh : Entry} {entries : List Entry}
    (unseen : ∀ entry ∈ entries, entry.label ≠ label) :
    upsert label change fresh entries = entries ++ [fresh] := by
  induction entries with
  | nil => rfl
  | cons entry rest ih =>
      obtain ⟨apart, later⟩ := List.forall_mem_cons.mp unseen
      rw [upsert, if_neg apart, ih later, List.cons_append]

/-- Nodes with labels of their own are put behind what is there, as they are. -/
theorem foldl_mergeInto_of_distinct (merged nodes : List Entry)
    (distinct : ((merged ++ nodes).map (·.label)).Nodup) :
    nodes.foldl mergeInto merged = merged ++ nodes := by
  induction nodes generalizing merged with
  | nil => exact (List.append_nil merged).symm
  | cons node rest ih =>
      have unseen : ∀ entry ∈ merged, entry.label ≠ node.label := by
        rw [List.map_append, List.nodup_append] at distinct
        intro entry member
        exact distinct.2.2 _ (List.mem_map_of_mem member) _ List.mem_cons_self
      have before : mergeInto merged node = merged ++ [node] := upsert_of_unseen unseen
      rw [List.append_cons] at distinct
      rw [List.foldl_cons, before, ih _ distinct, ← List.append_cons]

theorem labels_distinct {entries : List Entry} (distinct : (labelling.pathsOf entries).Nodup) :
    (entries.map (·.label)).Nodup := by
  have top := distinct.filter fun path => path.dropLast = []
  rw [← Labelling.pathsBelow, Labelling.pathsBelow_nil] at top
  have labels : entries.map (fun entry => [labelling.label entry]) =
      (entries.map (·.label)).map ([·]) := by
    rw [List.map_map]
    rfl
  rw [labels] at top
  exact List.Nodup.of_map _ top

theorem children_distinct {entries : List Entry} (distinct : (labelling.pathsOf entries).Nodup) :
    ∀ entry ∈ entries, (labelling.pathsOf entry.children).Nodup := by
  induction entries with
  | nil => exact List.forall_mem_nil _
  | cons entry rest ih =>
      rw [Labelling.pathsOf_cons, List.cons_append, List.nodup_cons, List.nodup_append] at distinct
      obtain ⟨-, below, later, -⟩ := distinct
      exact List.forall_mem_cons.mpr ⟨List.Nodup.of_map _ below, ih later⟩

/-- Nothing is merged where all nodes have paths of their own. -/
theorem mergeSiblings_of_distinct {nodes : List Entry}
    (distinct : (labelling.pathsOf nodes).Nodup) : mergeSiblings nodes = nodes := by
  induction nodes using mergeSiblings.induct with
  | case1 nodes ih =>
      have pass : nodes.foldl mergeInto [] = nodes :=
        foldl_mergeInto_of_distinct [] nodes (labels_distinct distinct)
      rw [mergeSiblings_eq_map, pass]
      refine (List.map_congr_left ?_).trans (List.map_id nodes)
      intro node member
      have below : mergeSiblings node.children = node.children :=
        ih ⟨node, pass.symm ▸ member⟩ (children_distinct distinct node member)
      rw [below]
      cases node
      rfl

theorem length_rowsEach (bars : List Bool) (entries : List Entry) :
    (rowsEach bars entries).length = (labelling.pathsOf entries).length := by
  have rows := congrArg List.length (rowsEach_labelled bars entries)
  simpa [Labelling.pathsOf] using rows

theorem pathsOf_ofTrees (trees : List TimingTree) :
    labelling.pathsOf (ofTrees trees) = TimingTree.labelling.pathsOf trees := by
  rw [Labelling.pathsOf, nodesOf_ofTrees, List.map_map]
  rfl

/-- The line of an entry at the path: as deep as the path is long, with the last of its labels. -/
def Heads (line : String) (path : List String) : Prop :=
  ∃ (stem : Stem) (label text : String), path.getLast? = some label ∧ stem.depth = path.length ∧
    line = stem.drawn ++ label ++ ": " ++ text

theorem heads_rowText (comments : Bool) {row : Stem × Entry} {path : List String}
    (ends : path.getLast? = some row.2.label) (deep : row.1.depth = path.length) :
    Heads (rowText comments row) path := by
  refine ⟨row.1, row.2.label, row.2.time.fixed 2 ++ " [ms]" ++ countSuffix row.2.count ++
    commentSuffix comments row.2.comment, ends, deep, ?_⟩
  simp only [rowText, describe, String.append_assoc]

theorem branches_head (comments : Bool) (entries : List Entry) :
    List.Forall₂ Heads (branches comments "" entries) (labelling.pathsOf entries) := by
  have rows := forall₂_of_map_eq (rowsEach_labelled [] entries)
  have labelled : ∀ node ∈ labelling.nodesOf entries, node.1.getLast? = some node.2.label :=
    fun node member => labelling.getLast?_of_mem_nodesOf member
  rw [branches_top, Labelling.pathsOf, List.forall₂_map_left_iff, List.forall₂_map_right_iff]
  refine .flip (((List.forall₂_and_left _ _).mpr ⟨labelled, rows.flip⟩).imp ?_)
  rintro node row ⟨ends, same⟩
  obtain ⟨deep, entry⟩ := Prod.mk.inj same
  rw [List.length_nil, Nat.zero_add] at deep
  exact heads_rowText comments (entry ▸ ends) deep

end Entry

namespace TimingTree

variable (tree : TimingTree) (comments : Bool)

theorem length_lines_full :
    (tree.lines comments false).length = 1 + (labelling.pathsOf tree.children).length := by
  rw [lines_full, Entry.branches_top, List.length_cons, List.length_map, Entry.length_rowsEach,
    Entry.pathsOf_ofTrees, Nat.add_comm]

theorem length_lines_summarized :
    (tree.lines comments true).length = 1 + (labelling.pathsOf tree.children).toFinset.card := by
  have summary := Entry.mergeSiblings_summarizes tree.children
  have same : (labelling.pathsOf tree.children).toFinset =
      (Entry.labelling.pathsOf (Entry.mergeSiblings (Entry.ofTrees tree.children))).toFinset := by
    ext path
    rw [List.mem_toFinset, List.mem_toFinset, summary.covers]
  rw [same, List.toFinset_card_of_nodup summary.once, ← Entry.length_rowsEach [], lines,
    Entry.lines_eq_rows, List.length_cons, List.length_map, Nat.add_comm]
  rfl

theorem lines_summarized_of_distinct (distinct : (labelling.pathsOf tree.children).Nodup) :
    tree.lines comments true = tree.lines comments false := by
  rw [← Entry.pathsOf_ofTrees] at distinct
  have same := Entry.mergeSiblings_of_distinct distinct
  rw [lines, lines, Entry.ofRoot, Entry.ofRoot, if_pos rfl, if_neg Bool.false_ne_true, same]

theorem card_eq_length_iff :
    (labelling.pathsOf tree.children).toFinset.card = (labelling.pathsOf tree.children).length ↔
      (labelling.pathsOf tree.children).Nodup := by
  rw [← Multiset.coe_nodup, ← Multiset.toFinset_card_eq_card_iff_nodup]
  rfl

theorem lines_summarized_eq_iff :
    tree.lines comments true = tree.lines comments false ↔ (labelling.pathsOf tree.children).Nodup := by
  constructor
  · intro same
    have lengths := congrArg List.length same
    rw [length_lines_full, length_lines_summarized] at lengths
    exact tree.card_eq_length_iff.mp (Nat.add_left_cancel lengths)
  · exact tree.lines_summarized_of_distinct comments

/-- Summarizing changes an outline exactly when two nodes below the root have the same label path, in
whatever places they are.  The summary has a line for the root and one for each path, so then it is
shorter. -/
theorem lines_summarized_iff_distinct :
    (labelling.nodesOf tree.children).map (·.2) = preorderEach tree.children ∧
      (tree.lines comments true = tree.lines comments false ↔
        (labelling.pathsOf tree.children).Nodup) ∧
      (∃ later paths,
        tree.lines comments true = (Entry.ofRoot true tree).describe comments :: later ∧
          List.Forall₂ Entry.Heads later paths ∧ paths.Nodup ∧
          ∀ path, path ∈ paths ↔ path ∈ labelling.pathsOf tree.children) ∧
      (tree.lines comments true).length = 1 + (labelling.pathsOf tree.children).toFinset.card ∧
      (tree.lines comments true).length ≤ (tree.lines comments false).length ∧
      (tree.lines comments true ≠ tree.lines comments false →
        (tree.lines comments true).length < (tree.lines comments false).length) := by
  have summary := Entry.mergeSiblings_summarizes tree.children
  have nodes : (labelling.nodesOf tree.children).map (·.2) = preorderEach tree.children := by
    rw [← labelledEach_preorder, labelledEach_eq_flatMap]
    rfl
  have few : (labelling.pathsOf tree.children).toFinset.card ≤
      (labelling.pathsOf tree.children).length := List.toFinset_card_le _
  have same := tree.lines_summarized_eq_iff comments
  refine ⟨nodes, same, ⟨_, _, rfl, Entry.branches_head comments _, summary.once, summary.covers⟩,
    tree.length_lines_summarized comments, ?_, ?_⟩
  · rw [length_lines_full, length_lines_summarized]
    exact Nat.add_le_add_left few 1
  · intro differ
    have fewer := Nat.lt_of_le_of_ne few (mt (tree.card_eq_length_iff.trans same.symm).mp differ)
    rw [length_lines_full, length_lines_summarized]
    exact Nat.add_lt_add_left fewer 1

end TimingTree

end TimingBoard
