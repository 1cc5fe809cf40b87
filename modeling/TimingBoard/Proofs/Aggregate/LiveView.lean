import TimingBoard.Aggregate.LiveView
import TimingBoard.Proofs.Tree.Stem

namespace TimingBoard

/-! What the live view shows.

Every line of a tree has text on it, so the blank lines between trees tell where one ends, and a line
that says that nothing was received is not the line of a tree. -/

namespace Entry

theorem bracket_mem_describe (comments : Bool) (entry : Entry) :
    '[' ∈ (entry.describe comments).toList := by
  simp [describe]

theorem bracket_mem_lines {comments : Bool} {root : Entry} {line : String}
    (member : line ∈ root.lines comments) : '[' ∈ line.toList := by
  rw [lines_eq_rows] at member
  rcases List.mem_cons.mp member with rfl | below
  · exact bracket_mem_describe comments root
  · obtain ⟨row, -, rfl⟩ := List.mem_map.mp below
    rw [rowText, String.toList_append]
    exact List.mem_append_right _ (bracket_mem_describe comments row.2)

end Entry

namespace LiveView

variable {trees : List TimingTree} {comments summarize : Bool}

theorem treeLines_cons_of_ne_nil (tree : TimingTree) (more : trees ≠ []) :
    treeLines comments summarize (tree :: trees) =
      tree.lines comments summarize ++ "" :: treeLines comments summarize trees := by
  cases trees with
  | nil => exact absurd rfl more
  | cons next rest => rw [treeLines]; exact List.cons_ne_nil next rest

theorem lines_ne_nil (tree : TimingTree) : tree.lines comments summarize ≠ [] := List.cons_ne_nil _ _

theorem treeLines_ne_nil : treeLines comments summarize trees ≠ [] := by
  cases trees with
  | nil => exact List.cons_ne_nil _ _
  | cons tree rest =>
      by_cases more : rest = []
      · subst more
        exact lines_ne_nil tree
      · rw [treeLines_cons_of_ne_nil tree more]
        exact List.append_ne_nil_of_left_ne_nil (lines_ne_nil tree) _

theorem treeLines_eq_intercalate (received : trees ≠ []) :
    treeLines comments summarize trees =
      [""].intercalate (trees.map fun tree => tree.lines comments summarize) := by
  induction trees with
  | nil => exact absurd rfl received
  | cons tree rest ih =>
      by_cases more : rest = []
      · subst more
        simp [treeLines]
      · rw [treeLines_cons_of_ne_nil tree more, ih more, List.map_cons,
          List.intercalate_cons_of_ne_nil (by simpa using more), List.append_assoc]
        rfl

/-- The lines of each tree are found again between the blank ones. -/
theorem splitOn_treeLines (received : trees ≠ []) :
    (treeLines comments summarize trees).splitOn "" =
      trees.map fun tree => tree.lines comments summarize := by
  rw [treeLines_eq_intercalate received]
  refine List.splitOn_intercalate "" ?_ (by simpa using received)
  intro lines among blank
  obtain ⟨tree, -, rfl⟩ := List.mem_map.mp among
  exact List.not_mem_nil (Entry.bracket_mem_lines blank)

theorem waiting_mem_treeLines_iff :
    "Waiting for messages..." ∈ treeLines comments summarize trees ↔ trees = [] := by
  constructor
  · intro waiting
    induction trees with
    | nil => rfl
    | cons tree rest ih =>
        have other : "Waiting for messages..." ∉ tree.lines comments summarize := fun line =>
          absurd (Entry.bracket_mem_lines line) (by decide)
        by_cases more : rest = []
        · subst more
          exact absurd waiting other
        · rw [treeLines_cons_of_ne_nil tree more] at waiting
          have behind := ((List.mem_append.mp waiting).resolve_left other)
          exact absurd (ih ((List.mem_cons.mp behind).resolve_left (by decide))) more
  · rintro rfl
    exact List.mem_singleton_self _

theorem blankLine_eq : "\n\n" = "\n" ++ "" ++ "\n" := rfl

theorem intercalate_treeLines (received : trees ≠ []) :
    "\n".intercalate (treeLines comments summarize trees) =
      "\n\n".intercalate (trees.map fun tree => "\n".intercalate (tree.lines comments summarize)) := by
  induction trees with
  | nil => exact absurd rfl received
  | cons tree rest ih =>
      by_cases more : rest = []
      · subst more
        simp [treeLines]
      · rw [treeLines_cons_of_ne_nil tree more, List.map_cons,
          String.intercalate_append_of_ne_nil (lines_ne_nil tree) (List.cons_ne_nil _ _),
          String.intercalate_cons_of_ne_nil treeLines_ne_nil, ih more,
          String.intercalate_cons_of_ne_nil (by simpa using more)]
        simp only [blankLine_eq, String.append_assoc]

theorem text_eq (title : String) (topic : Option String) (trees : List TimingTree)
    (comments summarize : Bool) :
    text title topic trees comments summarize =
      title ++ "\n" ++ "topic: " ++ topic.getD "-" ++ "\n\n" ++
        if trees = [] then "Waiting for messages..."
        else "\n\n".intercalate (trees.map fun tree => "\n".intercalate (tree.lines comments summarize)) := by
  have body : "\n".intercalate (treeLines comments summarize trees) =
      if trees = [] then "Waiting for messages..."
      else "\n\n".intercalate (trees.map fun tree => "\n".intercalate (tree.lines comments summarize)) := by
    split
    case isTrue none => subst none; rfl
    case isFalse received => exact intercalate_treeLines received
  rw [text, lines, ← body, String.intercalate_cons_cons, String.intercalate_cons_cons,
    String.intercalate_cons_of_ne_nil treeLines_ne_nil]
  simp only [blankLine_eq, String.append_assoc]

/-- A title line, a line for the topic, a blank line, and then each tree in its own lines under both
flags, with a blank line between trees; or one line that says that there is none yet.  Below the first
three lines the trees can be told apart, and that line never stands among theirs. -/
theorem text_shows (title : String) (topic : Option String) (trees : List TimingTree)
    (comments summarize : Bool) :
    let below := (lines title topic trees comments summarize).drop 3
    text title topic trees comments summarize =
        title ++ "\n" ++ "topic: " ++ topic.getD "-" ++ "\n\n" ++
          (if trees = [] then "Waiting for messages..."
          else "\n\n".intercalate (trees.map fun tree => "\n".intercalate (tree.lines comments summarize))) ∧
      (trees ≠ [] → below.splitOn "" = trees.map fun tree => tree.lines comments summarize) ∧
      ("Waiting for messages..." ∈ below ↔ trees = []) :=
  ⟨text_eq title topic trees comments summarize, splitOn_treeLines, waiting_mem_treeLines_iff⟩

example : text "T" none [⟨"a", "a", .ofNat 1, none, []⟩, ⟨"b", "b", .ofNat 2, some "slow", []⟩] true false =
    "T\ntopic: -\n\na: 1.00 [ms]\n\nb: 2.00 [ms]: slow" := by
  decide +kernel

end LiveView

end TimingBoard
