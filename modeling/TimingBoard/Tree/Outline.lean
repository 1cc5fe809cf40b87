import TimingBoard.Tree.Basic
import TimingBoard.Number.Decimal

namespace TimingBoard

/-! Outlines: trees as lines of text.

The full outline has a line for every node.  The summarized outline has the root and one line for
every label path below it: nodes with the same path are counted, their times summed in preorder,
and the first comment among them is kept. -/

/-- A displayed node, standing for `count` nodes of a tree. -/
structure Entry where
  label : String
  time : Binary64
  count : Nat
  comment : Option String
  children : List Entry

namespace Entry

mutual

def ofTree : TimingTree → Entry
  | ⟨_, label, time, comment, children⟩ => ⟨label, time, 1, comment, ofTrees children⟩

def ofTrees : List TimingTree → List Entry
  | [] => []
  | tree :: rest => ofTree tree :: ofTrees rest

end

mutual

/-- The number of entries displayed for an entry: itself and those below it. -/
def size : Entry → Nat
  | ⟨_, _, _, _, children⟩ => sizes children + 1

def sizes : List Entry → Nat
  | [] => 0
  | entry :: rest => entry.size + sizes rest

end

theorem sizes_children_lt (entry : Entry) : sizes entry.children < entry.size := by
  cases entry
  exact Nat.lt_succ_self _

theorem size_le_of_mem {entry : Entry} {entries : List Entry} (member : entry ∈ entries) :
    entry.size ≤ sizes entries := by
  induction entries with
  | nil => exact absurd member List.not_mem_nil
  | cons first rest ih =>
      rw [sizes]
      rcases List.mem_cons.mp member with rfl | later
      · exact Nat.le_add_right _ _
      · exact Nat.le_trans (ih later) (Nat.le_add_left _ _)

theorem sizes_append (first rest : List Entry) : sizes (first ++ rest) = sizes first + sizes rest := by
  induction first with
  | nil => exact (Nat.zero_add _).symm
  | cons entry more ih => rw [List.cons_append, sizes, sizes, ih, Nat.add_assoc]

/-- Changes the first entry with the label, or appends a fresh one. -/
def upsert (label : String) (change : Entry → Entry) (fresh : Entry) : List Entry → List Entry
  | [] => [fresh]
  | entry :: rest =>
      if entry.label = label then change entry :: rest
      else entry :: upsert label change fresh rest

theorem sizes_upsert_le {label : String} {change : Entry → Entry} {fresh : Entry}
    (grows : ∀ entry, (change entry).size ≤ entry.size + fresh.size) (entries : List Entry) :
    sizes (upsert label change fresh entries) ≤ sizes entries + fresh.size := by
  induction entries with
  | nil => simp [upsert, sizes]
  | cons entry rest ih =>
      have grown := grows entry
      by_cases same : entry.label = label
      · simp only [upsert, if_pos same, sizes]
        omega
      · simp only [upsert, if_neg same, sizes]
        omega

/-- Merges a node into the first one with its label among those merged so far, behind whose children
its own are put, or else adds it to them. -/
def mergeInto (merged : List Entry) (node : Entry) : List Entry :=
  upsert node.label
    (fun existing =>
      { existing with
        time := existing.time + node.time
        count := existing.count + node.count
        comment := existing.comment.or node.comment
        children := existing.children ++ node.children })
    node merged

theorem sizes_mergeInto_le (merged : List Entry) (node : Entry) :
    sizes (mergeInto merged node) ≤ sizes merged + node.size := by
  refine sizes_upsert_le (fun existing => ?_) merged
  cases existing
  cases node
  simp only [size, sizes_append]
  omega

theorem sizes_foldl_mergeInto_le (merged nodes : List Entry) :
    sizes (nodes.foldl mergeInto merged) ≤ sizes merged + sizes nodes := by
  induction nodes generalizing merged with
  | nil => exact Nat.le_refl _
  | cons node rest ih =>
      have one := sizes_mergeInto_le merged node
      have others := ih (mergeInto merged node)
      rw [List.foldl_cons, sizes]
      omega

/-- Children that come together in a pass over siblings are fewer than the siblings with what is
below them. -/
theorem sizes_children_lt_of_merged {nodes : List Entry} {entry : Entry}
    (member : entry ∈ nodes.foldl mergeInto []) : sizes entry.children < sizes nodes := by
  have inside := size_le_of_mem member
  have bound := sizes_foldl_mergeInto_le [] nodes
  rw [sizes, Nat.zero_add] at bound
  exact Nat.lt_of_lt_of_le entry.sizes_children_lt (Nat.le_trans inside bound)

/-- Merges siblings that share a label, in the order in which labels are first seen, and after that
the children of each. -/
def mergeSiblings (nodes : List Entry) : List Entry :=
  (nodes.foldl mergeInto []).attach.map fun node =>
    { node.val with children := mergeSiblings node.val.children }
termination_by sizes nodes
decreasing_by exact sizes_children_lt_of_merged node.property

theorem mergeSiblings_eq_map (nodes : List Entry) :
    mergeSiblings nodes = (nodes.foldl mergeInto []).map fun node =>
      { node with children := mergeSiblings node.children } := by
  rw [mergeSiblings]
  exact List.attach_map_val (f := fun node : Entry =>
    { node with children := mergeSiblings node.children })

@[simp]
theorem mergeSiblings_nil : mergeSiblings [] = [] :=
  mergeSiblings_eq_map []

/-- The entry of a tree's root.  The root itself is never merged. -/
def ofRoot (summarize : Bool) (tree : TimingTree) : Entry :=
  { label := tree.label
    time := tree.time
    count := 1
    comment := tree.comment
    children := if summarize then mergeSiblings (ofTrees tree.children) else ofTrees tree.children }

/-- What is said about a comment at the end of a line. -/
def commentSuffix (comments : Bool) (comment : Option String) : String :=
  match comments, comment with
  | true, some text => ": " ++ text
  | _, _ => ""

def countSuffix (count : Nat) : String :=
  if 1 < count then " (x" ++ toString count ++ ")" else ""

/-- The text of an entry, without the branch that leads to it. -/
def describe (comments : Bool) (entry : Entry) : String :=
  entry.label ++ ": " ++ entry.time.fixed 2 ++ " [ms]" ++ countSuffix entry.count ++
    commentSuffix comments entry.comment

def connector (isLast : Bool) : String := if isLast then "└─ " else "├─ "

/-- What stands below a branch, in front of deeper ones. -/
def continuation (isLast : Bool) : String := if isLast then "   " else "│  "

mutual

def branch (comments : Bool) (lead : String) (isLast : Bool) : Entry → List String
  | ⟨label, time, count, comment, children⟩ =>
      (lead ++ connector isLast ++ describe comments ⟨label, time, count, comment, children⟩) ::
        branches comments (lead ++ continuation isLast) children

def branches (comments : Bool) (lead : String) : List Entry → List String
  | [] => []
  | entry :: rest => branch comments lead rest.isEmpty entry ++ branches comments lead rest

end

def lines (comments : Bool) (root : Entry) : List String :=
  root.describe comments :: branches comments "" root.children

end Entry

namespace TimingTree

def lines (tree : TimingTree) (comments summarize : Bool) : List String :=
  (Entry.ofRoot summarize tree).lines comments

/-- The lines of a tree, each one ended. -/
def text (tree : TimingTree) (comments summarize : Bool) : String :=
  String.join ((tree.lines comments summarize).map (· ++ "\n"))

end TimingTree

end TimingBoard
