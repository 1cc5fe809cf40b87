import TimingBoard.Proofs.Tree.LabelPath

namespace TimingBoard

/-! What is drawn in front of the lines of an outline.

A stem has a stroke for each level between the root and its line, and a connector.  Each of them has
three characters, and the first one tells them apart, so a stem is read off its line whatever text
stands behind it. -/

structure Stem where
  /-- For each level above the line, from the top, whether a branch is drawn past the line. -/
  bars : List Bool
  /-- The connector is drawn on to a line further down. -/
  forked : Bool
deriving DecidableEq, Repr

namespace Stem

/-- The root has depth 0 and no stem. -/
def depth (stem : Stem) : Nat := stem.bars.length + 1

def lead (bars : List Bool) : String :=
  String.join (bars.map fun passing => Entry.continuation !passing)

def drawn (stem : Stem) : String := lead stem.bars ++ Entry.connector !stem.forked

def behind (passing : Bool) (stem : Stem) : Stem := { stem with bars := passing :: stem.bars }

/-- Reads groups of three characters up to the first connector, and gives the text behind it. -/
def read? : List Char → Option (Stem × List Char)
  | ' ' :: ' ' :: ' ' :: rest => (read? rest).map (Prod.map (behind false) id)
  | '│' :: ' ' :: ' ' :: rest => (read? rest).map (Prod.map (behind true) id)
  | '├' :: '─' :: ' ' :: rest => some (⟨[], true⟩, rest)
  | '└' :: '─' :: ' ' :: rest => some (⟨[], false⟩, rest)
  | _ => none

def ofLine? (line : String) : Option Stem := (read? line.toList).map (·.1)

theorem lead_append_singleton (bars : List Bool) (forked : Bool) :
    lead (bars ++ [forked]) = lead bars ++ Entry.continuation !forked := by
  simp [lead, String.join_append, String.join_cons]

theorem drawn_behind (passing : Bool) (stem : Stem) :
    (behind passing stem).drawn = Entry.continuation (!passing) ++ stem.drawn := by
  simp [drawn, behind, lead, String.join_cons, String.append_assoc]

theorem read?_connector (forked : Bool) (text : List Char) :
    read? ((Entry.connector !forked).toList ++ text) = some (⟨[], forked⟩, text) := by
  cases forked <;> rfl

theorem read?_continuation (passing : Bool) (rest : List Char) :
    read? ((Entry.continuation !passing).toList ++ rest) =
      (read? rest).map (Prod.map (behind passing) id) := by
  cases passing <;> rfl

theorem read?_drawn (stem : Stem) (text : String) :
    read? (stem.drawn ++ text).toList = some (stem, text.toList) := by
  obtain ⟨bars, forked⟩ := stem
  induction bars with
  | nil => simp [drawn, lead, read?_connector]
  | cons passing bars ih =>
      have deeper : (⟨passing :: bars, forked⟩ : Stem) = behind passing ⟨bars, forked⟩ := rfl
      rw [deeper, drawn_behind, String.append_assoc, String.toList_append, read?_continuation, ih]
      rfl

theorem ofLine?_drawn (stem : Stem) (text : String) : ofLine? (stem.drawn ++ text) = some stem := by
  rw [ofLine?, read?_drawn]
  rfl

/-- How deep a line is, and what it says behind its stem. -/
def depthText? (line : String) : Option (Nat × String) :=
  (read? line.toList).map (Prod.map depth String.ofList)

theorem depthText?_drawn (stem : Stem) (text : String) :
    depthText? (stem.drawn ++ text) = some (stem.depth, text) := by
  rw [depthText?, read?_drawn, Option.map_some, Prod.map_apply, String.ofList_toList]

end Stem

namespace Entry

mutual

/-- An entry and the entries below it from top to bottom, each with the stem it is drawn behind. -/
def rows (bars : List Bool) (forked : Bool) : Entry → List (Stem × Entry)
  | ⟨label, time, count, comment, children⟩ =>
      (⟨bars, forked⟩, ⟨label, time, count, comment, children⟩) :: rowsEach (bars ++ [forked]) children

def rowsEach (bars : List Bool) : List Entry → List (Stem × Entry)
  | [] => []
  | entry :: rest => rows bars (!rest.isEmpty) entry ++ rowsEach bars rest

end

def rowText (comments : Bool) (row : Stem × Entry) : String :=
  row.1.drawn ++ row.2.describe comments

mutual

theorem branch_eq_rows (comments : Bool) (bars : List Bool) (forked : Bool) : (entry : Entry) →
    branch comments (Stem.lead bars) (!forked) entry = (rows bars forked entry).map (rowText comments)
  | ⟨label, time, count, comment, children⟩ => by
      rw [branch, rows, List.map_cons, ← Stem.lead_append_singleton, branches_eq_rows comments _ children]
      rfl

theorem branches_eq_rows (comments : Bool) (bars : List Bool) : (entries : List Entry) →
    branches comments (Stem.lead bars) entries = (rowsEach bars entries).map (rowText comments)
  | [] => rfl
  | entry :: rest => by
      have first := branch_eq_rows comments bars (!rest.isEmpty) entry
      rw [Bool.not_not] at first
      rw [branches, rowsEach, List.map_append, first, branches_eq_rows comments bars rest]

end

theorem branches_top (comments : Bool) (entries : List Entry) :
    branches comments "" entries = (rowsEach [] entries).map (rowText comments) :=
  branches_eq_rows comments [] entries

theorem lines_eq_rows (comments : Bool) (root : Entry) :
    root.lines comments = root.describe comments :: (rowsEach [] root.children).map (rowText comments) := by
  rw [lines, branches_top]

mutual

theorem rows_labelled (bars : List Bool) (forked : Bool) : (entry : Entry) →
    (rows bars forked entry).map (fun row => (row.1.depth, row.2)) =
      entry.labelled.map fun node => (bars.length + node.1.length, node.2)
  | ⟨label, time, count, comment, children⟩ => by
      have below := rowsEach_labelled (bars ++ [forked]) children
      rw [rows, labelled, List.map_cons, List.map_cons, below, List.map_map, labelledEach_eq_flatMap]
      simp [Stem.depth, Labelling.nodesOf, labelling, Nat.add_assoc, Nat.add_comm 1]

/-- An entry is drawn as deep as its path is long. -/
theorem rowsEach_labelled (bars : List Bool) : (entries : List Entry) →
    (rowsEach bars entries).map (fun row => (row.1.depth, row.2)) =
      (labelling.nodesOf entries).map fun node => (bars.length + node.1.length, node.2)
  | [] => rfl
  | entry :: rest => by
      rw [rowsEach, List.map_append, rows_labelled bars _ entry, rowsEach_labelled bars rest,
        labelling.nodesOf_cons, List.map_append]
      rfl

end

theorem lt_depth_of_mem_rowsEach {bars : List Bool} {entries : List Entry} {row : Stem × Entry}
    (member : row ∈ rowsEach bars entries) : bars.length < row.1.depth := by
  have labelled := List.mem_map_of_mem (f := fun row : Stem × Entry => (row.1.depth, row.2)) member
  rw [rowsEach_labelled] at labelled
  obtain ⟨node, inside, same⟩ := List.mem_map.mp labelled
  have depth : bars.length + node.1.length = row.1.depth := congrArg Prod.fst same
  have path : node.1 ≠ [] := by
    intro top
    exact labelling.nil_not_mem_pathsOf entries (top ▸ List.mem_map_of_mem inside)
  have long := List.length_pos_iff.mpr path
  omega

end Entry

end TimingBoard
