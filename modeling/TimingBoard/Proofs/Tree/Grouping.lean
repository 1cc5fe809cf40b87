import Mathlib.Data.List.Induction
import Mathlib.Data.List.Nodup
import TimingBoard.Tree.Outline

namespace TimingBoard

/-! One level of a summary.

A pass over siblings leaves one entry for each of their labels, in the order in which the labels
first occur, with the children of all siblings that have the label below it.  Merging gives the same
entries with those children merged. -/

theorem eraseDups_append_singleton {α : Type} [BEq α] [LawfulBEq α] (values : List α) (value : α) :
    (values ++ [value]).eraseDups =
      if value ∈ values then values.eraseDups else values.eraseDups ++ [value] := by
  rw [List.eraseDups_append]
  by_cases seen : value ∈ values <;> simp [List.removeAll, seen, List.eraseDups_cons]

theorem nodup_eraseDups {α : Type} [BEq α] [LawfulBEq α] (values : List α) : values.eraseDups.Nodup := by
  induction values using List.reverseRecOn with
  | nil => simp
  | append_singleton before value ih =>
      rw [eraseDups_append_singleton]
      by_cases seen : value ∈ before
      · simpa [seen] using ih
      · simpa [seen] using ih.concat (by simpa using seen)

theorem eraseDups_map {α β : Type} [BEq α] [LawfulBEq α] [BEq β] [LawfulBEq β] {f : α → β}
    (injective : Function.Injective f) (values : List α) :
    (values.map f).eraseDups = values.eraseDups.map f := by
  induction values using List.reverseRecOn with
  | nil => simp
  | append_singleton before value ih =>
      have same : f value ∈ before.map f ↔ value ∈ before := List.mem_map_of_injective injective
      rw [List.map_append, List.map_singleton, eraseDups_append_singleton, eraseDups_append_singleton, ih]
      by_cases seen : value ∈ before <;> simp [same, seen]

namespace Entry

/-- The sum of the times from the first one on. -/
def timeOf : List TimingTree → Binary64
  | [] => .zero
  | first :: rest => rest.foldl (fun sum tree => sum + tree.time) first.time

@[simp]
theorem timeOf_singleton (tree : TimingTree) : timeOf [tree] = tree.time :=
  rfl

theorem timeOf_append_singleton {trees : List TimingTree} (inhabited : trees ≠ []) (tree : TimingTree) :
    timeOf (trees ++ [tree]) = timeOf trees + tree.time := by
  cases trees with
  | nil => contradiction
  | cons first rest => simp [timeOf]

/-- What a pass over siblings makes of those with one label. -/
def gather (label : String) (trees : List TimingTree) : Entry :=
  { label
    time := timeOf trees
    count := trees.length
    comment := trees.findSome? (·.comment)
    children := ofTrees (trees.flatMap (·.children)) }

/-- The entry of all trees with one label. -/
def group (label : String) (trees : List TimingTree) : Entry :=
  { gather label trees with children := mergeSiblings (ofTrees (trees.flatMap (·.children))) }

def withLabel (label : String) (trees : List TimingTree) : List TimingTree :=
  trees.filter fun tree => tree.label = label

def gathered (trees : List TimingTree) : List Entry :=
  (trees.map (·.label)).eraseDups.map fun label => gather label (withLabel label trees)

def groups (trees : List TimingTree) : List Entry :=
  (trees.map (·.label)).eraseDups.map fun label => group label (withLabel label trees)

theorem ofTrees_append (first rest : List TimingTree) :
    ofTrees (first ++ rest) = ofTrees first ++ ofTrees rest := by
  induction first with
  | nil => rfl
  | cons tree more ih => rw [List.cons_append, ofTrees, ofTrees, ih, List.cons_append]

theorem ofTree_eq_gather (tree : TimingTree) : ofTree tree = gather tree.label [tree] := by
  obtain ⟨name, label, time, comment, children⟩ := tree
  simp [ofTree, gather]

theorem upsert_map_of_not_mem {label : String} {change : Entry → Entry} {fresh : Entry}
    {entryOf : String → Entry} (labelled : ∀ label, (entryOf label).label = label)
    {labels : List String} (unseen : label ∉ labels) :
    upsert label change fresh (labels.map entryOf) = labels.map entryOf ++ [fresh] := by
  induction labels with
  | nil => rfl
  | cons first rest ih =>
      obtain ⟨apart, later⟩ := not_or.mp (mt List.mem_cons.mpr unseen)
      simp [upsert, labelled, Ne.symm apart, ih later]

theorem upsert_map_of_mem {label : String} {change : Entry → Entry} {fresh : Entry}
    {entryOf : String → Entry} (labelled : ∀ label, (entryOf label).label = label)
    {labels : List String} (distinct : labels.Nodup) (seen : label ∈ labels) :
    upsert label change fresh (labels.map entryOf) =
      labels.map fun other => if other = label then change (entryOf other) else entryOf other := by
  induction labels with
  | nil => contradiction
  | cons first rest ih =>
      obtain ⟨absent, restDistinct⟩ := List.nodup_cons.mp distinct
      by_cases same : first = label
      · subst same
        have others : rest.map entryOf =
            rest.map fun other => if other = first then change (entryOf other) else entryOf other := by
          refine List.map_congr_left ?_
          intro other member
          have apart : other ≠ first := fun equal => absent (equal ▸ member)
          simp [apart]
        simp only [List.map_cons, upsert, labelled, if_true, ← others]
      · have later : label ∈ rest := by simpa [Ne.symm same] using seen
        simp [upsert, labelled, same, ih restDistinct later]

theorem withLabel_eq_nil {label : String} {trees : List TimingTree}
    (unseen : label ∉ trees.map (·.label)) : withLabel label trees = [] := by
  rw [withLabel, List.filter_eq_nil_iff]
  intro tree member same
  exact unseen (List.mem_map.mpr ⟨tree, member, of_decide_eq_true same⟩)

theorem withLabel_ne_nil {label : String} {trees : List TimingTree}
    (seen : label ∈ trees.map (·.label)) : withLabel label trees ≠ [] := by
  obtain ⟨tree, member, same⟩ := List.mem_map.mp seen
  exact List.ne_nil_of_mem (List.mem_filter.mpr ⟨member, decide_eq_true same⟩)

theorem withLabel_append_singleton (label : String) (trees : List TimingTree) (tree : TimingTree) :
    withLabel label (trees ++ [tree]) =
      withLabel label trees ++ if tree.label = label then [tree] else [] := by
  by_cases same : tree.label = label <;> simp [withLabel, same]

theorem mergeInto_gathered (trees : List TimingTree) (tree : TimingTree) :
    mergeInto (gathered trees) (ofTree tree) = gathered (trees ++ [tree]) := by
  rw [mergeInto, ofTree_eq_gather, gathered, gathered, List.map_append, List.map_singleton,
    eraseDups_append_singleton]
  by_cases seen : tree.label ∈ trees.map (·.label)
  · -- A known label changes its own entry only, and the new children come after those before.
    have known : (gather tree.label [tree]).label ∈ (trees.map (·.label)).eraseDups :=
      List.mem_eraseDups.mpr seen
    rw [if_pos seen, upsert_map_of_mem (fun _ => rfl) (nodup_eraseDups _) known]
    refine List.map_congr_left ?_
    intro other _
    rw [withLabel_append_singleton]
    by_cases same : other = tree.label
    · subst same
      have held := withLabel_ne_nil seen
      simp [gather, timeOf_append_singleton held, ofTrees_append, List.findSome?_append]
    · simp [gather, same, Ne.symm same]
  · -- A new label makes an entry for one tree at the end.
    have unknown : (gather tree.label [tree]).label ∉ (trees.map (·.label)).eraseDups :=
      mt List.mem_eraseDups.mp seen
    rw [if_neg seen, upsert_map_of_not_mem (fun _ => rfl) unknown, List.map_append,
      List.map_singleton, withLabel_append_singleton, withLabel_eq_nil seen, if_pos rfl,
      List.nil_append]
    congr 1
    refine List.map_congr_left ?_
    intro other member
    have apart : tree.label ≠ other := by
      rintro rfl
      exact seen (List.mem_eraseDups.mp member)
    rw [withLabel_append_singleton, if_neg apart, List.append_nil]

theorem foldl_mergeInto_ofTrees (trees : List TimingTree) :
    (ofTrees trees).foldl mergeInto [] = gathered trees := by
  induction trees using List.reverseRecOn with
  | nil => rfl
  | append_singleton before tree ih =>
      rw [ofTrees_append, List.foldl_append, ih, ← mergeInto_gathered before tree]
      rfl

theorem mergeSiblings_ofTrees (trees : List TimingTree) :
    mergeSiblings (ofTrees trees) = groups trees := by
  rw [mergeSiblings_eq_map, foldl_mergeInto_ofTrees, gathered, List.map_map]
  rfl

theorem filter_groups (label : String) (trees : List TimingTree) :
    (groups trees).filter (fun entry => entry.label = label) =
      if withLabel label trees = [] then [] else [group label (withLabel label trees)] := by
  have labels : (groups trees).filter (fun entry => entry.label = label) =
      (((trees.map (·.label)).eraseDups.filter (· = label)).map fun label =>
        group label (withLabel label trees)) := by
    rw [groups, List.filter_map]
    rfl
  rw [labels, List.filter_eq]
  by_cases seen : label ∈ trees.map (·.label)
  · have once := List.count_eq_one_of_mem (nodup_eraseDups _) (List.mem_eraseDups.mpr seen)
    rw [once, if_neg (withLabel_ne_nil seen)]
    rfl
  · have never := List.count_eq_zero_of_not_mem (mt List.mem_eraseDups.mp seen)
    rw [never, if_pos (withLabel_eq_nil seen)]
    rfl

end Entry

end TimingBoard
