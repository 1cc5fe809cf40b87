import Mathlib.Data.List.Forall2
import TimingBoard.Proofs.Tree.Preorder
import TimingBoard.Tree.Outline

namespace TimingBoard

/-! Comments in outlines.

Leaving out comments commutes with everything that leads to an outline, so the outline that does not
show them is one of the tree without comments.  The outline that shows them has the same lines, each
with at most one comment of the tree at its end. -/

namespace TimingTree

mutual

def uncommented : TimingTree → TimingTree
  | ⟨name, label, time, _, children⟩ => ⟨name, label, time, none, uncommentedEach children⟩

def uncommentedEach : List TimingTree → List TimingTree
  | [] => []
  | tree :: rest => tree.uncommented :: uncommentedEach rest

end

end TimingTree

namespace Entry

open TimingTree (uncommentedEach)

mutual

def uncommented : Entry → Entry
  | ⟨label, time, count, _, children⟩ => ⟨label, time, count, none, uncommentedAll children⟩

def uncommentedAll : List Entry → List Entry
  | [] => []
  | entry :: rest => entry.uncommented :: uncommentedAll rest

end

@[simp]
theorem uncommented_label (entry : Entry) : entry.uncommented.label = entry.label := by
  cases entry
  rfl

theorem uncommentedAll_upsert {label : String} {change other : Entry → Entry} {fresh : Entry}
    (changes : ∀ entry, (change entry).uncommented = other entry.uncommented)
    (entries : List Entry) :
    uncommentedAll (upsert label change fresh entries) =
      upsert label other fresh.uncommented (uncommentedAll entries) := by
  induction entries with
  | nil => rfl
  | cons entry rest ih =>
      by_cases same : entry.label = label
      · simp only [upsert, uncommentedAll, uncommented_label, if_pos same, changes]
      · simp only [upsert, uncommentedAll, uncommented_label, if_neg same, ih]

mutual

theorem uncommented_ofTree : (tree : TimingTree) →
    (ofTree tree).uncommented = ofTree tree.uncommented
  | ⟨_, _, _, _, children⟩ => by
      rw [ofTree, uncommented, TimingTree.uncommented, ofTree, uncommentedAll_ofTrees children]

theorem uncommentedAll_ofTrees : (trees : List TimingTree) →
    uncommentedAll (ofTrees trees) = ofTrees (uncommentedEach trees)
  | [] => rfl
  | tree :: rest => by
      rw [ofTrees, uncommentedAll, uncommentedEach, ofTrees, uncommented_ofTree tree,
        uncommentedAll_ofTrees rest]

end

theorem uncommentedAll_eq_map (entries : List Entry) :
    uncommentedAll entries = entries.map uncommented := by
  induction entries with
  | nil => rfl
  | cons entry rest ih => rw [uncommentedAll, ih, List.map_cons]

/-- Which comment an entry keeps does not matter to anything else. -/
theorem uncommentedAll_mergeInto (merged : List Entry) (node : Entry) :
    uncommentedAll (mergeInto merged node) = mergeInto (uncommentedAll merged) node.uncommented := by
  rw [mergeInto, mergeInto, uncommented_label]
  refine uncommentedAll_upsert (fun existing => ?_) merged
  cases existing
  cases node
  simp only [uncommented, uncommentedAll_eq_map, List.map_append, Option.or_none]

theorem uncommentedAll_foldl_mergeInto (merged nodes : List Entry) :
    uncommentedAll (nodes.foldl mergeInto merged) =
      (uncommentedAll nodes).foldl mergeInto (uncommentedAll merged) := by
  induction nodes generalizing merged with
  | nil => rfl
  | cons node rest ih =>
      rw [List.foldl_cons, ih, uncommentedAll_mergeInto, uncommentedAll, List.foldl_cons]

theorem uncommentedAll_mergeSiblings (nodes : List Entry) :
    uncommentedAll (mergeSiblings nodes) = mergeSiblings (uncommentedAll nodes) := by
  induction nodes using mergeSiblings.induct with
  | case1 nodes ih =>
      have pass : (uncommentedAll nodes).foldl mergeInto [] =
          (nodes.foldl mergeInto []).map uncommented := by
        rw [← uncommentedAll_eq_map, uncommentedAll_foldl_mergeInto, uncommentedAll]
      rw [mergeSiblings_eq_map, mergeSiblings_eq_map, uncommentedAll_eq_map, pass, List.map_map,
        List.map_map]
      refine List.map_congr_left ?_
      intro node member
      have below := ih ⟨node, member⟩
      cases node
      simp only [Function.comp_apply, uncommented, below]

theorem uncommented_ofRoot (summarize : Bool) (tree : TimingTree) :
    (ofRoot summarize tree).uncommented = ofRoot summarize tree.uncommented := by
  obtain ⟨name, label, time, comment, children⟩ := tree
  cases summarize with
  | true =>
      have below := uncommentedAll_mergeSiblings (ofTrees children)
      rw [uncommentedAll_ofTrees] at below
      simpa [ofRoot, uncommented, TimingTree.uncommented] using below
  | false =>
      have below := uncommentedAll_ofTrees children
      simpa [ofRoot, uncommented, TimingTree.uncommented] using below

theorem isEmpty_uncommentedAll (entries : List Entry) :
    (uncommentedAll entries).isEmpty = entries.isEmpty := by
  cases entries <;> rfl

mutual

theorem branch_uncommented : (entry : Entry) → (lead : String) → (isLast : Bool) →
    branch false lead isLast entry.uncommented = branch false lead isLast entry
  | ⟨_, _, _, _, children⟩, lead, isLast => by
      rw [uncommented, branch, branch, branches_uncommentedAll children]
      rfl

theorem branches_uncommentedAll : (entries : List Entry) → (lead : String) →
    branches false lead (uncommentedAll entries) = branches false lead entries
  | [], _ => rfl
  | entry :: rest, lead => by
      rw [uncommentedAll, branches, branches, isEmpty_uncommentedAll, branch_uncommented entry,
        branches_uncommentedAll rest]

end

theorem lines_uncommented (entry : Entry) : entry.uncommented.lines false = entry.lines false := by
  cases entry
  rw [lines, lines, uncommented, branches_uncommentedAll]
  rfl

mutual

/-- All comments of an entry and of those below it are among what has been said. -/
def Quotes (said : String → Prop) : Entry → Prop
  | ⟨_, _, _, comment, children⟩ => (∀ text, comment = some text → said text) ∧ QuotesEach said children

def QuotesEach (said : String → Prop) : List Entry → Prop
  | [] => True
  | entry :: rest => entry.Quotes said ∧ QuotesEach said rest

end

def Known (said : String → Prop) (nodes : List TimingTree) : Prop :=
  ∀ node ∈ nodes, ∀ text, node.comment = some text → said text

variable {said : String → Prop}

theorem quotesEach_iff {entries : List Entry} :
    QuotesEach said entries ↔ ∀ entry ∈ entries, entry.Quotes said := by
  induction entries with
  | nil => exact ⟨fun _ => List.forall_mem_nil _, fun _ => trivial⟩
  | cons entry rest ih => rw [List.forall_mem_cons, QuotesEach, ih]

theorem QuotesEach.append {first rest : List Entry} (quotes : QuotesEach said first)
    (later : QuotesEach said rest) : QuotesEach said (first ++ rest) := by
  rw [quotesEach_iff] at quotes later ⊢
  exact List.forall_mem_append.mpr ⟨quotes, later⟩

theorem QuotesEach.upsert {label : String} {change : Entry → Entry} {fresh : Entry}
    {entries : List Entry} (quotes : QuotesEach said entries)
    (changes : ∀ entry : Entry, entry.Quotes said → (change entry).Quotes said)
    (first : fresh.Quotes said) : QuotesEach said (upsert label change fresh entries) := by
  induction entries with
  | nil => exact ⟨first, trivial⟩
  | cons entry rest ih =>
      rw [Entry.upsert]
      split
      · exact ⟨changes entry quotes.1, quotes.2⟩
      · exact ⟨quotes.1, ih quotes.2⟩

mutual

theorem quotes_ofTree : (tree : TimingTree) →
    Known said tree.preorder → (ofTree tree).Quotes said
  | ⟨_, _, _, _, children⟩, known => by
      obtain ⟨own, below⟩ := List.forall_mem_cons.mp known
      exact ⟨own, quotesEach_ofTrees children below⟩

theorem quotesEach_ofTrees : (trees : List TimingTree) →
    Known said (TimingTree.preorderEach trees) → QuotesEach said (ofTrees trees)
  | [], _ => trivial
  | tree :: rest, known => by
      obtain ⟨first, later⟩ := List.forall_mem_append.mp known
      exact ⟨quotes_ofTree tree first, quotesEach_ofTrees rest later⟩

end

/-- A new entry has the comment of the node; one that is there keeps its own, if it has one. -/
theorem QuotesEach.mergeInto {merged : List Entry} {node : Entry} (quotes : QuotesEach said merged)
    (quoted : node.Quotes said) : QuotesEach said (mergeInto merged node) := by
  rw [Entry.mergeInto]
  refine quotes.upsert ?_ quoted
  obtain ⟨_, _, _, comment, children⟩ := node
  rintro ⟨_, _, _, kept, inner⟩ ⟨before, below⟩
  refine ⟨?_, QuotesEach.append below quoted.2⟩
  intro text found
  rcases Option.or_eq_some_iff.mp found with earlier | ⟨-, new⟩
  · exact before text earlier
  · exact quoted.1 text new

theorem QuotesEach.foldl_mergeInto {merged nodes : List Entry} (quotes : QuotesEach said merged)
    (quoted : QuotesEach said nodes) : QuotesEach said (nodes.foldl Entry.mergeInto merged) := by
  induction nodes generalizing merged with
  | nil => exact quotes
  | cons node rest ih => exact ih (quotes.mergeInto quoted.1) quoted.2

theorem QuotesEach.mergeSiblings {nodes : List Entry} (quotes : QuotesEach said nodes) :
    QuotesEach said (mergeSiblings nodes) := by
  induction nodes using Entry.mergeSiblings.induct with
  | case1 nodes ih =>
      have pass : QuotesEach said (nodes.foldl Entry.mergeInto []) :=
        QuotesEach.foldl_mergeInto trivial quotes
      rw [mergeSiblings_eq_map, quotesEach_iff, List.forall_mem_map]
      intro node member
      have quoted := quotesEach_iff.mp pass node member
      have below := ih ⟨node, member⟩
      cases node
      exact ⟨quoted.1, below quoted.2⟩

theorem quotes_ofRoot (summarize : Bool) (tree : TimingTree) :
    (ofRoot summarize tree).Quotes fun text => ∃ node ∈ tree.preorder, node.comment = some text := by
  obtain ⟨name, label, time, comment, children⟩ := tree
  refine ⟨fun text own => ⟨_, List.mem_cons_self, own⟩, ?_⟩
  have below : Known
      (fun text => ∃ node ∈ TimingTree.preorder ⟨name, label, time, comment, children⟩,
        node.comment = some text)
      (TimingTree.preorderEach children) :=
    fun node member text own => ⟨node, List.mem_cons_of_mem _ member, own⟩
  cases summarize with
  | true => exact (quotesEach_ofTrees children below).mergeSiblings
  | false => exact quotesEach_ofTrees children below

/-- `shown` is the line `plain`, or that line and one of the comments. -/
def Extends (said : String → Prop) (shown plain : String) : Prop :=
  shown = plain ∨ ∃ text, said text ∧ shown = plain ++ ": " ++ text

theorem Quotes.describe {entry : Entry} (quotes : entry.Quotes said) (lead : String) :
    Extends said (lead ++ entry.describe true) (lead ++ entry.describe false) := by
  obtain ⟨label, time, count, comment, children⟩ := entry
  cases comment with
  | none => exact .inl rfl
  | some text =>
      refine .inr ⟨text, quotes.1 text rfl, ?_⟩
      simp [Entry.describe, commentSuffix, String.append_assoc]

mutual

theorem Quotes.branch : (entry : Entry) → (lead : String) → (isLast : Bool) → entry.Quotes said →
    List.Forall₂ (Extends said) (branch true lead isLast entry) (branch false lead isLast entry)
  | ⟨_, _, _, _, children⟩, lead, isLast, quotes => by
      rw [Entry.branch, Entry.branch]
      exact .cons (quotes.describe _) (QuotesEach.branches children _ quotes.2)

theorem QuotesEach.branches : (entries : List Entry) → (lead : String) → QuotesEach said entries →
    List.Forall₂ (Extends said) (branches true lead entries) (branches false lead entries)
  | [], _, _ => .nil
  | entry :: rest, lead, quotes => by
      rw [Entry.branches, Entry.branches]
      exact List.rel_append (Quotes.branch entry lead _ quotes.1)
        (QuotesEach.branches rest lead quotes.2)

end

theorem Quotes.lines {entry : Entry} (quotes : entry.Quotes said) :
    List.Forall₂ (Extends said) (entry.lines true) (entry.lines false) := by
  obtain ⟨label, time, count, comment, children⟩ := entry
  have first := Quotes.describe quotes ""
  rw [String.empty_append, String.empty_append] at first
  exact .cons first (QuotesEach.branches children "" quotes.2)

end Entry

namespace TimingTree

theorem lines_uncommented (tree : TimingTree) (summarize : Bool) :
    tree.uncommented.lines false summarize = tree.lines false summarize := by
  rw [lines, lines, ← Entry.uncommented_ofRoot, Entry.lines_uncommented]

theorem text_uncommented (tree : TimingTree) (summarize : Bool) :
    tree.uncommented.text false summarize = tree.text false summarize := by
  rw [text, text, lines_uncommented]

end TimingTree

end TimingBoard
