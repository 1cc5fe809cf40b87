import Mathlib.Data.List.Sort
import TimingBoard.Proofs.Aggregate.Arrivals

namespace TimingBoard

/-! What is kept of a producer depends on its own trees only.

Taking in a tree changes each of the three rosters on its own, and in each of them only what is held
for the producer of the tree.  A whole run is therefore, roster by roster and name by name, a fold
over the trees of that name. -/

theorem Roster.eq_of_get? {α : Type} {first second : Roster α}
    (same : ∀ name, first.get? name = second.get? name) : first = second := by
  have members : ∀ entry, entry ∈ first.entries ↔ entry ∈ second.entries := by
    intro entry
    rw [← first.get?_eq_some_iff, same, second.get?_eq_some_iff]
  let below : String × α → String × α → Prop := fun one other => one.1 < other.1
  have irreflexive : Std.Irrefl below := ⟨fun entry => String.lt_irrefl entry.1⟩
  have antisymmetric : Std.Antisymm below :=
    ⟨fun one other ascends descends => absurd descends (String.lt_asymm ascends)⟩
  have entries : first.entries = second.entries :=
    List.Pairwise.eq_of_mem_iff (r := below) first.ordered second.ordered members
  cases first
  cases second
  cases entries
  rfl

namespace Aggregate

variable {update : Roster TimingTree → TimingTree → Roster TimingTree}
  {next : Option TimingTree → TimingTree → TimingTree} {holds : String → TimingTree → Prop}
  {name : String} {held : Option TimingTree} {trees : List TimingTree} {tree : TimingTree}
  {arrivals others : List Arrival}

/-- The trees of a producer, in the order in which they are taken in. -/
def reportsOf (name : String) (arrivals : List Arrival) : List TimingTree :=
  (arrivals.map (·.tree)).filter fun tree => tree.name = name

theorem mem_reportsOf :
    tree ∈ reportsOf name arrivals ↔ (∃ arrival ∈ arrivals, arrival.tree = tree) ∧ tree.name = name := by
  simp [reportsOf]

theorem reportsOf_ne_nil_iff :
    reportsOf name arrivals ≠ [] ↔ ∃ arrival ∈ arrivals, arrival.tree.name = name := by
  constructor
  · intro reported
    obtain ⟨tree, member⟩ := List.exists_mem_of_ne_nil _ reported
    obtain ⟨⟨arrival, taken, rfl⟩, own⟩ := mem_reportsOf.mp member
    exact ⟨arrival, taken, own⟩
  · rintro ⟨arrival, taken, own⟩
    exact List.ne_nil_of_mem (mem_reportsOf.mpr ⟨⟨arrival, taken, rfl⟩, own⟩)

/-- What a run of trees makes of what is held for one name. -/
def heldAfter (next : Option TimingTree → TimingTree → TimingTree) (held : Option TimingTree)
    (trees : List TimingTree) : Option TimingTree :=
  trees.foldl (fun held tree => some (next held tree)) held

theorem heldAfter_isSome (trees : List TimingTree) :
    (heldAfter next none trees).isSome = true ↔ trees ≠ [] := by
  cases trees using List.reverseRecOn with
  | nil => simp [heldAfter]
  | append_singleton before last => simp [heldAfter]

/-- What holds of the trees of a producer goes on to hold of what is held for it. -/
def Keeps (holds : String → TimingTree → Prop)
    (next : Option TimingTree → TimingTree → TimingTree) : Prop :=
  ∀ name held tree, holds name tree → (∀ old, held = some old → holds name old) →
    holds name (next held tree)

theorem Keeps.heldAfter (keeps : Keeps holds next) (before : ∀ old, held = some old → holds name old)
    (reports : ∀ tree ∈ trees, holds name tree) (found : heldAfter next held trees = some tree) :
    holds name tree := by
  induction trees generalizing held with
  | nil => exact before tree found
  | cons report rest ih =>
      have kept : holds name (next held report) := keeps name held report (reports report (by simp)) before
      refine ih ?_ (fun other member => reports other (List.mem_cons_of_mem _ member)) found
      intro old same
      exact Option.some.inj same ▸ kept

/-- A tree changes only what is held for its producer, and that by what was held there. -/
def UpdatesOwn (update : Roster TimingTree → TimingTree → Roster TimingTree)
    (next : Option TimingTree → TimingTree → TimingTree) : Prop :=
  ∀ roster tree name, (update roster tree).get? name =
    if tree.name = name then some (next (roster.get? name) tree) else roster.get? name

/-- A roster that starts empty and is updated by each tree in turn. -/
def rosterOf (update : Roster TimingTree → TimingTree → Roster TimingTree)
    (arrivals : List Arrival) : Roster TimingTree :=
  (arrivals.map (·.tree)).foldl update .empty

theorem rosterOf_append_singleton (arrivals : List Arrival) (last : Arrival) :
    rosterOf update (arrivals ++ [last]) = update (rosterOf update arrivals) last.tree := by
  simp [rosterOf]

theorem UpdatesOwn.get?_foldl (own : UpdatesOwn update next) (roster : Roster TimingTree)
    (trees : List TimingTree) (name : String) :
    (trees.foldl update roster).get? name =
      heldAfter next (roster.get? name) (trees.filter fun tree => tree.name = name) := by
  induction trees generalizing roster with
  | nil => rfl
  | cons tree rest ih =>
      rw [List.foldl_cons, ih, own]
      by_cases same : tree.name = name <;> simp [same, heldAfter]

theorem UpdatesOwn.get?_rosterOf (own : UpdatesOwn update next) (name : String)
    (arrivals : List Arrival) :
    (rosterOf update arrivals).get? name = heldAfter next none (reportsOf name arrivals) :=
  own.get?_foldl .empty _ name

theorem UpdatesOwn.mem_names_rosterOf (own : UpdatesOwn update next) (name : String)
    (arrivals : List Arrival) :
    name ∈ (rosterOf update arrivals).names ↔ ∃ arrival ∈ arrivals, arrival.tree.name = name := by
  rw [Roster.mem_names_iff, own.get?_rosterOf, heldAfter_isSome, reportsOf_ne_nil_iff]

theorem UpdatesOwn.holds_rosterOf (own : UpdatesOwn update next)
    (holds : String → TimingTree → Prop) (keeps : Keeps holds next)
    (reports : ∀ arrival ∈ arrivals, holds arrival.tree.name arrival.tree)
    (found : (rosterOf update arrivals).get? name = some tree) : holds name tree := by
  rw [own.get?_rosterOf] at found
  refine keeps.heldAfter ?_ ?_ found
  · exact nofun
  · intro report member
    obtain ⟨⟨arrival, taken, rfl⟩, rfl⟩ := mem_reportsOf.mp member
    exact reports arrival taken

theorem UpdatesOwn.name_rosterOf (own : UpdatesOwn update next)
    (keeps : Keeps (fun name tree => tree.name = name) next)
    (found : (rosterOf update arrivals).get? name = some tree) : tree.name = name :=
  own.holds_rosterOf (fun name tree => tree.name = name) keeps (fun _ _ => rfl) found

theorem UpdatesOwn.rosterOf_eq (own : UpdatesOwn update next)
    (same : ∀ name, reportsOf name arrivals = reportsOf name others) :
    rosterOf update arrivals = rosterOf update others := by
  apply Roster.eq_of_get?
  intro name
  rw [own.get?_rosterOf, own.get?_rosterOf, same]

/-- The latest tree takes the place of the one before. -/
def updateLatest (latest : Roster TimingTree) (tree : TimingTree) : Roster TimingTree :=
  latest.insert tree.name tree

theorem updateLatest_updatesOwn : UpdatesOwn updateLatest (fun _ tree => tree) :=
  fun roster tree name => roster.get?_insert tree.name name tree

theorem latest_keeps : Keeps holds (fun _ tree => tree) := fun _ _ _ report _ => report

theorem heldAfter_latest (trees : List TimingTree) :
    heldAfter (fun _ tree => tree) none trees = trees.getLast? := by
  cases trees using List.reverseRecOn with
  | nil => rfl
  | append_singleton before last => simp [heldAfter]

theorem updateWorst_updatesOwn : UpdatesOwn updateWorst worse := get?_updateWorst

theorem worse_keeps : Keeps holds worse := by
  intro name held tree report before
  cases held with
  | none => exact report
  | some longest =>
      simp only [worse]
      split
      · exact report
      · exact before longest rfl

/-- The total of a producer after one more of its trees. -/
def grown (total : Option TimingTree) (tree : TimingTree) : TimingTree :=
  total.elim tree (·.accumulate tree)

theorem updateTotal_updatesOwn : UpdatesOwn updateTotal grown := by
  intro total tree name
  unfold updateTotal
  by_cases own : tree.name = name
  · subst own
    rw [if_pos rfl]
    cases held : total.get? tree.name with
    | none => simp [grown, Roster.get?_insert]
    | some sum => simp [grown, Roster.get?_insert]
  · rw [if_neg own]
    cases total.get? tree.name <;> simp [Roster.get?_insert, own]

/-- Of what holds of the trees, totals keep what sums have in common with their first term. -/
theorem grown_keeps
    (sums : ∀ name sum tree, holds name sum → holds name (TimingTree.accumulate sum tree)) :
    Keeps holds grown := by
  intro name held tree report before
  cases held with
  | none => exact report
  | some sum => exact sums name sum tree (before sum rfl)

theorem latest_takeAll (tracksTotal : Bool) (arrivals : List Arrival) :
    ((new tracksTotal).takeAll arrivals).latest = rosterOf updateLatest arrivals := by
  induction arrivals using List.reverseRecOn with
  | nil => rfl
  | append_singleton earlier last ih =>
      rw [takeAll_append_singleton, rosterOf_append_singleton, ← ih]
      rfl

theorem worst_takeAll (tracksTotal : Bool) (arrivals : List Arrival) :
    ((new tracksTotal).takeAll arrivals).worst = rosterOf updateWorst arrivals := by
  induction arrivals using List.reverseRecOn with
  | nil => rfl
  | append_singleton earlier last ih =>
      rw [takeAll_append_singleton, rosterOf_append_singleton, ← ih]
      rfl

theorem total_takeAll (tracksTotal : Bool) (arrivals : List Arrival) :
    ((new tracksTotal).takeAll arrivals).total =
      if tracksTotal then some (rosterOf updateTotal arrivals) else none := by
  induction arrivals using List.reverseRecOn with
  | nil => rfl
  | append_singleton earlier last ih =>
      rw [takeAll_append_singleton, rosterOf_append_singleton, apply, ih]
      cases tracksTotal <;> rfl

theorem count_takeAll (tracksTotal : Bool) (arrivals : List Arrival) :
    ((new tracksTotal).takeAll arrivals).count = arrivals.length := by
  induction arrivals using List.reverseRecOn with
  | nil => rfl
  | append_singleton earlier last ih =>
      rw [takeAll_append_singleton, List.length_append, ← ih]
      rfl

theorem stamp_takeAll (tracksTotal : Bool) (arrivals : List Arrival) :
    ((new tracksTotal).takeAll arrivals).stamp = arrivals.getLast?.map (·.time) := by
  cases arrivals using List.reverseRecOn with
  | nil => rfl
  | append_singleton earlier last => simp [takeAll_append_singleton, apply]

/-- Some tree has come iff some worst case is held. -/
theorem isEmpty_takeAll (tracksTotal : Bool) (arrivals : List Arrival) :
    ((new tracksTotal).takeAll arrivals).isEmpty = false ↔
      0 < ((new tracksTotal).takeAll arrivals).count := by
  have held (name : String) :
      name ∈ ((new tracksTotal).takeAll arrivals).worst.names ↔
        ∃ arrival ∈ arrivals, arrival.tree.name = name := by
    rw [worst_takeAll, updateWorst_updatesOwn.mem_names_rosterOf]
  rw [count_takeAll, isEmpty, Roster.isEmpty, List.isEmpty_eq_false_iff_exists_mem,
    List.length_pos_iff_exists_mem]
  constructor
  · rintro ⟨entry, member⟩
    obtain ⟨arrival, taken, -⟩ := (held entry.1).mp (List.mem_map_of_mem member)
    exact ⟨arrival, taken⟩
  · rintro ⟨arrival, taken⟩
    obtain ⟨entry, member, -⟩ := List.mem_map.mp ((held arrival.tree.name).mpr ⟨arrival, taken, rfl⟩)
    exact ⟨entry, member⟩

end Aggregate

end TimingBoard
