import TimingBoard.Proofs.Aggregate.Producers
import TimingBoard.Proofs.Message.Acceptance

namespace TimingBoard

/-! What an aggregate holds when it is fed with lines.

Whatever tree a line becomes is in canonical form, and carries its producer's name as the label of its
root.  Latest trees and worst cases are such trees; of a total only the times are its own. -/

theorem Message.toRaw_root {message : Message} {raw : TimingTree} (built : message.toRaw = .ok raw) :
    raw.label = raw.name := by
  simp only [toRaw] at built
  split at built
  case h_1 => cases built
  case h_2 =>
    split at built
    case h_1 => cases built
    case h_2 =>
      cases built
      cases message.nodes.length <;> rfl

/-- A tree of the producer as lines give it. -/
def TimingTree.Reported (producer : String) (tree : TimingTree) : Prop :=
  tree.Canonical producer ∧ tree.label = producer

theorem Message.toTree_reported {message : Message} {tree : TimingTree}
    (taken : message.toTree = .ok tree) : tree.Reported tree.name := by
  obtain ⟨raw, built, checked⟩ := toTree_eq_ok_iff.mp taken
  obtain ⟨measured, rfl⟩ := TimingTree.settle_eq_ok_iff.mp checked
  have canonical : (raw.settled raw.name).Canonical raw.name := TimingTree.settled_canonical measured
  have label : raw.label = raw.name := toRaw_root built
  cases raw
  exact ⟨canonical, label⟩

theorem readLine_reported {line : String} {tree : TimingTree}
    (taken : (readLine line).result = .ok tree) : tree.Reported tree.name := by
  obtain ⟨message, -, rebuilt⟩ := readLine_eq_ok_iff.mp taken
  exact Message.toTree_reported rebuilt

namespace Aggregate

/-- Takes in the tree of a line, if the line becomes one. -/
def takeLine (aggregate : Aggregate) (time : Int) (line : String) : Aggregate :=
  match (readLine line).result with
  | .ok tree => aggregate.apply time tree
  | .error _ => aggregate

/-- Takes in lines in their order, each with the time at which it is read. -/
def takeLines (aggregate : Aggregate) (lines : List (Int × String)) : Aggregate :=
  lines.foldl (fun aggregate (time, line) => aggregate.takeLine time line) aggregate

def arrivalOf? (time : Int) (line : String) : Option Arrival :=
  (readLine line).result.toOption.map fun tree => ⟨time, tree⟩

def arrivalsOf (lines : List (Int × String)) : List Arrival :=
  lines.filterMap fun (time, line) => arrivalOf? time line

theorem takeLines_eq (aggregate : Aggregate) (lines : List (Int × String)) :
    aggregate.takeLines lines = aggregate.takeAll (arrivalsOf lines) := by
  induction lines generalizing aggregate with
  | nil => rfl
  | cons first rest ih =>
      obtain ⟨time, line⟩ := first
      have first : (aggregate.takeLine time line).takeAll (arrivalsOf rest) =
          aggregate.takeAll (arrivalsOf ((time, line) :: rest)) := by
        simp only [takeLine, arrivalsOf, List.filterMap_cons, arrivalOf?]
        cases (readLine line).result <;> rfl
      exact (ih _).trans first

theorem arrivalOf?_eq_some_iff {time : Int} {line : String} {arrival : Arrival} :
    arrivalOf? time line = some arrival ↔
      ∃ tree, (readLine line).result = .ok tree ∧ ⟨time, tree⟩ = arrival := by
  rw [arrivalOf?]
  cases (readLine line).result <;> simp [Except.toOption]

theorem reported_of_mem_arrivalsOf {lines : List (Int × String)} {arrival : Arrival}
    (member : arrival ∈ arrivalsOf lines) : arrival.tree.Reported arrival.tree.name := by
  obtain ⟨⟨time, line⟩, -, taken⟩ := List.mem_filterMap.mp member
  obtain ⟨tree, read, rfl⟩ := arrivalOf?_eq_some_iff.mp taken
  exact readLine_reported read

/-- After any lines, every latest tree and every worst case is in canonical form under the name of its
producer, which also labels its root, so that checking it again changes nothing.  The nodes of totals
have that name and no empty comment. -/
theorem takeLines_canonical (tracksTotal : Bool) (lines : List (Int × String)) :
    let state := (new tracksTotal).takeLines lines
    (∀ roster ∈ [state.latest, state.worst], ∀ name tree, roster.get? name = some tree →
      tree.Canonical name ∧ tree.label = name ∧ TimingTree.ofSnapshot tree = .ok tree) ∧
      ∀ totals, state.total = some totals → ∀ name tree, totals.get? name = some tree →
        ∀ node ∈ tree.preorder, node.name = name ∧ node.comment ≠ some "" := by
  intro state
  have taken : state = (new tracksTotal).takeAll (arrivalsOf lines) := takeLines_eq _ lines
  have reports : ∀ arrival ∈ arrivalsOf lines, arrival.tree.Reported arrival.tree.name :=
    fun arrival => reported_of_mem_arrivalsOf
  have settled {name : String} {tree : TimingTree} (reported : tree.Reported name) :
      tree.Canonical name ∧ tree.label = name ∧ TimingTree.ofSnapshot tree = .ok tree :=
    ⟨reported.1, reported.2, TimingTree.ofSnapshot_of_canonical reported.1⟩
  rw [taken]
  refine ⟨?_, ?_⟩
  · intro roster among name tree found
    rcases List.mem_cons.mp among with rfl | among
    · rw [latest_takeAll] at found
      exact settled (updateLatest_updatesOwn.holds_rosterOf (fun name tree => tree.Reported name)
        latest_keeps reports found)
    · obtain rfl := List.mem_singleton.mp among
      rw [worst_takeAll] at found
      exact settled (updateWorst_updatesOwn.holds_rosterOf (fun name tree => tree.Reported name)
        worse_keeps reports found)
  · intro totals tracked name tree found
    rw [total_takeAll] at tracked
    obtain ⟨-, same⟩ := Option.ite_none_right_eq_some.mp tracked
    cases same
    refine updateTotal_updatesOwn.holds_rosterOf (fun name tree => tree.Attributed name) ?_ ?_ found
    · exact grown_keeps fun _ _ other attributed => attributed.accumulate other
    · exact fun arrival member => (reports arrival member).1.attributed

end Aggregate

end TimingBoard
