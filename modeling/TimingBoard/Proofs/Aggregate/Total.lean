import TimingBoard.Proofs.Aggregate.Producers
import TimingBoard.Proofs.Tree.Accumulation

namespace TimingBoard.Aggregate

/-! Totals: the first tree of a producer, with the times of its later ones added path by path. -/

variable {name : String} {first : TimingTree} {later : List TimingTree}

theorem heldAfter_grown (sum : TimingTree) (trees : List TimingTree) :
    heldAfter grown (some sum) trees = some (trees.foldl TimingTree.accumulate sum) := by
  induction trees generalizing sum with
  | nil => rfl
  | cons tree rest ih => exact ih (sum.accumulate tree)

theorem takeAll_total_get? {arrivals : List Arrival}
    (reports : reportsOf name arrivals = first :: later) :
    ∃ totals, ((new true).takeAll arrivals).total = some totals ∧
      totals.get? name = some (later.foldl TimingTree.accumulate first) := by
  refine ⟨rosterOf updateTotal arrivals, total_takeAll true arrivals, ?_⟩
  rw [updateTotal_updatesOwn.get?_rosterOf, reports]
  exact heldAfter_grown first later

theorem reportsOf_append_singleton (arrivals : List Arrival) {last : Arrival}
    (own : last.tree.name = name) :
    reportsOf name (arrivals ++ [last]) = reportsOf name arrivals ++ [last.tree] := by
  simp [reportsOf, own]

/-- The total of a producer has the form of the first of its trees, and at each path of that tree the
sum of the times which its trees have there.  A tree without the path leaves what is there as it is. -/
theorem takeAll_total_nodewiseSum {arrivals : List Arrival}
    (reports : reportsOf name arrivals = first :: later) :
    ∃ totals sum, ((new true).takeAll arrivals).total = some totals ∧
      totals.get? name = some sum ∧ TimingTree.NodewiseSum first later sum ∧
      ∀ last : Arrival, last.tree.name = name →
        ∃ totals' sum', ((new true).takeAll (arrivals ++ [last])).total = some totals' ∧
          totals'.get? name = some sum' ∧
          ∀ path, last.tree.subtree? path = none → sum'.subtree? path = sum.subtree? path := by
  obtain ⟨totals, tracked, held⟩ := takeAll_total_get? reports
  refine ⟨totals, _, tracked, held, .foldl_accumulate first later, ?_⟩
  intro last own
  have longer : reportsOf name (arrivals ++ [last]) = first :: (later ++ [last.tree]) := by
    rw [reportsOf_append_singleton arrivals own, reports, List.cons_append]
  obtain ⟨totals', tracked', held'⟩ := takeAll_total_get? longer
  refine ⟨totals', _, tracked', held', ?_⟩
  intro path lacking
  rw [List.foldl_append]
  exact TimingTree.subtree?_accumulate_of_none _ lacking

/-- The second tree of `a` has one child less and one grandchild more than the first. -/
theorem takeAll_total_nodewiseSum_shapes :
    let leaf (label : String) : TimingTree := ⟨"a", label, .zero, none, []⟩
    let first : TimingTree := ⟨"a", "call", .zero, none, [leaf "load", leaf "solve"]⟩
    let second : TimingTree :=
      ⟨"a", "call", .infinity false, some "late", [⟨"a", "read", ⟨true, 0⟩, none, [leaf "disk"]⟩]⟩
    let arrivals : List Arrival := [⟨0, first⟩, ⟨1, ⟨"b", "call", .nan, none, []⟩⟩, ⟨2, second⟩]
    reportsOf "a" arrivals = [first, second] ∧
      ∃ totals sum, ((new true).takeAll arrivals).total = some totals ∧
        totals.get? "a" = some sum ∧ TimingTree.NodewiseSum first [second] sum ∧
        ∀ last : Arrival, last.tree.name = "a" →
          ∃ totals' sum', ((new true).takeAll (arrivals ++ [last])).total = some totals' ∧
            totals'.get? "a" = some sum' ∧
            ∀ path, last.tree.subtree? path = none → sum'.subtree? path = sum.subtree? path := by
  intro leaf first second arrivals
  have reports : reportsOf "a" arrivals = [first, second] := by
    simp [reportsOf, arrivals, first, second]
  exact ⟨reports, takeAll_total_nodewiseSum reports⟩

end TimingBoard.Aggregate
