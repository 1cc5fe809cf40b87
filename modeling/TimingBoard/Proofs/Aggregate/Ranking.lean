import TimingBoard.Proofs.Aggregate.Producers
import TimingBoard.Proofs.Number.Sum

namespace TimingBoard.Aggregate

/-! The three rosters, compared by root times.

Each tree of a producer changes its latest tree, its worst case and its total apart from each other.
What relates them through all of these changes is that the total is no less than any tree that went
into it. -/

variable {name : String} {trees : List TimingTree} {latest worst total tree : TimingTree}

/-- How the root times of the latest tree, the worst case and the total of some trees are ranked. -/
structure Ranked (trees : List TimingTree) (latest worst total : TimingTree) : Prop where
  latestLeast : latest.time ≤ worst.time
  worstBelow : worst.time ≤ total.time
  allBelow : ∀ tree ∈ trees, tree.time ≤ total.time
  totalLeast : .zero ≤ total.time

theorem ranked_singleton (least : .zero ≤ tree.time) : Ranked [tree] tree tree tree := by
  have self : tree.time ≤ tree.time := Binary64.le_refl least.2.1
  exact ⟨self, self, by simpa using self, least⟩

/-- One more tree of the producer. -/
theorem Ranked.append (ranked : Ranked trees latest worst total) (least : .zero ≤ tree.time) :
    Ranked (trees ++ [tree]) tree (worse (some worst) tree) (grown (some total) tree) := by
  obtain ⟨grows, covers⟩ := Binary64.le_add ranked.totalLeast least
  have sum : (grown (some total) tree).time = total.time + tree.time := total.accumulate_time tree
  have before : worst.time ≤ (grown (some total) tree).time :=
    Binary64.le_trans ranked.worstBelow (sum ▸ grows)
  refine ⟨?_, ?_, ?_, ?_⟩
  · cases longer : worst.time.lt tree.time with
    | true => simpa [worse, longer] using Binary64.le_refl least.2.1
    | false =>
      simpa [worse, longer] using
        Binary64.le_of_not_lt least.2.1 ranked.worstBelow.1 longer
  · cases longer : worst.time.lt tree.time with
    | true => simpa [worse, longer, sum] using covers
    | false => simpa [worse, longer] using before
  · intro other member
    rcases List.mem_append.mp member with old | new
    · exact Binary64.le_trans (ranked.allBelow other old) (sum ▸ grows)
    · obtain rfl := List.mem_singleton.mp new
      exact sum ▸ covers
  · exact Binary64.le_trans ranked.totalLeast (sum ▸ grows)

/-- Any number of further trees of the producer. -/
theorem Ranked.heldAfter (ranked : Ranked trees latest worst total) (later : List TimingTree)
    (least : ∀ tree ∈ later, .zero ≤ tree.time) :
    ∃ latest' worst' total',
      heldAfter (fun _ tree => tree) (some latest) later = some latest' ∧
        heldAfter worse (some worst) later = some worst' ∧
        heldAfter grown (some total) later = some total' ∧
        Ranked (trees ++ later) latest' worst' total' := by
  induction later generalizing trees latest worst total with
  | nil => exact ⟨latest, worst, total, rfl, rfl, rfl, by simpa using ranked⟩
  | cons tree rest ih =>
    obtain ⟨first, others⟩ := List.forall_mem_cons.mp least
    obtain ⟨latest', worst', total', heldLatest, heldWorst, heldTotal, after⟩ :=
      ih (ranked.append first) others
    exact ⟨latest', worst', total', heldLatest, heldWorst, heldTotal, by simpa using after⟩

/-- With root times that are neither NaN nor below zero, the root time of a producer's total is no less
than that of its worst case, which is no less than that of its latest tree; and the total is no less
than any tree of the producer. -/
theorem takeAll_total_covers {arrivals : List Arrival}
    (least : ∀ arrival ∈ arrivals, .zero ≤ arrival.tree.time)
    (occurs : ∃ arrival ∈ arrivals, arrival.tree.name = name) :
    let state := (new true).takeAll arrivals
    ∃ totals total worst latest, state.total = some totals ∧ totals.get? name = some total ∧
      state.worst.get? name = some worst ∧ state.latest.get? name = some latest ∧
      total.time.isNaN = false ∧ total.time.lt .zero = false ∧
      worst.time ≤ total.time ∧ latest.time ≤ worst.time ∧
      ∀ arrival ∈ arrivals, arrival.tree.name = name → arrival.tree.time ≤ total.time := by
  intro state
  have reported : ∀ tree ∈ reportsOf name arrivals, .zero ≤ tree.time := by
    intro tree member
    obtain ⟨⟨arrival, taken, rfl⟩, -⟩ := mem_reportsOf.mp member
    exact least arrival taken
  obtain ⟨first, later, reports⟩ := List.exists_cons_of_ne_nil (reportsOf_ne_nil_iff.mpr occurs)
  rw [reports, List.forall_mem_cons] at reported
  obtain ⟨latest, worst, total, heldLatest, heldWorst, heldTotal, ranked⟩ :=
    (ranked_singleton reported.1).heldAfter later reported.2
  obtain ⟨number, nonnegative⟩ := Binary64.zero_le_iff.mp ranked.totalLeast
  refine ⟨rosterOf updateTotal arrivals, total, worst, latest, total_takeAll true arrivals, ?_, ?_, ?_,
    number, nonnegative, ranked.worstBelow, ranked.latestLeast, ?_⟩
  · rw [updateTotal_updatesOwn.get?_rosterOf, reports]
    exact heldTotal
  · rw [worst_takeAll, updateWorst_updatesOwn.get?_rosterOf, reports]
    exact heldWorst
  · rw [latest_takeAll, updateLatest_updatesOwn.get?_rosterOf, reports]
    exact heldLatest
  · intro arrival member own
    refine ranked.allBelow arrival.tree ?_
    have among := mem_reportsOf.mpr ⟨⟨arrival, member, rfl⟩, own⟩
    rwa [reports] at among

/-- The sum of the largest finite time with itself is infinite; a negative zero is the latest. -/
theorem takeAll_total_covers_overflow :
    let call (time : Binary64) : TimingTree := ⟨"a", "call", time, none, []⟩
    let most : Binary64 := ⟨false, Binary64.infinityMagnitude - 1⟩
    let arrivals : List Arrival :=
      [⟨0, call most⟩, ⟨1, ⟨"b", "call", .zero, none, []⟩⟩, ⟨2, call most⟩, ⟨3, call ⟨true, 0⟩⟩]
    let state := (new true).takeAll arrivals
    (∀ arrival ∈ arrivals, .zero ≤ arrival.tree.time) ∧
      (∃ arrival ∈ arrivals, arrival.tree.name = "a") ∧
      (state.total.bind (·.get? "a")).map (·.time) = some (.infinity false) ∧
      ∃ totals total worst latest, state.total = some totals ∧ totals.get? "a" = some total ∧
        state.worst.get? "a" = some worst ∧ state.latest.get? "a" = some latest ∧
        total.time.isNaN = false ∧ total.time.lt .zero = false ∧
        worst.time ≤ total.time ∧ latest.time ≤ worst.time ∧
        ∀ arrival ∈ arrivals, arrival.tree.name = "a" → arrival.tree.time ≤ total.time := by
  intro call most arrivals state
  have least : ∀ arrival ∈ arrivals, .zero ≤ arrival.tree.time := by decide
  have occurs : ∃ arrival ∈ arrivals, arrival.tree.name = "a" := by simp [arrivals, call]
  exact ⟨least, occurs, by decide +kernel, takeAll_total_covers least occurs⟩

end TimingBoard.Aggregate
