import TimingBoard.Proofs.Aggregate.Producers

namespace TimingBoard.Aggregate

/-! Producers do not interfere: runs with the same trees of every producer end with the same
rosters, in whatever order trees of different producers come in. -/

variable {name : String} {arrivals others : List Arrival}

/-- What the rosters hold is told by the trees taken in. -/
structure KeptOf (tracksTotal : Bool) (arrivals : List Arrival) (state : Aggregate) : Prop where
  latestNames : ∀ name, name ∈ state.latest.names ↔ ∃ arrival ∈ arrivals, arrival.tree.name = name
  worstNames : ∀ name, name ∈ state.worst.names ↔ ∃ arrival ∈ arrivals, arrival.tree.name = name
  totalNames : ∀ totals, state.total = some totals →
    ∀ name, name ∈ totals.names ↔ ∃ arrival ∈ arrivals, arrival.tree.name = name
  tracked : state.total.isSome = tracksTotal
  latestOwn : ∀ name tree, state.latest.get? name = some tree → tree.name = name
  worstOwn : ∀ name tree, state.worst.get? name = some tree → tree.name = name
  totalOwn : ∀ totals, state.total = some totals →
    ∀ name tree, totals.get? name = some tree → tree.name = name
  latestLast : ∀ name, state.latest.get? name = (reportsOf name arrivals).getLast?
  counted : state.count = arrivals.length
  stamped : state.stamp.isSome = true ↔ 0 < state.count

/-- Both hold the same trees under the same names, and have taken in as many. -/
structure SameTrees (state other : Aggregate) : Prop where
  latest : state.latest = other.latest
  worst : state.worst = other.worst
  total : state.total = other.total
  count : state.count = other.count

/-- The trees of several writers in one sequence, those of each writer in their order. -/
inductive Interleaved : List (List TimingTree) → List TimingTree → Prop where
  | done {writers : List (List TimingTree)} (silent : ∀ writer ∈ writers, writer = []) :
      Interleaved writers []
  | next {before after : List (List TimingTree)} {tree : TimingTree} {rest trees : List TimingTree}
      (later : Interleaved (before ++ rest :: after) trees) :
      Interleaved (before ++ (tree :: rest) :: after) (tree :: trees)

/-- No two writers feed the same producer. -/
def OwnProducers (writers : List (List TimingTree)) : Prop :=
  writers.Pairwise fun writer other =>
    ∀ tree ∈ writer, ∀ report ∈ other, tree.name ≠ report.name

theorem takeAll_keptOf (tracksTotal : Bool) (arrivals : List Arrival) :
    KeptOf tracksTotal arrivals ((new tracksTotal).takeAll arrivals) where
  latestNames name := by
    rw [latest_takeAll]
    exact updateLatest_updatesOwn.mem_names_rosterOf name arrivals
  worstNames name := by
    rw [worst_takeAll]
    exact updateWorst_updatesOwn.mem_names_rosterOf name arrivals
  totalNames totals tracked name := by
    rw [total_takeAll] at tracked
    obtain ⟨-, same⟩ := Option.ite_none_right_eq_some.mp tracked
    cases same
    exact updateTotal_updatesOwn.mem_names_rosterOf name arrivals
  tracked := by
    rw [total_takeAll]
    cases tracksTotal <;> rfl
  latestOwn name tree found := by
    rw [latest_takeAll] at found
    exact updateLatest_updatesOwn.name_rosterOf latest_keeps found
  worstOwn name tree found := by
    rw [worst_takeAll] at found
    exact updateWorst_updatesOwn.name_rosterOf worse_keeps found
  totalOwn totals tracked name tree found := by
    rw [total_takeAll] at tracked
    obtain ⟨-, same⟩ := Option.ite_none_right_eq_some.mp tracked
    cases same
    exact updateTotal_updatesOwn.name_rosterOf
      (grown_keeps fun _ sum other named => (sum.accumulate_name other).trans named) found
  latestLast name := by
    rw [latest_takeAll, updateLatest_updatesOwn.get?_rosterOf, heldAfter_latest]
  counted := count_takeAll tracksTotal arrivals
  stamped := by
    rw [stamp_takeAll, count_takeAll]
    cases arrivals using List.reverseRecOn <;> simp

theorem count_name (name : String) (arrivals : List Arrival) :
    (arrivals.map (·.tree.name)).count name = (reportsOf name arrivals).length := by
  induction arrivals with
  | nil => rfl
  | cons arrival rest ih =>
      by_cases own : arrival.tree.name = name <;> simp_all [reportsOf]

theorem length_eq_of_reportsOf (same : ∀ name, reportsOf name arrivals = reportsOf name others) :
    arrivals.length = others.length := by
  have names : (arrivals.map (·.tree.name)).Perm (others.map (·.tree.name)) := by
    rw [List.perm_iff_count]
    intro name
    rw [count_name, count_name, same]
  simpa using names.length_eq

theorem sameTrees_of_reportsOf (tracksTotal : Bool)
    (same : ∀ name, reportsOf name arrivals = reportsOf name others) :
    SameTrees ((new tracksTotal).takeAll arrivals) ((new tracksTotal).takeAll others) where
  latest := by
    rw [latest_takeAll, latest_takeAll]
    exact updateLatest_updatesOwn.rosterOf_eq same
  worst := by
    rw [worst_takeAll, worst_takeAll]
    exact updateWorst_updatesOwn.rosterOf_eq same
  total := by
    rw [total_takeAll, total_takeAll, updateTotal_updatesOwn.rosterOf_eq same]
  count := by rw [count_takeAll, count_takeAll, length_eq_of_reportsOf same]

theorem OwnProducers.rest {before after : List (List TimingTree)} {tree : TimingTree}
    {rest : List TimingTree} (own : OwnProducers (before ++ (tree :: rest) :: after)) :
    OwnProducers (before ++ rest :: after) := by
  obtain ⟨apartBefore, apartAfter, across⟩ := List.pairwise_append.mp own
  obtain ⟨first, apart⟩ := List.pairwise_cons.mp apartAfter
  refine List.pairwise_append.mpr ⟨apartBefore, List.pairwise_cons.mpr ⟨?_, apart⟩, ?_⟩
  · intro writer member report inRest
    exact first writer member report (List.mem_cons_of_mem _ inRest)
  · intro writer member other among report inWriter found inOther
    rcases List.mem_cons.mp among with rfl | later
    · exact across writer member _ List.mem_cons_self report inWriter found
        (List.mem_cons_of_mem _ inOther)
    · exact across writer member other (List.mem_cons_of_mem _ later) report inWriter found inOther

/-- The trees of a producer come from its one writer, in the order in which that writer has them. -/
theorem Interleaved.filter_eq {writers : List (List TimingTree)} {trees : List TimingTree}
    (interleaved : Interleaved writers trees) (own : OwnProducers writers) (name : String) :
    trees.filter (fun tree => tree.name = name) =
      writers.flatMap (·.filter fun tree => tree.name = name) := by
  induction interleaved with
  | done silent =>
      symm
      rw [List.filter_nil, List.flatMap_eq_nil_iff]
      intro writer member
      rw [silent writer member, List.filter_nil]
  | @next before after tree rest trees later ih =>
      have rest := ih own.rest
      by_cases same : tree.name = name
      · -- The writers before the one of this tree have none of its producer, so it comes first.
        have absent : before.flatMap (·.filter fun tree => tree.name = name) = [] := by
          rw [List.flatMap_eq_nil_iff]
          intro writer member
          rw [List.filter_eq_nil_iff]
          intro report inWriter
          have across := (List.pairwise_append.mp own).2.2 writer member _ List.mem_cons_self
          simpa [← same] using across report inWriter tree List.mem_cons_self
        simp only [List.flatMap_append, List.flatMap_cons, absent, List.nil_append] at rest ⊢
        simp [same, rest]
      · simpa [same] using rest

theorem reportsOf_of_interleaved {writers : List (List TimingTree)} (own : OwnProducers writers)
    (one : Interleaved writers (arrivals.map (·.tree)))
    (other : Interleaved writers (others.map (·.tree))) (name : String) :
    reportsOf name arrivals = reportsOf name others :=
  (one.filter_eq own name).trans (other.filter_eq own name).symm

/-- The rosters have one key for each producer seen and hold trees of that producer there; they
depend on the trees of each producer alone, and the totals are kept beside the others without
touching them. -/
theorem takeAll_by_producer (tracksTotal : Bool) (arrivals : List Arrival) :
    KeptOf tracksTotal arrivals ((new tracksTotal).takeAll arrivals) ∧
      (∀ others : List Arrival, (∀ name, reportsOf name arrivals = reportsOf name others) →
        SameTrees ((new tracksTotal).takeAll arrivals) ((new tracksTotal).takeAll others)) ∧
      (∀ (writers : List (List TimingTree)) (others : List Arrival), OwnProducers writers →
        Interleaved writers (arrivals.map (·.tree)) → Interleaved writers (others.map (·.tree)) →
        SameTrees ((new tracksTotal).takeAll arrivals) ((new tracksTotal).takeAll others)) ∧
      ∀ other : Bool,
        ((new tracksTotal).takeAll arrivals).latest = ((new other).takeAll arrivals).latest ∧
        ((new tracksTotal).takeAll arrivals).worst = ((new other).takeAll arrivals).worst ∧
        ((new tracksTotal).takeAll arrivals).count = ((new other).takeAll arrivals).count := by
  refine ⟨takeAll_keptOf tracksTotal arrivals, ?_, ?_, ?_⟩
  · intro others same
    exact sameTrees_of_reportsOf tracksTotal same
  · intro writers others own one another
    exact sameTrees_of_reportsOf tracksTotal (reportsOf_of_interleaved own one another)
  · intro other
    refine ⟨?_, ?_, ?_⟩
    · rw [latest_takeAll, latest_takeAll]
    · rw [worst_takeAll, worst_takeAll]
    · rw [count_takeAll, count_takeAll]

/-- One writer sends two trees of `a`, another one a tree of `b` first, last or in between. -/
theorem takeAll_by_producer_twoWriters :
    let slow : TimingTree := ⟨"a", "call", .infinity false, none, []⟩
    let fast : TimingTree := ⟨"a", "call", .zero, some "retry", []⟩
    let other : TimingTree := ⟨"b", "call", .nan, none, []⟩
    let between : List Arrival := [⟨0, slow⟩, ⟨1, other⟩, ⟨2, fast⟩]
    let first : List Arrival := [⟨5, other⟩, ⟨6, slow⟩, ⟨7, fast⟩]
    OwnProducers [[slow, fast], [other]] ∧
      Interleaved [[slow, fast], [other]] (between.map (·.tree)) ∧
      Interleaved [[slow, fast], [other]] (first.map (·.tree)) ∧
      KeptOf true between ((new true).takeAll between) ∧
      SameTrees ((new true).takeAll between) ((new true).takeAll first) := by
  intro slow fast other between first
  have own : OwnProducers [[slow, fast], [other]] := by simp [OwnProducers, slow, fast, other]
  have silent : Interleaved [[], []] [] := .done (by simp)
  have one : Interleaved [[slow, fast], [other]] (between.map (·.tree)) :=
    @Interleaved.next [] _ _ _ _ <| @Interleaved.next [[fast]] _ _ _ _ <|
      @Interleaved.next [] _ _ _ _ silent
  have another : Interleaved [[slow, fast], [other]] (first.map (·.tree)) :=
    @Interleaved.next [[slow, fast]] _ _ _ _ <| @Interleaved.next [] _ _ _ _ <|
      @Interleaved.next [] _ _ _ _ silent
  obtain ⟨kept, -, independent, -⟩ := takeAll_by_producer true between
  exact ⟨own, one, another, kept, independent _ first own one another⟩

end TimingBoard.Aggregate
