import TimingBoard.Proofs.Aggregate.Arrivals
import TimingBoard.Proofs.Number.Order

namespace TimingBoard.Aggregate

/-! The worst case of a producer: the first of its longest trees. -/

variable {name : String} {trees : List TimingTree} {worst : TimingTree}

/-- `worst` is a tree of that producer, longer than all its trees before and no shorter than any of
its trees after. -/
def EarliestLongest (name : String) (trees : List TimingTree) (worst : TimingTree) : Prop :=
  worst.name = name ∧ ∃ before after, trees = before ++ worst :: after ∧
    (∀ earlier ∈ before, earlier.name = name → earlier.time.lt worst.time = true) ∧
    ∀ later ∈ after, later.name = name → worst.time.lt later.time = false

theorem EarliestLongest.append_of_not_longer (longest : EarliestLongest name trees worst)
    {tree : TimingTree} (shorter : tree.name = name → worst.time.lt tree.time = false) :
    EarliestLongest name (trees ++ [tree]) worst := by
  obtain ⟨own, before, after, rfl, earlier, later⟩ := longest
  refine ⟨own, before, after ++ [tree], by simp, earlier, ?_⟩
  intro other member sameName
  rcases List.mem_append.mp member with old | new
  · exact later other old sameName
  · obtain rfl := List.mem_singleton.mp new
    exact shorter sameName

theorem EarliestLongest.append_of_longer (longest : EarliestLongest name trees worst)
    (measured : ∀ tree ∈ trees, tree.time.isNaN = false) {tree : TimingTree}
    (own : tree.name = name) (longer : worst.time.lt tree.time = true) :
    EarliestLongest name (trees ++ [tree]) tree := by
  obtain ⟨-, before, after, rfl, earlier, later⟩ := longest
  refine ⟨own, before ++ worst :: after, [], rfl, ?_, nofun⟩
  intro other member sameName
  rcases List.mem_append.mp member with inBefore | rest
  · exact Binary64.lt_trans (earlier other inBefore sameName) longer
  · rcases List.mem_cons.mp rest with rfl | inAfter
    · exact longer
    · exact Binary64.lt_of_not_lt_of_lt (measured other member) (later other inAfter sameName) longer

theorem earliestLongest_of_new {tree : TimingTree} (own : tree.name = name)
    (unseen : ∀ other ∈ trees, other.name ≠ name) :
    EarliestLongest name (trees ++ [tree]) tree :=
  ⟨own, trees, [], rfl, fun other member sameName => absurd sameName (unseen other member), nofun⟩

/-- What the roster of worst cases holds under a name, given the trees taken in so far. -/
def WorstHeld (name : String) (trees : List TimingTree) : Option TimingTree → Prop
  | some worst => EarliestLongest name trees worst
  | none => ∀ tree ∈ trees, tree.name ≠ name

theorem WorstHeld.append {held : Option TimingTree} (holds : WorstHeld name trees held)
    (measured : ∀ tree ∈ trees, tree.time.isNaN = false) (tree : TimingTree) :
    WorstHeld name (trees ++ [tree]) (if tree.name = name then some (worse held tree) else held) := by
  by_cases own : tree.name = name
  · rw [if_pos own]
    cases held with
    | none => exact earliestLongest_of_new own holds
    | some worst =>
        cases longer : worst.time.lt tree.time with
        | true =>
            simp only [WorstHeld, worse, longer, if_true]
            exact holds.append_of_longer measured own longer
        | false =>
            simp only [WorstHeld, worse, longer, Bool.false_eq_true, if_false]
            exact holds.append_of_not_longer fun _ => longer
  · rw [if_neg own]
    cases held with
    | none =>
        intro other member
        rcases List.mem_append.mp member with old | new
        · exact holds other old
        · exact List.mem_singleton.mp new ▸ own
    | some worst => exact holds.append_of_not_longer fun sameName => absurd sameName own

theorem takeAll_worstHeld (tracksTotal : Bool) (arrivals : List Arrival)
    (measured : ∀ arrival ∈ arrivals, arrival.tree.time.isNaN = false) (name : String) :
    WorstHeld name (arrivals.map (·.tree))
      (((new tracksTotal).takeAll arrivals).worst.get? name) := by
  induction arrivals using List.reverseRecOn with
  | nil => exact nofun
  | append_singleton earlier last ih =>
      -- Only the roster entry of the last tree's producer can change.
      have before : ∀ arrival ∈ earlier, arrival.tree.time.isNaN = false :=
        fun arrival member => measured arrival (List.mem_append_left _ member)
      have held := (ih before).append (by simpa using before) last.tree
      rw [takeAll_append_singleton, List.map_append]
      simpa only [apply, get?_updateWorst, List.map_cons, List.map_nil] using held

theorem EarliestLongest.maximal (longest : EarliestLongest name trees worst) {tree : TimingTree}
    (member : tree ∈ trees) (own : tree.name = name) : worst.time.lt tree.time = false := by
  obtain ⟨-, before, after, rfl, earlier, later⟩ := longest
  rcases List.mem_append.mp member with inBefore | rest
  · exact Binary64.lt_asymm (earlier tree inBefore own)
  · rcases List.mem_cons.mp rest with rfl | inAfter
    · exact Binary64.lt_irrefl tree.time
    · exact later tree inAfter own

/-- Of the trees of a producer the worst case is the first one with the longest root time. -/
theorem takeAll_worst_earliestLongest (tracksTotal : Bool) (arrivals : List Arrival)
    (measured : ∀ arrival ∈ arrivals, arrival.tree.time.isNaN = false)
    (occurs : ∃ arrival ∈ arrivals, arrival.tree.name = name) :
    ∃ worst, ((new tracksTotal).takeAll arrivals).worst.get? name = some worst ∧
      EarliestLongest name (arrivals.map (·.tree)) worst ∧
      ∀ arrival ∈ arrivals, arrival.tree.name = name → worst.time.lt arrival.tree.time = false := by
  have holds := takeAll_worstHeld tracksTotal arrivals measured name
  cases held : ((new tracksTotal).takeAll arrivals).worst.get? name with
  | some worst =>
      have longest : EarliestLongest name (arrivals.map (·.tree)) worst := by
        rw [held] at holds
        exact holds
      exact ⟨worst, rfl, longest, fun arrival member own =>
        longest.maximal (List.mem_map_of_mem member) own⟩
  | none =>
      rw [held] at holds
      obtain ⟨arrival, member, own⟩ := occurs
      exact absurd own (holds arrival.tree (List.mem_map_of_mem member))

/-- Two producers in turn; the second zero of the first one is no longer than the first zero. -/
theorem takeAll_worst_earliestLongest_zeros :
    let arrivals : List Arrival :=
      [⟨0, ⟨"a", "call", ⟨true, 0⟩, none, []⟩⟩, ⟨1, ⟨"b", "call", .infinity false, none, []⟩⟩,
        ⟨2, ⟨"a", "call", .zero, some "later", []⟩⟩]
    (∀ arrival ∈ arrivals, arrival.tree.time.isNaN = false) ∧
      (∃ arrival ∈ arrivals, arrival.tree.name = "a") ∧
      ∃ worst, ((new true).takeAll arrivals).worst.get? "a" = some worst ∧
        EarliestLongest "a" (arrivals.map (·.tree)) worst ∧
        ∀ arrival ∈ arrivals, arrival.tree.name = "a" → worst.time.lt arrival.tree.time = false := by
  intro arrivals
  have measured : ∀ arrival ∈ arrivals, arrival.tree.time.isNaN = false := by decide
  have occurs : ∃ arrival ∈ arrivals, arrival.tree.name = "a" := by simp [arrivals]
  exact ⟨measured, occurs, takeAll_worst_earliestLongest true arrivals measured occurs⟩

end TimingBoard.Aggregate
