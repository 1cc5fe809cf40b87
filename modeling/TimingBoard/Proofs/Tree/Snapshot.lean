import TimingBoard.Proofs.Tree.Canonical

namespace TimingBoard.TimingTree

/-! Which snapshots become trees, and what the trees keep of them.

The nodes of a snapshot are checked in preorder, and the first time that cannot be used refuses it,
whatever comes later.  A snapshot that passes gives a tree with the same paths, which passes in turn
and is its own tree. -/

/-- The node is the first one in preorder whose time is not finite or is below zero. -/
def FirstUnusable (raw node : TimingTree) : Prop :=
  (node.time.isFinite = false ∨ node.time.lt .zero = true) ∧
    ∃ before after, raw.preorder = before ++ node :: after ∧
      ∀ earlier ∈ before, earlier.time.isFinite = true ∧ earlier.time.lt .zero = false

/-- What a node keeps of the node it is made from. -/
structure TakenOver (producer : String) (source node : TimingTree) : Prop where
  name : node.name = producer
  label : node.label = source.label
  time : node.time = source.time
  comment : ∀ text, node.comment = some text ↔ source.comment = some text ∧ text ≠ ""
  width : node.children.length = source.children.length

variable {raw tree : TimingTree} {producer : String}

theorem isDuration_iff {time : Binary64} :
    isDuration time = true ↔ time.isFinite = true ∧ time.lt .zero = false := by
  simp [isDuration]

theorem not_isDuration_iff {time : Binary64} :
    isDuration time = false ↔ time.isFinite = false ∨ time.lt .zero = true := by
  cases finite : time.isFinite <;> simp [isDuration, finite]

theorem find?_unusable_eq_some_iff {node : TimingTree} :
    (raw.preorder.find? fun node => !isDuration node.time) = some node ↔ raw.FirstUnusable node := by
  rw [List.find?_eq_some_iff_append, FirstUnusable]
  simp only [Bool.not_eq_true', not_isDuration_iff, Bool.not_not, isDuration_iff]

theorem settle_eq_error_iff {fault : SnapshotFault} :
    raw.settle producer = .error fault ↔
      ∃ node, raw.FirstUnusable node ∧ fault = .unusable node.label producer node.time := by
  simp only [settle_eq, unlessUnusable, ← find?_unusable_eq_some_iff]
  cases raw.preorder.find? fun node => !isDuration node.time with
  | none => simp
  | some node => simp [eq_comm]

theorem settledEach_eq_map (producer : String) (trees : List TimingTree) :
    settledEach producer trees = trees.map (·.settled producer) := by
  induction trees with
  | nil => rfl
  | cons tree rest ih => rw [settledEach, ih, List.map_cons]

/-- Settling a tree settles what stands at each of its paths. -/
theorem subtree?_settled (producer : String) (tree : TimingTree) (path : List Nat) :
    (tree.settled producer).subtree? path = (tree.subtree? path).map (·.settled producer) := by
  induction path generalizing tree with
  | nil => rfl
  | cons index rest ih =>
      obtain ⟨name, label, time, comment, children⟩ := tree
      simp only [settled, subtree?, settledEach_eq_map, List.getElem?_map]
      cases children[index]? with
      | none => rfl
      | some child => exact ih child

theorem keptComment_eq_some_iff {comment : Option String} {text : String} :
    keptComment comment = some text ↔ comment = some text ∧ text ≠ "" := by
  simp [keptComment, Option.filter_eq_some_iff]

theorem takenOver_settled (producer : String) (source : TimingTree) :
    TakenOver producer source (source.settled producer) := by
  obtain ⟨name, label, time, comment, children⟩ := source
  exact ⟨rfl, rfl, rfl, fun text => keptComment_eq_some_iff, by simp [settled, settledEach_eq_map]⟩

/-- A snapshot becomes a tree iff all its times are finite and not below zero.  Otherwise the first node
in preorder with another time is the fault, told with the name of the root.  A tree has the paths, labels
and times of its snapshot, the root's name everywhere, and the comments that are not empty; made into a
tree once more, it stays as it is. -/
theorem ofSnapshot_checks (raw : TimingTree) :
    ((∃ tree, ofSnapshot raw = .ok tree) ↔
      ∀ node ∈ raw.preorder, node.time.isFinite = true ∧ node.time.lt .zero = false) ∧
    (∀ fault, ofSnapshot raw = .error fault ↔
      ∃ node, raw.FirstUnusable node ∧ fault = .unusable node.label raw.name node.time ∧
        Error.message (.snapshot fault) = "Invalid snapshot: " ++
          ("node '" ++ node.label ++ "' of '" ++ raw.name ++ "' has processing time " ++
            node.time.text)) ∧
    ∀ tree, ofSnapshot raw = .ok tree →
      (∀ path, Option.Rel (TakenOver raw.name) (raw.subtree? path) (tree.subtree? path)) ∧
        ofSnapshot tree = .ok tree := by
  refine ⟨?_, ?_, ?_⟩
  · simp only [ofSnapshot, settle_eq_ok_iff, isDuration_iff, exists_and_left, exists_eq', and_true]
  · intro fault
    rw [ofSnapshot, settle_eq_error_iff]
    constructor
    · rintro ⟨node, first, rfl⟩
      exact ⟨node, first, rfl, rfl⟩
    · rintro ⟨node, first, same, -⟩
      exact ⟨node, first, same⟩
  · intro tree taken
    obtain ⟨measured, rfl⟩ := settle_eq_ok_iff.mp taken
    refine ⟨fun path => ?_, ofSnapshot_of_canonical (settled_canonical measured)⟩
    rw [subtree?_settled]
    cases raw.subtree? path with
    | none => exact .none
    | some source => exact .some (takenOver_settled raw.name source)

/-- A negative zero is no fault; of two faults the deeper one comes first. -/
example :
    ofSnapshot ⟨"planner", "call", ⟨true, 0⟩, some "",
      [⟨"a", "load", .zero, none, [⟨"b", "read", .nan, none, []⟩]⟩,
        ⟨"c", "solve", ⟨true, 1⟩, none, []⟩]⟩ = .error (.unusable "read" "planner" .nan) := rfl

end TimingBoard.TimingTree
