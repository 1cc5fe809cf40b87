import TimingBoard.Proofs.Aggregate.Lines
import TimingBoard.Proofs.Json.Accepted
import TimingBoard.Proofs.Tree.Export

namespace TimingBoard

/-! Reading back the list of worst cases.

Messages are flat, so trees may have any number of levels; their texts are nested, and reading stops
at a limit.  Within it only times can come back as others. -/

open Json

namespace TimingTree

/-- What a time is read as from its text.  All finite times are read. -/
def reread (time : Binary64) : Binary64 := (Numeral.ofBinary64 time).number?.getD time

theorem number?_eq_reread {time : Binary64} (finite : time.isFinite = true) :
    (Numeral.ofBinary64 time).number? = some (reread time) := by
  obtain ⟨value, accepted⟩ := Option.isSome_iff_exists.mp (Numeral.ofBinary64_number? finite)
  rw [reread, accepted, Option.getD_some]

theorem decode_timeText_eq_reread {time : Binary64} (finite : time.isFinite = true) :
    decode Value.asNumber (timeText time) = .ok (reread time) := by
  rw [decode_timeText, number?_eq_reread finite, orMalformed]

theorem mapTimesEach_eq_map (change : Binary64 → Binary64) (trees : List TimingTree) :
    mapTimesEach change trees = trees.map (·.mapTimes change) := by
  induction trees with
  | nil => rfl
  | cons tree rest ih => rw [mapTimesEach, ih, List.map_cons]

theorem forall_mem_preorderEach {holds : TimingTree → Prop} {trees : List TimingTree} :
    (∀ node ∈ preorderEach trees, holds node) ↔ ∀ tree ∈ trees, ∀ node ∈ tree.preorder, holds node := by
  induction trees with
  | nil => simp [preorderEach]
  | cons tree rest ih => rw [preorderEach, List.forall_mem_append, ih, List.forall_mem_cons]

theorem levelsEach_le_iff {trees : List TimingTree} {allowed : Nat} :
    levelsEach trees ≤ allowed ↔ ∀ tree ∈ trees, tree.levels ≤ allowed := by
  induction trees with
  | nil => simp [levelsEach]
  | cons tree rest ih => rw [levelsEach_cons_le, ih, List.forall_mem_cons]

/-- The array around the trees takes the container that a single tree leaves over. -/
theorem listOfJson_listToJson {trees : List TimingTree}
    (finite : ∀ node ∈ preorderEach trees, node.time.isFinite = true) :
    listOfJson (listToJson trees) =
      if levelsEach trees ≤ 63 then .ok (trees.map (·.mapTimes reread)) else .error .malformed := by
  have spelled : (Value.array (toValues trees) none).Spelled := ⟨rfl, toValues_spelled trees⟩
  have room : nestingLimit - 1 = 2 * 63 + 0 := rfl
  have closed := Value.asList_closed (ofValue (nestingLimit - 1)) 126 (toValues trees)
  rw [listOfJson, listToJson, decode_toText spelled]
  refine closed.trans ?_
  rw [room, ofValues_toValues (by decide) trees 63 finite, withinEach,
    rereadEach?_eq_mapTimesEach trees fun node member => number?_eq_reread (finite node member),
    mapTimesEach_eq_map]
  split <;> rfl

end TimingTree

namespace Aggregate

open TimingTree (listOfJson mapTimes reread timeText)

theorem reported_of_mem_worst {tracksTotal : Bool} {lines : List (Int × String)} {name : String}
    {tree : TimingTree} (member : (name, tree) ∈ ((new tracksTotal).takeLines lines).worst.entries) :
    tree.Reported name := by
  have found := (Roster.get?_eq_some_iff _).mpr member
  rw [takeLines_eq, worst_takeAll] at found
  exact updateWorst_updatesOwn.holds_rosterOf (fun name tree => tree.Reported name) worse_keeps
    (fun arrival => reported_of_mem_arrivalsOf) found

/-- The worst cases stand in the order of their producers' names. -/
theorem names_worst_takeLines (tracksTotal : Bool) (lines : List (Int × String)) :
    (((new tracksTotal).takeLines lines).worst.values.map (·.name)).Pairwise (· < ·) := by
  rw [Roster.values, List.map_map, List.pairwise_map]
  refine Roster.ordered _ |>.imp_of_mem ?_
  rintro ⟨name, tree⟩ ⟨other, otherTree⟩ member otherMember less
  have own := (reported_of_mem_worst member).1 tree tree.mem_preorder_self
  have otherOwn := (reported_of_mem_worst otherMember).1 otherTree otherTree.mem_preorder_self
  exact (own.1.trans_lt less).trans_eq otherOwn.1.symm

theorem finite_worst_takeLines (tracksTotal : Bool) (lines : List (Int × String)) :
    ∀ tree ∈ ((new tracksTotal).takeLines lines).worst.values, ∀ node ∈ tree.preorder,
      node.time.isFinite = true := by
  intro tree member node inside
  obtain ⟨⟨name, kept⟩, entry, rfl⟩ := List.mem_map.mp member
  have measured := ((reported_of_mem_worst entry).1 node inside).2.1
  exact (Bool.and_eq_true_iff.mp measured).1

theorem listOfJson_worstJson (tracksTotal : Bool) (lines : List (Int × String)) :
    listOfJson ((new tracksTotal).takeLines lines).worstJson =
      if ∀ tree ∈ ((new tracksTotal).takeLines lines).worst.values, tree.levels ≤ 63 then
        .ok (((new tracksTotal).takeLines lines).worst.values.map (·.mapTimes reread))
      else .error .malformed := by
  have finite := TimingTree.forall_mem_preorderEach.mpr (finite_worst_takeLines tracksTotal lines)
  rw [worstJson, TimingTree.listOfJson_listToJson finite]
  simp only [TimingTree.levelsEach_le_iff]

/-- After any lines, the text of the worst cases can be read as a list unless one of them has more than
63 levels.  The list has the worst cases in the order of their producers, each of their times as what
it is read as from its own text, and so it is the list of the worst cases iff that changes no time. -/
theorem listOfJson_worstJson_rereads (tracksTotal : Bool) (lines : List (Int × String)) :
    let state := (new tracksTotal).takeLines lines
    (state.worst.values.map (·.name)).Pairwise (· < ·) ∧
      (∀ tree ∈ state.worst.values, ∀ node ∈ tree.preorder,
        decode Value.asNumber (timeText node.time) = .ok (reread node.time)) ∧
      ((∀ tree ∈ state.worst.values, tree.levels ≤ 63) →
        listOfJson state.worstJson = .ok (state.worst.values.map (·.mapTimes reread))) ∧
      ((∃ tree ∈ state.worst.values, 63 < tree.levels) →
        listOfJson state.worstJson = .error .malformed) ∧
      (listOfJson state.worstJson = .ok state.worst.values ↔
        ∀ tree ∈ state.worst.values, tree.levels ≤ 63 ∧
          ∀ node ∈ tree.preorder, reread node.time = node.time) := by
  intro state
  have read : listOfJson state.worstJson =
      if ∀ tree ∈ state.worst.values, tree.levels ≤ 63 then
        .ok (state.worst.values.map (·.mapTimes reread))
      else .error .malformed := listOfJson_worstJson tracksTotal lines
  refine ⟨names_worst_takeLines tracksTotal lines, ?_, fun shallow => ?_, ?_, ?_⟩
  · intro tree member node inside
    exact TimingTree.decode_timeText_eq_reread
      (finite_worst_takeLines tracksTotal lines tree member node inside)
  · rw [read, if_pos shallow]
  · rintro ⟨tree, member, deep⟩
    rw [read, if_neg fun shallow => absurd (shallow tree member) (Nat.not_le.mpr deep)]
  · rw [read]
    by_cases shallow : ∀ tree ∈ state.worst.values, tree.levels ≤ 63
    · rw [if_pos shallow, Except.ok.injEq, ← TimingTree.mapTimesEach_eq_map,
        TimingTree.mapTimesEach_eq_self_iff, TimingTree.forall_mem_preorderEach]
      exact ⟨fun same tree member => ⟨shallow tree member, same tree member⟩,
        fun both tree member => (both tree member).2⟩
    · rw [if_neg shallow]
      exact iff_of_false nofun fun both => shallow fun tree member => (both tree member).1

theorem values_worst_takeLines_singleton {line : String} {tree : TimingTree}
    (taken : (readLine line).result = .ok tree) (tracksTotal : Bool) (time : Int) :
    ((new tracksTotal).takeLines [(time, line)]).worst.values = [tree] := by
  simp [takeLines, takeLine, taken, apply, new, updateWorst, Roster.empty, Roster.get?, Roster.insert,
    Roster.insertEntry, Roster.values]

def naturalValue (n : Nat) : Value := .number ⟨false, decimalDigits n, [], none⟩

theorem naturalValue_spelled (n : Nat) : (naturalValue n).Spelled where
  whole := digits_decimalDigits n
  alone zero := by rw [eq_zero_of_decimalDigits n zero]; rfl
  fraction := nofun
  exponent := nofun

/-- A message of so many calls, each inside the one before, with its fields by position. -/
def callsWithin (count : Nat) : Value :=
  .array [.array ((List.range count).map fun above =>
    .array [naturalValue (above + 1), .text (some "a"), naturalValue 0, naturalValue above] none) none] none

theorem callsWithin_spelled (count : Nat) : (callsWithin count).Spelled := by
  refine ⟨rfl, ⟨rfl, ?_⟩, trivial⟩
  induction List.range count with
  | nil => trivial
  | cons above rest ih =>
      exact ⟨⟨rfl, naturalValue_spelled _, rfl, naturalValue_spelled _, naturalValue_spelled _, trivial⟩, ih⟩

/-- A message with a time whose shortest digits are read as its lower neighbour. -/
def unevenLine : String :=
  "\x7b\"nodes\":[\x7b\"id\":1,\"name\":\"a\",\"processing_time\":0.207008630885242184\x7d]\x7d"

/-- Lines whose worst case cannot be read back, or is read back as another tree. -/
theorem listOfJson_worstJson_lost :
    (∃ tree, (readLine (callsWithin 64).toText).result = .ok tree ∧
      ((new false).takeLines [(0, (callsWithin 64).toText)]).worst.values = [tree] ∧
      listOfJson ((new false).takeLines [(0, (callsWithin 64).toText)]).worstJson =
        .error .malformed) ∧
      ∃ tree, (readLine unevenLine).result = .ok tree ∧
        ((new false).takeLines [(0, unevenLine)]).worst.values = [tree] ∧
        listOfJson ((new false).takeLines [(0, unevenLine)]).worstJson =
          .ok [tree.mapTimes reread] ∧
        tree.mapTimes reread ≠ tree := by
  constructor
  · have deep : (readLine (callsWithin 64).toText).result.toOption.map (·.levels) = some 64 := by
      rw [readLine, Message.ofJson, decode_toText (callsWithin_spelled 64)]
      decide +kernel
    obtain ⟨tree, taken, levels⟩ := exists_ok_of_toOption deep
    have values := values_worst_takeLines_singleton taken false 0
    refine ⟨tree, taken, values, ?_⟩
    rw [listOfJson_worstJson, values, if_neg]
    simp [levels]
  · have seen : (readLine unevenLine).result.toOption.map
        (fun tree => (tree.levels, tree.time, reread tree.time)) =
          some (1, ⟨false, 4596626292233873450⟩, ⟨false, 4596626292233873449⟩) := by
      decide +kernel
    obtain ⟨tree, taken, view⟩ := exists_ok_of_toOption seen
    simp only [Prod.mk.injEq] at view
    obtain ⟨levels, time, other⟩ := view
    have values := values_worst_takeLines_singleton taken false 0
    refine ⟨tree, taken, values, ?_, fun same => ?_⟩
    · rw [listOfJson_worstJson, values, if_pos]
      · rfl
      · simp [levels]
    · have kept := (tree.mapTimes_eq_self_iff.mp same) tree tree.mem_preorder_self
      rw [other, time] at kept
      cases kept

end Aggregate

end TimingBoard
