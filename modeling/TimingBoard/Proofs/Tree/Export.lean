import TimingBoard.Proofs.Json.Number
import TimingBoard.Proofs.Json.RoundTrip
import TimingBoard.Proofs.Tree.Preorder
import TimingBoard.Tree.Json

namespace TimingBoard.TimingTree

/-! Reading back the text of a tree.

Each node opens two containers, itself and the list of its children, so that the limit of open
containers bounds the levels of a tree that can be read.  All else that reading may change are the
times, which come back as what their tokens stand for. -/

open Json

mutual

/-- How many nodes there are on the longest way down. -/
def levels : TimingTree → Nat
  | ⟨_, _, _, _, children⟩ => levelsEach children + 1

def levelsEach : List TimingTree → Nat
  | [] => 0
  | tree :: rest => max tree.levels (levelsEach rest)

end

mutual

/-- The same tree with other times. -/
def mapTimes (change : Binary64 → Binary64) : TimingTree → TimingTree
  | ⟨name, label, time, comment, children⟩ =>
      ⟨name, label, change time, comment, mapTimesEach change children⟩

def mapTimesEach (change : Binary64 → Binary64) : List TimingTree → List TimingTree
  | [] => []
  | tree :: rest => tree.mapTimes change :: mapTimesEach change rest

end

mutual

/-- Each time as what its token stands for, if all tokens stand for a number. -/
def reread? : TimingTree → Option TimingTree
  | ⟨name, label, time, comment, children⟩ => do
      let time ← (Numeral.ofBinary64 time).number?
      let children ← rereadEach? children
      some ⟨name, label, time, comment, children⟩

def rereadEach? : List TimingTree → Option (List TimingTree)
  | [] => some []
  | tree :: rest => do
      let first ← tree.reread?
      let others ← rereadEach? rest
      some (first :: others)

end

mutual

theorem toValue_spelled : (tree : TimingTree) → tree.toValue.Spelled
  | ⟨name, label, time, comment, children⟩ => by
      have number : (if time.isFinite then Value.number (Numeral.ofBinary64 time)
          else Value.null).Spelled := by
        split
        · exact Numeral.ofBinary64_proper time
        · trivial
      cases comment <;>
        exact ⟨rfl, rfl, rfl, rfl, rfl, rfl, number, rfl, by trivial, rfl,
          ⟨rfl, toValues_spelled children⟩, trivial⟩

theorem toValues_spelled : (trees : List TimingTree) → ElementsSpelled (toValues trees)
  | [] => trivial
  | tree :: rest => ⟨tree.toValue_spelled, toValues_spelled rest⟩

end

/-- A node is read field by field, in the order in which its fields are written. -/
theorem nodeOfValue_toValue (readChildren : Value → Except Failure (List TimingTree)) (budget : Nat)
    {name label : String} {time : Binary64} {comment : Option String} {children : List TimingTree}
    (finite : time.isFinite = true) :
    nodeOfValue readChildren (budget + 1) (toValue ⟨name, label, time, comment, children⟩) = (do
      let time ← orMalformed (Numeral.ofBinary64 time).number?
      let children ← readChildren (.array (toValues children) none)
      pure ⟨name, label, time, comment, children⟩) := by
  rw [← Value.asNumber_number]
  cases comment <;> cases read : Value.asNumber (.number (Numeral.ofBinary64 time)) <;>
    cases below : readChildren (.array (toValues children) none) <;>
    simp [nodeOfValue, toValue, finite, readRecord, readMembers, Draft.fields, Value.asText, read,
      below, Value.asOptional, bind, Except.bind, pure, Except.pure, Except.map, Draft.finish,
      required, Ending.read]

theorem levelsEach_cons_le {tree : TimingTree} {rest : List TimingTree} {allowed : Nat} :
    levelsEach (tree :: rest) ≤ allowed ↔ tree.levels ≤ allowed ∧ levelsEach rest ≤ allowed :=
  Nat.max_le

/-- What reading gives with room for so many levels. -/
def within (allowed : Nat) (tree : TimingTree) : Option TimingTree :=
  if tree.levels ≤ allowed then tree.reread? else none

def withinEach (allowed : Nat) (trees : List TimingTree) : Option (List TimingTree) :=
  if levelsEach trees ≤ allowed then rereadEach? trees else none

theorem withinEach_cons (allowed : Nat) (tree : TimingTree) (rest : List TimingTree) :
    withinEach allowed (tree :: rest) = (do
      let first ← tree.within allowed
      let others ← withinEach allowed rest
      some (first :: others)) := by
  simp only [withinEach, within, levelsEach_cons_le, rereadEach?]
  by_cases shallow : tree.levels ≤ allowed <;>
    by_cases others : levelsEach rest ≤ allowed <;>
    cases tree.reread? <;> simp [shallow, others]

theorem within_succ (allowed : Nat) (name label : String) (time : Binary64)
    (comment : Option String) (children : List TimingTree) :
    within (allowed + 1) ⟨name, label, time, comment, children⟩ = (do
      let time ← (Numeral.ofBinary64 time).number?
      let children ← withinEach allowed children
      some ⟨name, label, time, comment, children⟩) := by
  simp only [within, withinEach, levels, reread?, Nat.add_le_add_iff_right]
  by_cases shallow : levelsEach children ≤ allowed <;>
    cases (Numeral.ofBinary64 time).number? <;> simp [shallow]

mutual

/-- Each level spends two containers of the budget.  One that is left over opens a node, but not the
list of its children. -/
theorem ofValue_toValue {spare : Nat} (few : spare < 2) : (tree : TimingTree) → (allowed : Nat) →
    (∀ node ∈ tree.preorder, node.time.isFinite = true) →
      ofValue (2 * allowed + spare) tree.toValue = orMalformed (tree.within allowed)
  | ⟨name, label, time, comment, children⟩, allowed, finite => by
      rw [preorder, List.forall_mem_cons] at finite
      cases allowed with
      | zero =>
          have nothing : within 0 ⟨name, label, time, comment, children⟩ = none :=
            if_neg (Nat.not_succ_le_zero _)
          rw [nothing]
          rcases Nat.le_one_iff_eq_zero_or_eq_one.mp (Nat.le_of_lt_succ few) with rfl | rfl
          · rfl
          · have alone (value : Value) : ofValue (2 * 0 + 1) value =
                nodeOfValue (Value.asList (fun child => .error child.mismatch) 0) (0 + 1) value := rfl
            rw [alone, nodeOfValue_toValue _ _ finite.1]
            cases (Numeral.ofBinary64 time).number? <;> rfl
      | succ allowed =>
          rw [Nat.mul_succ, Nat.add_right_comm, ofValue, nodeOfValue_toValue _ _ finite.1,
            within_succ, orMalformed_bind]
          simp only [Value.asList_closed, ofValues_toValues few children allowed finite.2,
            orMalformed_bind]
          rfl

theorem ofValues_toValues {spare : Nat} (few : spare < 2) : (trees : List TimingTree) →
    (allowed : Nat) → (∀ node ∈ preorderEach trees, node.time.isFinite = true) →
      readAll (ofValue (2 * allowed + spare)) (toValues trees) =
        orMalformed (withinEach allowed trees)
  | [], allowed, _ => by
      have nothing : withinEach allowed [] = some [] := if_pos (Nat.zero_le allowed)
      rw [nothing]
      rfl
  | tree :: rest, allowed, finite => by
      rw [preorderEach, List.forall_mem_append] at finite
      rw [toValues, readAll, ofValue_toValue few tree allowed finite.1,
        ofValues_toValues few rest allowed finite.2, withinEach_cons, orMalformed_bind]
      simp only [orMalformed_bind]
      rfl

end

theorem ofJson_toJson_within (tree : TimingTree)
    (finite : ∀ node ∈ tree.preorder, node.time.isFinite = true) :
    ofJson tree.toJson = orMalformed (tree.within 63) := by
  have room : nestingLimit = 2 * 63 + 1 := rfl
  rw [ofJson, toJson, decode_toText tree.toValue_spelled, room,
    ofValue_toValue (by decide) tree 63 finite]

/-- The text of a time, as it stands in the text of a tree. -/
def timeText (time : Binary64) : String := (Value.number (Numeral.ofBinary64 time)).toText

theorem decode_timeText (time : Binary64) :
    decode Value.asNumber (timeText time) = orMalformed (Numeral.ofBinary64 time).number? := by
  have spelled : (Value.number (Numeral.ofBinary64 time)).Spelled := Numeral.ofBinary64_proper time
  rw [timeText, decode_toText spelled, Value.asNumber_number]

section Reread

variable {reread : Binary64 → Binary64}

mutual

theorem reread?_eq_mapTimes : (tree : TimingTree) →
    (∀ node ∈ tree.preorder, (Numeral.ofBinary64 node.time).number? = some (reread node.time)) →
      tree.reread? = some (tree.mapTimes reread)
  | ⟨name, label, time, comment, children⟩, reads => by
      rw [preorder, List.forall_mem_cons] at reads
      simp [reread?, mapTimes, reads.1, rereadEach?_eq_mapTimesEach children reads.2]

theorem rereadEach?_eq_mapTimesEach : (trees : List TimingTree) →
    (∀ node ∈ preorderEach trees,
      (Numeral.ofBinary64 node.time).number? = some (reread node.time)) →
      rereadEach? trees = some (mapTimesEach reread trees)
  | [], _ => rfl
  | tree :: rest, reads => by
      rw [preorderEach, List.forall_mem_append] at reads
      simp [rereadEach?, mapTimesEach, reread?_eq_mapTimes tree reads.1,
        rereadEach?_eq_mapTimesEach rest reads.2]

end

end Reread

mutual

theorem mapTimes_eq_self_iff {change : Binary64 → Binary64} : (tree : TimingTree) →
    (tree.mapTimes change = tree ↔ ∀ node ∈ tree.preorder, change node.time = node.time)
  | ⟨name, label, time, comment, children⟩ => by
      rw [mapTimes, preorder, List.forall_mem_cons, ← mapTimesEach_eq_self_iff children]
      simp

theorem mapTimesEach_eq_self_iff {change : Binary64 → Binary64} : (trees : List TimingTree) →
    (mapTimesEach change trees = trees ↔ ∀ node ∈ preorderEach trees, change node.time = node.time)
  | [] => by simp [mapTimesEach, preorderEach]
  | tree :: rest => by
      rw [mapTimesEach, preorderEach, List.forall_mem_append, List.cons.injEq,
        mapTimes_eq_self_iff tree, mapTimesEach_eq_self_iff rest]

end

theorem mapTimes_id (tree : TimingTree) : tree.mapTimes id = tree :=
  tree.mapTimes_eq_self_iff.mpr fun _ _ => rfl

/-- A tree of at most 63 levels is read back from its text, up to what its times are read as.  No
deeper tree is. -/
theorem ofJson_toJson (tree : TimingTree)
    (finite : ∀ node ∈ tree.preorder, node.time.isFinite = true) :
    (tree.levels ≤ 63 → ∀ reread : Binary64 → Binary64,
        (∀ node ∈ tree.preorder,
          decode Value.asNumber (timeText node.time) = .ok (reread node.time)) →
          ofJson tree.toJson = .ok (tree.mapTimes reread)) ∧
      (tree.levels ≤ 63 →
        (∀ node ∈ tree.preorder, decode Value.asNumber (timeText node.time) = .ok node.time) →
          ofJson tree.toJson = .ok tree) ∧
      (63 < tree.levels → ofJson tree.toJson = .error .malformed) := by
  simp only [decode_timeText, orMalformed_eq_ok]
  rw [ofJson_toJson_within tree finite]
  have shallow (levels : tree.levels ≤ 63) (reread : Binary64 → Binary64)
      (reads : ∀ node ∈ tree.preorder,
        (Numeral.ofBinary64 node.time).number? = some (reread node.time)) :
      orMalformed (tree.within 63) = .ok (tree.mapTimes reread) := by
    rw [within, if_pos levels, reread?_eq_mapTimes tree reads, orMalformed]
  refine ⟨shallow, fun levels reads => ?_, fun deep => ?_⟩
  · exact (shallow levels id reads).trans (congrArg Except.ok tree.mapTimes_id)
  · rw [within, if_neg (Nat.not_le.mpr deep), orMalformed]

/-- A tree with the time 0.20700863088524218, which is read as its lower neighbour, a part of it whose
times -0.0 and 1e+16 are read as they are, and a tree of 64 levels. -/
theorem ofJson_toJson_neighbour :
    let uneven : Binary64 := ⟨false, 4596626292233873450⟩
    let part : TimingTree := ⟨"", "\u0001\n🌲", ⟨true, 0⟩, none,
      [⟨"", "/", ⟨false, 4846369599423283200⟩, some "\t\x7f", []⟩]⟩
    let tree : TimingTree := ⟨"say \"\\\"", "", uneven, some "", [part]⟩
    let reread (time : Binary64) : Binary64 :=
      if time = uneven then ⟨false, 4596626292233873449⟩ else time
    let deep : TimingTree := Nat.repeat (fun below => ⟨"a", "b", .zero, none, [below]⟩) 63
      ⟨"a", "b", .zero, none, []⟩
    (∀ node ∈ tree.preorder ++ deep.preorder, node.time.isFinite = true) ∧
      (∀ node ∈ tree.preorder,
        decode Value.asNumber (timeText node.time) = .ok (reread node.time)) ∧
      tree.levels = 3 ∧ ofJson tree.toJson = .ok (tree.mapTimes reread) ∧
      ofJson part.toJson = .ok part ∧
      63 < deep.levels ∧ ofJson deep.toJson = .error .malformed := by
  intro uneven part tree reread deep
  have finite : ∀ node ∈ tree.preorder ++ deep.preorder, node.time.isFinite = true := by
    decide +kernel
  have reads : ∀ node ∈ tree.preorder,
      decode Value.asNumber (timeText node.time) = .ok (reread node.time) := by
    simp only [decode_timeText, orMalformed_eq_ok]
    decide +kernel
  have partReads : ∀ node ∈ part.preorder,
      decode Value.asNumber (timeText node.time) = .ok node.time := by
    simp only [decode_timeText, orMalformed_eq_ok]
    decide +kernel
  have partFinite : ∀ node ∈ part.preorder, node.time.isFinite = true := by decide +kernel
  have levels : tree.levels = 3 := by decide +kernel
  have partLevels : part.levels ≤ 63 := by decide +kernel
  have deepLevels : 63 < deep.levels := by decide +kernel
  rw [List.forall_mem_append] at finite
  exact ⟨List.forall_mem_append.mpr finite, reads, levels,
    (ofJson_toJson tree finite.1).1 (by rw [levels]; decide) reread reads,
    (ofJson_toJson part partFinite).2.1 partLevels partReads, deepLevels,
    (ofJson_toJson deep finite.2).2.2 deepLevels⟩

end TimingBoard.TimingTree
