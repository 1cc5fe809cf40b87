import TimingBoard.Proofs.Message.Rebuild
import TimingBoard.Proofs.Source.Line
import TimingBoard.Proofs.Tree.Canonical

namespace TimingBoard

/-! Which lines become a tree.

Times are checked once the tree of a message stands, so a listed node is checked only if the walk from
the first root comes to it.  An unusable time there refuses the whole line; anywhere else in the list
it is never looked at. -/

open Relation
open TimingTree (isDuration)

namespace Message

variable {message : Message} {producer : String}

mutual

theorem preorder_fill (message : Message) (producer : String) : (tree : PlaceTree) →
    (message.fill producer tree).preorder.map (·.time) =
      tree.places.map fun place => (message.nodeAt place).time
  | .node place below => by
      rw [fill, TimingTree.preorder, PlaceTree.places, List.map_cons, List.map_cons,
        preorderEach_fillEach message producer below]

theorem preorderEach_fillEach (message : Message) (producer : String) :
    (trees : List PlaceTree) →
      (TimingTree.preorderEach (message.fillEach producer trees)).map (·.time) =
        (PlaceTree.placesEach trees).map fun place => (message.nodeAt place).time
  | [] => rfl
  | tree :: rest => by
      rw [fillEach, TimingTree.preorderEach, PlaceTree.placesEach, List.map_append, List.map_append,
        preorder_fill message producer tree, preorderEach_fillEach message producer rest]

end

theorem FirstRoot.unique {root other : Nat} (first : message.FirstRoot root)
    (again : message.FirstRoot other) : root = other := by
  rcases Nat.lt_trichotomy root other with before | same | after
  · exact absurd (again.2.2 root before) first.2.1
  · exact same
  · exact absurd (first.2.2 other after) again.2.1

/-- Every node that the walk from the first root comes to has a time that can have been measured. -/
def Measured (message : Message) : Prop :=
  ∃ root, message.FirstRoot root ∧
    ∀ place, ReflTransGen message.Edge root place → isDuration (message.nodeAt place).time = true

theorem Rebuilt.measured_iff {root : Nat} {places : PlaceTree} {raw : TimingTree}
    (rebuilt : message.Rebuilt root places raw) :
    message.Measured ↔ ∀ node ∈ raw.preorder, isDuration node.time = true := by
  have same : raw.preorder.map (·.time) =
      places.places.map fun place => (message.nodeAt place).time := by
    rw [rebuilt.filled, preorder_fill]
  have times : (∀ node ∈ raw.preorder, isDuration node.time = true) ↔
      ∀ place ∈ places.places, isDuration (message.nodeAt place).time = true := by
    calc (∀ node ∈ raw.preorder, isDuration node.time = true)
      _ ↔ ∀ time ∈ raw.preorder.map (·.time), isDuration time = true := by
          rw [List.forall_mem_map]
      _ ↔ ∀ place ∈ places.places, isDuration (message.nodeAt place).time = true := by
          rw [same, List.forall_mem_map]
  rw [times]
  constructor
  · rintro ⟨first, isFirst, measured⟩ place member
    obtain rfl := isFirst.unique rebuilt.firstRoot
    exact measured place ((rebuilt.reached place).mp member)
  · intro measured
    exact ⟨root, rebuilt.firstRoot, fun place path =>
      measured place ((rebuilt.reached place).mpr path)⟩

theorem toTree_eq_ok_iff {tree : TimingTree} :
    message.toTree = .ok tree ↔
      ∃ raw, message.toRaw = .ok raw ∧ TimingTree.ofSnapshot raw = .ok tree := by
  rw [toTree]
  cases message.toRaw with
  | error fault => simp [Except.bind]
  | ok raw =>
      constructor
      · intro taken
        exact ⟨raw, rfl, taken⟩
      · rintro ⟨_, ⟨rfl⟩, taken⟩
        exact taken

theorem toTree_ok_iff (message : Message) :
    (∃ tree, message.toTree = .ok tree) ↔
      (∀ node ∈ message.nodes, node.id ≠ 0) ∧ message.Measured := by
  simp only [toTree_eq_ok_iff]
  by_cases unreserved : ∀ node ∈ message.nodes, node.id ≠ 0
  · rcases toRaw_of_unreserved unreserved with ⟨rootless, refused⟩ | ⟨root, rest, found, built⟩
    · refine iff_of_false (by simp [refused]) ?_
      rintro ⟨-, root, ⟨inside, orphan, -⟩, -⟩
      have all := (roots_eq_nil_iff unreserved).mp rootless
      refine orphan (all _ ?_)
      rw [nodeAt_eq (List.getElem?_eq_getElem inside)]
      exact List.getElem_mem inside
    · obtain ⟨places, rebuilt⟩ := rebuilt_of_roots unreserved found
      rw [rebuilt.measured_iff]
      constructor
      · rintro ⟨tree, raw, same, settled⟩
        cases built.symm.trans same
        exact ⟨unreserved, (TimingTree.settle_eq_ok_iff.mp settled).1⟩
      · rintro ⟨-, measured⟩
        exact ⟨_, _, built, TimingTree.settle_eq_ok_iff.mpr ⟨measured, rfl⟩⟩
  · refine iff_of_false ?_ fun both => unreserved both.1
    rintro ⟨tree, raw, taken, -⟩
    cases found : message.nodes.find? (·.id == 0) with
    | none => exact unreserved (by simpa using found)
    | some node =>
        rw [toRaw_of_reserved found] at taken
        cases taken

end Message

theorem mapError_eq_ok_iff {ε δ α : Type} {result : Except ε α} {change : ε → δ} {value : α} :
    result.mapError change = .ok value ↔ result = .ok value := by
  cases result <;> simp [Except.mapError]

theorem readLine_eq_ok_iff {line : String} {tree : TimingTree} :
    (readLine line).result = .ok tree ↔
      ∃ message, Message.ofJson line = .ok message ∧ message.toTree = .ok tree := by
  rw [readLine]
  cases Message.ofJson line with
  | error failure => simp
  | ok message => simp [mapError_eq_ok_iff]

theorem readLine_ok_iff (line : String) :
    (∃ tree, (readLine line).result = .ok tree) ↔
      ∃ message, Message.ofJson line = .ok message ∧ (∀ node ∈ message.nodes, node.id ≠ 0) ∧
        message.Measured := by
  simp only [readLine_eq_ok_iff]
  rw [exists_comm]
  simp only [exists_and_left, Message.toTree_ok_iff]

theorem Tail.ofLine_of_refused (topic : String) {bytes : List UInt8} {text : String} {error : Error}
    (decoded : Utf8.decode? bytes = some text) (nonblank : Text.trim text ≠ "")
    (refused : (readLine (Text.trim text)).result = .error error) :
    (ofLine topic bytes).filterMap Delivery.tree? = [] ∧
      warnings (ofLine topic bytes) = [skipNote "malformed message" topic error.message] := by
  rw [trees_ofLine, warnings_ofLine, treeOf?, warningOf?, decoded]
  simp [nonblank, refused, Except.toOption]

theorem Message.ofJson_empty : Message.ofJson "" = .error .truncated := rfl

/-- A line becomes a tree iff its message can be read, uses no reserved id, has a root, and has usable
times wherever the walk from the first root leads.  In particular a time below zero there refuses the
line: it delivers one warning and no tree. -/
theorem readLine_checks_reached (line : String) :
    ((∃ tree, (readLine line).result = .ok tree) ↔
      ∃ message, Message.ofJson line = .ok message ∧ (∀ node ∈ message.nodes, node.id ≠ 0) ∧
        message.Measured) ∧
    ∀ message root place, Message.ofJson line = .ok message → message.FirstRoot root →
      ReflTransGen message.Edge root place → (message.nodeAt place).time.lt .zero = true →
        ∃ error, (readLine line).result = .error error ∧
          ∀ topic bytes text, Utf8.decode? bytes = some text → Text.trim text = line →
            (Tail.ofLine topic bytes).filterMap Delivery.tree? = [] ∧
              Tail.warnings (Tail.ofLine topic bytes) =
                [Tail.skipNote "malformed message" topic error.message] := by
  refine ⟨readLine_ok_iff line, ?_⟩
  intro message root place decoded first reached negative
  have unmeasured : ¬message.Measured := by
    rintro ⟨other, isFirst, measured⟩
    obtain rfl := first.unique isFirst
    have usable := measured place reached
    simp [isDuration, negative] at usable
  cases result : (readLine line).result with
  | ok tree =>
      obtain ⟨other, same, -, measured⟩ := (readLine_ok_iff line).mp ⟨tree, result⟩
      cases decoded.symm.trans same
      exact absurd measured unmeasured
  | error error =>
      refine ⟨error, rfl, ?_⟩
      rintro topic bytes text utf8 rfl
      have nonblank : Text.trim text ≠ "" := by
        intro blank
        rw [blank, Message.ofJson_empty] at decoded
        cases decoded
      exact Tail.ofLine_of_refused topic utf8 nonblank result

/-- A message whose second node is a second root. -/
def strayRoot : String :=
  "\x7b\"nodes\":[\x7b\"id\":1,\"name\":\"call\",\"processing_time\":5\x7d," ++
    "\x7b\"id\":2,\"name\":\"stray\",\"processing_time\":-1\x7d]\x7d"

def strayMessage : Message :=
  ⟨[⟨1, "call", ⟨false, 0x4014000000000000⟩, 0, ""⟩, ⟨2, "stray", ⟨true, 0x3FF0000000000000⟩, 0, ""⟩]⟩

theorem exists_ok_of_toOption {ε α β : Type} {result : Except ε α} {view : α → β} {seen : β}
    (found : result.toOption.map view = some seen) : ∃ value, result = .ok value ∧ view value = seen := by
  cases result with
  | error _ => cases found
  | ok value => exact ⟨value, rfl, Option.some.inj found⟩

/-- The time of the second root is below zero, and nobody looks at it. -/
theorem readLine_strayRoot :
    ∃ message, Message.ofJson strayRoot = .ok message ∧
      (∃ node ∈ message.nodes, node.time.lt .zero = true) ∧
      (readLine strayRoot).result = .ok ⟨"call", "call", ⟨false, 0x4014000000000000⟩, none, []⟩ := by
  have decoded : (Message.ofJson strayRoot).toOption.map id = some strayMessage := by decide +kernel
  obtain ⟨message, read, same⟩ := exists_ok_of_toOption decoded
  have tree : message.toTree = .ok ⟨"call", "call", ⟨false, 0x4014000000000000⟩, none, []⟩ := by
    rw [show message = strayMessage from same]
    rfl
  refine ⟨message, read, ?_, ?_⟩
  · rw [show message = strayMessage from same]
    decide +kernel
  · exact readLine_eq_ok_iff.mpr ⟨message, read, tree⟩

end TimingBoard
