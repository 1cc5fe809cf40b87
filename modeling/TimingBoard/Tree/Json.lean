import TimingBoard.Tree.Basic
import TimingBoard.Json.Record
import TimingBoard.Json.Writer

namespace TimingBoard.TimingTree

/-! The JSON form of a tree: an object of its five fields, children nested. -/

open Json

mutual

def toValue : TimingTree → Value
  | ⟨name, label, time, comment, children⟩ =>
      .object
        [(some "name", .text (some name)),
         (some "label", .text (some label)),
         (some "processing_time",
           if time.isFinite then .number (Numeral.ofBinary64 time) else .null),
         (some "comment", match comment with
           | some text => .text (some text)
           | none => .null),
         (some "children", .array (toValues children) none)]
        none

def toValues : List TimingTree → List Value
  | [] => []
  | tree :: rest => tree.toValue :: toValues rest

end

def toJson (tree : TimingTree) : String := tree.toValue.toText

def listToJson (trees : List TimingTree) : String := (Value.array (toValues trees) none).toText

structure Draft where
  name : Option String := none
  label : Option String := none
  time : Option Binary64 := none
  comment : Option (Option String) := none
  children : Option (List TimingTree) := none

namespace Draft

def finish (draft : Draft) : Except Failure TimingTree := do
  let name ← required draft.name
  let label ← required draft.label
  let time ← required draft.time
  pure ⟨name, label, time, draft.comment.getD none, draft.children.getD []⟩

/-- The fields in their declared order, given how children are read. -/
def fields (readChildren : Value → Except Failure (List TimingTree)) : List (RecordField Draft) :=
  [{ name := "name"
     optional := false
     isSet := fun draft => draft.name.isSome
     set := fun value draft => return { draft with name := some (← value.asText) } },
   { name := "label"
     optional := false
     isSet := fun draft => draft.label.isSome
     set := fun value draft => return { draft with label := some (← value.asText) } },
   { name := "processing_time"
     optional := false
     isSet := fun draft => draft.time.isSome
     set := fun value draft => return { draft with time := some (← value.asNumber) } },
   { name := "comment"
     optional := true
     isSet := fun draft => draft.comment.isSome
     set := fun value draft =>
      return { draft with comment := some (← value.asOptional Value.asText) } },
   { name := "children"
     optional := true
     isSet := fun draft => draft.children.isSome
     set := fun value draft => return { draft with children := some (← readChildren value) } }]

end Draft

def nodeOfValue (readChildren : Value → Except Failure (List TimingTree)) (budget : Nat)
    (value : Value) : Except Failure TimingTree := do
  let draft ← readRecord (Draft.fields readChildren) {} budget value
  draft.finish

/-- Reads a tree while `budget` more containers may be opened.  A node opens one and the list of its
children another. -/
def ofValue : (budget : Nat) → Value → Except Failure TimingTree
  | inner + 2, value => nodeOfValue (Value.asList (ofValue inner) (inner + 1)) (inner + 2) value
  | budget, value => nodeOfValue (Value.asList (fun child => .error child.mismatch) 0) budget value

def ofJson (text : String) : Except Failure TimingTree := decode (ofValue nestingLimit) text

def listOfJson (text : String) : Except Failure (List TimingTree) :=
  decode (Value.asList (ofValue (nestingLimit - 1)) nestingLimit) text

end TimingBoard.TimingTree
