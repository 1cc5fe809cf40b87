import TimingBoard.Message.Basic
import TimingBoard.Json.Record

namespace TimingBoard

/-! Message lines: a message as one line of JSON. -/

open Json

structure MessageNode.Draft where
  id : Option Nat := none
  name : Option String := none
  time : Option Binary64 := none
  parent : Option Nat := none
  comment : Option String := none

namespace MessageNode

def Draft.finish (draft : Draft) : Except Failure MessageNode := do
  let id ← required draft.id
  let name ← required draft.name
  let time ← required draft.time
  pure ⟨id, name, time, draft.parent.getD 0, draft.comment.getD ""⟩

def fields : List (RecordField Draft) :=
  [{ name := "id"
     optional := false
     isSet := fun draft => draft.id.isSome
     set := fun value draft => return { draft with id := some (← value.asNatural) } },
   { name := "name"
     optional := false
     isSet := fun draft => draft.name.isSome
     set := fun value draft => return { draft with name := some (← value.asText) } },
   { name := "processing_time"
     optional := false
     isSet := fun draft => draft.time.isSome
     set := fun value draft => return { draft with time := some (← value.asNumber) } },
   { name := "parent_id"
     optional := true
     isSet := fun draft => draft.parent.isSome
     set := fun value draft => return { draft with parent := some (← value.asNatural) } },
   { name := "comment"
     optional := true
     isSet := fun draft => draft.comment.isSome
     set := fun value draft => return { draft with comment := some (← value.asText) } }]

def ofValue (budget : Nat) (value : Value) : Except Failure MessageNode := do
  let draft ← readRecord fields {} budget value
  draft.finish

end MessageNode

namespace Message

def fields (budget : Nat) : List (RecordField (Option (List MessageNode))) :=
  [{ name := "nodes"
     optional := false
     isSet := Option.isSome
     set := fun value _ =>
      return some (← value.asList (MessageNode.ofValue (budget - 1)) budget) }]

def ofValue (budget : Nat) (value : Value) : Except Failure Message := do
  let nodes ← readRecord (fields (budget - 1)) none budget value
  return ⟨← required nodes⟩

def ofJson (text : String) : Except Failure Message := decode (ofValue nestingLimit) text

end Message

structure Reading where
  result : Except Error TimingTree
  notices : List LogRecord

def readLine (line : String) : Reading :=
  match Message.ofJson line with
  | .error failure => ⟨.error (.json failure), []⟩
  | .ok message => ⟨message.toTree.mapError .snapshot, message.notices⟩

end TimingBoard
