import Mathlib.Data.List.Basic
import TimingBoard.Source.Tail

namespace TimingBoard

/-! What a line of a topic's file delivers: a tree, a warning or, if it is blank, nothing. -/

theorem Message.level_of_mem_notices {message : Message} {record : LogRecord}
    (member : record ∈ message.notices) : record.level = .debug := by
  unfold Message.notices at member
  split at member
  · contradiction
  · split at member
    · exact List.mem_singleton.mp member ▸ rfl
    · contradiction

theorem level_of_mem_notices {line : String} {record : LogRecord}
    (member : record ∈ (readLine line).notices) : record.level = .debug := by
  unfold readLine at member
  split at member
  · contradiction
  · exact Message.level_of_mem_notices member

namespace Tail

variable {topic : String}

/-- The tree that a line brings: a message in UTF-8, blanks around it left out. -/
def treeOf? (line : List UInt8) : Option TimingTree :=
  (Utf8.decode? line).bind fun text =>
    if Text.trim text = "" then none else (readLine (Text.trim text)).result.toOption

/-- The warning about a line that is no UTF-8, or neither blank nor a message. -/
def warningOf? (topic : String) (line : List UInt8) : Option LogRecord :=
  match Utf8.decode? line with
  | none => some (skipNote "non UTF-8 line" topic (Utf8.flaw line).message)
  | some text =>
      if Text.trim text = "" then none
      else
        match (readLine (Text.trim text)).result with
        | .ok _ => none
        | .error error => some (skipNote "malformed message" topic error.message)

def warnings (deliveries : List Delivery) : List LogRecord :=
  (deliveries.filterMap Delivery.note?).filter fun record => record.level = .warn

theorem trees_ofLine (topic : String) (line : List UInt8) :
    (ofLine topic line).filterMap Delivery.tree? = (treeOf? line).toList := by
  unfold ofLine treeOf?
  cases Utf8.decode? line with
  | none => rfl
  | some text =>
      simp only [ofText, Option.bind_some]
      by_cases blank : Text.trim text = ""
      · simp [blank]
      · have noted : List.filterMap Delivery.tree?
            ((readLine (Text.trim text)).notices.map Delivery.note) = [] := by
          simp [List.filterMap_map, Function.comp_def, Delivery.tree?]
        cases (readLine (Text.trim text)).result <;> simp [blank, noted, Delivery.tree?, Except.toOption]

theorem warnings_ofLine (topic : String) (line : List UInt8) :
    warnings (ofLine topic line) = (warningOf? topic line).toList := by
  unfold ofLine warningOf?
  cases Utf8.decode? line with
  | none => rfl
  | some text =>
      simp only [ofText, warnings]
      by_cases blank : Text.trim text = ""
      · simp [blank]
      · have noted : List.filter (fun record => record.level = .warn)
            (readLine (Text.trim text)).notices = [] := by
          rw [List.filter_eq_nil_iff]
          intro record member
          simp [level_of_mem_notices member]
        have notes : List.filterMap Delivery.note?
            ((readLine (Text.trim text)).notices.map Delivery.note) =
              (readLine (Text.trim text)).notices := by
          simp [List.filterMap_map, Function.comp_def, Delivery.note?]
        cases (readLine (Text.trim text)).result <;>
          simp [blank, noted, notes, Delivery.note?, skipNote]

theorem ofLine_of_blank {line : List UInt8} {text : String}
    (decoded : Utf8.decode? line = some text) (blank : Text.trim text = "") :
    ofLine topic line = [] := by
  simp [ofLine, decoded, ofText, blank]

theorem trees_flatMap_ofLine (topic : String) (lines : List (List UInt8)) :
    (lines.flatMap (ofLine topic)).filterMap Delivery.tree? = lines.filterMap treeOf? := by
  simp only [List.filterMap_flatMap, trees_ofLine, ← List.filterMap_eq_flatMap_toList]

theorem warnings_flatMap_ofLine (topic : String) (lines : List (List UInt8)) :
    warnings (lines.flatMap (ofLine topic)) = lines.filterMap (warningOf? topic) := by
  have each := warnings_ofLine topic
  unfold warnings at each ⊢
  simp only [List.filterMap_flatMap, List.filter_flatMap, each, ← List.filterMap_eq_flatMap_toList]

end Tail

end TimingBoard
