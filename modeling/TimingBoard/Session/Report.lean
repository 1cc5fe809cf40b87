import TimingBoard.Session.Program
import TimingBoard.Tree.Outline

namespace TimingBoard

/-! The report at the end of a session: totals, then worst cases. -/

structure ReportOutcome where
  exitCode : Nat
  /-- The worst cases reached the clipboard. -/
  copiedWorst : Bool
deriving DecidableEq, Repr

namespace Report

def totalHeading : String := "🌲 Total Processing Time Tree 🌲"

def worstHeading : String := "⏰ Worst Case Execution Time ⏰"

def heading (bold : Bool) (text : String) : String :=
  if bold then "\x1b[1m" ++ text ++ "\x1b[0m\n" else text ++ "\n"

/-- The pieces of a section in the order they are written. -/
def sectionParts (bold : Bool) (title : String) (trees : List TimingTree) (flags : ViewFlags) :
    List String :=
  heading bold title :: trees.map (·.text false flags.summarize)

/-- The pieces of a report.  Comments are never part of it. -/
def parts (bold : Bool) (aggregate : Aggregate) (flags : ViewFlags) : List String :=
  (match aggregate.total with
    | some total => sectionParts bold totalHeading total.values flags
    | none => []) ++
    sectionParts bold worstHeading aggregate.worst.values flags

def text (bold : Bool) (aggregate : Aggregate) (flags : ViewFlags) : String :=
  String.join (parts bold aggregate flags)

/-- Writes one piece after the other, up to one that fails. -/
def writeAll : List String → Program Unit
  | [] => pure ()
  | part :: rest => do
      Program.ofExcept (← Program.request (.write part))
      writeAll rest

/-- Copies the worst cases.  A failure is only noted. -/
def copyWorst (aggregate : Aggregate) : Program Bool := do
  match ← Program.request (.copy aggregate.worstJson) with
  | .answer () =>
      Program.info .report
        ("Copied " ++ toString aggregate.worst.size ++ " worst-case tree(s) to clipboard")
      pure true
  | .error error =>
      Program.log .report .warn ("Failed to copy worst-case report: " ++ error.message)
      pure false
  | .unwinding => .unwind

/-- Writes the report, then copies the worst cases if the stop reason asks for it.  Without trees
nothing is written. -/
def run (bold : Bool) (aggregate : Aggregate) (reason : StopReason) (flags : ViewFlags) :
    Program ReportOutcome :=
  if aggregate.isEmpty then do
    Program.info .report "No processing time tree received, nothing to report"
    pure ⟨1, false⟩
  else do
    writeAll (parts bold aggregate flags)
    Program.ofExcept (← Program.request .flush)
    let copied ← if reason.copiesWorst then copyWorst aggregate else pure false
    pure ⟨0, copied⟩

end Report

end TimingBoard
