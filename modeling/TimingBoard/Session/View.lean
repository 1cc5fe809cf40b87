namespace TimingBoard

/-! View flags, and why a dashboard stops. -/

structure ViewFlags where
  comments : Bool := false
  summarize : Bool := true
deriving DecidableEq, Repr

namespace ViewFlags

def toggleComments (flags : ViewFlags) : ViewFlags := { flags with comments := !flags.comments }

def toggleSummarize (flags : ViewFlags) : ViewFlags := { flags with summarize := !flags.summarize }

@[simp]
theorem toggleComments_toggleComments (flags : ViewFlags) :
    flags.toggleComments.toggleComments = flags := by
  simp [toggleComments]

@[simp]
theorem toggleSummarize_toggleSummarize (flags : ViewFlags) :
    flags.toggleSummarize.toggleSummarize = flags := by
  simp [toggleSummarize]

end ViewFlags

inductive StopReason where
  | plain
  /-- Print the report and copy the worst cases. -/
  | report
  /-- Stopped from outside, or before a topic was chosen. -/
  | interrupt
deriving DecidableEq, Repr

namespace StopReason

def copiesWorst (reason : StopReason) : Bool := reason == .report

def name : StopReason → String
  | .plain => "Plain"
  | .report => "Report"
  | .interrupt => "Interrupt"

end StopReason

end TimingBoard
