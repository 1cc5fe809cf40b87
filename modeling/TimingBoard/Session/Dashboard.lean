import TimingBoard.Session.Program
import TimingBoard.Aggregate.LiveView

namespace TimingBoard

/-! The dashboard: one event in, one frame out, until an event stops it. -/

/-- How many seconds local time is ahead of UTC at a Unix time. -/
def TimeZone := Int → Int

def TimeZone.utc : TimeZone := fun _ => 0

structure Dashboard where
  title : String
  topic : Option String
  instanceName : String
  /-- Where times of day are shown in. -/
  zone : TimeZone := .utc
  flags : ViewFlags := {}
  /-- How the last copy of the view went. -/
  notice : Option String := none

inductive Step where
  | running (screen : TreeScreen)
  | stopped (reason : StopReason)
deriving DecidableEq, Repr

namespace Dashboard

def twoDigits (n : Nat) : String := if n < 10 then "0" ++ toString n else toString n

/-- The local time of day of a Unix time. -/
def clockText (zone : TimeZone) (seconds : Int) : String :=
  let time := ((seconds + zone seconds) % 86400).toNat
  twoDigits (time / 3600) ++ ":" ++ twoDigits (time / 60 % 60) ++ ":" ++ twoDigits (time % 60)

def onOff (flag : Bool) : String := if flag then "on" else "off"

def statusLine (board : Dashboard) (aggregate : Aggregate) : String :=
  " | ".intercalate
    ([board.instanceName,
      toString aggregate.latest.size ++ " producer(s)",
      toString aggregate.count ++ " message(s)",
      "updated " ++ (aggregate.stamp.map (clockText board.zone)).getD "never",
      "comments " ++ onOff board.flags.comments,
      "summarize " ++ onOff board.flags.summarize] ++ board.notice.toList)

def viewText (board : Dashboard) (aggregate : Aggregate) : String :=
  LiveView.text board.title board.topic aggregate.latest.values board.flags.comments
    board.flags.summarize

def frame (board : Dashboard) (aggregate : Aggregate) : TreeScreen :=
  ⟨board.viewText aggregate, board.statusLine aggregate⟩

/-- Copies the view.  A failure is shown and noted, and stops nothing. -/
def copyView (board : Dashboard) (aggregate : Aggregate) : Program Dashboard := do
  match ← Program.request (.copy (board.viewText aggregate)) with
  | .answer () => pure { board with notice := some "Copied view to clipboard" }
  | .error error =>
      Program.log .dashboard .warn ("Export failed: " ++ error.message)
      pure { board with notice := some error.message }
  | .unwinding => .unwind

/-- Takes one event.  An event that stops the dashboard shows nothing more. -/
def step (board : Dashboard) (event : Event) (aggregate : Aggregate) :
    Program (Step × Dashboard) :=
  match event.stop? with
  | some reason => pure (.stopped reason, board)
  | none => do
      let board := { board with flags := event.flags board.flags }
      let board ← if event = .copyView then board.copyView aggregate else pure board
      pure (.running (board.frame aggregate), board)

/-- What is left at `now` of a tick that began at `start`. -/
def remaining (tick start now : Nat) : Nat := tick - (now - start)

/-- When the tick after a frame began: now if the one that began at `start` is over. -/
def nextStart (tick start : Nat) : Program Nat := do
  if tick ≤ (← Program.request .now) - start then Program.request .now else pure start

/-- The rounds of a dashboard, in a tick that began at `start`.  A key ends the wait of its round
before the tick is over, and the next round waits for the rest of the tick. -/
def refreshFrom (tick : Nat) (board : Dashboard) (start : Nat) :
    (rounds : Nat) → Program (Outcome StopReason × Dashboard)
  | 0 => pure (.unfinished, board)
  | rounds + 1 => do
      if ← Program.request .interruptFlag then
        Program.info .dashboard "Interrupt received, stopping refresh loop"
        pure (.ok .interrupt, board)
      else
        let now ← Program.request .now
        match ← Program.request (.poll (remaining tick start now)) with
        | .error error => pure (.failed error, board)
        | .unwinding => pure (.unwound, board)
        | .answer key =>
            let aggregate ← Program.request .snapshot
            let (step, board) ← board.step (.ofKey? key) aggregate
            match step with
            | .stopped reason => do
                Program.info .dashboard ("Refresh loop stopped: " ++ reason.name)
                pure (.ok reason, board)
            | .running screen =>
                match ← Program.request (.draw (.trees screen)) with
                | .error error => pure (.failed error, board)
                | .unwinding => pure (.unwound, board)
                | .answer () => do
                    let start ← nextStart tick start
                    board.refreshFrom tick start rounds

/-- Runs until the dashboard stops or the terminal fails.  Each round reads at most one key, looks
at the aggregate once and draws one frame. -/
def refresh (tick : Nat) (board : Dashboard) (rounds : Nat) :
    Program (Outcome StopReason × Dashboard) := do
  let start ← Program.request .now
  board.refreshFrom tick start rounds

end Dashboard

end TimingBoard
