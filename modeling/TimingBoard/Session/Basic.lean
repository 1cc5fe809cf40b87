import TimingBoard.Session.Discovery
import TimingBoard.Session.Menu
import TimingBoard.Session.Dashboard
import TimingBoard.Session.Lease
import TimingBoard.Session.Report

namespace TimingBoard

/-! A whole session: find topics, hold the terminal for the menu and the dashboard, give it back,
and report. -/

structure SessionPlan where
  kind : String
  topic : Option String
  /-- Nanoseconds to wait for topics. -/
  wait : Nat
  /-- Nanoseconds between frames. -/
  tick : Nat
  instanceName : String
  boldHeadings : Bool
  zone : TimeZone := .utc

structure SessionOutcome where
  reason : StopReason
  exitCode : Nat
deriving DecidableEq, Repr

namespace Session

def interruptedEarly : Program SessionOutcome := do
  Program.info .session "Interrupted before the dashboard started"
  pure ⟨.interrupt, 1⟩

/-- The topics of a session, or nothing when it was interrupted while they were looked for. -/
def topics? (rounds : Nat) (plan : SessionPlan) : Program (Option (List String)) := do
  match ← (Discovery.waitForTopics rounds plan.kind plan.topic plan.wait).attempt with
  | .ok topics => do
      Program.info .session ("Discovered topic(s): " ++ ", ".intercalate topics)
      if ← Program.request .interruptFlag then pure none else pure (some topics)
  | .failed error => if error.isInterrupt then pure none else Program.fail error
  | .unwound => .unwind
  | .unfinished => .unfinished

/-- A single topic needs no menu. -/
def chooseTopic (rounds : Nat) : List String → Program (Option String)
  | [topic] => pure (some topic)
  | topics => Menu.choose (.new topics) rounds

/-- Subscribes to every topic, or fails with the first one that cannot be subscribed to. -/
def subscribeAll : List String → Program Unit
  | [] => pure ()
  | topic :: rest => do
      Program.ofReply (← Program.request (.subscribe topic))
      subscribeAll rest

def shutDown : Program Unit := do
  Program.info .ingestion "Shutting down ingestion"
  Program.request .stopIngestion

def drive (rounds : Nat) (plan : SessionPlan) (topics : List String) :
    Program (StopReason × ViewFlags) := do
  match ← chooseTopic rounds topics with
  | none => do
      Program.info .session "Topic selection cancelled"
      pure (.interrupt, {})
  | some topic => do
      subscribeAll [topic]
      Program.info .ingestion "Ingestion started for 1 topic(s)"
      let board : Dashboard :=
        { title := LiveView.defaultTitle
          topic := some topic
          instanceName := plan.instanceName
          zone := plan.zone }
      match ← board.refresh plan.tick rounds with
      | (.ok reason, board) => do
          shutDown
          pure (reason, board.flags)
      | (.failed error, _) => do
          shutDown
          Program.fail error
      | (.unwound, _) => .unwind
      | (.unfinished, _) => .unfinished

/-- Gives the terminal back after a run that did not unwind.  The failure of the run goes before
that of giving back. -/
def settle (lease : Lease) (live : Outcome α) : Program α := do
  let (released, lease) ← lease.release
  if let .error error := released then Program.log .session .error (Lease.failureNote error)
  lease.drop
  let value ← Program.ofOutcome live
  Program.ofExcept released
  pure value

/-- Runs `body` with the terminal held; it is given back on every way out. -/
def withTerminal (body : Program α) : Program α := do
  Program.ofExcept (← Program.request .acquire)
  match ← body.attempt with
  | .unfinished => .unfinished
  | .unwound => do
      Lease.new.drop
      Program.unwind
  | live => settle Lease.new live

def run (rounds : Nat) (plan : SessionPlan) : Program SessionOutcome := do
  match ← topics? rounds plan with
  | none => interruptedEarly
  | some topics => do
      let (reason, flags) ← withTerminal (drive rounds plan topics)
      let aggregate ← Program.request .snapshot
      let outcome ← Report.run plan.boldHeadings aggregate reason flags
      pure ⟨reason, outcome.exitCode⟩

end Session

end TimingBoard
