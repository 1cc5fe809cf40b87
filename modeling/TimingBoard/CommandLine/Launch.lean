import TimingBoard.CommandLine.Help
import TimingBoard.Session.Basic
import TimingBoard.Source.Topic
import TimingBoard.LogFilter
import TimingBoard.Settings

namespace TimingBoard.CommandLine

/-! One run of the program, from its words to its exit code. -/

structure Surroundings (m : Type → Type) where
  generateName : m String
  /-- What should be logged, if that was asked for. -/
  logRules : Option String
  /-- The output shows colors. -/
  colored : Bool
  /-- From now on the records that the filter keeps are logged, to the file if there is one. -/
  openLog : Option String → LogFilter → m (Except String Unit)
  log : LogRecord → m Unit
  session : Settings → m (Outcome SessionOutcome)
  complain : String → m Unit

inductive Ending where
  | stopped (stop : Stop)
  | exited (code : Nat)
deriving DecidableEq, Repr

def breakOffCode : Nat := 101

def yellow : String := "33"

def red : String := "31"

def painted (colored : Bool) (color text : String) : String :=
  if colored then "\x1b[" ++ color ++ "m" ++ text ++ "\x1b[0m" else text

/-- Causes are numbered if there are several. -/
def causeLines : List String → List String
  | [cause] => ["    " ++ cause ++ "\n"]
  | causes => causes.mapIdx fun place cause => "    " ++ toString place ++ ": " ++ cause ++ "\n"

def failureText (context : String) (causes : List String) : String :=
  "Error: " ++ context ++ "\n\nCaused by:\n" ++ String.join (causeLines causes)

def plan (settings : Settings) (colored : Bool) (zone : TimeZone) : SessionPlan :=
  { kind := Topic.kind
    topic := settings.topic
    wait := settings.waiting
    tick := settings.tick
    instanceName := settings.instanceName
    boldHeadings := colored
    zone }

variable {m : Type → Type} [Monad m]

def complainAll (world : Surroundings m) : List String → m Unit
  | [] => pure ()
  | text :: rest => do
      world.complain text
      complainAll world rest

def conclude (world : Surroundings m) : Outcome SessionOutcome → m Nat
  | .ok outcome => do
      if outcome.exitCode ≠ 0 then
        world.complain (painted world.colored yellow "No processing time tree received." ++ "\n")
      pure outcome.exitCode
  | .failed error =>
      if error.isSetupFailure then do
        world.log ⟨.session, .info, error.message⟩
        world.complain (painted world.colored red error.message ++ "\n")
        world.complain "Exiting...\n"
        pure 1
      else do
        world.complain (failureText "Failed to run processing time visualizer" error.causes)
        pure 1
  | .unwound | .unfinished => pure breakOffCode

def start (world : Surroundings m) (settings : Settings) : m Nat := do
  let (filter, faults) := LogFilter.choose world.logRules settings.logFile.isSome
  complainAll world (faults.map fun fault => "warning: " ++ fault.message ++ ", ignoring it\n")
  match ← world.openLog settings.logFile filter with
  | .error reason => do
      world.complain (failureText "Failed to open log file" [reason])
      pure 1
  | .ok () => do
      world.log ⟨.session, .info, "Starting " ++ settings.instanceName⟩
      conclude world (← world.session settings)

def launch (world : Surroundings m) (words : List String) : m Ending :=
  match Arguments.read words with
  | .error stop => pure (.stopped stop)
  | .ok arguments => do
      match ← Settings.ofArguments world.generateName arguments with
      | .error (.refused fault) => do
          world.complain (failureText "Invalid arguments" [(Error.setting fault).message])
          pure (.exited 1)
      | .error .overflow => do
          world.complain (Settings.overflowNote ++ "\n")
          pure (.exited breakOffCode)
      | .ok settings => do
          pure (.exited (← start world settings))

end TimingBoard.CommandLine
