import TimingBoard.CommandLine.Arguments
import TimingBoard.Number.Duration
import TimingBoard.Text.Blank
import TimingBoard.Error

namespace TimingBoard

/-! The settings of a run. -/

structure Settings where
  topic : Option String
  /-- Nanoseconds to wait for topics. -/
  waiting : Nat
  directory : String
  /-- Nanoseconds between frames. -/
  tick : Nat
  tracksTotal : Bool
  instanceName : String
  logFile : Option String
deriving DecidableEq, Repr

inductive SettingsFailure where
  | refused (fault : SettingFault)
  /-- The waiting time is too long to be counted; making settings breaks off. -/
  | overflow
deriving DecidableEq, Repr

namespace Settings

def defaultWaiting : Binary64 := .ofNat 1

/-- Milliseconds. -/
def defaultInterval : Nat := 100

def defaultDirectory : String := "."

def generatedName (process : String) : String := "processing_time_visualizer_" ++ process

def overflowNote : String :=
  "cannot convert float seconds to Duration: value is either too big or NaN"

/-- A waiting time must be finite and not below zero. -/
def acceptsWaiting (seconds : Binary64) : Bool := seconds.isFinite && !seconds.lt .zero

def isBlankName (name : String) : Bool := Text.trim name = ""

def fault? (arguments : CommandLine.Arguments) : Option SettingFault :=
  let waiting := arguments.waiting.getD defaultWaiting
  if !acceptsWaiting waiting then some (.waiting waiting)
  else if arguments.interval = some 0 then some .interval
  else if arguments.instanceName.any isBlankName then some .instanceName
  else none

/-- A name is generated if none is given, and only for arguments without fault. -/
def ofArguments [Monad m] (generate : m String) (arguments : CommandLine.Arguments) :
    m (Except SettingsFailure Settings) :=
  match fault? arguments with
  | some fault => pure (.error (.refused fault))
  | none => do
      let instanceName ← match arguments.instanceName with
        | some name => pure name
        | none => generate
      match Duration.ofSeconds? (arguments.waiting.getD defaultWaiting) with
      | none => pure (.error .overflow)
      | some waiting =>
          pure <| .ok
            { topic := arguments.topic
              waiting
              directory := arguments.directory.getD defaultDirectory
              tick := arguments.interval.getD defaultInterval * Duration.millisecond
              tracksTotal := !arguments.noTotal
              instanceName
              logFile := arguments.logFile }

end Settings

end TimingBoard
