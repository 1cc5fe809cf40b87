import TimingBoard.CommandLine.Launch
import TimingBoard.Session.Rehearsal

namespace TimingBoard.CommandLine

/-! Rehearsed runs: files of a rehearsed system, and no terminal. -/

structure LaunchStage where
  session : Rehearsal
  filter : LogFilter := .ofLimit none
  /-- The names of the log file once it is open. -/
  logFile : Option (List FileName) := none
  /-- What was written to the error output, last text first. -/
  complaints : List String := []

namespace LaunchStage

def openLog (path : Option String) (filter : LogFilter) (stage : LaunchStage) :
    Except String Unit × LaunchStage :=
  match path with
  | none => (.ok (), { stage with filter })
  | some path =>
      match stage.session.files.openFile (Utf8.encode path) with
      | .error fault => (.error fault.message, stage)
      | .ok file =>
          (.ok (),
            { stage with
              filter
              logFile := some file.names
              session := { stage.session with files := file.files } })

def log (record : LogRecord) (stage : LaunchStage) : LaunchStage :=
  { stage with session := { stage.session with logs := record :: stage.session.logs } }

def play (settings : Settings) (stage : LaunchStage) : Outcome SessionOutcome × LaunchStage :=
  let session :=
    { stage.session with
      supply := .directory (Utf8.encode settings.directory) false
      aggregate := .new settings.tracksTotal
      acquireError := some "no terminal" }
  let (outcome, session) :=
    session.play (Session.run (Rehearsal.searchRounds settings.waiting) (plan settings false .utc))
  (outcome, { stage with session })

def surroundings (process : String) (logRules : Option String) :
    Surroundings (StateM LaunchStage) where
  generateName := pure (Settings.generatedName process)
  logRules := logRules
  colored := false
  openLog path filter := openLog path filter
  log record := fun stage => ((), stage.log record)
  session settings := play settings
  complain text := fun stage => ((), { stage with complaints := text :: stage.complaints })

def logText (stage : LaunchStage) : String :=
  String.join ((stage.session.records.filter stage.filter.keeps).map (LogRecord.line "-"))

def files (stage : LaunchStage) : FileSystem :=
  match stage.logFile with
  | some names => stage.session.files.append names (Utf8.encode stage.logText)
  | none => stage.session.files

def errorOutput (stage : LaunchStage) : String := String.join stage.complaints.reverse

end LaunchStage

def rehearse (process : String) (logRules : Option String) (files : FileSystem)
    (words : List String) : Ending × LaunchStage :=
  launch (LaunchStage.surroundings process logRules) words { session := { files } }

end TimingBoard.CommandLine
