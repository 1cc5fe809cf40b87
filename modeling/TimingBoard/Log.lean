namespace TimingBoard

/-! Log records. -/

inductive Level where
  | error
  | warn
  | info
  | debug
  | trace
deriving DecidableEq, Repr

namespace Level

def name : Level → String
  | .error => "ERROR"
  | .warn => "WARN"
  | .info => "INFO"
  | .debug => "DEBUG"
  | .trace => "TRACE"

def verbosity : Level → Nat
  | .error => 1
  | .warn => 2
  | .info => 3
  | .debug => 4
  | .trace => 5

end Level

inductive LogSource where
  | session
  | discovery
  | topic
  | ingestion
  | menu
  | dashboard
  | terminal
  | report
deriving DecidableEq, Repr

def LogSource.target : LogSource → String
  | .session => "ptviz::commands::visualize"
  | .discovery => "ptviz::core::ingest::discovery"
  | .topic => "ptviz::core::ingest::jsonl"
  | .ingestion => "ptviz::core::ingest::runtime"
  | .menu => "ptviz::ui::tree_tui::topic_selector"
  | .dashboard => "ptviz::ui::tree_tui::app"
  | .terminal => "ptviz::ui::tree_tui::terminal"
  | .report => "ptviz::core::report"

structure LogRecord where
  source : LogSource
  level : Level
  message : String
deriving DecidableEq, Repr

namespace LogRecord

def text (record : LogRecord) : String := record.level.name ++ " " ++ record.message

/-- Names of levels are filled up to one width. -/
def paddedName (level : Level) : String :=
  level.name ++ String.ofList (List.replicate (5 - level.name.length) ' ')

/-- A message of several lines is indented from its second line on. -/
def indented (message : String) : String :=
  String.ofList (message.toList.flatMap fun c => if c = '\n' then "\n    ".toList else [c])

def line (time : String) (record : LogRecord) : String :=
  "[" ++ time ++ " " ++ paddedName record.level ++ " " ++ record.source.target ++ "] " ++
    indented record.message ++ "\n"

end LogRecord

end TimingBoard
