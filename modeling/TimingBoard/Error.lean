import TimingBoard.Number.Decimal
import TimingBoard.Json.Value

namespace TimingBoard

/-! What can go wrong, as causes; the wording of each cause is in one place. -/

inductive SnapshotFault where
  | reservedId (label : String)
  | noRoot
  | unusable (label producer : String) (time : Binary64)
  | described (reason : String)
deriving DecidableEq, Repr

def SnapshotFault.message : SnapshotFault → String
  | .reservedId label => "node '" ++ label ++ "' uses the reserved id 0"
  | .noRoot => "message has no root node"
  | .unusable label producer time =>
      "node '" ++ label ++ "' of '" ++ producer ++ "' has processing time " ++ time.text
  | .described reason => reason

inductive SettingFault where
  | waiting (seconds : Binary64)
  | interval
  | instanceName
  | described (reason : String)
deriving DecidableEq, Repr

def SettingFault.message : SettingFault → String
  | .waiting seconds =>
      "waiting time must be a non-negative number of seconds, got " ++ seconds.text
  | .interval => "refresh interval must be at least 1 ms"
  | .instanceName => "node name must not be empty"
  | .described reason => reason

inductive Error where
  | io (reason : String)
  | json (failure : Json.Failure)
  | setting (fault : SettingFault)
  | topicNotFound (topic : String)
  | noTopics (kind : String)
  | snapshot (fault : SnapshotFault)
  | clipboard (reason : String)
  | interrupted
deriving DecidableEq, Repr

namespace Error

/-- Stands for the text of the reader that refused a line, which also names a place in it.  These texts
are made up, and nothing is proved about them. -/
def jsonReason : Json.Failure → String
  | .malformed => "malformed text"
  | .mismatch => "unexpected form"
  | .truncated => "unexpected end of text"

def message : Error → String
  | .io reason => "IO error: " ++ reason
  | .json failure => "JSON error: " ++ jsonReason failure
  | .setting fault => "Configuration error: " ++ fault.message
  | .topicNotFound topic => "Specified topic '" ++ topic ++ "' not found"
  | .noTopics kind => "No " ++ kind ++ " topic found"
  | .snapshot fault => "Invalid snapshot: " ++ fault.message
  | .clipboard reason => "Clipboard unavailable: " ++ reason
  | .interrupted => "Interrupted"

/-- The message and what it goes back to, outermost first. -/
def causes (error : Error) : List String :=
  error.message ::
    match error with
    | .io reason => [reason]
    | .json failure => [jsonReason failure]
    | _ => []

def isSetupFailure : Error → Bool
  | .topicNotFound _ | .noTopics _ => true
  | _ => false

def isInterrupt : Error → Bool
  | .interrupted => true
  | _ => false

end Error

end TimingBoard
