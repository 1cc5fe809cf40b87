import TimingBoard.Source.Directory
import TimingBoard.Error
import TimingBoard.Log

namespace TimingBoard.Topic

/-! Topics of a directory: each file whose name is a topic followed by `.jsonl`. -/

def kind : String := "ProcessingTimeTree"

def extension : String := "jsonl"

/-- The topic that a file of this name carries. -/
def ofFileName? (name : FileName) : Option String :=
  match splitName name with
  | (stem, some ending) => if ending = Utf8.encode extension then Utf8.decode? stem else none
  | (_, none) => none

def fileName (topic : String) : FileName := Utf8.encode (topic ++ "." ++ extension)

/-- The topic of an entry in the directory at a path.  Only what its path leads to can be seen to be a
directory. -/
def listed? (files : FileSystem) (directory : List UInt8) (name : FileName) : Option String :=
  match files.locate (joinPath directory name) with
  | .ok ⟨.directory _ _, _, _⟩ => none
  | _ => ofFileName? name

/-- All topics of the directory at a path, in the order of their bytes. -/
def discover (files : FileSystem) (directory : List UInt8) : Except Error (List String) :=
  match files.locate directory with
  | .ok ⟨.directory access entries, _, _⟩ =>
      if access.readable then
        let topics := entries.filterMap fun entry => listed? files directory entry.1
        .ok (topics.mergeSort (fun first second => first ≤ second))
      else .error (.io PathFault.denied.message)
  | .ok _ => .error (.io PathFault.notDirectory.message)
  | .error fault => .error (.io fault.message)

/-- The path of a topic's file.  A topic that is an absolute path stays one. -/
def path (directory : List UInt8) (topic : String) : List UInt8 :=
  joinPath directory (fileName topic)

/-- The path of the file that is followed for a topic.  It is opened only after that. -/
def subscribe (files : FileSystem) (directory : List UInt8) (topic : String) :
    Except Error (List UInt8) :=
  match files.locate (path directory topic) with
  | .ok ⟨.file _ _, _, _⟩ => .ok (path directory topic)
  | _ => .error (.topicNotFound topic)

/-- What is logged when the file of a topic cannot be followed. -/
def stoppedRecord (topic : String) (error : Error) : LogRecord :=
  ⟨.topic, .error, "Subscription to '" ++ topic ++ "' stopped: " ++ error.message⟩

end TimingBoard.Topic
