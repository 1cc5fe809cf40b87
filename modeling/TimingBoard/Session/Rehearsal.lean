import TimingBoard.Session.Basic
import TimingBoard.Source.Topic
import TimingBoard.Source.Tail

namespace TimingBoard

/-! Rehearsals: a session against a scripted terminal, a clock that only sleeping moves, a clipboard
that records, a writer that may fill up, and topics from a list or from a directory. -/

inductive Cue where
  | key (key : Key)
  /-- Nothing, until the last frame shows the text. -/
  | await (text : String)
  | pollError (reason : String)
  /-- The next frame cannot be drawn. -/
  | drawError (reason : String)
  | raise
  /-- A tree arrives, or a line that holds none. -/
  | arrival (tree : Option TimingTree)

structure Finding where
  result : Except Error (List String)
  raises : Bool

inductive TopicSupply where
  /-- The last finding repeats. -/
  | listed (findings : List Finding)
  | directory (path : List UInt8) (raises : Bool)

structure Rehearsal where
  script : List Cue := []
  interrupted : Bool := false
  drawError : Option String := none
  /-- Frames drawn, last one first. -/
  frames : List Screen := []
  clock : Nat := 0
  /-- Unix time that trees are stamped with. -/
  time : Int := 0
  searches : Nat := 0
  supply : TopicSupply := .listed []
  files : FileSystem := {}
  aggregate : Aggregate := .new false
  acquireError : Option String := none
  /-- A file that disappears while the terminal is acquired. -/
  removedOnAcquire : Option (List UInt8) := none
  acquired : Nat := 0
  restoreError : Option String := none
  restored : Nat := 0
  clipboardError : Option String := none
  /-- Texts copied, last one first. -/
  copied : List String := []
  /-- How many more bytes the writer takes. -/
  room : Option Nat := none
  flushError : Option String := none
  /-- Bytes written, last one first. -/
  written : List UInt8 := []
  /-- Log records, last one first. -/
  logs : List LogRecord := []

namespace Rehearsal

/-- What a frame shows to someone who waits for a text. -/
def frameText : Screen → String
  | .trees screen => screen.text ++ "\n" ++ screen.status
  | .menu menu => "\n".intercalate menu.topics

def contains (text part : List Char) : Bool :=
  part.isPrefixOf text ||
    match text with
    | [] => false
    | _ :: rest => contains rest part

def shows (stage : Rehearsal) (text : String) : Bool :=
  match stage.frames with
  | frame :: _ => contains (frameText frame).toList text.toList
  | [] => false

def poll (stage : Rehearsal) : Reply (Option Key) × Rehearsal :=
  match stage.script with
  | [] => (.answer (some .controlC), stage)
  | cue :: rest =>
      let passed := { stage with script := rest }
      match cue with
      | .key key => (.answer (some key), passed)
      | .await text => (.answer none, if stage.shows text then passed else stage)
      | .pollError reason => (.error (.io reason), passed)
      | .drawError reason => (.answer none, { passed with drawError := some reason })
      | .raise => (.answer none, { passed with interrupted := true })
      | .arrival (some tree) =>
          (.answer none, { passed with aggregate := stage.aggregate.apply stage.time tree })
      | .arrival none => (.answer none, passed)

def draw (stage : Rehearsal) (screen : Screen) : Reply Unit × Rehearsal :=
  match stage.drawError with
  | some reason => (.error (.io reason), { stage with drawError := none })
  | none => (.answer (), { stage with frames := screen :: stage.frames })

/-- The finding of the search with that number. -/
def finding : List Finding → Nat → Finding
  | [], _ => ⟨.ok [], false⟩
  | [last], _ => last
  | first :: _, 0 => first
  | _ :: rest, number + 1 => finding rest number

def discover (stage : Rehearsal) : Except Error (List String) × Rehearsal :=
  let found := match stage.supply with
    | .listed findings => finding findings stage.searches
    | .directory path raises => ⟨Topic.discover stage.files path, raises⟩
  (found.result,
    { stage with
      searches := stage.searches + 1
      interrupted := stage.interrupted || found.raises })

/-- Everything in the topic's file is taken in at once.  A file that cannot be opened only leaves a
record. -/
def subscribe (stage : Rehearsal) (topic : String) : Except Error Unit × Rehearsal :=
  match stage.supply with
  | .listed _ => (.ok (), stage)
  | .directory path _ =>
      match Topic.subscribe stage.files path topic with
      | .error error => (.error error, stage)
      | .ok file =>
          match stage.files.read file with
          | .ok content =>
              let trees := (Tail.feed ⟨topic, []⟩ content).1.filterMap Delivery.tree?
              (.ok (), { stage with aggregate := stage.aggregate.applyAll stage.time trees })
          | .error fault =>
              let record := Topic.stoppedRecord topic (.io fault.message)
              (.ok (), { stage with logs := record :: stage.logs })

def acquire (stage : Rehearsal) : Except Error Unit × Rehearsal :=
  match stage.acquireError with
  | some reason => (.error (.io reason), stage)
  | none =>
      (.ok (),
        { stage with
          acquired := stage.acquired + 1
          files := match stage.removedOnAcquire with
            | some path => stage.files.remove path
            | none => stage.files })

/-- The first restore may fail. -/
def restore (stage : Rehearsal) : Except Error Unit × Rehearsal :=
  let next := { stage with restored := stage.restored + 1, restoreError := none }
  match stage.restoreError with
  | some reason => (.error (.io reason), next)
  | none => (.ok (), next)

def copy (stage : Rehearsal) (text : String) : Except Error Unit × Rehearsal :=
  match stage.clipboardError with
  | some reason => (.error (.clipboard reason), stage)
  | none => (.ok (), { stage with copied := text :: stage.copied })

/-- A writer takes the bytes it has room for and fails when there are more. -/
def write (stage : Rehearsal) (text : String) : Except Error Unit × Rehearsal :=
  let bytes := Utf8.encode text
  match stage.room with
  | none => (.ok (), { stage with written := bytes.reverse ++ stage.written })
  | some room =>
      let next :=
        { stage with
          room := some (room - bytes.length)
          written := (bytes.take room).reverse ++ stage.written }
      if bytes.length ≤ room then (.ok (), next) else (.error (.io "disk full"), next)

def flush (stage : Rehearsal) : Except Error Unit × Rehearsal :=
  match stage.flushError with
  | some reason => (.error (.io reason), stage)
  | none => (.ok (), stage)

def respond : (request : Request) → StateM Rehearsal request.Answer
  | .interruptFlag => fun stage => (stage.interrupted, stage)
  | .discover => discover
  | .now => fun stage => (stage.clock, stage)
  | .sleep nanoseconds => fun stage => ((), { stage with clock := stage.clock + nanoseconds })
  | .acquire => acquire
  | .draw screen => fun stage => stage.draw screen
  | .poll _ => poll
  | .restore => restore
  | .subscribe topic => fun stage =>
      let (result, next) := stage.subscribe topic
      (.ofExcept result, next)
  | .stopIngestion => fun stage => ((), stage)
  | .snapshot => fun stage => (stage.aggregate, stage)
  | .copy text => fun stage =>
      let (result, next) := stage.copy text
      (.ofExcept result, next)
  | .write text => fun stage => stage.write text
  | .flush => flush
  | .log record => fun stage => ((), { stage with logs := record :: stage.logs })

def play (stage : Rehearsal) (program : Program α) : Outcome α × Rehearsal :=
  program.interpret respond stage

/-- Rounds enough for the script: each round passes a cue or waits for the first frame. -/
def rounds (stage : Rehearsal) : Nat := 2 * stage.script.length + 4

/-- Rounds enough to wait so long. -/
def searchRounds (wait : Nat) : Nat := wait / Discovery.interval + 3

def records (stage : Rehearsal) : List LogRecord := stage.logs.reverse

def output (stage : Rehearsal) : List UInt8 := stage.written.reverse

end Rehearsal

end TimingBoard
