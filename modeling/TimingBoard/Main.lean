import TimingBoard.CommandLine.Launch
import TimingBoard.Session.MenuPicture
import TimingBoard.Source.Tail
import Std.Time.Zoned.Database

namespace TimingBoard.Console

/-! The program on a real terminal and real files.

Nothing is decided here: requests are answered, and pictures become escape sequences.  The terminal
keeps its line mode, so keys arrive line by line, and an empty line is the Enter key. -/

structure Desk where
  directory : String
  width : Nat
  height : Nat
  log : LogRecord → IO Unit
  /-- Keys that were read but not asked for. -/
  keys : IO.Ref (List Key)
  line : IO.Ref (Option (Task (Except IO.Error String)))
  feed : IO.Ref (Option (IO.FS.Handle × Tail))
  aggregate : IO.Ref Aggregate

def reason : IO.Error → String
  | .noFileOrDirectory _ _ _ => PathFault.missing.message
  | .permissionDenied _ 13 _ => PathFault.denied.message
  | .inappropriateType _ code _ =>
      if code = 20 then PathFault.notDirectory.message else PathFault.isDirectory.message
  | .invalidArgument _ 36 _ => PathFault.tooLong.message
  | other => toString other

def orError (action : IO α) : IO (Except Error α) := do
  try
    pure (.ok (← action))
  catch failure => pure (.error (.io (reason failure)))

def orReply (action : IO α) : IO (Reply α) := return .ofExcept (← orError action)

def unixTime : IO Int := do
  pure (← Std.Time.Timestamp.now).toSecondsSinceUnixEpoch.val

/-- The zone that is named in the environment, or else that of the machine. -/
def localZone : IO TimeZone := do
  try
    let rules ← match ← IO.getEnv "TZ" with
      | some name => Std.Time.Database.defaultGetZoneRules name
      | none => Std.Time.Database.defaultGetLocalZoneRules
    pure fun seconds => (rules.timezoneAt (.ofSecondsSinceUnixEpoch ⟨seconds⟩)).toSeconds.val
  catch _ => pure .utc

def keysOf : List Char → List Key
  | '\x1b' :: '[' :: 'A' :: rest => ⟨.up, []⟩ :: keysOf rest
  | '\x1b' :: '[' :: 'B' :: rest => ⟨.down, []⟩ :: keysOf rest
  | '\x1b' :: rest => ⟨.escape, []⟩ :: keysOf rest
  | '\x03' :: rest => .controlC :: keysOf rest
  | c :: rest => ⟨.char c, []⟩ :: keysOf rest
  | [] => []

/-- The keys of a line as it was read.  The end of the input interrupts. -/
def keysOfLine (line : String) : List Key :=
  match line.toList.filter (fun c => c != '\n' && c != '\r') with
  | [] => if line.isEmpty then [.controlC] else [⟨.enter, []⟩]
  | chars => keysOf chars

def readLine : IO String := do
  let input ← IO.getStdin
  input.getLine

/-- Waits for the line that is being read, in slices of a millisecond. -/
def waitFor (task : Task (Except IO.Error String)) : (slices : Nat) → IO (Option (List Key))
  | 0 => pure none
  | slices + 1 => do
      if ← IO.hasFinished task then
        match task.get with
        | .ok line => pure (some (keysOfLine line))
        | .error failure => throw failure
      else
        IO.sleep 1
        waitFor task slices

def popKey (desk : Desk) : IO (Option Key) := do
  match ← desk.keys.get with
  | key :: rest => do
      desk.keys.set rest
      pure (some key)
  | [] => pure none

def poll (desk : Desk) (nanoseconds : Nat) : IO (Option Key) := do
  if let some key ← popKey desk then return some key
  let task ← match ← desk.line.get with
    | some task => pure task
    | none => IO.asTask readLine
  desk.line.set (some task)
  match ← waitFor task (nanoseconds / Duration.millisecond + 1) with
  | none => pure none
  | some keys => do
      desk.line.set none
      desk.keys.set keys
      popKey desk

def colorCode : Color → Nat
  | .own => 9
  | .black => 0
  | .cyan => 6
  | .darkGray => 60

def styleText (style : Style) : String :=
  "\x1b[0;" ++ (if style.bold then "1;" else "") ++ toString (30 + colorCode style.foreground) ++
    ";" ++ toString (40 + colorCode style.background) ++ "m"

/-- A row as text.  Covered cells are passed over, and a style is written where it changes. -/
def rowText : (covered : Nat) → (current : Option Style) → List Cell → String
  | _, _, [] => "\x1b[0m"
  | covered + 1, current, _ :: rest => rowText covered current rest
  | 0, current, cell :: rest =>
      (if current = some cell.style then "" else styleText cell.style) ++ cell.text ++
        rowText cell.covers (some cell.style) rest

def draw (desk : Desk) (screen : Screen) : IO Unit := do
  let output ← IO.getStdout
  let rows := (screen.picture desk.width desk.height).map (rowText 0 none)
  output.putStr ("\x1b[H" ++ "\r\n".intercalate rows)
  output.flush

def acquire : IO Unit := do
  unless ← (← IO.getStdin).isTty do
    throw (.userError "not a terminal")
  let output ← IO.getStdout
  output.putStr "\x1b[?1049h\x1b[2J"
  output.flush

def restore : IO Unit := do
  let output ← IO.getStdout
  output.putStr "\x1b[?1049l"
  output.flush

/-- What can be seen of what a path leads to. -/
def seen (metadata : IO IO.FS.Metadata) : IO Node := do
  try
    match (← metadata).type with
    | .file => pure (.file {} [])
    | .dir => pure .empty
    | _ => pure .device
  catch _ => pure .device

def entries (directory : String) : IO (List (FileName × Node)) := do
  let place ← IO.FS.realPath directory
  (← place.readDir).toList.mapM fun entry => do
    pure (Utf8.encode entry.fileName, ← seen entry.path.metadata)

def discover (directory : String) : IO (Except Error (List String)) := do
  match ← orError (entries directory) with
  | .ok found => pure (Topic.discover { root := .directory {} found } [slash])
  | .error error => pure (.error error)

def filePath (directory topic : String) : String :=
  (Utf8.decode? (Topic.path (Utf8.encode directory) topic)).getD ""

def subscribe (desk : Desk) (topic : String) : IO (Except Error Unit) := do
  let path := filePath desk.directory topic
  match ← seen (do (← IO.FS.realPath path).metadata) with
  | .file _ _ => do
      match ← orError (IO.FS.Handle.mk path .read) with
      | .ok file => desk.feed.set (some (file, ⟨topic, []⟩))
      | .error error => desk.log (Topic.stoppedRecord topic error)
      pure (.ok ())
  | _ => pure (.error (.topicNotFound topic))

def takeIn (desk : Desk) : List Delivery → IO Unit
  | [] => pure ()
  | .tree tree :: rest => do
      let time ← unixTime
      desk.aggregate.modify (fun aggregate => aggregate.apply time tree)
      takeIn desk rest
  | .note record :: rest => do
      desk.log record
      takeIn desk rest

/-- The bytes that were appended since the last look, as far as one look reaches. -/
def snapshot (desk : Desk) : IO Aggregate := do
  if let some (file, tail) ← desk.feed.get then
    let bytes ← file.read 1048576
    let (deliveries, tail) := tail.feed bytes.toList
    desk.feed.set (some (file, tail))
    takeIn desk deliveries
  desk.aggregate.get

def write (text : String) : IO Unit := do
  let output ← IO.getStdout
  output.putStr text

def flush : IO Unit := do
  let output ← IO.getStdout
  output.flush

def milliseconds (nanoseconds : Nat) : UInt32 :=
  UInt32.ofNat ((nanoseconds + Duration.millisecond - 1) / Duration.millisecond)

def respond (desk : Desk) : (request : Request) → IO request.Answer
  | .interruptFlag => pure false
  | .discover => discover desk.directory
  | .now => IO.monoNanosNow
  | .sleep nanoseconds => IO.sleep (milliseconds nanoseconds)
  | .acquire => orError acquire
  | .draw screen => orReply (draw desk screen)
  | .poll nanoseconds => orReply (poll desk nanoseconds)
  | .restore => orError restore
  | .subscribe topic => return .ofExcept (← subscribe desk topic)
  | .stopIngestion => desk.feed.set none
  | .snapshot => snapshot desk
  | .copy _ => pure (.error (.clipboard "no clipboard on this terminal"))
  | .write text => orError (write text)
  | .flush => orError flush
  | .log record => desk.log record

/-- More rounds than a session can last. -/
def rounds : Nat := Nat.pow 2 64

def number (name : String) (fallback : Nat) : IO Nat := do
  pure (((← IO.getEnv name).bind (Literal.natural? 1000)).getD fallback)

def session (log : LogRecord → IO Unit) (colored : Bool) (settings : Settings) :
    IO (Outcome SessionOutcome) := do
  let desk : Desk :=
    { directory := settings.directory
      width := ← number "COLUMNS" 80
      height := ← number "LINES" 24
      log
      keys := ← IO.mkRef []
      line := ← IO.mkRef none
      feed := ← IO.mkRef none
      aggregate := ← IO.mkRef (Aggregate.new settings.tracksTotal) }
  let plan := CommandLine.plan settings colored (← localZone)
  (Session.run rounds plan).interpret (respond desk)

structure Log where
  filter : LogFilter
  file : Option IO.FS.Handle

def writeLog (log : IO.Ref Log) (record : LogRecord) : IO Unit := do
  let log ← log.get
  if log.filter.keeps record then
    let line := record.line (Dashboard.clockText .utc (← unixTime))
    match log.file with
    | some file => do
        file.putStr line
        file.flush
    | none => IO.eprint line

def openLog (log : IO.Ref Log) (path : Option String) (filter : LogFilter) :
    IO (Except String Unit) := do
  try
    let file ← path.mapM fun path => IO.FS.Handle.mk path .append
    log.set ⟨filter, file⟩
    pure (.ok ())
  catch failure => pure (.error (reason failure))

/-- A name made from the number of this process. -/
def generateName : IO String := do
  let state ← try IO.FS.readFile "/proc/self/stat" catch _ => pure "0"
  pure (Settings.generatedName (String.ofList (state.toList.takeWhile Char.isDigit)))

def surroundings : IO (CommandLine.Surroundings IO) := do
  let log ← IO.mkRef (Log.mk (.ofLimit none) none)
  let colored ← (← IO.getStdout).isTty
  let logRules ← IO.getEnv "RUST_LOG"
  pure
    { generateName
      logRules
      colored
      openLog := openLog log
      log := writeLog log
      session := session (writeLog log) colored
      complain := fun text => IO.eprint text }

end TimingBoard.Console

open TimingBoard in
def main (words : List String) : IO UInt32 := do
  match ← CommandLine.launch (← Console.surroundings) words with
  | .exited code => pure (UInt32.ofNat code)
  | .stopped stop => do
      if stop.exitCode = 0 then IO.print stop.text else IO.eprint stop.text
      pure (UInt32.ofNat stop.exitCode)
