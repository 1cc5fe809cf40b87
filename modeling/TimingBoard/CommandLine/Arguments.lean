import TimingBoard.CommandLine.Word
import TimingBoard.Number.Literal

namespace TimingBoard.CommandLine

/-! The arguments of a command line.

Words are taken from left to right.  A word that names an option first settles the option before it,
so the first fault or request for help stops the reading. -/

inductive Setting where
  | topic
  | waiting
  | directory
  | interval
  | instanceName
  | logFile
deriving DecidableEq, Repr

inductive Choice where
  | setting (setting : Setting)
  | noTotal
  | help
  | version
deriving DecidableEq, Repr

def Choice.ofName? : String → Option Choice
  | "topic" => some (.setting .topic)
  | "waiting-sec" => some (.setting .waiting)
  | "source-dir" => some (.setting .directory)
  | "interval-ms" => some (.setting .interval)
  | "node-name" => some (.setting .instanceName)
  | "log-file" => some (.setting .logFile)
  | "no-total" => some .noTotal
  | "help" => some .help
  | "version" => some .version
  | _ => none

def Choice.ofLetter? : Char → Option Choice
  | 't' => some (.setting .topic)
  | 'w' => some (.setting .waiting)
  | 'd' => some (.setting .directory)
  | 'i' => some (.setting .interval)
  | 'h' => some .help
  | 'V' => some .version
  | _ => none

inductive Stop where
  | help
  | version
  | unknown
  /-- An option lacks its value, or a path is empty. -/
  | missingValue
  | malformedValue
  | repeated
  /-- A value for an option that takes none. -/
  | unexpectedValue
deriving DecidableEq, Repr

def Stop.exitCode : Stop → Nat
  | .help | .version => 0
  | _ => 2

/-- What was given; the rest is absent. -/
structure Arguments where
  topic : Option String := none
  waiting : Option Binary64 := none
  directory : Option String := none
  interval : Option Nat := none
  noTotal : Bool := false
  instanceName : Option String := none
  logFile : Option String := none
deriving DecidableEq, Repr

namespace Arguments

/-- Keeps the first value of an option and refuses a second one. -/
def once (before : Option α) (value : Except Stop α) : Except Stop (Option α) :=
  match before with
  | some _ => .error .repeated
  | none => value.map some

def ofReading : Option α → Except Stop α
  | some value => .ok value
  | none => .error .malformedValue

def path (value : String) : Except Stop String :=
  if value = "" then .error .missingValue else .ok value

/-- Intervals are counted in 64 bits. -/
def intervalLimit : Nat := Nat.pow 2 64 - 1

def give (arguments : Arguments) (setting : Setting) (value : String) : Except Stop Arguments :=
  match setting with
  | .topic => do
      let topic ← once arguments.topic (.ok value)
      pure { arguments with topic }
  | .waiting => do
      let waiting ← once arguments.waiting (ofReading (Literal.binary64? value))
      pure { arguments with waiting }
  | .directory => do
      let directory ← once arguments.directory (path value)
      pure { arguments with directory }
  | .interval => do
      let interval ← once arguments.interval (ofReading (Literal.natural? intervalLimit value))
      pure { arguments with interval }
  | .instanceName => do
      let instanceName ← once arguments.instanceName (.ok value)
      pure { arguments with instanceName }
  | .logFile => do
      let logFile ← once arguments.logFile (path value)
      pure { arguments with logFile }

/-- An option that was named last, and the word after it if it is its value. -/
structure Pending where
  setting : Setting
  value : Option String
deriving DecidableEq, Repr

def settle (arguments : Arguments) : Option Pending → Except Stop Arguments
  | none => .ok arguments
  | some ⟨_, none⟩ => .error .missingValue
  | some ⟨setting, some value⟩ => arguments.give setting value

/-- Takes an option that is not given a value in its own word, or is. -/
def choose (arguments : Arguments) (pending : Option Pending) (choice : Choice)
    (attached : Option String) : Except Stop (Arguments × Option Pending) := do
  let arguments ← arguments.settle pending
  match choice, attached with
  | .setting setting, some value => pure (← arguments.give setting value, none)
  | .setting setting, none => pure (arguments, some ⟨setting, none⟩)
  | .noTotal, _ =>
      if arguments.noTotal then .error .repeated
      else pure ({ arguments with noTotal := true }, none)
  | .help, _ => .error .help
  | .version, _ => .error .version

/-- Only a waiting time may look like a negative number in a word of its own. -/
def takesNumber : Option Pending → Bool
  | some ⟨.waiting, none⟩ => true
  | _ => false

def takePlain (pending : Option Pending) (text : String) : Except Stop (Option Pending) :=
  match pending with
  | some ⟨setting, none⟩ => .ok (some ⟨setting, some text⟩)
  | _ => .error .unknown

/-- Takes one word.  A long option that takes no value refuses one before anything is settled. -/
def take (arguments : Arguments) (pending : Option Pending) (text : String) :
    Except Stop (Arguments × Option Pending) :=
  match Word.ofText text with
  | .separator => .error .unknown
  | .long name value =>
      match Choice.ofName? name, value with
      | none, _ => .error .unknown
      | some (.setting setting), value => arguments.choose pending (.setting setting) value
      | some _, some _ => .error .unexpectedValue
      | some choice, none => arguments.choose pending choice none
  | .short letter rest =>
      if takesNumber pending && isNumber (letter :: rest) then do
        pure (arguments, ← takePlain pending text)
      else
        match Choice.ofLetter? letter with
        | none => .error .unknown
        | some choice => arguments.choose pending choice (attached? rest)
  | .plain text => do
      pure (arguments, ← takePlain pending text)

/-- Takes the words one after the other.  After a separator no word has a meaning. -/
def readFrom (arguments : Arguments) (pending : Option Pending) :
    List String → Except Stop Arguments
  | [] => arguments.settle pending
  | text :: rest =>
      if Word.ofText text = .separator then
        if rest.isEmpty then arguments.settle pending else .error .unknown
      else do
        let (arguments, pending) ← arguments.take pending text
        arguments.readFrom pending rest

def read (words : List String) : Except Stop Arguments := readFrom {} none words

end Arguments

end TimingBoard.CommandLine
