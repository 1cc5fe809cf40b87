import TimingBoard.Text.Utf8

namespace TimingBoard

/-! Files and directories, as far as topics and log files need them.  Names are bytes.

What may be done with a file or a directory is told as the process sees it, whoever owns it. -/

abbrev FileName := List UInt8

structure Access where
  readable : Bool := true
  writable : Bool := true
  /-- Names in the directory may be looked up. -/
  searchable : Bool := true
deriving DecidableEq, Repr

/-- A link stands for what it leads to. -/
inductive Node where
  | file (access : Access) (content : List UInt8)
  | directory (access : Access) (entries : List (FileName × Node))
  /-- Neither of these, such as a terminal.  What is written to it is not kept. -/
  | device

inductive PathFault where
  | missing
  | denied
  | notDirectory
  | isDirectory
  | tooLong
  | zeroByte
deriving DecidableEq, Repr

def PathFault.message : PathFault → String
  | .missing => "No such file or directory (os error 2)"
  | .denied => "Permission denied (os error 13)"
  | .notDirectory => "Not a directory (os error 20)"
  | .isDirectory => "Is a directory (os error 21)"
  | .tooLong => "File name too long (os error 36)"
  | .zeroByte => "file name contained an unexpected NUL byte"

def slash : UInt8 := 47

def dot : UInt8 := 46

/-- Names within their directory refer to it or to the one above. -/
def isDots (name : FileName) : Bool := name == [dot] || name == [dot, dot]

def longestName : Nat := 255

def longestPath : Nat := 4095

/-- A name split at its last dot: what comes before it and what follows.  A name is not split at its
first byte, and the name of the directory above is not split at all. -/
def splitName (name : FileName) : FileName × Option FileName :=
  match name.reverse.dropWhile (· != dot) with
  | [] => (name, none)
  | _ :: stem =>
      if stem = [] ∨ name = [dot, dot] then (name, none)
      else (stem.reverse, some (name.reverse.takeWhile (· != dot)).reverse)

/-- The path of a name in the directory at a path.  A name that is an absolute path stays one. -/
def joinPath (directory : List UInt8) (name : FileName) : List UInt8 :=
  if name.head? = some slash then name
  else if directory = [] ∨ directory.getLast? = some slash then directory ++ name
  else directory ++ slash :: name

namespace Node

def empty : Node := .directory {} []

instance : Inhabited Node := ⟨empty⟩

def isDirectory : Node → Bool
  | .directory _ _ => true
  | _ => false

def entry? (entries : List (FileName × Node)) (name : FileName) : Option Node :=
  (entries.find? (fun entry => entry.1 == name)).map (·.2)

/-- Replaces or appends the entry of that name. -/
def putEntry (name : FileName) (change : Option Node → Node) :
    List (FileName × Node) → List (FileName × Node)
  | [] => [(name, change none)]
  | (other, node) :: rest =>
      if other = name then (other, change (some node)) :: rest
      else (other, node) :: putEntry name change rest

/-- Puts a node where plain names lead, in new directories where there are none. -/
def put (new : Node) : List FileName → Node → Node
  | [], _ => new
  | name :: rest, .directory access entries =>
      .directory access (putEntry name (fun old => put new rest (old.getD empty)) entries)
  | _ :: _, other => other

/-- Changes what plain names lead to, if that is there. -/
def change (edit : Node → Node) : List FileName → Node → Node
  | [], node => edit node
  | name :: rest, .directory access entries =>
      .directory access (entries.map fun (other, node) =>
        (other, if other = name then change edit rest node else node))
  | _ :: _, other => other

def dropEntry (name : FileName) : Node → Node
  | .directory access entries => .directory access (entries.filter fun entry => entry.1 != name)
  | other => other

/-- Writes at the end of a file. -/
def extend (bytes : List UInt8) : Node → Node
  | .file access content => .file access (content ++ bytes)
  | other => other

/-- A directory with the given files; those without content are directories. -/
def ofFiles (files : List (List UInt8 × Option (List UInt8))) : Node :=
  files.foldl (fun root (path, content) =>
    put (match content with
      | some bytes => .file {} bytes
      | none => empty) (path.splitOn slash) root) empty

end Node

/-- A place in a file system. -/
structure Visit where
  node : Node
  /-- The names that lead to it from the root. -/
  names : List FileName := []
  /-- The directories above, the next one first. -/
  above : List Node := []

namespace Visit

/-- The directory above.  Above the root is the root. -/
def up (visit : Visit) : Visit :=
  match visit.above with
  | parent :: above => ⟨parent, visit.names.dropLast, above⟩
  | [] => visit

/-- A node in the directory that is visited. -/
def below (visit : Visit) (name : FileName) (node : Node) : Visit :=
  ⟨node, visit.names ++ [name], visit.node :: visit.above⟩

def child? (visit : Visit) (name : FileName) : Option Visit :=
  match visit.node with
  | .directory _ entries => (Node.entry? entries name).map (visit.below name)
  | _ => none

/-- One part of a path.  An empty one, as behind a last slash, only asks for a directory. -/
def step (visit : Visit) (part : FileName) : Except PathFault Visit :=
  match visit.node with
  | .directory access _ =>
      if part = [] then .ok visit
      else if access.searchable = false then .error .denied
      else if part = [dot] then .ok visit
      else if part = [dot, dot] then .ok visit.up
      else if longestName < part.length then .error .tooLong
      else
        match visit.child? part with
        | some next => .ok next
        | none => .error .missing
  | _ => .error .notDirectory

def follow (visit : Visit) (parts : List FileName) : Except PathFault Visit :=
  parts.foldlM step visit

theorem follow_append (visit : Visit) (first rest : List FileName) :
    visit.follow (first ++ rest) = (visit.follow first).bind (·.follow rest) :=
  List.foldlM_append

end Visit

structure FileSystem where
  root : Node := .empty
  /-- The names that lead to the working directory from the root. -/
  working : List FileName := []

namespace FileSystem

def top (files : FileSystem) : Visit := { node := files.root }

/-- The process is in its working directory, whether or not it could go there again. -/
def workplace (files : FileSystem) : Except PathFault Visit :=
  match files.working.foldlM Visit.child? files.top with
  | some visit => .ok visit
  | none => .error .missing

/-- Where a path starts; some cannot be followed at all. -/
def entrance (files : FileSystem) (path : List UInt8) : Except PathFault Visit :=
  if path.contains 0 then .error .zeroByte
  else if longestPath < path.length then .error .tooLong
  else
    match path with
    | [] => .error .missing
    | first :: _ => if first = slash then .ok files.top else files.workplace

def locate (files : FileSystem) (path : List UInt8) : Except PathFault Visit := do
  (← files.entrance path).follow (path.splitOn slash)

/-- Opens what the path leads to and reads all of it. -/
def read (files : FileSystem) (path : List UInt8) : Except PathFault (List UInt8) := do
  match (← files.locate path).node with
  | .file access content => if access.readable then pure content else throw .denied
  | .directory access _ => throw (if access.readable then .isDirectory else .denied)
  | .device => pure []

structure OpenFile where
  /-- Its names from the root. -/
  names : List FileName
  /-- The files with it among them. -/
  files : FileSystem

/-- Opens a file that is written at its end, and makes it if it is missing.  A slash at the end is
refused before the name is looked up. -/
def openFile (files : FileSystem) (path : List UInt8) : Except PathFault OpenFile := do
  let parts := (path.splitOn slash).filter (· != [])
  let parent ← (← files.entrance path).follow parts.dropLast
  match parent.node, parts.getLast? with
  | .directory _ _, none => throw .isDirectory
  | .directory access _, some name =>
      if access.searchable = false then throw .denied
      else if isDots name ∨ path.getLast? = some slash then throw .isDirectory
      else if longestName < name.length then throw .tooLong
      else
        let names := parent.names ++ [name]
        match parent.child? name with
        | some ⟨.directory _ _, _, _⟩ => throw .isDirectory
        | some ⟨.file allowed _, _, _⟩ =>
            if allowed.writable then pure ⟨names, files⟩ else throw .denied
        | some ⟨.device, _, _⟩ => pure ⟨names, files⟩
        | none =>
            if access.writable then
              pure ⟨names, { files with root := Node.put (.file {} []) names files.root }⟩
            else throw .denied
  | _, _ => throw .notDirectory

def append (files : FileSystem) (names : List FileName) (bytes : List UInt8) : FileSystem :=
  { files with root := Node.change (.extend bytes) names files.root }

/-- Deletes what the path leads to. -/
def remove (files : FileSystem) (path : List UInt8) : FileSystem :=
  match files.locate path with
  | .ok visit =>
      match visit.names.getLast? with
      | some name => { files with root := Node.change (.dropEntry name) visit.names.dropLast files.root }
      | none => files
  | .error _ => files

end FileSystem

end TimingBoard
