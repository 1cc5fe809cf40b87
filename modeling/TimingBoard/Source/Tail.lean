import TimingBoard.Message.Line
import TimingBoard.Text.Blank
import TimingBoard.Text.Utf8

namespace TimingBoard

/-! Following a topic's file as it grows.

Only complete lines count.  What follows the last newline stays pending until its newline arrives,
however the bytes come in. -/

inductive Delivery where
  | tree (tree : TimingTree)
  | note (record : LogRecord)

namespace Delivery

def tree? : Delivery → Option TimingTree
  | .tree found => some found
  | .note _ => none

def note? : Delivery → Option LogRecord
  | .tree _ => none
  | .note record => some record

end Delivery

namespace Tail

def newline : UInt8 := 10

def skipNote (what topic reason : String) : LogRecord :=
  ⟨.topic, .warn, "Skipping " ++ what ++ " on '" ++ topic ++ "': " ++ reason⟩

/-- What a line of text delivers.  Blanks around a message do not matter, and a line of blanks is
passed over. -/
def ofText (topic text : String) : List Delivery :=
  let message := Text.trim text
  if message = "" then []
  else
    let reading := readLine message
    reading.notices.map .note ++
      match reading.result with
      | .ok tree => [.tree tree]
      | .error error => [.note (skipNote "malformed message" topic error.message)]

def ofLine (topic : String) (line : List UInt8) : List Delivery :=
  match Utf8.decode? line with
  | some text => ofText topic text
  | none => [.note (skipNote "non UTF-8 line" topic (Utf8.flaw line).message)]

/-- The reads that take in a chunk: each one ends after a newline or at the end of the chunk. -/
def readsOf : List UInt8 → List (List UInt8)
  | [] => []
  | byte :: rest =>
      if byte = newline then [byte] :: readsOf rest
      else
        match readsOf rest with
        | [] => [[byte]]
        | read :: more => (byte :: read) :: more

end Tail

structure Tail where
  topic : String
  /-- The bytes after the last newline. -/
  pending : List UInt8 := []
deriving DecidableEq, Repr

namespace Tail

/-- Reads on, at most to the end of a line.  At the end of the file there may be nothing to read. -/
def read (tail : Tail) (bytes : List UInt8) : List Delivery × Tail :=
  if bytes = [] then ([], tail)
  else
    let pending := tail.pending ++ bytes
    if pending.getLast? = some newline then
      (ofLine tail.topic pending, { tail with pending := [] })
    else ([], { tail with pending })

def readAll (tail : Tail) : List (List UInt8) → List Delivery × Tail
  | [] => ([], tail)
  | bytes :: rest =>
      let (first, tail) := tail.read bytes
      let (later, tail) := tail.readAll rest
      (first ++ later, tail)

/-- Takes in what was appended since the last look, which may be nothing. -/
def feed (tail : Tail) (chunk : List UInt8) : List Delivery × Tail := tail.readAll (readsOf chunk)

def feedAll (tail : Tail) (chunks : List (List UInt8)) : List Delivery × Tail :=
  tail.readAll (chunks.flatMap readsOf)

end Tail

end TimingBoard
