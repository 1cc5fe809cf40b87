import TimingBoard.Pattern.Fault
import TimingBoard.Text.Blank

namespace TimingBoard.Pattern

/-! Reading the text of a pattern from its start to its end. -/

structure Cursor where
  rest : List Char
  place : Place := {}
  /-- Blanks and comments between parts mean nothing. -/
  spaced : Bool := false
  names : List (String × Span) := []

abbrev Reader := StateT Cursor (Except Fault)

namespace Cursor

/-- A comment goes from its sign to the end of the line. -/
def skip : (inComment : Bool) → Place → List Char → Place × List Char
  | _, place, [] => (place, [])
  | true, place, c :: rest => skip (c != '\n') (place.past c) rest
  | false, place, c :: rest =>
      if Text.isBlank c then skip false (place.past c) rest
      else if c = '#' then skip true (place.past c) rest
      else (place, c :: rest)

def advance (cursor : Cursor) : Cursor :=
  match cursor.rest with
  | [] => cursor
  | c :: rest => { cursor with rest, place := cursor.place.past c }

def skipBlanks (cursor : Cursor) : Cursor :=
  if cursor.spaced then
    let (place, rest) := skip false cursor.place cursor.rest
    { cursor with rest, place }
  else cursor

/-- The character after the current one.  Where blanks mean nothing they are passed over, and so is
the sign of a comment. -/
def second? (cursor : Cursor) : Option Char :=
  let beyond := cursor.rest.tail
  if cursor.spaced then
    match beyond.dropWhile Text.isBlank with
    | '#' :: comment => (comment.dropWhile Text.isBlank).head?.or beyond.head?
    | found => found.head?.or beyond.head?
  else beyond.head?

end Cursor

namespace Reader

def refuse {α : Type} (cause : Cause) (span : Span) : Reader α := throw { cause, span }

def here : Reader Place := do return (← get).place

def peek? : Reader (Option Char) := do return (← get).rest.head?

def atEnd : Reader Bool := do return (← get).rest.isEmpty

def startsWith (text : String) : Reader Bool := do
  return text.toList.isPrefixOf (← get).rest

def advance : Reader Unit := modify Cursor.advance

def skipBlanks : Reader Unit := modify Cursor.skipBlanks

def step : Reader Unit := modify fun cursor => cursor.advance.skipBlanks

def charSpan : Reader Span := do
  let cursor ← get
  return ⟨cursor.place, cursor.advance.place⟩

def spanFrom (start : Place) : Reader Span := do return ⟨start, ← here⟩

def accept (text : String) : Reader Bool := do
  if ← startsWith text then
    for _ in text.toList do advance
    return true
  else return false

/-- The characters up to the first that does not fit, at most so many. -/
def takeUpTo (fits : Char → Bool) : Nat → Reader (List Char)
  | 0 => return []
  | count + 1 => do
      match ← peek? with
      | none => return []
      | some c =>
          if fits c then
            step
            return c :: (← takeUpTo fits count)
          else return []

def takeWhile (fits : Char → Bool) : Reader (List Char) := do
  takeUpTo fits (← get).rest.length

end Reader

end TimingBoard.Pattern
