import TimingBoard.Pattern.Cursor
import TimingBoard.Pattern.Phrase

namespace TimingBoard.Pattern.Reader

/-! Parts that begin with a backslash. -/

def hexDigit? (c : Char) : Option Nat :=
  if c.isDigit then some (c.toNat - '0'.toNat)
  else if 'a' ≤ c ∧ c ≤ 'f' then some (c.toNat - 'a'.toNat + 10)
  else if 'A' ≤ c ∧ c ≤ 'F' then some (c.toNat - 'A'.toNat + 10)
  else none

def isHexDigit (c : Char) : Bool := (hexDigit? c).isSome

def charOfHex? (digits : List Char) : Option Char :=
  let code := digits.foldl (fun value c => 16 * value + (hexDigit? c).getD 0) 0
  if code.isValidChar then some (Char.ofNat code) else none

def hexDigits : Nat → Reader (List Char)
  | 0 => return []
  | count + 1 => do
      match ← peek? with
      | none => refuse .escapeUnfinished (.point (← here))
      | some c =>
          if isHexDigit c then
            step
            return c :: (← hexDigits count)
          else refuse .escapeHexInvalidDigit (← charSpan)

def hexFixed (start : Place) (count : Nat) : Reader Letter := do
  let first ← here
  let digits ← hexDigits count
  match charOfHex? digits with
  | some c => return { span := ← spanFrom start, char := c, isByte := count == 2 }
  | none => refuse .escapeHexInvalid (← spanFrom first)

/-- After the letter: digits between braces. -/
def hexBraced (start : Place) : Reader Letter := do
  let brace ← charSpan
  step
  let digits ← takeWhile isHexDigit
  match ← peek? with
  | none => refuse .escapeUnfinished (← spanFrom brace.start)
  | some '\x7d' => do
      let stop ← here
      step
      if digits.isEmpty then refuse .escapeHexEmpty (← spanFrom brace.start)
      match charOfHex? digits with
      | some c => return { span := ← spanFrom start, char := c }
      | none => refuse .escapeHexInvalid ⟨brace.stop, stop⟩
  | some _ => refuse .escapeHexInvalidDigit (← charSpan)

def hexLetter (start : Place) (count : Nat) : Reader Letter := do
  step
  match ← peek? with
  | none => refuse .escapeUnfinished (.point (← here))
  | some '\x7b' => hexBraced start
  | some _ => hexFixed start count

/-- A name, with the value after the first mark that stands between them.  The mark for "differs
from" goes before the others, wherever it stands. -/
def propertyName (chars : List Char) : PropertyName :=
  match cutAt ['!', '='] chars with
  | some (name, value) => named name value
  | none =>
      match (cutAt [':'] chars).or (cutAt ['='] chars) with
      | some (name, value) => named name value
      | none => .single (String.ofList chars)
where
  named (name value : List Char) : PropertyName :=
    .valued (String.ofList name) (String.ofList value)
  cutAt (mark : List Char) : List Char → Option (List Char × List Char)
    | [] => none
    | c :: rest =>
        if mark.isPrefixOf (c :: rest) then some ([], (c :: rest).drop mark.length)
        else (cutAt mark rest).map fun (before, value) => (c :: before, value)

def property (start : Place) (negated : Bool) : Reader Atom := do
  step
  match ← peek? with
  | none => refuse .escapeUnfinished (.point (← here))
  | some '\x7b' => do
      step
      let chars ← takeWhile (· != '\x7d')
      if ← atEnd then refuse .escapeUnfinished (.point (← here))
      advance
      return .property (← spanFrom start) (propertyName chars) negated
  | some '\\' => refuse .propertyInvalid (← charSpan)
  | some c => do
      step
      return .property (← spanFrom start) (.single c.toString) negated

def isWordEdgeChar (c : Char) : Bool := c.isAlpha || c == '-'

def wordEdge? : String → Option WordEdge
  | "start" => some .start
  | "end" => some .stop
  | "start-half" => some .startHalf
  | "end-half" => some .stopHalf
  | _ => none

/-- After the letter for the boundary of a word: the kind of the boundary between braces.  What
does not begin like a kind is left to be read as a repetition. -/
def wordBoundary (start : Place) : Reader WordEdge := do
  let before ← get
  if before.rest.head? ≠ some '\x7b' then return .boundary
  step
  let first ← here
  match ← peek? with
  | none => refuse .wordEdgeUnfinished (← spanFrom start)
  | some c =>
      if !isWordEdgeChar c then
        set before
        return .boundary
      let name ← takeWhile isWordEdgeChar
      if (← peek?) ≠ some '\x7d' then refuse .wordEdgeUnclosed (← spanFrom before.place)
      let span ← spanFrom first
      advance
      match wordEdge? (String.ofList name) with
      | some edge => return edge
      | none => refuse .wordEdgeUnrecognized span

/-- Whether the character stands for itself after a backslash. -/
def isEscapable (c : Char) : Bool :=
  c.toNat < 128 && !c.isAlphanum && c != '<' && c != '>'

def controlChar? : Char → Option Char
  | 'a' => some '\x07'
  | 'f' => some '\x0c'
  | 't' => some '\t'
  | 'n' => some '\n'
  | 'r' => some '\r'
  | 'v' => some '\x0b'
  | _ => none

def mark? : Char → Option Mark
  | 'A' => some .textStart
  | 'z' => some .textStop
  | 'B' => some (.wordEdge .noBoundary)
  | '<' => some (.wordEdge .start)
  | '>' => some (.wordEdge .stop)
  | _ => none

def shorthand? : Char → Option (AsciiClass × Bool)
  | 'd' => some (.digit, false)
  | 'D' => some (.digit, true)
  | 's' => some (.space, false)
  | 'S' => some (.space, true)
  | 'w' => some (.word, false)
  | 'W' => some (.word, true)
  | _ => none

def shortEscape (start : Place) (c : Char) : Reader Atom := do
  advance
  let span ← spanFrom start
  if isEscapable c then return .letter { span, char := c }
  else if let some control := controlChar? c then return .letter { span, char := control }
  else if let some mark := mark? c then return .mark span mark
  else if let some (kind, negated) := shorthand? c then return .shorthand span kind negated
  else if c = 'b' then
    let edge ← wordBoundary start
    if edge = .boundary then return .mark span (.wordEdge edge)
    else return .mark (← spanFrom start) (.wordEdge edge)
  else refuse .escapeUnrecognized span

def escape : Reader Atom := do
  let start ← here
  advance
  match ← peek? with
  | none => refuse .escapeUnfinished (← spanFrom start)
  | some c =>
      if c.isDigit then refuse .backreference ⟨start, (← charSpan).stop⟩
      else if c = 'x' then return .letter (← hexLetter start 2)
      else if c = 'u' then return .letter (← hexLetter start 4)
      else if c = 'U' then return .letter (← hexLetter start 8)
      else if c = 'p' then property start false
      else if c = 'P' then property start true
      else shortEscape start c

end TimingBoard.Pattern.Reader
