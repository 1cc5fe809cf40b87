import TimingBoard.Pattern.Cursor
import TimingBoard.Pattern.Phrase

namespace TimingBoard.Pattern.Reader

/-! Signs of repetition, which stand behind what is repeated. -/

/-- A question mark asks for the shortest match first. -/
def acceptLazy : Reader Unit := do
  let _ ← accept "?"

/-- The last part before the sign, and the parts before it. -/
def repeatable (parts : List Phrase) : Reader (Phrase × List Phrase) := do
  match parts with
  | part :: before =>
      if part.isRepeatable then return (part, before)
      else refuse .repetitionMissing (.point (← here))
  | [] => refuse .repetitionMissing (.point (← here))

/-- Decimal digits with blanks around them.  The fault waits until it is known that a number is
needed here. -/
def decimal : Reader (Except Fault Nat) := do
  let _ ← takeWhile Text.isBlank
  let start ← here
  let digits ← takeWhile Char.isDigit
  let span ← spanFrom start
  let _ ← takeWhile Text.isBlank
  let value := digits.foldl (fun value c => 10 * value + (c.toNat - '0'.toNat)) 0
  if digits.isEmpty then return .error { cause := .repetitionCountEmpty, span }
  else if value < 4294967296 then return .ok value
  else return .error { cause := .decimalInvalid, span }

/-- After the opening brace: how often at least and at most. -/
def bounds (opening : Place) : Reader (Nat × Option Nat) := do
  let least ← decimal
  if ← atEnd then refuse .repetitionCountUnclosed (← spanFrom opening)
  if (← peek?) = some ',' then
    step
    if ← atEnd then refuse .repetitionCountUnclosed (← spanFrom opening)
    if (← peek?) = some '\x7d' then return (← least, none)
    else
      let least ← least
      let most ← decimal
      return (least, some (← most))
  else
    let count ← least
    return (count, some count)

def counted (parts : List Phrase) : Reader (List Phrase) := do
  let (part, before) ← repeatable parts
  let opening ← here
  step
  if ← atEnd then refuse .repetitionCountUnclosed (← spanFrom opening)
  let (least, most) ← bounds opening
  if (← peek?) ≠ some '\x7d' then refuse .repetitionCountUnclosed (← spanFrom opening)
  step
  acceptLazy
  if most.any (· < least) then refuse .repetitionCountInvalid (← spanFrom opening)
  return .repeated (← spanFrom part.span.start) least most part :: before

def uncounted (least : Nat) (most : Option Nat) (parts : List Phrase) : Reader (List Phrase) := do
  let (part, before) ← repeatable parts
  advance
  acceptLazy
  return .repeated (← spanFrom part.span.start) least most part :: before

end TimingBoard.Pattern.Reader
