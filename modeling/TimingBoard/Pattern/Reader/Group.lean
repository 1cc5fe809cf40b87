import TimingBoard.Pattern.Reader.Escape
import TimingBoard.Text.GeneralCategory.Basic

namespace TimingBoard.Pattern.Reader

/-! The fronts of groups: names and flags. -/

def isNameStart (c : Char) : Bool :=
  c == '_' || (GeneralCategory.ofChar c).isLetter || GeneralCategory.ofChar c == .nl

def isNameChar (c : Char) : Bool :=
  isNameStart c || [GeneralCategory.nd, .no].contains (GeneralCategory.ofChar c) ||
    ['.', '[', ']'].contains c

/-- The characters of a name, up to its closing mark. -/
def nameChars : (rounds : Nat) → (isFirst : Bool) → Reader (List Char)
  | 0, _ => return []
  | rounds + 1, isFirst => do
      match ← peek? with
      | none => refuse .groupNameUnfinished (.point (← here))
      | some '>' => return []
      | some c =>
          if if isFirst then isNameStart c else isNameChar c then
            advance
            return c :: (← nameChars rounds false)
          else refuse .groupNameInvalid (← charSpan)

/-- A name, which no other group may have. -/
def groupName : Reader Unit := do
  let start ← here
  let name := String.ofList (← nameChars ((← get).rest.length + 1) true)
  let span ← spanFrom start
  advance
  if name = "" then refuse .groupNameEmpty (.point start)
  match (← get).names.lookup name with
  | some earlier => throw { cause := .groupNameDuplicate, span, earlier := some earlier }
  | none => modify fun cursor => { cursor with names := (name, span) :: cursor.names }

def addFlag (flag : Flag) (flags : List Flag) : Reader (List Flag) :=
  match flags.find? (·.mode == flag.mode) with
  | none => return flag :: flags
  | some earlier =>
      let cause := if flag.mode.isNone then Cause.flagRepeatedNegation else .flagDuplicate
      throw { cause, span := flag.span, earlier := some earlier.span }

def flag (c : Char) : Reader Flag := do
  let span ← charSpan
  if c = '-' then return ⟨span, none⟩
  match Mode.ofFlag? c with
  | some mode => return ⟨span, some mode⟩
  | none => refuse .flagUnrecognized span

/-- The flags up to a colon or a closing parenthesis, last one first. -/
def flagsUpTo : (rounds : Nat) → List Flag → Reader (List Flag)
  | 0, flags => return flags
  | rounds + 1, flags => do
      match ← peek? with
      | none => refuse .flagUnfinished (.point (← here))
      | some ':' | some ')' => return flags
      | some c => do
          let flags ← addFlag (← flag c) flags
          advance
          flagsUpTo rounds flags

def flags : Reader (List Flag) := do
  let flags ← flagsUpTo ((← get).rest.length + 1) []
  match flags with
  | ⟨span, none⟩ :: _ => refuse .flagDanglingNegation span
  | _ => return flags.reverse

inductive Front where
  /-- Flags alone, for what follows. -/
  | flags (span : Span) (flags : List Flag)
  /-- The body of a group comes next. -/
  | group (opening : Span) (flags : List Flag)

def lookAround : Reader Bool := do
  if ← accept "?=" then return true
  else if ← accept "?!" then return true
  else if ← accept "?<=" then return true
  else accept "?<!"

def front : Reader Front := do
  let opening ← charSpan
  step
  if ← lookAround then refuse .lookAround (← spanFrom opening.start)
  let inner ← here
  if (← accept "?P<") || (← accept "?<") then
    groupName
    return .group opening []
  else if ← accept "?" then
    if ← atEnd then refuse .groupUnclosed opening
    let flags ← flags
    let closes := (← peek?) = some ')'
    advance
    if !closes then return .group opening flags
    else if flags.isEmpty then refuse .repetitionMissing (.point inner)
    else return .flags (← spanFrom opening.start) flags
  else return .group opening []

end TimingBoard.Pattern.Reader
