import TimingBoard.Pattern.Reader.Escape

namespace TimingBoard.Pattern.Reader

/-! Sets of characters between square brackets. -/

/-- Members that stand side by side, last one first. -/
structure Side where
  span : Span
  parts : List Members := []

def Side.add (part : Members) (side : Side) : Side :=
  ⟨⟨if side.parts.isEmpty then part.span.start else side.span.start, part.span.stop⟩,
   part :: side.parts⟩

def Side.members (side : Side) : Members :=
  match side.parts with
  | [] => .empty side.span
  | [part] => part
  | parts => .union side.span parts.reverse

/-- What has been read of a set: an operation that waits for its right side, and that side. -/
structure SetDraft where
  waiting : Option (SetOperation × Members) := none
  side : Side

namespace SetDraft

def members (draft : SetDraft) : Members :=
  match draft.waiting with
  | none => draft.side.members
  | some (operation, left) =>
      .operation ⟨left.span.start, draft.side.members.span.stop⟩ operation left draft.side.members

def add (part : Members) (draft : SetDraft) : SetDraft :=
  { draft with side := draft.side.add part }

def operate (operation : SetOperation) (place : Place) (draft : SetDraft) : SetDraft :=
  { waiting := some (operation, draft.members), side := { span := .point place } }

end SetDraft

/-- What is known of a set once its bracket is open. -/
structure Opening where
  /-- From the bracket to the first member that is not read yet. -/
  span : Span
  negated : Bool
  draft : SetDraft

/-- Dashes at the front stand for themselves. -/
def dashes (start : Place) : Nat → Side → Reader Side
  | 0, side => return side
  | count + 1, side => do
      if (← peek?) = some '-' then
        let letter : Letter := { span := ← charSpan, char := '-' }
        step
        if ← atEnd then refuse .classUnclosed (.point start)
        dashes start count (side.add (.letter letter))
      else return side

/-- At an opening bracket.  A closing bracket right at the front stands for itself. -/
def openBracket : Reader Opening := do
  let start ← here
  step
  if ← atEnd then refuse .classUnclosed (← spanFrom start)
  let negated := (← peek?) = some '^'
  if negated then
    step
    if ← atEnd then refuse .classUnclosed (← spanFrom start)
  let mut side ← dashes start (← get).rest.length { span := .point (← here) }
  if side.parts.isEmpty ∧ (← peek?) = some ']' then
    side := side.add (.letter { span := ← charSpan, char := ']' })
    step
    if ← atEnd then refuse .classUnclosed (← spanFrom start)
  return ⟨← spanFrom start, negated, { side }⟩

/-- A named class `[:name:]`, if there is one here. -/
def namedClass? : Reader (Option Members) := do
  let before ← get
  let start := before.place
  if !(← accept "[:") then return none
  let negated ← accept "^"
  let rest := (← get).rest
  let name := rest.takeWhile (· != ':')
  for _ in name do advance
  match AsciiClass.ofName? (String.ofList name), ← accept ":]" with
  | some kind, true => return some (.named (← spanFrom start) kind negated)
  | _, _ =>
      set before
      return none

def setAtom : Reader Atom := do
  match ← peek? with
  | some '\\' => escape
  | some c =>
      let span ← charSpan
      advance
      return .letter { span, char := c }
  | none => refuse .classUnclosed (.point (← here))

def memberOf : Atom → Reader Members
  | .letter letter => return .letter letter
  | .shorthand span kind negated => return .shorthand span kind negated
  | .property span name negated => return .property span name negated
  | .dot span | .mark span _ => refuse .classEscapeInvalid span

def rangeEnd : Atom → Reader Letter
  | .letter letter => return letter
  | atom => refuse .classRangeLiteral atom.span

def member (opening : Span) : Reader Members := do
  let first ← setAtom
  skipBlanks
  if ← atEnd then refuse .classUnclosed opening
  let second := (← get).second?
  if (← peek?) ≠ some '-' ∨ second = some ']' ∨ second = some '-' then memberOf first
  else
    step
    if ← atEnd then refuse .classUnclosed opening
    let last ← setAtom
    let low ← rangeEnd first
    let high ← rangeEnd last
    if high.char < low.char then refuse .classRangeInvalid ⟨low.span.start, high.span.stop⟩
    return .range low high

def setOperation? : Reader (Option SetOperation) := do
  if ← accept "&&" then return some .both
  else if ← accept "--" then return some .without
  else if ← accept "~~" then return some .apart
  else return none

/-- The members up to the closing bracket.  Each round reads at least one character. -/
def members (opening : Span) : (rounds : Nat) → SetDraft → Reader Members
  | 0, draft => return draft.members
  | rounds + 1, draft => do
      skipBlanks
      match ← peek? with
      | none => refuse .classUnclosed opening
      | some ']' => do
          advance
          return draft.members
      | some '[' => do
          if let some named ← namedClass? then members opening rounds (draft.add named)
          else
            let inner ← openBracket
            let content ← members inner.span rounds inner.draft
            let span ← spanFrom inner.span.start
            members opening rounds (draft.add (.bracket span inner.negated content))
      | some _ => do
          match ← setOperation? with
          | some operation => members opening rounds (draft.operate operation (← here))
          | none => members opening rounds (draft.add (← member opening))

def bracket : Reader Phrase := do
  let opening ← openBracket
  let content ← members opening.span ((← get).rest.length + 1) opening.draft
  return .bracket (← spanFrom opening.span.start) opening.negated content

end TimingBoard.Pattern.Reader
