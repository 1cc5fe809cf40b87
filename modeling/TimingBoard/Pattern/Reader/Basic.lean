import TimingBoard.Pattern.Reader.Bracket
import TimingBoard.Pattern.Reader.Group
import TimingBoard.Pattern.Reader.Repetition

namespace TimingBoard.Pattern

namespace Reader

/-! Whole patterns. -/

structure Draft where
  start : Place
  /-- Branches before the current one, last one first. -/
  branches : List Phrase := []
  branchStart : Place
  /-- The parts of the current branch, last one first. -/
  parts : List Phrase := []

namespace Draft

def begun (place : Place) : Draft := { start := place, branchStart := place }

def branch (draft : Draft) (stop : Place) : Phrase :=
  .ofSequence ⟨draft.branchStart, stop⟩ draft.parts.reverse

def phrase (draft : Draft) (stop : Place) : Phrase :=
  match draft.branches with
  | [] => draft.branch stop
  | branches => .choice ⟨draft.start, stop⟩ (draft.branch stop :: branches).reverse

def add (part : Phrase) (draft : Draft) : Draft := { draft with parts := part :: draft.parts }

def nextBranch (stop place : Place) (draft : Draft) : Draft :=
  { draft with
    branches := draft.branch stop :: draft.branches
    branchStart := place
    parts := [] }

end Draft

def setSpaced (spaced : Bool) : Reader Unit := modify fun cursor => { cursor with spaced }

/-- Whether blanks mean nothing under the flags. -/
def spacedBy (flags : List Flag) (spaced : Bool) : Bool :=
  ((settingsOf true flags).lookup .spaced).getD spaced

/-- A part that begins with no other sign. -/
def simpleAtom (char : Char) : Reader Atom := do
  let span ← charSpan
  advance
  match char with
  | '.' => return .dot span
  | '^' => return .mark span .lineStart
  | '$' => return .mark span .lineStop
  | _ => return .letter { span, char }

/-- The body of a group up to its closing parenthesis, or of the pattern up to its end.  Each round
reads at least one character. -/
def body (opening : Option Span) : (rounds : Nat) → Draft → Reader Phrase
  | 0, draft => do return draft.phrase (← here)
  | rounds + 1, draft => do
      skipBlanks
      match ← peek? with
      | none =>
          match opening with
          | some span => refuse .groupUnclosed span
          | none => return draft.phrase (← here)
      | some ')' =>
          if opening.isSome then return draft.phrase (← here)
          else refuse .groupUnopened (← charSpan)
      | some '(' => do
          match ← front with
          | .flags span flags => do
              setSpaced (spacedBy flags (← get).spaced)
              body opening rounds (draft.add (.flags span flags))
          | .group opens flags => do
              let spaced := (← get).spaced
              setSpaced (spacedBy flags spaced)
              let content ← body (some opens) rounds (.begun (← here))
              setSpaced spaced
              advance
              body opening rounds (draft.add (.group (← spanFrom opens.start) flags content))
      | some '|' => do
          let stop ← here
          advance
          body opening rounds (draft.nextBranch stop (← here))
      | some '[' => do body opening rounds (draft.add (← bracket))
      | some '?' => do
          body opening rounds { draft with parts := ← uncounted 0 (some 1) draft.parts }
      | some '*' => do body opening rounds { draft with parts := ← uncounted 0 none draft.parts }
      | some '+' => do body opening rounds { draft with parts := ← uncounted 1 none draft.parts }
      | some '\x7b' => do body opening rounds { draft with parts := ← counted draft.parts }
      | some '\\' => do body opening rounds (draft.add (.atom (← escape)))
      | some c => do body opening rounds (draft.add (.atom (← simpleAtom c)))

def whole : Reader Phrase := do
  let phrase ← body none ((← get).rest.length + 1) (.begun (← here))
  match phrase.tooDeep? 0 with
  | some span => refuse .nestedTooDeeply span
  | none => return phrase

end Reader

def Phrase.ofText (text : List Char) : Except Fault Phrase :=
  (Reader.whole.run { rest := text }).map (·.1)

end TimingBoard.Pattern
