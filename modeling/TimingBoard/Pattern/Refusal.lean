import TimingBoard.Pattern.Meaning
import TimingBoard.Pattern.Reader.Basic
import TimingBoard.Pattern.Size

namespace TimingBoard

/-! Patterns from their texts. -/

inductive PatternRefusal where
  | faulty (text : List Char) (fault : Pattern.Fault)
  | tooLarge
  | noWordTable
deriving DecidableEq, Repr

def PatternRefusal.message : PatternRefusal → String
  | .faulty text fault => fault.report text
  | .tooLarge =>
      "Compiled regex exceeds size limit of " ++ toString Pattern.sizeLimit ++ " bytes."
  | .noWordTable => "error building NFA"

namespace Pattern

def meaningOf (text : List Char) : Except Fault Pattern := do
  let phrase ← Phrase.ofText text
  phrase.meaning.run' {}

def ofText (text : String) : Except PatternRefusal Pattern :=
  match meaningOf text.toList with
  | .error fault => .error (.faulty text.toList fault)
  | .ok pattern =>
      if sizeLimit < pattern.size then .error .tooLarge
      else if pattern.asksForWords then .error .noWordTable
      else .ok pattern

end Pattern

end TimingBoard
