import TimingBoard.Pattern.Span

namespace TimingBoard.Pattern

/-! Modes in which patterns are read. -/

inductive Mode where
  | caseless
  | lines
  | dotAll
  | lazy
  | unicode
  | carriageReturns
  | spaced
deriving DecidableEq, Repr

def Mode.ofFlag? : Char → Option Mode
  | 'i' => some .caseless
  | 'm' => some .lines
  | 's' => some .dotAll
  | 'U' => some .lazy
  | 'u' => some .unicode
  | 'R' => some .carriageReturns
  | 'x' => some .spaced
  | _ => none

/-- One flag, or the sign that the flags after it switch modes off. -/
structure Flag where
  span : Span
  mode : Option Mode
deriving DecidableEq, Repr

/-- The modes that flags name, each with whether it is on. -/
def settingsOf : (on : Bool) → List Flag → List (Mode × Bool)
  | _, [] => []
  | _, ⟨_, none⟩ :: rest => settingsOf false rest
  | on, ⟨_, some mode⟩ :: rest => (mode, on) :: settingsOf on rest

/-- The modes that decide what a pattern means.  Laziness chooses between matches, and does not
decide whether there is one. -/
structure Modes where
  caseless : Bool := false
  lines : Bool := false
  dotAll : Bool := false
  unicode : Bool := true
  carriageReturns : Bool := false
deriving DecidableEq, Repr

namespace Modes

def set (modes : Modes) : Mode × Bool → Modes
  | (.caseless, on) => { modes with caseless := on }
  | (.lines, on) => { modes with lines := on }
  | (.dotAll, on) => { modes with dotAll := on }
  | (.unicode, on) => { modes with unicode := on }
  | (.carriageReturns, on) => { modes with carriageReturns := on }
  | (.lazy, _) | (.spaced, _) => modes

def change (modes : Modes) (flags : List Flag) : Modes := (settingsOf true flags).foldl set modes

end Modes

end TimingBoard.Pattern
