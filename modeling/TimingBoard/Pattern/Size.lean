import TimingBoard.Pattern.Basic

namespace TimingBoard

/-! The memory that a pattern takes, in bytes.

Each step of a pattern is a state of its own, and a pattern that is repeated a number of times is
there so many times. -/

namespace CharSet

def rangeCount : CharSet → Nat
  | .none => 0
  | .range _ _ => 1
  | .union left right | .both left right | .without left right =>
      left.rangeCount + right.rangeCount
  | .complement set | .eitherCase set => set.rangeCount + 1

def isAscii : CharSet → Bool
  | .none => true
  | .range _ last => last.toNat < 128
  | .union left right => left.isAscii && right.isAscii
  | .both left right => left.isAscii || right.isAscii
  | .without left _ => left.isAscii
  | .complement _ => false
  | .eitherCase set => set.isAscii

end CharSet

namespace Pattern

def stateSize : Nat := 32

def rangeSize : Nat := 8

/-- The states for the longer characters, which take several bytes each. -/
def longCharsSize : Nat := 400

/-- A state from which two ways lead on. -/
def forkSize : Nat := stateSize + 8

def charSize : CharSet → Nat
  | .range first last =>
      if first = last then first.utf8Size * stateSize
      else if last.toNat < 128 then stateSize
      else longCharsSize + rangeSize
  | set =>
      (if set.isAscii then stateSize else longCharsSize) + set.rangeCount * rangeSize

def size : Pattern → Nat
  | .empty | .look _ => stateSize
  | .char set => charSize set
  | .cat first second => first.size + second.size
  | .alt left right => left.size + right.size + forkSize
  | .repeated least none body => max least 1 * body.size + forkSize
  | .repeated least (some most) body => least * body.size + (most - least) * (body.size + forkSize)

def sizeLimit : Nat := 10485760

end Pattern

end TimingBoard
