namespace TimingBoard.Pattern

/-! Places in the text of a pattern. -/

/-- Lines and columns count from one. -/
structure Place where
  line : Nat := 1
  column : Nat := 1
deriving DecidableEq, Repr

namespace Place

/-- The place behind a character that stands at this one. -/
def past (place : Place) (c : Char) : Place :=
  if c = '\n' then ⟨place.line + 1, 1⟩ else ⟨place.line, place.column + 1⟩

def precedes (place other : Place) : Bool :=
  place.line < other.line || (place.line == other.line && place.column < other.column)

end Place

/-- From a place up to another one, without what stands there. -/
structure Span where
  start : Place
  stop : Place
deriving DecidableEq, Repr

namespace Span

def point (place : Place) : Span := ⟨place, place⟩

def isInOneLine (span : Span) : Bool := span.start.line == span.stop.line

/-- Earlier spans come first, and of those with one start the shorter. -/
def precedes (span other : Span) : Bool :=
  span.start.precedes other.start ||
    (span.start == other.start && span.stop.precedes other.stop)

/-- An empty span is seen as one column. -/
def width (span : Span) : Nat := max 1 (span.stop.column - span.start.column)

end Span

end TimingBoard.Pattern
