namespace TimingBoard

/-! Sets of characters, as they are written in patterns. -/

inductive CharSet where
  | none
  /-- Both ends belong to the range. -/
  | range (first last : Char)
  | union (left right : CharSet)
  | both (left right : CharSet)
  | without (left right : CharSet)
  | complement (set : CharSet)
  /-- A letter from `a` to `z` belongs to the set if one of its two cases does. -/
  | eitherCase (set : CharSet)
deriving DecidableEq, Repr

namespace CharSet

def single (c : Char) : CharSet := .range c c

def ofList (sets : List CharSet) : CharSet := sets.foldr .union .none

/-- What belongs to one of the sets and not to the other. -/
def apart (left right : CharSet) : CharSet := .union (.without left right) (.without right left)

def otherCase (c : Char) : Char := if c.isUpper then c.toLower else c.toUpper

def holds : CharSet → Char → Bool
  | .none, _ => false
  | .range first last, c => first ≤ c && c ≤ last
  | .union left right, c => left.holds c || right.holds c
  | .both left right, c => left.holds c && right.holds c
  | .without left right, c => left.holds c && !right.holds c
  | .complement set, c => !set.holds c
  | .eitherCase set, c => set.holds c || set.holds (otherCase c)

end CharSet

inductive AsciiClass where
  | alnum
  | alpha
  | ascii
  | blank
  | cntrl
  | digit
  | graph
  | lower
  | print
  | punct
  | space
  | upper
  | word
  | xdigit
deriving DecidableEq, Repr

namespace AsciiClass

def ofName? : String → Option AsciiClass
  | "alnum" => some .alnum
  | "alpha" => some .alpha
  | "ascii" => some .ascii
  | "blank" => some .blank
  | "cntrl" => some .cntrl
  | "digit" => some .digit
  | "graph" => some .graph
  | "lower" => some .lower
  | "print" => some .print
  | "punct" => some .punct
  | "space" => some .space
  | "upper" => some .upper
  | "word" => some .word
  | "xdigit" => some .xdigit
  | _ => none

def ranges : AsciiClass → List (Char × Char)
  | .alnum => [('0', '9'), ('A', 'Z'), ('a', 'z')]
  | .alpha => [('A', 'Z'), ('a', 'z')]
  | .ascii => [('\x00', '\x7f')]
  | .blank => [('\t', '\t'), (' ', ' ')]
  | .cntrl => [('\x00', '\x1f'), ('\x7f', '\x7f')]
  | .digit => [('0', '9')]
  | .graph => [('!', '~')]
  | .lower => [('a', 'z')]
  | .print => [(' ', '~')]
  | .punct => [('!', '/'), (':', '@'), ('[', '\x60'), ('\x7b', '~')]
  | .space => [('\t', '\r'), (' ', ' ')]
  | .upper => [('A', 'Z')]
  | .word => [('0', '9'), ('A', 'Z'), ('_', '_'), ('a', 'z')]
  | .xdigit => [('0', '9'), ('A', 'F'), ('a', 'f')]

def set (kind : AsciiClass) : CharSet :=
  .ofList (kind.ranges.map fun (first, last) => .range first last)

end AsciiClass

end TimingBoard
