import TimingBoard.Pattern.CharSet

namespace TimingBoard

/-! Patterns for parts of a text.

A pattern leads from places of a text to places of it: from the ends of what has been matched so
far to the ends of what it matches from there on.  Sets of places are lists without repetition. -/

/-- Edges of words, as conditions on the characters at both sides of a place. -/
inductive WordEdge where
  | boundary
  | noBoundary
  | start
  | stop
  | startHalf
  | stopHalf
deriving DecidableEq, Repr

def WordEdge.holds (edge : WordEdge) (before after : Bool) : Bool :=
  match edge with
  | .boundary => before != after
  | .noBoundary => before == after
  | .start => !before && after
  | .stop => before && !after
  | .startHalf => !before
  | .stopHalf => !after

inductive Look where
  | textStart
  | textStop
  | lineStart
  | lineStop
  /-- Lines may also end with a carriage return, or with both. -/
  | anyLineStart
  | anyLineStop
  /-- Words of ASCII letters, digits and underscores. -/
  | asciiWord (edge : WordEdge)
  /-- Words of any script.  There is no table of their letters. -/
  | word (edge : WordEdge)
deriving DecidableEq, Repr

def Look.holds (before after : Option Char) : Look → Bool
  | .textStart => before.isNone
  | .textStop => after.isNone
  | .lineStart => before.all (· == '\n')
  | .lineStop => after.all (· == '\n')
  | .anyLineStart => before.all fun c => c == '\n' || (c == '\r' && after != some '\n')
  | .anyLineStop => after.all fun c => c == '\r' || (c == '\n' && before != some '\r')
  | .asciiWord edge =>
      edge.holds (before.any AsciiClass.word.set.holds) (after.any AsciiClass.word.set.holds)
  | .word _ => false

inductive Pattern where
  | empty
  | char (set : CharSet)
  | look (condition : Look)
  | cat (first second : Pattern)
  | alt (left right : Pattern)
  /-- At least and at most so many times. -/
  | repeated (least : Nat) (most : Option Nat) (body : Pattern)
deriving DecidableEq, Repr

namespace Pattern

def ofSequence : List Pattern → Pattern
  | [] => .empty
  | [pattern] => pattern
  | first :: rest => .cat first (ofSequence rest)

def ofChoice : List Pattern → Pattern
  | [] => .empty
  | [pattern] => pattern
  | first :: rest => .alt first (ofChoice rest)

abbrev Places := List Nat

/-- The places of the second set that are not in the first. -/
def fresh (known places : Places) : Places := places.filter fun place => !known.contains place

def after (step : Places → Places) : Nat → Places → Places
  | 0, places => places
  | count + 1, places => if places.isEmpty then [] else after step count (step places)

/-- What at most a number of steps lead to.  Steps start at the newest places only, since the
others have been left already. -/
def upTo (step : Places → Places) : Nat → (known newest : Places) → Places
  | 0, known, _ => known
  | count + 1, known, newest =>
      let more := fresh known (step newest)
      if more.isEmpty then known else upTo step count (known ++ more) more

/-- The places to which the pattern leads.  After more steps than the text has places one of them
did not move, so that nothing new comes with a higher count. -/
def follow (text : Array Char) : Pattern → Places → Places
  | .empty, places => places
  | .char set, places =>
      (places.filter fun place => (text[place]?).any set.holds).map (· + 1)
  | .look condition, places =>
      places.filter fun place =>
        condition.holds (if place = 0 then none else text[place - 1]?) text[place]?
  | .cat first second, places => follow text second (follow text first places)
  | .alt left right, places =>
      let found := follow text left places
      found ++ fresh found (follow text right places)
  | .repeated least most body, places =>
      let enough := text.size + 1
      let found := after (follow text body) (min least enough) places
      upTo (follow text body) (((most.getD enough).min enough) - min least enough) found found

def occursIn (pattern : Pattern) (text : String) : Bool :=
  let chars := text.toList.toArray
  !(pattern.follow chars (List.range (chars.size + 1))).isEmpty

/-- Whether the pattern can match nothing but the empty text. -/
def isWeightless : Pattern → Bool
  | .empty | .look _ => true
  | .char _ => false
  | .cat first second => first.isWeightless && second.isWeightless
  | .alt left right => left.isWeightless && right.isWeightless
  | .repeated _ _ body => body.isWeightless

/-- Repetition, where it is more than the pattern itself.  What has no length need not be repeated
more than once. -/
def times (least : Nat) (most : Option Nat) (body : Pattern) : Pattern :=
  let least := if body.isWeightless then min least 1 else least
  let most := if body.isWeightless then some ((most.getD 1).min 1) else most
  if most = some 0 then .empty
  else if least = 1 ∧ most = some 1 then body
  else .repeated least most body

def asksForWords : Pattern → Bool
  | .look (.word _) => true
  | .empty | .char _ | .look _ => false
  | .cat first second => first.asksForWords || second.asksForWords
  | .alt left right => left.asksForWords || right.asksForWords
  | .repeated _ _ body => body.asksForWords

end Pattern

end TimingBoard
