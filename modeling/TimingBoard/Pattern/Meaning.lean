import TimingBoard.Pattern.Phrase

namespace TimingBoard.Pattern

/-! What written patterns mean in a mode.

Outside the Unicode mode letters of either case, digits, blanks and words are those of ASCII, and
no set may hold parts of longer characters.  In the Unicode mode they would need tables of
properties and cases, which are not there. -/

def refuse {α : Type} (cause : Cause) (span : Span) : Except Fault α := .error { cause, span }

def isAsciiChar (c : Char) : Bool := c.toNat < 128

/-- The character that a letter means outside the Unicode mode. -/
def Letter.bare (letter : Letter) : Except Fault Char :=
  if letter.isByte && !isAsciiChar letter.char then refuse .invalidUtf8 letter.span
  else pure letter.char

/-- The same among the members of a set, where it is one byte. -/
def Letter.byte (letter : Letter) : Except Fault Char := do
  let char ← letter.bare
  if isAsciiChar char then pure char else refuse .unicodeNotAllowed letter.span

def Letter.meaning (modes : Modes) (letter : Letter) : Except Fault Pattern := do
  if modes.unicode then
    if modes.caseless then refuse .caseTableMissing letter.span
    else pure (.char (.single letter.char))
  else
    let char ← letter.bare
    if modes.caseless && char.isAlpha then pure (.char (.eitherCase (.single char)))
    else pure (.char (.single char))

/-- What can be told of a property without a table: that there is none.  Three names belong to
categories alone, and there it is the value that is missing. -/
def propertyFault (name : PropertyName) : Cause :=
  match name with
  | .single name =>
      if ["cf", "sc", "lc"].contains (plainName name) then .propertyValueNotFound
      else .propertyNotFound
  | .valued _ _ => .propertyNotFound
where
  /-- Names are compared without case, blanks, dashes and a leading "is". -/
  plainName (name : String) : String :=
    let chars := name.toList.map Char.toLower
    let chars := if ['i', 's'].isPrefixOf chars then chars.drop 2 else chars
    String.ofList (chars.filter fun c => isAsciiChar c && c != '_' && c != '-' && c != ' ')

def shorthandMeaning (modes : Modes) (span : Span) (kind : AsciiClass) (negated : Bool) :
    Except Fault CharSet :=
  if modes.unicode then refuse .classTableMissing span
  else if negated then refuse .invalidUtf8 span
  else pure kind.set

def propertyMeaning {α : Type} (modes : Modes) (span : Span) (name : PropertyName) :
    Except Fault α :=
  refuse (if modes.unicode then propertyFault name else .unicodeNotAllowed) span

/-- The set with the other cases of its letters.  Where a table would be needed, only sets without
letters of their own pass. -/
def folded (modes : Modes) (span : Span) (hasLetters : Bool) (set : CharSet) :
    Except Fault CharSet :=
  if !modes.caseless then pure set
  else if !modes.unicode then pure (.eitherCase set)
  else if hasLetters then refuse .caseTableMissing span
  else pure set

/-- A set after its bracket is closed. -/
def closed (modes : Modes) (span : Span) (hasLetters negated : Bool) (set : CharSet) :
    Except Fault CharSet := do
  let set ← folded modes span hasLetters set
  if !negated then pure set
  else if modes.unicode then pure (.complement set)
  else refuse .invalidUtf8 span

mutual

/-- Whether characters stand in a set itself, and not only in sets within it. -/
def Members.hasLetters : Members → Bool
  | .letter _ | .range _ _ => true
  | .union _ parts => Members.anyHasLetters parts
  | .empty _ | .named _ _ _ | .shorthand _ _ _ | .property _ _ _ | .bracket _ _ _
  | .operation _ _ _ _ => false

def Members.anyHasLetters : List Members → Bool
  | [] => false
  | part :: rest => part.hasLetters || Members.anyHasLetters rest

end

def SetOperation.apply : SetOperation → CharSet → CharSet → CharSet
  | .both => .both
  | .without => .without
  | .apart => .apart

mutual

def Members.meaning (modes : Modes) : Members → Except Fault CharSet
  | .empty _ => pure .none
  | .letter given =>
      if modes.unicode then pure (.single given.char) else return .single (← given.byte)
  | .range first last =>
      if modes.unicode then pure (.range first.char last.char)
      else return .range (← first.byte) (← last.byte)
  | .named span kind negated => closed modes span true negated kind.set
  | .shorthand span kind negated => shorthandMeaning modes span kind negated
  | .property span name _ => propertyMeaning modes span name
  | .bracket span negated content => do
      closed modes span content.hasLetters negated (← content.meaning modes)
  | .union _ parts => Members.allMeaning modes parts
  | .operation _ joined left right => do
      let leftSet ← left.meaning modes
      let rightSet ← right.meaning modes
      let rightSet ← folded modes right.span right.hasLetters rightSet
      let leftSet ← folded modes left.span left.hasLetters leftSet
      pure (joined.apply leftSet rightSet)

def Members.allMeaning (modes : Modes) : List Members → Except Fault CharSet
  | [] => pure .none
  | part :: rest => return .union (← part.meaning modes) (← Members.allMeaning modes rest)

end

def dotMeaning (modes : Modes) (span : Span) : Except Fault Pattern :=
  if !modes.unicode then refuse .invalidUtf8 span
  else if modes.dotAll then pure (.char (.complement .none))
  else if modes.carriageReturns then
    pure (.char (.complement (.union (.single '\r') (.single '\n'))))
  else pure (.char (.complement (.single '\n')))

def Mark.meaning (modes : Modes) : Mark → Look
  | .textStart => .textStart
  | .textStop => .textStop
  | .lineStart =>
      if !modes.lines then .textStart
      else if modes.carriageReturns then .anyLineStart else .lineStart
  | .lineStop =>
      if !modes.lines then .textStop
      else if modes.carriageReturns then .anyLineStop else .lineStop
  | .wordEdge edge => if modes.unicode then .word edge else .asciiWord edge

def Atom.meaning (modes : Modes) : Atom → Except Fault Pattern
  | .letter given => given.meaning modes
  | .dot span => dotMeaning modes span
  | .mark _ condition => pure (.look (condition.meaning modes))
  | .shorthand span kind negated => return .char (← shorthandMeaning modes span kind negated)
  | .property span name _ => propertyMeaning modes span name

/-! Flags on their own hold up to the end of their group, so that the modes go from each part to
the next one. -/

mutual

def Phrase.meaning : Phrase → StateT Modes (Except Fault) Pattern
  | .empty _ => pure .empty
  | .flags _ changes => do
      modify (·.change changes)
      pure .empty
  | .atom single => do single.meaning (← get)
  | .bracket span negated content => do
      let modes ← get
      let set ← content.meaning modes
      return .char (← closed modes span content.hasLetters negated set)
  | .repeated _ least most body => return .times least most (← body.meaning)
  | .group _ changes body => do
      let modes ← get
      set (modes.change changes)
      let pattern ← body.meaning
      set modes
      return pattern
  | .sequence _ parts => return .ofSequence (← Phrase.meanings parts)
  | .choice _ branches => return .ofChoice (← Phrase.meanings branches)

def Phrase.meanings : List Phrase → StateT Modes (Except Fault) (List Pattern)
  | [] => pure []
  | part :: rest => return (← part.meaning) :: (← Phrase.meanings rest)

end

end TimingBoard.Pattern
