import TimingBoard.Pattern.Basic
import TimingBoard.Pattern.Fault
import TimingBoard.Pattern.Mode

namespace TimingBoard.Pattern

/-! Patterns as they are written, part by part, with the places of the parts. -/

structure Letter where
  span : Span
  char : Char
  /-- It was given as a number of one byte. -/
  isByte : Bool := false
deriving DecidableEq, Repr

inductive PropertyName where
  | single (name : String)
  | valued (name value : String)
deriving DecidableEq, Repr

/-- Conditions on a place, whose meaning may depend on the mode. -/
inductive Mark where
  | lineStart
  | lineStop
  | textStart
  | textStop
  | wordEdge (edge : WordEdge)
deriving DecidableEq, Repr

/-- A part without parts. -/
inductive Atom where
  | letter (letter : Letter)
  | dot (span : Span)
  | mark (span : Span) (mark : Mark)
  /-- A class of characters by the letter for digits, blanks or words. -/
  | shorthand (span : Span) (kind : AsciiClass) (negated : Bool)
  | property (span : Span) (name : PropertyName) (negated : Bool)
deriving DecidableEq, Repr

def Atom.span : Atom → Span
  | .letter given => given.span
  | .dot span | .mark span _ | .shorthand span _ _ | .property span _ _ => span

inductive SetOperation where
  | both
  | without
  | apart
deriving DecidableEq, Repr

inductive Members where
  | empty (span : Span)
  | letter (letter : Letter)
  | range (first last : Letter)
  | named (span : Span) (kind : AsciiClass) (negated : Bool)
  | shorthand (span : Span) (kind : AsciiClass) (negated : Bool)
  | property (span : Span) (name : PropertyName) (negated : Bool)
  | bracket (span : Span) (negated : Bool) (content : Members)
  | union (span : Span) (parts : List Members)
  | operation (span : Span) (operation : SetOperation) (left right : Members)
deriving Repr

def Members.span : Members → Span
  | .empty span | .named span _ _ | .shorthand span _ _ | .property span _ _ | .bracket span _ _
  | .union span _ | .operation span _ _ _ => span
  | .letter given => given.span
  | .range first last => ⟨first.span.start, last.span.stop⟩

inductive Phrase where
  | empty (span : Span)
  /-- Flags for what follows in the same group. -/
  | flags (span : Span) (flags : List Flag)
  | atom (atom : Atom)
  | bracket (span : Span) (negated : Bool) (content : Members)
  | repeated (span : Span) (least : Nat) (most : Option Nat) (body : Phrase)
  | group (span : Span) (flags : List Flag) (body : Phrase)
  | sequence (span : Span) (parts : List Phrase)
  | choice (span : Span) (branches : List Phrase)
deriving Repr

namespace Phrase

def span : Phrase → Span
  | .empty span | .flags span _ | .bracket span _ _ | .repeated span _ _ _ | .group span _ _
  | .sequence span _ | .choice span _ => span
  | .atom single => single.span

def isRepeatable : Phrase → Bool
  | .empty _ | .flags _ _ => false
  | _ => true

def ofSequence (span : Span) : List Phrase → Phrase
  | [] => .empty span
  | [part] => part
  | parts => .sequence span parts

end Phrase

/-! Parts with parts of their own may be nested up to a limit.  The first part beyond it, in the
order in which parts begin, is named. -/

mutual

def Members.tooDeep? (depth : Nat) : Members → Option Span
  | .bracket span _ content =>
      if depth = nestingLimit then some span else content.tooDeep? (depth + 1)
  | .union span parts =>
      if depth = nestingLimit then some span else Members.anyTooDeep? (depth + 1) parts
  | .operation span _ left right =>
      if depth = nestingLimit then some span
      else (left.tooDeep? (depth + 1)).or (right.tooDeep? (depth + 1))
  | .empty _ | .letter _ | .range _ _ | .named _ _ _ | .shorthand _ _ _ | .property _ _ _ => none

def Members.anyTooDeep? (depth : Nat) : List Members → Option Span
  | [] => none
  | part :: rest => (part.tooDeep? depth).or (Members.anyTooDeep? depth rest)

end

mutual

def Phrase.tooDeep? (depth : Nat) : Phrase → Option Span
  | .bracket span _ content =>
      if depth = nestingLimit then some span else content.tooDeep? (depth + 1)
  | .repeated span _ _ body | .group span _ body =>
      if depth = nestingLimit then some span else body.tooDeep? (depth + 1)
  | .sequence span parts | .choice span parts =>
      if depth = nestingLimit then some span else Phrase.anyTooDeep? (depth + 1) parts
  | .empty _ | .flags _ _ | .atom _ => none

def Phrase.anyTooDeep? (depth : Nat) : List Phrase → Option Span
  | [] => none
  | part :: rest => (part.tooDeep? depth).or (Phrase.anyTooDeep? depth rest)

end

end TimingBoard.Pattern
