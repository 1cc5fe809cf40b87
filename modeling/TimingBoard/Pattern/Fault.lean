import TimingBoard.Pattern.Span

namespace TimingBoard.Pattern

/-! What is wrong with the text of a pattern, and where. -/

inductive Cause where
  | classEscapeInvalid
  | classRangeInvalid
  | classRangeLiteral
  | classUnclosed
  | decimalInvalid
  | escapeHexEmpty
  | escapeHexInvalid
  | escapeHexInvalidDigit
  | escapeUnfinished
  | escapeUnrecognized
  | flagDanglingNegation
  | flagDuplicate
  | flagRepeatedNegation
  | flagUnfinished
  | flagUnrecognized
  | groupNameDuplicate
  | groupNameEmpty
  | groupNameInvalid
  | groupNameUnfinished
  | groupUnclosed
  | groupUnopened
  | nestedTooDeeply
  | repetitionCountInvalid
  | repetitionCountEmpty
  | repetitionCountUnclosed
  | repetitionMissing
  | wordEdgeUnclosed
  | wordEdgeUnrecognized
  | wordEdgeUnfinished
  | propertyInvalid
  | backreference
  | lookAround
  | unicodeNotAllowed
  | invalidUtf8
  | propertyNotFound
  | propertyValueNotFound
  | classTableMissing
  | caseTableMissing
deriving DecidableEq, Repr

def nestingLimit : Nat := 250

def Cause.message : Cause → String
  | .classEscapeInvalid => "invalid escape sequence found in character class"
  | .classRangeInvalid => "invalid character class range, the start must be <= the end"
  | .classRangeLiteral => "invalid range boundary, must be a literal"
  | .classUnclosed => "unclosed character class"
  | .decimalInvalid => "decimal literal invalid"
  | .escapeHexEmpty => "hexadecimal literal empty"
  | .escapeHexInvalid => "hexadecimal literal is not a Unicode scalar value"
  | .escapeHexInvalidDigit => "invalid hexadecimal digit"
  | .escapeUnfinished => "incomplete escape sequence, reached end of pattern prematurely"
  | .escapeUnrecognized => "unrecognized escape sequence"
  | .flagDanglingNegation => "dangling flag negation operator"
  | .flagDuplicate => "duplicate flag"
  | .flagRepeatedNegation => "flag negation operator repeated"
  | .flagUnfinished => "expected flag but got end of regex"
  | .flagUnrecognized => "unrecognized flag"
  | .groupNameDuplicate => "duplicate capture group name"
  | .groupNameEmpty => "empty capture group name"
  | .groupNameInvalid => "invalid capture group character"
  | .groupNameUnfinished => "unclosed capture group name"
  | .groupUnclosed => "unclosed group"
  | .groupUnopened => "unopened group"
  | .nestedTooDeeply =>
      "exceed the maximum number of nested parentheses/brackets (" ++ toString nestingLimit ++ ")"
  | .repetitionCountInvalid => "invalid repetition count range, the start must be <= the end"
  | .repetitionCountEmpty => "repetition quantifier expects a valid decimal"
  | .repetitionCountUnclosed => "unclosed counted repetition"
  | .repetitionMissing => "repetition operator missing expression"
  | .wordEdgeUnclosed =>
      "special word boundary assertion is either unclosed or contains an invalid character"
  | .wordEdgeUnrecognized =>
      "unrecognized special word boundary assertion, " ++
        "valid choices are: start, end, start-half or end-half"
  | .wordEdgeUnfinished =>
      "found either the beginning of a special word boundary or a bounded repetition " ++
        "on a \\b with an opening brace, but no closing brace"
  | .propertyInvalid => "invalid Unicode character class"
  | .backreference => "backreferences are not supported"
  | .lookAround => "look-around, including look-ahead and look-behind, is not supported"
  | .unicodeNotAllowed => "Unicode not allowed here"
  | .invalidUtf8 => "pattern can match invalid UTF-8"
  | .propertyNotFound => "Unicode property not found"
  | .propertyValueNotFound => "Unicode property value not found"
  | .classTableMissing =>
      "Unicode-aware Perl class not found (make sure the unicode-perl feature is enabled)"
  | .caseTableMissing =>
      "Unicode-aware case insensitivity matching is not available " ++
        "(make sure the unicode-case feature is enabled)"

structure Fault where
  cause : Cause
  span : Span
  /-- What stood in the way, where that was said before. -/
  earlier : Option Span := none
deriving DecidableEq, Repr

/-! A report shows the lines of the pattern, with marks under the faulty spans. -/

namespace Fault

def spans (fault : Fault) : List Span :=
  match fault.earlier with
  | none => [fault.span]
  | some earlier =>
      if fault.span.precedes earlier then [fault.span, earlier] else [earlier, fault.span]

/-- Lines without their ends; there is none after the last end. -/
def linesOf (text : List Char) : List (List Char) :=
  let lines := text.splitOn '\n'
  let lines := if lines.getLast? = some [] then lines.dropLast else lines
  match lines.reverse with
  | [] => []
  | last :: before =>
      let last := if text.getLast? = some '\n' then withoutReturn last else last
      (last :: before.map withoutReturn).reverse
where
  withoutReturn (line : List Char) : List Char :=
    if line.getLast? = some '\r' then line.dropLast else line

def spaces (count : Nat) : String := String.ofList (List.replicate count ' ')

/-- Marks under the spans, from a column on. -/
def marks : (column : Nat) → List Span → String
  | _, [] => ""
  | column, span :: rest =>
      spaces (span.start.column - column) ++ String.ofList (List.replicate span.width '^') ++
        marks (max column span.start.column + span.width) rest

/-- Room for line numbers; there is none for a single line. -/
def numberWidth (text : List Char) : Nat :=
  let count := (linesOf text).length + (if text.getLast? = some '\n' then 1 else 0)
  if count ≤ 1 then 0 else (toString count).length

def margin (numberWidth line : Nat) : String :=
  if numberWidth = 0 then spaces 4
  else spaces (numberWidth - (toString line).length) ++ toString line ++ ": "

def markedLine (fault : Fault) (numberWidth line : Nat) (content : List Char) : String :=
  let here := fault.spans.filter fun span => span.isInOneLine && span.start.line == line
  margin numberWidth line ++ String.ofList content ++ "\n" ++
    (if here.isEmpty then ""
     else spaces (if numberWidth = 0 then 4 else numberWidth + 2) ++ marks 1 here ++ "\n")

def markedLines (fault : Fault) (text : List Char) : String :=
  String.join <| (linesOf text).mapIdx fun place content =>
    fault.markedLine (numberWidth text) (place + 1) content

def extent (span : Span) : String :=
  "on line " ++ toString span.start.line ++ " (column " ++ toString span.start.column ++
    ") through line " ++ toString span.stop.line ++ " (column " ++
    toString (span.stop.column - 1) ++ ")"

def divider : String := String.ofList (List.replicate 79 '~') ++ "\n"

def report (fault : Fault) (text : List Char) : String :=
  let marked := fault.markedLines text
  let long := (fault.spans.filter (!·.isInOneLine)).map extent
  "regex parse error:\n" ++
    (if text.contains '\n' then
      divider ++ marked ++ divider ++
        (if long.isEmpty then "" else "\n".intercalate long ++ "\n")
     else marked) ++
    "error: " ++ fault.cause.message

end Fault

end TimingBoard.Pattern
