import TimingBoard.Json.Text

namespace TimingBoard.Json

/-! Reading a value from a text.

`Value.scan` takes one value off the front of a list of characters.  It never fails: where the text
breaks off, the value says so and nothing is left. -/

def isBlank (c : Char) : Bool := c == ' ' || c == '\t' || c == '\n' || c == '\r'

def skipBlank (text : List Char) : List Char := text.dropWhile isBlank

def isDigit (c : Char) : Bool := '0' ≤ c && c ≤ '9'

def afterWord : (word text : List Char) → Except Fault (List Char)
  | [], text => .ok text
  | _ :: _, [] => .error .truncated
  | expected :: word, c :: text =>
      if c = expected then afterWord word text else .error .malformed

namespace Numeral

/-- A run of digits that must not be empty, and what follows it. -/
def scanDigits (text : List Char) : Except Fault (List Char × List Char) :=
  match text with
  | [] => .error .endOfNumber
  | c :: _ =>
      if isDigit c then .ok (text.takeWhile isDigit, text.dropWhile isDigit)
      else .error .malformed

/-- The digits before the point.  A zero stands alone. -/
def scanWhole (text : List Char) : Except Fault (List Char × List Char) :=
  match text with
  | '0' :: c :: rest =>
      if isDigit c then .error .malformed else .ok (['0'], c :: rest)
  | _ => scanDigits text

def scanFraction : List Char → Except Fault (List Char × List Char)
  | '.' :: rest => scanDigits rest
  | rest => .ok ([], rest)

def scanExponent (text : List Char) : Except Fault (Option (Bool × List Char) × List Char) :=
  match text with
  | [] => .ok (none, [])
  | mark :: rest =>
      if mark = 'e' ∨ mark = 'E' then
        let (negative, rest) := match rest with
          | '-' :: rest => (true, rest)
          | '+' :: rest => (false, rest)
          | rest => (false, rest)
        (scanDigits rest).map fun (digits, rest) => (some (negative, digits), rest)
      else .ok (none, text)

/-- Reads a token whose sign has been passed. -/
def scan (negative : Bool) (text : List Char) : Except Fault (Numeral × List Char) := do
  let (whole, rest) ← scanWhole text
  let (fraction, rest) ← scanFraction rest
  let (exponent, rest) ← scanExponent rest
  pure (⟨negative, whole, fraction, exponent⟩, rest)

end Numeral

abbrev Value.Scanned := Value × List Char

/-- A value that breaks off leaves nothing. -/
def Value.Scanned.ofExcept : Except Fault Value.Scanned → Value.Scanned
  | .ok scanned => scanned
  | .error fault => (.broken fault, [])

def Value.scanNumber (negative : Bool) (text : List Char) : Value.Scanned :=
  .ofExcept ((Numeral.scan negative text).map fun (numeral, rest) => (.number numeral, rest))

def Value.scanWord (word : List Char) (value : Value) (text : List Char) : Value.Scanned :=
  .ofExcept ((afterWord word text).map fun rest => (value, rest))

def Value.scanText (text : List Char) : Value.Scanned :=
  match Text.scan {} text with
  | .closed content rest => (.text content, rest)
  | .broken fault => (.broken fault, [])

mutual

/-- Takes one value off the text.  Each call takes a character off or hands on to one that does, so
twice the length of the text is fuel enough. -/
def Value.scan : (fuel : Nat) → List Char → Value.Scanned
  | 0, _ => (.broken .truncated, [])
  | fuel + 1, text =>
      match skipBlank text with
      | [] => (.broken .truncated, [])
      | '"' :: rest => Value.scanText rest
      | '[' :: rest =>
          match skipBlank rest with
          | [] => (.array [] (some .truncated), [])
          | ']' :: rest => (.array [] none, rest)
          | rest =>
              let (elements, ending, rest) := scanElements fuel rest
              (.array elements ending, rest)
      | '{' :: rest =>
          match skipBlank rest with
          | '}' :: rest => (.object [] none, rest)
          | rest =>
              let (members, ending, rest) := scanMembers fuel rest
              (.object members ending, rest)
      | 'n' :: rest => Value.scanWord ['u', 'l', 'l'] .null rest
      | 't' :: rest => Value.scanWord ['r', 'u', 'e'] (.bool true) rest
      | 'f' :: rest => Value.scanWord ['a', 'l', 's', 'e'] (.bool false) rest
      | '-' :: rest => Value.scanNumber true rest
      | c :: rest =>
          if isDigit c then Value.scanNumber false (c :: rest) else (.broken .malformed, [])

def scanElements : (fuel : Nat) → List Char → List Value × Ending × List Char
  | 0, _ => ([], some .truncated, [])
  | fuel + 1, text =>
      let (element, rest) := Value.scan fuel text
      match skipBlank rest with
      | ',' :: rest =>
          let (others, ending, rest) := scanElements fuel rest
          (element :: others, ending, rest)
      | ']' :: rest => ([element], none, rest)
      | [] => ([element], some .truncated, [])
      | _ :: _ => ([element], some .malformed, [])

def scanMembers : (fuel : Nat) → List Char → List Member × Ending × List Char
  | 0, _ => ([], some .truncated, [])
  | fuel + 1, text =>
      match skipBlank text with
      | [] => ([], some .truncated, [])
      | '"' :: rest =>
          match Text.scan {} rest with
          | .broken fault => ([], some fault, [])
          | .closed key rest =>
              match skipBlank rest with
              | [] => ([(key, .broken .truncated)], none, [])
              | ':' :: rest =>
                  let (value, rest) := Value.scan fuel rest
                  match skipBlank rest with
                  | ',' :: rest =>
                      let (others, ending, rest) := scanMembers fuel rest
                      ((key, value) :: others, ending, rest)
                  | '}' :: rest => ([(key, value)], none, rest)
                  | [] => ([(key, value)], some .truncated, [])
                  | _ :: _ => ([(key, value)], some .malformed, [])
              | _ :: _ => ([(key, .broken .malformed)], none, [])
      | _ :: _ => ([], some .malformed, [])

end

def Value.ofText (text : List Char) : Value.Scanned := Value.scan (2 * text.length + 2) text

/-- Reads a whole text: one value of the wanted form and blanks around it. -/
def decode (read : Value → Except Failure α) (text : String) : Except Failure α := do
  let (value, rest) := Value.ofText text.toList
  let result ← read value
  if (skipBlank rest).isEmpty then pure result else throw .malformed

end TimingBoard.Json
