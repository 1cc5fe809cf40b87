import TimingBoard.Number.Decimal

namespace TimingBoard.Literal

/-! Number literals given on a command line: decimals read to the nearest binary64 number, and
naturals within a limit. -/

def isDigit (c : Char) : Bool := '0' ≤ c && c ≤ '9'

/-- Splits off a sign; true is a minus. -/
def sign : List Char → Bool × List Char
  | '-' :: rest => (true, rest)
  | '+' :: rest => (false, rest)
  | rest => (false, rest)

/-- The power of ten that a written exponent adds: nothing, or a mark, a sign and digits. -/
def exponent? : List Char → Option Int
  | [] => some 0
  | mark :: rest =>
      let (negative, digits) := sign rest
      if (mark == 'e' || mark == 'E') && !digits.isEmpty && digits.all isDigit then
        some (if negative then -(digitsValue digits : Int) else digitsValue digits)
      else none

/-- The digits after a point, if there is one, and what follows them. -/
def fraction : List Char → List Char × List Char
  | '.' :: rest => (rest.takeWhile isDigit, rest.dropWhile isDigit)
  | rest => ([], rest)

/-- Digits with an optional point and an optional exponent; one digit is needed. -/
def finite? (negative : Bool) (text : List Char) : Option Binary64 :=
  let whole := text.takeWhile isDigit
  let (places, rest) := fraction (text.dropWhile isDigit)
  if whole.isEmpty && places.isEmpty then none
  else (exponent? rest).map fun power =>
    .ofDecimal negative (digitsValue (whole ++ places)) (power - places.length)

/-- Reads a decimal literal.  Infinity and NaN may be spelled out in either case. -/
def binary64? (text : String) : Option Binary64 :=
  let (negative, body) := sign text.toList
  let word := String.ofList (body.map Char.toLower)
  if word = "inf" ∨ word = "infinity" then some (.infinity negative)
  else if word = "nan" then some .nan
  else finite? negative body

def natural? (limit : Nat) (text : String) : Option Nat :=
  let digits := match text.toList with
    | '+' :: rest => rest
    | rest => rest
  if !digits.isEmpty && digits.all isDigit && digitsValue digits ≤ limit then
    some (digitsValue digits)
  else none

end TimingBoard.Literal
