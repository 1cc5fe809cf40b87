import TimingBoard.Number.Binary64

namespace TimingBoard

/-! Decimal forms of binary64 numbers.

The shortest form is the point of the coarsest power-of-ten grid that still rounds to the number;
the fixed form is the exact value rounded to a number of places. -/

structure Decimal where
  digits : Nat
  power : Int
deriving DecidableEq, Repr

def decimalDigits (n : Nat) : List Char := Nat.toDigits 10 n

def digitsValue (digits : List Char) : Nat :=
  digits.foldl (fun value digit => value * 10 + (digit.toNat - '0'.toNat)) 0

namespace Decimal

/-- The digits before and after the point when all of them are written out. -/
def places (decimal : Decimal) : List Char × List Char :=
  let digits := decimalDigits decimal.digits
  let count := (-decimal.power).toNat
  if count = 0 then (digits ++ List.replicate decimal.power.toNat '0', [])
  else
    let padded := List.replicate (count + 1 - digits.length) '0' ++ digits
    (padded.take (padded.length - count), padded.drop (padded.length - count))

/-- Positional notation, with a point only where there is a fraction. -/
def positional (decimal : Decimal) : List Char :=
  match decimal.places with
  | (whole, []) => whole
  | (whole, fraction) => whole ++ '.' :: fraction

def scale (decimal : Decimal) : Int :=
  (decimalDigits decimal.digits).length - 1 + decimal.power

end Decimal

/-- The reals that round to one magnitude, in quarters of a quantum. -/
structure Basin where
  low : Nat
  centre : Nat
  high : Nat
  /-- Both ends round to the magnitude too. -/
  closed : Bool

namespace Basin

/-- The basin of a finite magnitude.  Below a power of two the spacing is halved. -/
def ofMagnitude (magnitude : Nat) : Basin :=
  let significand := Binary64.significand magnitude
  let step := Nat.pow 2 (Binary64.exponent magnitude)
  let centre := 4 * Binary64.quanta magnitude
  let below :=
    if significand = Binary64.binade ∧ 0 < Binary64.exponent magnitude then step else 2 * step
  { low := centre - below
    centre
    high := centre + 2 * step
    closed := significand % 2 == 0 }

def contains (basin : Basin) (scale point : Nat) : Bool :=
  if basin.closed then basin.low * scale ≤ point && point ≤ basin.high * scale
  else basin.low * scale < point && point < basin.high * scale

/-- The multiple of `10 ^ power` in the basin that lies nearest to its centre. -/
def onGrid? (basin : Basin) (tie : Tie) (power : Int) : Option Nat :=
  let scale := Nat.pow 10 (-power).toNat
  let step := 4 * Binary64.unit * Nat.pow 10 power.toNat
  let centre := basin.centre * scale
  let whole := centre / step
  match basin.contains scale (whole * step), basin.contains scale ((whole + 1) * step) with
  | true, true => some (roundQuotient tie centre step)
  | true, false => some whole
  | false, true => some (whole + 1)
  | false, false => none

/-- The coarsest of the next `grids` grids with a point in the basin. -/
def coarsest (basin : Basin) (tie : Tie) : (grids : Nat) → (power : Int) → Decimal
  | 0, power => ⟨roundQuotient tie basin.centre (4 * Binary64.unit), power⟩
  | grids + 1, power =>
      match basin.onGrid? tie power with
      | some digits => ⟨digits, power⟩
      | none => basin.coarsest tie grids (power - 1)

end Basin

namespace Binary64

/-- A power of ten above every point that rounds to the magnitude. -/
def leadingPower (magnitude : Nat) : Int :=
  ((Nat.log2 (quanta magnitude) : Int) - 1072) * 30103 / 100000 + 1

/-- The shortest decimal that rounds to a finite magnitude other than zero, and the nearest one of
that length.  Seventeen digits always suffice. -/
def shortest (tie : Tie) (magnitude : Nat) : Decimal :=
  (Basin.ofMagnitude magnitude).coarsest tie 24 (leadingPower magnitude)

/-- The sign as it is written: zero has one, NaN has none. -/
def sign (x : Binary64) : List Char := if x.negative then ['-'] else []

/-- The text of a number in messages: the shortest digits in positional notation, a tie going
up. -/
def text (x : Binary64) : String :=
  String.ofList <|
    if x.isNaN then ['N', 'a', 'N']
    else if x.isInfinite then x.sign ++ ['i', 'n', 'f']
    else if x.magnitude = 0 then x.sign ++ ['0']
    else x.sign ++ (shortest .up x.magnitude).positional

/-- The text of a number with a fixed count of places, a half going to the even neighbour. -/
def fixed (places : Nat) (x : Binary64) : String :=
  String.ofList <|
    if x.isNaN then ['N', 'a', 'N']
    else if x.isInfinite then x.sign ++ ['i', 'n', 'f']
    else x.sign ++
      Decimal.positional
        ⟨roundQuotient .even (quanta x.magnitude * Nat.pow 10 places) unit, -places⟩

end Binary64

end TimingBoard
