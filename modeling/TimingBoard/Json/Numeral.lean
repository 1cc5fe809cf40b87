import TimingBoard.Json.Value

namespace TimingBoard.Json.Numeral

open Binary64

/-! What a number token stands for, and the token written for a number.

Reading does not round once.  The digits collect in a 64-bit significand, the power of ten that is
left over is applied by one product or quotient, and each of the two steps rounds. -/

/-- The significand holds what fits in 64 bits. -/
def significandLimit : Nat := Nat.pow 2 64 - 1

/-- Exponents are held in 32 bits. -/
def exponentLimit : Nat := Nat.pow 2 31 - 1

def largestPower : Nat := 308

structure Collected where
  significand : Nat
  power : Int
deriving DecidableEq, Repr

def digitValue (digit : Char) : Nat := digit.toNat - '0'.toNat

/-- Digits before the point.  From the first one that does not fit, each digit is dropped and
counts as a power of ten. -/
def collectWhole (significand : Nat) : List Char → Collected
  | [] => ⟨significand, 0⟩
  | digit :: rest =>
      let next := significand * 10 + digitValue digit
      if next ≤ significandLimit then collectWhole next rest
      else ⟨significand, rest.length + 1⟩

/-- Digits after the point.  The first one that does not fit ends them. -/
def collectFraction (collected : Collected) : List Char → Collected
  | [] => collected
  | digit :: rest =>
      let next := collected.significand * 10 + digitValue digit
      if next ≤ significandLimit then collectFraction ⟨next, collected.power - 1⟩ rest
      else collected

/-- Division by a power of ten, in steps of the largest one that is a constant. -/
def scaleDown (magnitude power : Nat) : Nat :=
  if power ≤ largestPower then divMagnitude magnitude (tenPowMagnitude power)
  else if magnitude = 0 then 0
  else scaleDown (divMagnitude magnitude (tenPowMagnitude largestPower)) (power - largestPower)
termination_by power
decreasing_by simp [largestPower] at *; omega

def Collected.magnitude? (collected : Collected) : Option Nat :=
  let magnitude := (ofNat collected.significand).magnitude
  if collected.power < 0 then some (scaleDown magnitude (-collected.power).toNat)
  else
    let power := collected.power.toNat
    if power ≤ largestPower then
      let product := mulMagnitude magnitude (tenPowMagnitude power)
      if product < infinityMagnitude then some product else none
    else if magnitude = 0 then some 0
    else none

/-- A token without fraction and exponent whose digits fit the significand is an integer. -/
def integer? (numeral : Numeral) : Option Nat :=
  if numeral.fraction.isEmpty && numeral.exponent.isNone
      && digitsValue numeral.whole ≤ significandLimit then
    some (digitsValue numeral.whole)
  else none

/-- The magnitude a token stands for; absent when it is beyond the finite ones. -/
def magnitude? (numeral : Numeral) : Option Nat :=
  match numeral.integer? with
  | some n => some (ofNat n).magnitude
  | none =>
      let collected := collectFraction (collectWhole 0 numeral.whole) numeral.fraction
      match numeral.exponent with
      | none => collected.magnitude?
      | some (negative, digits) =>
          let exponent := digitsValue digits
          if exponentLimit < exponent then
            if collected.significand ≠ 0 ∧ negative = false then none else some 0
          else
            Collected.magnitude?
              { collected with
                power := collected.power + (if negative then -(exponent : Int) else exponent) }

def number? (numeral : Numeral) : Option Binary64 :=
  numeral.magnitude?.map fun magnitude => ⟨numeral.negative, magnitude⟩

/-- The natural a token spells: digits alone, below `2 ^ 64`. -/
def natural? (numeral : Numeral) : Option Nat :=
  if numeral.negative then none else numeral.integer?

/-- Leading digits of exponents `-5` to `15` are written positionally. -/
def isPositional (scale : Int) : Bool := -5 ≤ scale && scale ≤ 15

/-- The token written for a finite number: its shortest digits, a tie going to the even one, with a
fraction or an exponent always present. -/
def ofBinary64 (x : Binary64) : Numeral :=
  if x.magnitude = 0 then ⟨x.negative, ['0'], ['0'], none⟩
  else
    let decimal := shortest .even x.magnitude
    if isPositional decimal.scale then
      match decimal.places with
      | (whole, []) => ⟨x.negative, whole, ['0'], none⟩
      | (whole, fraction) => ⟨x.negative, whole, fraction, none⟩
    else
      let digits := decimalDigits decimal.digits
      ⟨x.negative, digits.take 1, digits.drop 1,
        some (decimal.scale < 0, decimalDigits decimal.scale.natAbs)⟩

/-- The characters of a token; a positive exponent has its sign written. -/
def render (numeral : Numeral) : List Char :=
  (if numeral.negative then ['-'] else []) ++ numeral.whole ++
    (if numeral.fraction.isEmpty then [] else '.' :: numeral.fraction) ++
    match numeral.exponent with
    | none => []
    | some (negative, digits) => 'e' :: (if negative then '-' else '+') :: digits

end TimingBoard.Json.Numeral
