import TimingBoard.Number.Rounding

namespace TimingBoard

/-! Numbers of the IEEE binary64 format, as processing times are measured and summed.

A number is a sign and a magnitude pattern.  Patterns are ordered as the absolute values they
stand for, and every finite number is a whole count of quanta of `2 ^ -1074`, so comparison is
comparison of integers and arithmetic is exact arithmetic followed by one rounding. -/

/-- A binary64 number: its sign and the 63 bits below it. -/
structure Binary64 where
  negative : Bool
  magnitude : Nat
deriving DecidableEq, Repr

namespace Binary64

/-- How many magnitudes share one power of two. -/
def binade : Nat := Nat.pow 2 52

/-- The magnitude pattern of infinity; patterns above it are not numbers. -/
def infinityMagnitude : Nat := 2047 * binade

def zero : Binary64 := ⟨false, 0⟩

def infinity (negative : Bool) : Binary64 := ⟨negative, infinityMagnitude⟩

def nan : Binary64 := ⟨false, infinityMagnitude + Nat.pow 2 51⟩

instance : Inhabited Binary64 := ⟨zero⟩

def isNaN (x : Binary64) : Bool := infinityMagnitude < x.magnitude

def isInfinite (x : Binary64) : Bool := x.magnitude == infinityMagnitude

def isFinite (x : Binary64) : Bool := x.magnitude < infinityMagnitude

/-- The whole significand of a finite magnitude. -/
def significand (magnitude : Nat) : Nat :=
  if magnitude < binade then magnitude else binade + magnitude % binade

/-- The power of two, in quanta, that scales the significand of a finite magnitude. -/
def exponent (magnitude : Nat) : Nat := magnitude / binade - 1

/-- The absolute value of a finite magnitude, in quanta. -/
def quanta (magnitude : Nat) : Nat := significand magnitude * Nat.pow 2 (exponent magnitude)

/-- How many quanta make one. -/
def unit : Nat := Nat.pow 2 1074

/-- The value of a finite number, in quanta. -/
def value (x : Binary64) : Int :=
  if x.negative then -(quanta x.magnitude : Int) else quanta x.magnitude

/-- The magnitude nearest to `numerator / denominator` quanta, a half going to the even
significand, and infinity beyond the last finite magnitude. -/
def nearestMagnitude (numerator denominator : Nat) : Nat :=
  let exponent := Nat.log2 (numerator / denominator) - 52
  min infinityMagnitude
    (exponent * binade + roundQuotient .even numerator (denominator * Nat.pow 2 exponent))

def ofNat (n : Nat) : Binary64 := ⟨false, nearestMagnitude (n * unit) 1⟩

/-- Order key: numbers other than NaN compare as their keys do, and both zeros share one. -/
def key (x : Binary64) : Int := if x.negative then -(x.magnitude : Int) else x.magnitude

/-- Comparison of numbers; nothing is below or above NaN. -/
def lt (x y : Binary64) : Bool := !x.isNaN && !y.isNaN && x.key < y.key

/-- Equality of values: zeros of both signs are equal and NaN equals nothing. -/
def eqv (x y : Binary64) : Bool := !x.isNaN && !y.isNaN && x.key == y.key

/-- The sum, rounded once; an exact zero is negative only when both terms are. -/
def add (x y : Binary64) : Binary64 :=
  if x.isNaN || y.isNaN then nan
  else if x.isInfinite then
    if y.isInfinite && x.negative != y.negative then nan else x
  else if y.isInfinite then y
  else
    let sum := x.value + y.value
    if sum = 0 then ⟨x.negative && y.negative, 0⟩
    else ⟨sum < 0, nearestMagnitude sum.natAbs 1⟩

instance : Add Binary64 := ⟨add⟩

def mulMagnitude (x y : Nat) : Nat := nearestMagnitude (quanta x * quanta y) unit

def divMagnitude (x y : Nat) : Nat := nearestMagnitude (quanta x * unit) (quanta y)

def tenPowMagnitude (power : Nat) : Nat := nearestMagnitude (Nat.pow 10 power * unit) 1

/-- The number nearest to `digits * 10 ^ power`.  Decimals beyond the range of the format are
settled by their size alone. -/
def ofDecimal (negative : Bool) (digits : Nat) (power : Int) : Binary64 :=
  let size := (Nat.toDigits 10 digits).length + power
  if digits = 0 ∨ size < -400 then ⟨negative, 0⟩
  else if 400 < size then infinity negative
  else
    ⟨negative,
      nearestMagnitude (digits * Nat.pow 10 power.toNat * unit) (Nat.pow 10 (-power).toNat)⟩

def toBits (x : Binary64) : Nat := (if x.negative then Nat.pow 2 63 else 0) + x.magnitude

theorem isFinite_iff {x : Binary64} :
    x.isFinite = true ↔ x.isNaN = false ∧ x.isInfinite = false := by
  simp [isFinite, isNaN, isInfinite]
  omega

theorem lt_irrefl (x : Binary64) : x.lt x = false := by
  simp [lt]

theorem lt_trans {x y z : Binary64} (below : x.lt y) (above : y.lt z) : x.lt z := by
  simp only [lt, Bool.and_eq_true, decide_eq_true_eq] at *
  exact ⟨⟨below.1.1, above.1.2⟩, Int.lt_trans below.2 above.2⟩

end Binary64

end TimingBoard
