import TimingBoard.Number.Decimal

namespace TimingBoard.Duration

/-! Durations in whole nanoseconds. -/

def millisecond : Nat := 1000000

def second : Nat := 1000000000

/-- Seconds are counted in 64 bits. -/
def secondsLimit : Nat := Nat.pow 2 64

/-- A count of seconds, its exact value rounded to nanoseconds; absent when it is out of range. -/
def ofSeconds? (seconds : Binary64) : Option Nat :=
  if seconds.isFinite then
    let nanoseconds :=
      roundQuotient .even (Binary64.quanta seconds.magnitude * second) Binary64.unit
    if nanoseconds < secondsLimit * second then some nanoseconds else none
  else none

/-- A count of units with the fraction that is left, its trailing zeros dropped. -/
def scaled (unit : Nat) (suffix : String) (nanoseconds : Nat) : String :=
  let places := (decimalDigits unit).length - 1
  let digits := decimalDigits (nanoseconds % unit)
  let padded := List.replicate (places - digits.length) '0' ++ digits
  let fraction := (padded.reverse.dropWhile (· == '0')).reverse
  toString (nanoseconds / unit) ++
    (if nanoseconds % unit = 0 then "" else "." ++ String.ofList fraction) ++ suffix

/-- The largest unit that fits. -/
def text (nanoseconds : Nat) : String :=
  if second ≤ nanoseconds then scaled second "s" nanoseconds
  else if millisecond ≤ nanoseconds then scaled millisecond "ms" nanoseconds
  else if 1000 ≤ nanoseconds then scaled 1000 "µs" nanoseconds
  else scaled 1 "ns" nanoseconds

end TimingBoard.Duration
