namespace TimingBoard

/-! Rounding a quotient of naturals to a whole number. -/

/-- Which neighbour an exact half goes to. -/
inductive Tie where
  | even
  | up
deriving DecidableEq, Repr

/-- Whether `numerator / denominator`, whose whole part is `whole`, rounds up. -/
def Tie.roundsUp (tie : Tie) (whole remainder denominator : Nat) : Bool :=
  if 2 * remainder = denominator then
    match tie with
    | .even => whole % 2 == 1
    | .up => true
  else denominator < 2 * remainder

def roundQuotient (tie : Tie) (numerator denominator : Nat) : Nat :=
  let whole := numerator / denominator
  if tie.roundsUp whole (numerator % denominator) denominator then whole + 1 else whole

theorem le_roundQuotient (tie : Tie) (numerator denominator : Nat) :
    numerator / denominator ≤ roundQuotient tie numerator denominator := by
  simp only [roundQuotient]
  split <;> omega

theorem roundQuotient_le (tie : Tie) (numerator denominator : Nat) :
    roundQuotient tie numerator denominator ≤ numerator / denominator + 1 := by
  simp only [roundQuotient]
  split <;> omega

theorem roundQuotient_one (tie : Tie) (numerator : Nat) :
    roundQuotient tie numerator 1 = numerator := by
  simp [roundQuotient, Tie.roundsUp, Nat.mod_one]

end TimingBoard
