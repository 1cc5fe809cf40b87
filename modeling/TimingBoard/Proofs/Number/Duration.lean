import TimingBoard.Number.Duration
import TimingBoard.Proofs.Number.Shortest

namespace TimingBoard

/-! Counts of nanoseconds are nearest to the seconds they count, and exist below `2 ^ 64` seconds. -/

/-- The whole number nearest to a quotient, and the even one of two that are. -/
structure Nearest (numerator denominator whole : Nat) : Prop where
  near : 2 * ((whole * denominator : Nat) - numerator : Int).natAbs ≤ denominator
  even : 2 * ((whole * denominator : Nat) - numerator : Int).natAbs = denominator → whole % 2 = 0

theorem nearest_roundQuotient (numerator : Nat) {denominator : Nat} (positive : 0 < denominator) :
    Nearest numerator denominator (roundQuotient .even numerator denominator) := by
  have split := Nat.div_add_mod numerator denominator
  have rest := Nat.mod_lt numerator positive
  rw [Nat.mul_comm] at split
  simp only [roundQuotient, Tie.roundsUp]
  generalize numerator / denominator = whole at split
  generalize numerator % denominator = remainder at split rest
  have next : (whole + 1) * denominator = whole * denominator + denominator := Nat.succ_mul ..
  by_cases half : 2 * remainder = denominator
  · rw [if_pos half]
    by_cases odd : whole % 2 = 1
    · rw [if_pos (by simp [odd])]
      constructor <;> rw [next] <;> omega
    · rw [if_neg (by simp [odd])]
      constructor <;> omega
  · rw [if_neg half]
    by_cases up : denominator < 2 * remainder
    · rw [if_pos (decide_eq_true up)]
      constructor <;> rw [next] <;> omega
    · rw [if_neg (by simp [up])]
      constructor <;> omega

namespace Duration

open Binary64

/-- The magnitude of `2 ^ 64`. -/
def limitMagnitude : Nat := 1087 * binade

theorem quanta_limitMagnitude : quanta limitMagnitude = secondsLimit * unit := by decide +kernel

/-- The number next to the limit is far enough from it not to be rounded there. -/
theorem roundQuotient_below_limit :
    roundQuotient .even (quanta (limitMagnitude - 1) * second) unit < secondsLimit * second := by
  decide +kernel

theorem quanta_lt_limit_iff {magnitude : Nat} :
    quanta magnitude < secondsLimit * unit ↔ magnitude < limitMagnitude := by
  rw [← quanta_limitMagnitude]
  constructor
  · intro less
    exact Nat.lt_of_not_le fun above => Nat.not_le.mpr less (quanta_mono above)
  · intro less
    have last : quanta (limitMagnitude - 1) < quanta limitMagnitude := by decide +kernel
    exact Nat.lt_of_le_of_lt (quanta_mono (Nat.le_sub_one_of_lt less)) last

/-- A count of seconds is counted in nanoseconds iff it is finite and below the limit. -/
theorem ofSeconds?_isSome_iff {seconds : Binary64} (finite : seconds.isFinite = true) :
    (ofSeconds? seconds).isSome = true ↔ quanta seconds.magnitude < secondsLimit * unit := by
  have size : roundQuotient .even (quanta seconds.magnitude * second) unit < secondsLimit * second ↔
      quanta seconds.magnitude < secondsLimit * unit := by
    rw [quanta_lt_limit_iff]
    constructor
    · intro counted
      by_contra above
      have least := quanta_mono (Nat.not_lt.mp above)
      have whole := le_roundQuotient .even (quanta seconds.magnitude * second) unit
      have quotient : secondsLimit * second ≤ quanta seconds.magnitude * second / unit := by
        rw [Nat.le_div_iff_mul_le unit_pos]
        calc secondsLimit * second * unit
          _ = quanta limitMagnitude * second := by rw [quanta_limitMagnitude]; ring
          _ ≤ quanta seconds.magnitude * second := Nat.mul_le_mul_right _ least
      omega
    · intro less
      have le := quanta_mono (Nat.le_sub_one_of_lt less)
      exact (roundQuotient_mono .even unit (Nat.mul_le_mul_right second le)).trans_lt
        roundQuotient_below_limit
  rw [ofSeconds?, if_pos finite]
  dsimp only
  split
  · rename_i counted
    simpa using size.mp counted
  · rename_i uncounted
    simpa using fun less => uncounted (size.mpr less)

theorem nearest_of_ofSeconds? {seconds : Binary64} {nanoseconds : Nat}
    (counted : ofSeconds? seconds = some nanoseconds) :
    Nearest (quanta seconds.magnitude * second) unit nanoseconds := by
  rw [ofSeconds?] at counted
  split at counted
  · dsimp only at counted
    split at counted
    · obtain rfl := Option.some.inj counted
      exact nearest_roundQuotient _ unit_pos
    · cases counted
  · cases counted

end Duration

end TimingBoard
