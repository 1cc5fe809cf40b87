import Mathlib.Tactic.Ring
import TimingBoard.Number.Decimal

namespace TimingBoard

/-! Rounding is monotone, and so is what is built on it. -/

theorem Tie.roundsUp_mono (tie : Tie) {whole remainder other denominator : Nat}
    (less : remainder ≤ other) (up : tie.roundsUp whole remainder denominator = true) :
    tie.roundsUp whole other denominator = true := by
  by_cases half : 2 * remainder = denominator
  · by_cases same : 2 * other = denominator
    · obtain rfl : remainder = other := by omega
      exact up
    · have above : denominator < 2 * other := by omega
      simp [roundsUp, same, above]
  · have above : denominator < 2 * remainder := by simpa [roundsUp, half] using up
    have away : 2 * other ≠ denominator := by omega
    have still : denominator < 2 * other := by omega
    simp [roundsUp, away, still]

theorem roundQuotient_mono (tie : Tie) {numerator other : Nat} (denominator : Nat)
    (less : numerator ≤ other) :
    roundQuotient tie numerator denominator ≤ roundQuotient tie other denominator := by
  rcases Nat.lt_or_eq_of_le (Nat.div_le_div_right less) with below | same
  · calc roundQuotient tie numerator denominator
      _ ≤ numerator / denominator + 1 := roundQuotient_le ..
      _ ≤ other / denominator := below
      _ ≤ roundQuotient tie other denominator := le_roundQuotient ..
  · have split := Nat.div_add_mod numerator denominator
    have otherSplit := Nat.div_add_mod other denominator
    rw [same] at split
    have remainders : numerator % denominator ≤ other % denominator := by omega
    simp only [roundQuotient, same]
    cases up : tie.roundsUp (other / denominator) (numerator % denominator) denominator with
    | true => simp only [if_true, tie.roundsUp_mono remainders up, Nat.le_refl]
    | false =>
        simp only [Bool.false_eq_true, if_false]
        split <;> omega

namespace Binary64

theorem log2_mono {n other : Nat} (less : n ≤ other) : Nat.log2 n ≤ Nat.log2 other := by
  by_cases zero : n = 0
  · rw [zero, Nat.log2_zero]
    exact Nat.zero_le _
  · have nonzero : other ≠ 0 := by omega
    exact (Nat.le_log2 nonzero).mpr ((Nat.log2_self_le zero).trans less)

theorem nearestMagnitude_mono {numerator other : Nat} (denominator : Nat)
    (less : numerator ≤ other) :
    nearestMagnitude numerator denominator ≤ nearestMagnitude other denominator := by
  have quotients : numerator / denominator ≤ other / denominator := Nat.div_le_div_right less
  have logs := log2_mono quotients
  have binade_eq : binade = 2 ^ 52 := rfl
  simp only [nearestMagnitude, Nat.pow_eq]
  refine Nat.le_min.mpr ⟨Nat.min_le_left _ _, (Nat.min_le_right _ _).trans ?_⟩
  generalize low : (numerator / denominator).log2 - 52 = exponent
  generalize high : (other / denominator).log2 - 52 = otherExponent
  rcases Nat.lt_or_eq_of_le (show exponent ≤ otherExponent by omega) with below | rfl
  · -- The lower quotient ends its binade at most, the upper one begins a later binade.
    have upper : roundQuotient .even numerator (denominator * 2 ^ exponent) ≤ 2 * binade := by
      have inside : numerator / denominator < 2 ^ 53 * 2 ^ exponent := by
        rw [← Nat.pow_add]
        exact Nat.lt_log2_self.trans_le (Nat.pow_le_pow_right (by decide) (by omega))
      have quotient := Nat.div_lt_of_lt_mul (Nat.mul_comm _ _ ▸ inside)
      rw [Nat.div_div_eq_div_mul] at quotient
      have rounded := roundQuotient_le .even numerator (denominator * 2 ^ exponent)
      omega
    have lower : binade ≤ roundQuotient .even other (denominator * 2 ^ otherExponent) := by
      have log : (other / denominator).log2 = 52 + otherExponent := by omega
      have nonzero : other / denominator ≠ 0 := by
        intro zero
        rw [zero, Nat.log2_zero] at log
        omega
      have begun : 2 ^ 52 * 2 ^ otherExponent ≤ other / denominator := by
        rw [← Nat.pow_add, ← log]
        exact Nat.log2_self_le nonzero
      have quotient := (Nat.le_div_iff_mul_le (Nat.two_pow_pos otherExponent)).mpr begun
      rw [Nat.div_div_eq_div_mul] at quotient
      exact (binade_eq ▸ quotient).trans (le_roundQuotient ..)
    calc exponent * binade + roundQuotient .even numerator (denominator * 2 ^ exponent)
      _ ≤ exponent * binade + 2 * binade := Nat.add_le_add_left upper _
      _ = (exponent + 1) * binade + binade := by ring
      _ ≤ otherExponent * binade + roundQuotient .even other (denominator * 2 ^ otherExponent) :=
          Nat.add_le_add (Nat.mul_le_mul_right binade below) lower
  · exact Nat.add_le_add_left (roundQuotient_mono .even _ less) _

theorem significand_lt (magnitude : Nat) : significand magnitude < 2 * binade := by
  have positive : 0 < binade := Nat.pow_pos (by decide)
  have rest := Nat.mod_lt magnitude positive
  rw [significand]
  split <;> omega

theorem quanta_mono {magnitude other : Nat} (less : magnitude ≤ other) :
    quanta magnitude ≤ quanta other := by
  have positive : 0 < binade := Nat.pow_pos (by decide)
  have quotients : magnitude / binade ≤ other / binade := Nat.div_le_div_right less
  simp only [quanta, exponent, Nat.pow_eq]
  rcases Nat.lt_or_eq_of_le quotients with below | same
  · have normal : ¬other < binade := by
      intro small
      rw [Nat.div_eq_of_lt small] at below
      exact absurd below (Nat.not_lt_zero _)
    have upper : binade ≤ significand other := by
      rw [significand, if_neg normal]
      exact Nat.le_add_right ..
    by_cases small : magnitude < binade
    · rw [Nat.div_eq_of_lt small, significand, if_pos small]
      calc magnitude * 2 ^ (0 - 1)
        _ ≤ significand other := by omega
        _ ≤ significand other * 2 ^ (other / binade - 1) :=
            Nat.le_mul_of_pos_right _ (Nat.two_pow_pos _)
    · have one : 0 < magnitude / binade := Nat.div_pos (by omega) positive
      calc significand magnitude * 2 ^ (magnitude / binade - 1)
        _ ≤ 2 * binade * 2 ^ (magnitude / binade - 1) :=
            Nat.mul_le_mul_right _ (significand_lt magnitude).le
        _ = binade * 2 ^ (magnitude / binade - 1 + 1) := by ring
        _ ≤ significand other * 2 ^ (other / binade - 1) :=
            Nat.mul_le_mul upper (Nat.pow_le_pow_right (by decide) (by omega))
  · rw [same]
    refine Nat.mul_le_mul_right _ ?_
    have split := Nat.div_add_mod magnitude binade
    have otherSplit := Nat.div_add_mod other binade
    rw [same] at split
    simp only [significand]
    split <;> split <;> omega

theorem mulMagnitude_mono {magnitude other factor otherFactor : Nat} (less : magnitude ≤ other)
    (lessFactor : factor ≤ otherFactor) :
    mulMagnitude magnitude factor ≤ mulMagnitude other otherFactor :=
  nearestMagnitude_mono _ (Nat.mul_le_mul (quanta_mono less) (quanta_mono lessFactor))

theorem tenPowMagnitude_mono {power other : Nat} (less : power ≤ other) :
    tenPowMagnitude power ≤ tenPowMagnitude other :=
  nearestMagnitude_mono 1 (Nat.mul_le_mul_right _ (Nat.pow_le_pow_right (by decide) less))

theorem magnitude_ofNat_mono {n other : Nat} (less : n ≤ other) :
    (ofNat n).magnitude ≤ (ofNat other).magnitude :=
  nearestMagnitude_mono 1 (Nat.mul_le_mul_right _ less)

end Binary64

end TimingBoard
