import TimingBoard.Json.Numeral
import TimingBoard.Proofs.Json.Token
import TimingBoard.Proofs.Number.Shortest

namespace TimingBoard.Json

/-! The token of a number is spelled as the grammar has it. -/

theorem digits_decimalDigits (n : Nat) : Digits (decimalDigits n) :=
  ⟨Nat.toDigits_ne_nil, fun _ member => Nat.isDigit_of_mem_toDigits (by decide) (by decide) member⟩

/-- Only zero begins with a zero. -/
theorem eq_zero_of_decimalDigits (n : Nat) (zero : (decimalDigits n).head? = some '0') : n = 0 := by
  induction n using Nat.strongRecOn with
  | ind n ih =>
      rw [decimalDigits, Nat.toDigits_eq_if (by decide)] at zero
      by_cases small : n < 10
      · rw [if_pos small] at zero
        have one : ∀ n < 10, n.digitChar = '0' → n = 0 := by decide
        exact one n small (Option.some.inj zero)
      · rw [if_neg small, List.head?_append] at zero
        have nonempty : Nat.toDigits 10 (n / 10) ≠ [] := Nat.toDigits_ne_nil
        obtain ⟨first, rest, digits⟩ := List.exists_cons_of_ne_nil nonempty
        have same : (decimalDigits (n / 10)).head? = some '0' := by
          rw [digits] at zero
          rw [decimalDigits, digits]
          exact zero
        have shorter := ih (n / 10) (by omega) same
        omega

/-- The digits before the point of a number other than zero, written out, and those after it. -/
theorem places_proper {decimal : Decimal} (some : decimal.digits ≠ 0) :
    Digits decimal.places.1 ∧ (decimal.places.1.head? = Option.some '0' → decimal.places.1 = ['0']) ∧
      ∀ c ∈ decimal.places.2, isDigit c = true := by
  obtain ⟨nonempty, all⟩ := digits_decimalDigits decimal.digits
  have leads : (decimalDigits decimal.digits).head? ≠ Option.some '0' :=
    fun zero => some (eq_zero_of_decimalDigits _ zero)
  have zeros (count : Nat) : ∀ c ∈ List.replicate count '0', isDigit c = true := by
    intro c member
    rw [List.eq_of_mem_replicate member]
    decide
  rw [Decimal.places]
  generalize decimalDigits decimal.digits = digits at *
  generalize (-decimal.power).toNat = count
  by_cases whole : count = 0
  · simp only [if_pos whole]
    refine ⟨⟨by simp [nonempty], fun c member => ?_⟩, fun zero => ?_, nofun⟩
    · exact (List.mem_append.mp member).elim (all c) (zeros _ c)
    · obtain ⟨first, rest, rfl⟩ := List.exists_cons_of_ne_nil nonempty
      exact absurd zero leads
  · simp only [if_neg whole]
    have padded : ∀ c ∈ List.replicate (count + 1 - digits.length) '0' ++ digits, isDigit c = true :=
      fun c member => (List.mem_append.mp member).elim (zeros _ c) (all c)
    refine ⟨⟨?_, fun c member => padded c (List.mem_of_mem_take member)⟩, fun zero => ?_,
      fun c member => padded c (List.mem_of_mem_drop member)⟩
    · rw [← List.length_pos_iff, List.length_take, List.length_append, List.length_replicate]
      omega
    · by_cases short : digits.length ≤ count
      · -- One digit is left before the point.
        have one : (List.replicate (count + 1 - digits.length) '0' ++ digits).length - count = 1 := by
          rw [List.length_append, List.length_replicate]
          omega
        rw [one] at zero ⊢
        cases padding : List.replicate (count + 1 - digits.length) '0' ++ digits with
        | nil => rw [padding] at one; simp at one
        | cons first rest =>
            rw [padding] at zero
            exact congrArg ([·]) (Option.some.inj zero)
      · have unpadded : count + 1 - digits.length = 0 := by omega
        rw [unpadded, List.replicate_zero, List.nil_append, List.head?_take,
          if_neg (by omega)] at zero
        exact absurd zero leads

section Basin

variable {basin : Basin} (away : 0 < basin.low)
include away

theorem pos_of_contains {scale point : Nat} (scaled : 0 < scale)
    (inside : basin.contains scale point = true) : 0 < point := by
  have low : 0 < basin.low * scale := Nat.mul_pos away scaled
  rw [Basin.contains] at inside
  split at inside <;> simp only [Bool.and_eq_true, decide_eq_true_eq] at inside <;> omega

theorem digits_ne_zero_of_holds {decimal : Decimal} (holds : basin.Holds decimal) :
    decimal.digits ≠ 0 :=
  Nat.ne_of_gt (Nat.pos_of_mul_pos_right (pos_of_contains away (Nat.pow_pos (by decide)) holds))

/-- A grid point is not zero, and without one the number is far below one. -/
theorem coarsest_digits (tie : Tie) (grids : Nat) (power : Int) :
    (basin.coarsest tie grids power).digits ≠ 0 ∨
      (basin.coarsest tie grids power).power = power - grids ∧
        roundQuotient tie basin.centre (4 * Binary64.unit) = 0 := by
  induction grids generalizing power with
  | zero =>
      rw [Basin.coarsest]
      by_cases zero : roundQuotient tie basin.centre (4 * Binary64.unit) = 0
      · exact .inr ⟨by simp, zero⟩
      · exact .inl zero
  | succ grids ih =>
      rw [Basin.coarsest]
      cases found : basin.onGrid? tie power with
      | some digits => exact .inl (digits_ne_zero_of_holds away (Basin.holds_of_onGrid? found))
      | none =>
          refine (ih (power - 1)).imp_right fun fallback => ⟨?_, fallback.2⟩
          simp only [fallback.1]
          omega

end Basin

theorem log2_lt_of_lt_pow {n exponent : Nat} (positive : 0 < exponent) (small : n < Nat.pow 2 exponent) :
    Nat.log2 n < exponent := by
  by_cases zero : n = 0
  · rwa [zero, Nat.log2_zero]
  · exact (Nat.log2_lt zero).mpr small

theorem leadingPower_le_one {magnitude : Nat} (small : Binary64.quanta magnitude < Binary64.unit) :
    Binary64.leadingPower magnitude ≤ 1 := by
  rw [Binary64.unit_eq] at small
  have log := log2_lt_of_lt_pow (by decide) small
  rw [Binary64.leadingPower]
  omega

/-- The shortest digits of a number other than zero are not zero, or are far behind the point. -/
theorem shortest_digits {magnitude : Nat} (nonzero : magnitude ≠ 0) :
    (Binary64.shortest .even magnitude).digits ≠ 0 ∨
      Numeral.isPositional (Binary64.shortest .even magnitude).scale = false := by
  by_cases zero : (Binary64.shortest .even magnitude).digits = 0
  · obtain ⟨power, rounded⟩ := (coarsest_digits (Basin.low_pos nonzero) .even 24
      (Binary64.leadingPower magnitude)).resolve_left (absurd zero)
    have below := le_roundQuotient .even (4 * Binary64.quanta magnitude) (4 * Binary64.unit)
    have rounded : roundQuotient .even (4 * Binary64.quanta magnitude) (4 * Binary64.unit) = 0 :=
      rounded
    have positive := Binary64.unit_pos
    have small : Binary64.quanta magnitude < Binary64.unit := by
      have quotient := Nat.eq_zero_of_le_zero (rounded ▸ below)
      have less := (Nat.div_eq_zero_iff_lt (by omega)).mp quotient
      omega
    have leading := leadingPower_le_one small
    have power : (Binary64.shortest .even magnitude).power =
        Binary64.leadingPower magnitude - (24 : Nat) := power
    have one : (decimalDigits 0).length = 1 := by decide
    right
    rw [Decimal.scale, zero, one, power, Numeral.isPositional]
    simp
    omega
  · exact .inl zero

theorem Numeral.ofBinary64_proper (x : Binary64) : (Numeral.ofBinary64 x).Proper := by
  have zero : Digits ['0'] := ⟨nofun, List.forall_mem_singleton.mpr rfl⟩
  rw [Numeral.ofBinary64]
  by_cases nothing : x.magnitude = 0
  · rw [if_pos nothing]
    exact ⟨zero, fun _ => rfl, zero.2, nofun⟩
  · rw [if_neg nothing]
    have exact := shortest_digits nothing
    generalize Binary64.shortest .even x.magnitude = decimal at exact
    cases positional : isPositional decimal.scale with
    | true =>
        have some : decimal.digits ≠ 0 :=
          exact.resolve_right fun scientific => Bool.noConfusion (positional.symm.trans scientific)
        obtain ⟨whole, alone, fraction⟩ := places_proper some
        simp only [positional, if_true]
        split
        · rename_i same
          rw [same] at whole alone
          exact ⟨whole, alone, zero.2, nofun⟩
        · rename_i same
          rw [same] at whole alone fraction
          exact ⟨whole, alone, fraction, nofun⟩
    | false =>
        simp only [positional, Bool.false_eq_true, if_false]
        obtain ⟨nonempty, all⟩ := digits_decimalDigits decimal.digits
        obtain ⟨first, rest, digits⟩ := List.exists_cons_of_ne_nil nonempty
        rw [digits] at all ⊢
        obtain ⟨head, tail⟩ := List.forall_mem_cons.mp all
        refine ⟨⟨nofun, List.forall_mem_singleton.mpr head⟩, fun zero => ?_, tail, ?_⟩
        · exact congrArg ([·]) (Option.some.inj zero)
        · rintro negative digits same
          cases same
          exact digits_decimalDigits _

end TimingBoard.Json
