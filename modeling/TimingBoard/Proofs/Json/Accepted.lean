import TimingBoard.Proofs.Json.Number

namespace TimingBoard.Json.Numeral

open Binary64 (infinityMagnitude mulMagnitude tenPowMagnitude)
open Basin (lastMiddle)

/-! Every finite number is written as a token that is read as some finite number.

Only a positive power of ten can lead beyond the finite numbers.  The digits that are collected stay
below the number that was written, but for the last of its basin, and both roundings of the reader
leave what is below the last middle finite. -/

theorem digitsValue_decimalDigits (n : Nat) : digitsValue (decimalDigits n) = n := by
  have value := Nat.ofDigitChars_toDigits (n := n) (by decide : 1 < 10) (Nat.le_refl 10)
  simp only [Nat.ofDigitChars, Nat.mul_comm 10] at value
  exact value

section Digits

variable {digits : List Char} {value : Nat}

theorem le_ofDigitChars (digits : List Char) (value : Nat) :
    value * 10 ^ digits.length ≤ Nat.ofDigitChars 10 digits value := by
  rw [Nat.ofDigitChars_eq_ofDigitChars_zero, Nat.mul_comm]
  exact Nat.le_add_right ..

theorem digitValue_le {digit : Char} (isDigit : isDigit digit = true) : digitValue digit ≤ 9 := by
  simp only [Json.isDigit, Bool.and_eq_true, decide_eq_true_eq] at isDigit
  have upper : digit.toNat ≤ '9'.toNat := isDigit.2
  have nine : '9'.toNat = 57 := rfl
  have zero : '0'.toNat = 48 := rfl
  rw [digitValue]
  omega

theorem ofDigitChars_lt (spelled : ∀ digit ∈ digits, isDigit digit = true) :
    Nat.ofDigitChars 10 digits value < (value + 1) * 10 ^ digits.length := by
  induction digits generalizing value with
  | nil => simp
  | cons digit rest ih =>
      obtain ⟨first, later⟩ := List.forall_mem_cons.mp spelled
      have small := digitValue_le first
      rw [Nat.ofDigitChars_cons, List.length_cons, Nat.pow_succ, Nat.mul_comm _ 10, ← Nat.mul_assoc]
      refine (ih later).trans_le (Nat.mul_le_mul_right _ ?_)
      rw [digitValue] at small
      omega

theorem collectWhole_eq (fits : Nat.ofDigitChars 10 digits value ≤ significandLimit) :
    collectWhole value digits = ⟨Nat.ofDigitChars 10 digits value, 0⟩ := by
  induction digits generalizing value with
  | nil => rfl
  | cons digit rest ih =>
      rw [Nat.ofDigitChars_cons, Nat.mul_comm] at fits ⊢
      have next : value * 10 + digitValue digit ≤ significandLimit :=
        (Nat.le_mul_of_pos_right _ (Nat.pow_pos (by decide))).trans ((le_ofDigitChars rest _).trans fits)
      rw [collectWhole]
      simp only [next, if_true]
      exact ih fits

/-- The digits of the fraction that are taken into the significand.  The ones that are left out make
the number smaller. -/
theorem collectFraction_takes {collected : Collected} (fits : collected.significand ≤ significandLimit)
    (digits : List Char) :
    (collectFraction collected digits).significand ≤ significandLimit ∧
      ∃ taken dropped, digits.length = taken + dropped ∧
        (collectFraction collected digits).power = collected.power - taken ∧
        (collectFraction collected digits).significand * 10 ^ dropped ≤
          Nat.ofDigitChars 10 digits collected.significand := by
  induction digits generalizing collected with
  | nil => exact ⟨fits, 0, 0, rfl, by simp [collectFraction], by simp [collectFraction]⟩
  | cons digit rest ih =>
      rw [collectFraction]
      by_cases next : collected.significand * 10 + digitValue digit ≤ significandLimit
      · simp only [next, if_true]
        obtain ⟨small, taken, dropped, length, power, below⟩ := @ih ⟨_, collected.power - 1⟩ next
        refine ⟨small, taken + 1, dropped, ?_, ?_, ?_⟩
        · rw [List.length_cons, length]
          omega
        · rw [power, Int.natCast_succ]
          dsimp only
          omega
        · rw [Nat.ofDigitChars_cons, Nat.mul_comm 10]
          exact below
      · simp only [next, if_false]
        exact ⟨fits, 0, rest.length + 1, by simp, by simp, le_ofDigitChars (digit :: rest) _⟩

end Digits

/-- No significand is large enough to lead beyond the finite numbers at this power of ten. -/
theorem largest_product_finite :
    mulMagnitude (Binary64.ofNat significandLimit).magnitude (tenPowMagnitude 288) < infinityMagnitude := by
  decide +kernel

/-- At higher powers of ten, the significands that stay below the last middle are not. -/
theorem high_products_finite : ∀ more < 20,
    mulMagnitude (Binary64.ofNat (lastMiddle / 10 ^ (289 + more))).magnitude
      (tenPowMagnitude (289 + more)) < infinityMagnitude := by
  decide +kernel

theorem product_finite {significand power : Nat} (fits : significand ≤ significandLimit)
    (below : significand * 10 ^ power ≤ lastMiddle) (small : power ≤ largestPower) :
    mulMagnitude (Binary64.ofNat significand).magnitude (tenPowMagnitude power) < infinityMagnitude := by
  by_cases low : power ≤ 288
  · exact (Binary64.mulMagnitude_mono (Binary64.magnitude_ofNat_mono fits)
      (Binary64.tenPowMagnitude_mono low)).trans_lt largest_product_finite
  · obtain ⟨more, same⟩ := Nat.exists_eq_add_of_lt (Nat.lt_of_not_le low)
    have shifted : power = 289 + more := by omega
    rw [shifted] at below small ⊢
    have inside : more < 20 := by
      have largest : largestPower = 308 := rfl
      omega
    have quotient := (Nat.le_div_iff_mul_le (Nat.pow_pos (by decide))).mpr below
    exact (Binary64.mulMagnitude_mono (Binary64.magnitude_ofNat_mono quotient)
      (Nat.le_refl _)).trans_lt (high_products_finite more inside)

theorem lastMiddle_lt {power : Nat} (large : largestPower < power) : lastMiddle < 10 ^ power := by
  obtain ⟨least, same⟩ : ∃ least, largestPower + 1 = least := ⟨_, rfl⟩
  have below : lastMiddle < 10 ^ least := by
    rw [← same]
    decide +kernel
  exact below.trans_le (Nat.pow_le_pow_right (by decide) (same ▸ large))

theorem Collected.magnitude?_isSome {collected : Collected}
    (fits : collected.significand ≤ significandLimit)
    (below : ∀ power : Nat, collected.power = power → collected.significand * 10 ^ power ≤ lastMiddle) :
    collected.magnitude?.isSome = true := by
  rw [magnitude?]
  by_cases negative : collected.power < 0
  · simp [negative]
  · obtain ⟨power, same⟩ := Int.eq_ofNat_of_zero_le (Int.not_lt.mp negative)
    have bound := below power same
    simp only [negative, if_false]
    rw [same, Int.toNat_natCast]
    by_cases small : power ≤ largestPower
    · simp [small, product_finite fits bound small]
    · have nothing : collected.significand = 0 := by
        have large := lastMiddle_lt (Nat.lt_of_not_le small)
        by_contra nonzero
        have one := Nat.le_mul_of_pos_left (10 ^ power) (Nat.pos_of_ne_zero nonzero)
        omega
      have zero : (Binary64.ofNat 0).magnitude = 0 := by decide +kernel
      simp [small, nothing, zero]

theorem magnitude?_isSome_of_positional {whole : List Char} (negative : Bool) (fraction : List Char)
    (spelled : ∀ digit ∈ whole, isDigit digit = true) (short : whole.length ≤ 16) :
    (magnitude? ⟨negative, whole, fraction, none⟩).isSome = true := by
  rw [magnitude?]
  cases integer? ⟨negative, whole, fraction, none⟩ with
  | some n => rfl
  | none =>
      have fits : Nat.ofDigitChars 10 whole 0 ≤ significandLimit := by
        calc Nat.ofDigitChars 10 whole 0
          _ ≤ (0 + 1) * 10 ^ whole.length := (ofDigitChars_lt spelled).le
          _ ≤ (0 + 1) * 10 ^ 16 := Nat.mul_le_mul_left _ (Nat.pow_le_pow_right (by decide) short)
          _ ≤ significandLimit := by decide
      dsimp only
      rw [collectWhole_eq fits]
      obtain ⟨small, taken, dropped, -, power, -⟩ :=
        @collectFraction_takes ⟨Nat.ofDigitChars 10 whole 0, 0⟩ fits fraction
      refine Collected.magnitude?_isSome small fun left same => ?_
      obtain rfl : left = 0 := by
        rw [power] at same
        dsimp only at same
        omega
      rw [Nat.pow_zero, Nat.mul_one]
      exact small.trans (by decide +kernel)

theorem magnitude?_isSome_of_exponent {numeral : Numeral} {collected : Collected} {down : Bool}
    {exponent : Nat} (written : numeral.exponent = some (down, decimalDigits exponent))
    (collects : collectFraction (collectWhole 0 numeral.whole) numeral.fraction = collected)
    (fits : collected.significand ≤ significandLimit)
    (allowed : down = false → exponent ≤ exponentLimit)
    (below : ∀ power : Nat, collected.power + (if down then -(exponent : Int) else exponent) = power →
      collected.significand * 10 ^ power ≤ lastMiddle) : numeral.magnitude?.isSome = true := by
  rw [magnitude?]
  cases numeral.integer? with
  | some n => rfl
  | none =>
      simp only [collects, written, digitsValue_decimalDigits]
      by_cases huge : exponentLimit < exponent
      · have downward : down = true := by
          by_contra upward
          exact absurd huge (Nat.not_lt.mpr (allowed (by simpa using upward)))
        simp [huge, downward]
      · rw [if_neg huge]
        exact Collected.magnitude?_isSome fits below

/-- The digits of a number with a point after the first of them. -/
theorem collects_pointed {n : Nat} {first : Char} {rest : List Char}
    (digits : decimalDigits n = first :: rest) :
    ∃ significand taken dropped : Nat, rest.length = taken + dropped ∧
      significand ≤ significandLimit ∧ significand * 10 ^ dropped ≤ n ∧
      collectFraction (collectWhole 0 [first]) rest = ⟨significand, -taken⟩ := by
  have spelled : isDigit first = true :=
    (digits_decimalDigits n).2 first (by rw [digits]; exact List.mem_cons_self)
  have value : Nat.ofDigitChars 10 (first :: rest) 0 = n := by
    rw [← digits]
    exact Nat.ofDigitChars_toDigits (by decide) (Nat.le_refl 10)
  have leading : Nat.ofDigitChars 10 [first] 0 = digitValue first := by
    rw [Nat.ofDigitChars_cons, Nat.ofDigitChars_nil, Nat.mul_zero, Nat.zero_add]
    rfl
  rw [Nat.ofDigitChars_cons, Nat.mul_zero, Nat.zero_add] at value
  have fits : digitValue first ≤ significandLimit := (digitValue_le spelled).trans (by decide)
  rw [collectWhole_eq (leading ▸ fits), leading]
  obtain ⟨small, taken, dropped, length, power, kept⟩ := @collectFraction_takes ⟨digitValue first, 0⟩ fits rest
  refine ⟨_, taken, dropped, length, small, kept.trans_eq value, ?_⟩
  generalize collectFraction ⟨digitValue first, 0⟩ rest = collected at power ⊢
  cases collected
  simpa using power

theorem pow_length_le {n : Nat} {first : Char} {rest : List Char} (nonzero : n ≠ 0)
    (digits : decimalDigits n = first :: rest) : 10 ^ rest.length ≤ n := by
  cases rest with
  | nil => exact Nat.pos_of_ne_zero nonzero
  | cons second more =>
      have length : (decimalDigits n).length = (second :: more).length + 1 := by rw [digits, List.length_cons]
      have fewer := Nat.length_toDigits_le_iff (n := n) (by decide : 1 < 10) (Nat.succ_pos more.length)
      rw [← decimalDigits, length] at fewer
      exact Nat.le_of_not_lt fun less => Nat.not_succ_le_self _ (fewer.mpr less)

section Scientific

variable {magnitude : Nat} {decimal : Decimal} (holds : (Basin.ofMagnitude magnitude).Holds decimal)
  (below : magnitude < infinityMagnitude - 1)
include holds below

theorem le_lastMiddle {kept dropped power : Nat} (fits : kept * 10 ^ dropped ≤ decimal.digits)
    (placed : (power : Int) = dropped + decimal.power) : kept * 10 ^ power ≤ lastMiddle :=
  Nat.le_of_mul_le_mul_right ((holds.le_high fits placed).trans (Basin.high_le below))
    (Nat.mul_pos (by decide) Binary64.unit_pos)

theorem magnitude?_isSome_of_scientific (nonzero : decimal.digits ≠ 0) (negative : Bool) :
    (magnitude? ⟨negative, (decimalDigits decimal.digits).take 1, (decimalDigits decimal.digits).drop 1,
      some (decimal.scale < 0, decimalDigits decimal.scale.natAbs)⟩).isSome = true := by
  obtain ⟨first, rest, digits⟩ := List.exists_cons_of_ne_nil (digits_decimalDigits decimal.digits).1
  have scale : decimal.scale = rest.length + decimal.power := by
    rw [Decimal.scale, digits, List.length_cons]
    omega
  obtain ⟨significand, taken, dropped, length, small, kept, collects⟩ := collects_pointed digits
  have one : 1 * 10 ^ rest.length ≤ decimal.digits := (Nat.one_mul _).symm ▸ pow_length_le nonzero digits
  rw [digits, List.take_succ_cons, List.take_zero, List.drop_succ_cons, List.drop_zero]
  refine magnitude?_isSome_of_exponent rfl collects small ?_ ?_
  · -- A power of ten that large is beyond the last middle by itself.
    intro ascends
    have placed : (decimal.scale.natAbs : Int) = rest.length + decimal.power := by
      have whole : ¬decimal.scale < 0 := of_decide_eq_false ascends
      omega
    have leading := le_lastMiddle holds below one placed
    by_contra huge
    have large : largestPower < decimal.scale.natAbs :=
      Nat.lt_trans (by decide) (Nat.lt_of_not_le huge)
    have beyond := lastMiddle_lt large
    omega
  · intro power same
    refine le_lastMiddle holds below kept ?_
    dsimp only at same
    by_cases descends : decimal.scale < 0
    · rw [if_pos (decide_eq_true descends)] at same
      omega
    · rw [if_neg (by simpa using descends)] at same
      omega

end Scientific

theorem length_places_le {decimal : Decimal} (positional : isPositional decimal.scale = true) :
    decimal.places.1.length ≤ 16 := by
  have upper : decimal.scale ≤ 15 := by
    simp only [isPositional, Bool.and_eq_true, decide_eq_true_eq] at positional
    exact positional.2
  rw [Decimal.scale] at upper
  rw [Decimal.places]
  generalize decimalDigits decimal.digits = digits at upper ⊢
  by_cases whole : (-decimal.power).toNat = 0
  · simp only [if_pos whole, List.length_append, List.length_replicate]
    omega
  · simp only [if_neg whole, List.length_take, List.length_append, List.length_replicate]
    omega

/-- The largest finite numbers are the only ones with decimals above the last middle in their basin. -/
theorem ofBinary64_largest (negative : Bool) :
    (ofBinary64 ⟨negative, infinityMagnitude - 1⟩).number?.isSome = true := by
  cases negative <;> decide +kernel

theorem ofBinary64_number? {x : Binary64} (finite : x.isFinite = true) :
    (ofBinary64 x).number?.isSome = true := by
  obtain ⟨negative, magnitude⟩ := x
  have inside : magnitude < infinityMagnitude := of_decide_eq_true finite
  by_cases largest : magnitude = infinityMagnitude - 1
  · rw [largest]
    exact ofBinary64_largest negative
  · rw [number?, Option.isSome_map, ofBinary64]
    dsimp only
    by_cases nothing : magnitude = 0
    · rw [if_pos nothing]
      exact magnitude?_isSome_of_positional negative ['0'] (List.forall_mem_singleton.mpr rfl) (by simp)
    · rw [if_neg nothing]
      have holds := Basin.holds_shortest .even nothing inside
      have nonzero := digits_ne_zero_of_holds (Basin.low_pos nothing) holds
      generalize Binary64.shortest .even magnitude = decimal at holds nonzero ⊢
      cases positional : isPositional decimal.scale with
      | true =>
          obtain ⟨whole, -, -⟩ := places_proper nonzero
          have short := length_places_le positional
          rw [if_pos rfl]
          split <;> rename_i places <;> rw [places] at whole short <;>
            exact magnitude?_isSome_of_positional negative _ whole.2 short
      | false =>
          rw [if_neg Bool.false_ne_true]
          exact magnitude?_isSome_of_scientific holds (by omega) nonzero negative

end TimingBoard.Json.Numeral
