import TimingBoard.Proofs.Number.Order
import TimingBoard.Proofs.Number.Shortest

namespace TimingBoard

/-! Sums of numbers that are not below zero.

A number is its own nearest number, and rounding is monotone, so a rounded sum is no less than either
of its terms.  Infinity is reached, but never NaN. -/

theorem roundQuotient_mul (tie : Tie) (whole : Nat) {denominator : Nat} (positive : 0 < denominator) :
    roundQuotient tie (whole * denominator) denominator = whole := by
  have uneven : 0 ≠ denominator := by omega
  simp [roundQuotient, Tie.roundsUp, positive, uneven]

namespace Binary64

theorem quanta_of_lt_binade {magnitude : Nat} (small : magnitude < binade) :
    quanta magnitude = magnitude := by
  simp [quanta, significand, exponent_of_lt_binade small, small]

theorem nearestMagnitude_quanta {magnitude : Nat} (finite : magnitude < infinityMagnitude) :
    nearestMagnitude (quanta magnitude) 1 = magnitude := by
  have binade_eq : binade = 2 ^ 52 := rfl
  simp only [nearestMagnitude, Nat.div_one, Nat.one_mul]
  by_cases small : magnitude < binade
  · have log : Nat.log2 magnitude ≤ Nat.log2 (2 ^ 52 - 1) := log2_mono (by omega)
    have top : Nat.log2 (2 ^ 52 - 1) = 51 := by decide +kernel
    have exponent : Nat.log2 magnitude - 52 = 0 := by omega
    simp [quanta_of_lt_binade small, exponent, roundQuotient_one, finite.le]
  · have normal : binade ≤ magnitude := Nat.le_of_not_lt small
    have scale := Nat.two_pow_pos (exponent magnitude)
    rw [log2_quanta normal, Nat.add_sub_cancel_left, quanta, Nat.pow_eq, roundQuotient_mul .even _ scale,
      significand, if_neg small]
    have split := Nat.div_add_mod magnitude binade
    have one : 0 < magnitude / binade := Nat.div_pos normal (by omega)
    have whole : exponent magnitude * binade + binade = binade * (magnitude / binade) := by
      rw [exponent, ← Nat.succ_mul, Nat.succ_eq_add_one, Nat.sub_add_cancel one, Nat.mul_comm]
    omega

/-- Neither number is NaN, and the first one is not above the second. -/
instance : LE Binary64 := ⟨fun x y => x.isNaN = false ∧ y.isNaN = false ∧ x.key ≤ y.key⟩

instance (x y : Binary64) : Decidable (x ≤ y) :=
  inferInstanceAs (Decidable (x.isNaN = false ∧ y.isNaN = false ∧ x.key ≤ y.key))

variable {x y z : Binary64}

theorem le_refl (number : x.isNaN = false) : x ≤ x := ⟨number, number, Int.le_refl _⟩

theorem le_trans (first : x ≤ y) (second : y ≤ z) : x ≤ z :=
  ⟨first.1, second.2.1, Int.le_trans first.2.2 second.2.2⟩

theorem le_of_lt (below : x.lt y = true) : x ≤ y := by
  obtain ⟨xNumber, yNumber⟩ := numbers_of_lt below
  exact ⟨xNumber, yNumber, ((lt_iff_key_lt xNumber yNumber).mp below).le⟩

theorem le_of_not_lt (xNumber : x.isNaN = false) (yNumber : y.isNaN = false)
    (notBelow : y.lt x = false) : x ≤ y :=
  ⟨xNumber, yNumber, (not_lt_iff_key_le yNumber xNumber).mp notBelow⟩

/-- A number is at least zero iff it is neither NaN nor below zero. -/
theorem zero_le_iff : .zero ≤ x ↔ x.isNaN = false ∧ x.lt .zero = false := by
  constructor
  · intro least
    exact ⟨least.2.1, (not_lt_iff_key_le least.2.1 least.1).mpr least.2.2⟩
  · intro least
    exact le_of_not_lt rfl least.1 least.2

theorem quanta_zero : quanta 0 = 0 := quanta_of_lt_binade (Nat.pow_pos (by decide))

/-- The key of a number that is at least zero is its magnitude. -/
theorem key_of_zero_le (least : .zero ≤ x) : x.key = x.magnitude := by
  have key : 0 ≤ x.key := least.2.2
  unfold Binary64.key at key ⊢
  split at key <;> simp_all

theorem value_of_zero_le (least : .zero ≤ x) : x.value = quanta x.magnitude := by
  have key := key_of_zero_le least
  unfold Binary64.key at key
  unfold value
  split at key
  case isTrue =>
    have nothing : x.magnitude = 0 := by omega
    simp [nothing, quanta_zero]
  case isFalse positive => simp [positive]

theorem infinity_of_zero_le (least : .zero ≤ x) (infinite : x.isInfinite = true) :
    x = .infinity false := by
  obtain ⟨negative, magnitude⟩ := x
  have key := key_of_zero_le least
  have far : magnitude = infinityMagnitude := by simpa [isInfinite] using infinite
  cases negative with
  | false => rw [far]; rfl
  | true =>
    have beyond : 0 < infinityMagnitude := by decide
    simp only [Binary64.key, if_true] at key
    omega

/-- Every number is at most infinity. -/
theorem le_infinity (number : x.isNaN = false) : x ≤ .infinity false := by
  refine ⟨number, rfl, ?_⟩
  have inside : x.magnitude ≤ infinityMagnitude := by simpa [isNaN] using number
  have key : (infinity false).key = infinityMagnitude := rfl
  rw [key, Binary64.key]
  split <;> omega

@[simp]
theorem isNaN_infinity (negative : Bool) : (infinity negative).isNaN = false := by
  simp [isNaN, infinity]

@[simp]
theorem isInfinite_infinity (negative : Bool) : (infinity negative).isInfinite = true := by
  simp [isInfinite, infinity]

theorem infinity_add (least : .zero ≤ x) : infinity false + x = infinity false := by
  have number := least.2.1
  change (infinity false).add x = infinity false
  by_cases infinite : x.isInfinite = true
  · rw [infinity_of_zero_le least infinite]
    rfl
  · simp [add, number, infinite]

theorem add_infinity (least : .zero ≤ x) : x + infinity false = infinity false := by
  have number := least.2.1
  change x.add (infinity false) = infinity false
  by_cases infinite : x.isInfinite = true
  · rw [infinity_of_zero_le least infinite]
    rfl
  · simp [add, number, infinite]

theorem add_of_finite (xFinite : x.isFinite = true) (yFinite : y.isFinite = true) :
    x + y =
      if x.value + y.value = 0 then ⟨x.negative && y.negative, 0⟩
      else ⟨x.value + y.value < 0, nearestMagnitude (x.value + y.value).natAbs 1⟩ := by
  obtain ⟨xNumber, xLess⟩ := isFinite_iff.mp xFinite
  obtain ⟨yNumber, yLess⟩ := isFinite_iff.mp yFinite
  change x.add y = _
  simp [add, xNumber, xLess, yNumber, yLess]

/-- A finite sum is its exact value, rounded. -/
theorem add_least (xFinite : x.isFinite = true) (yFinite : y.isFinite = true)
    (first : .zero ≤ x) (second : .zero ≤ y) :
    (x + y).isNaN = false ∧
      (x + y).key = nearestMagnitude (quanta x.magnitude + quanta y.magnitude) 1 := by
  have zero : nearestMagnitude (quanta 0) 1 = 0 := nearestMagnitude_quanta (by decide)
  rw [quanta_zero] at zero
  have inside : nearestMagnitude (quanta x.magnitude + quanta y.magnitude) 1 ≤ infinityMagnitude :=
    Nat.min_le_left ..
  have sum : x.value + y.value = (quanta x.magnitude + quanta y.magnitude : Nat) := by
    rw [value_of_zero_le first, value_of_zero_le second, Int.natCast_add]
  rw [add_of_finite xFinite yFinite, sum]
  generalize quanta x.magnitude + quanta y.magnitude = total at inside ⊢
  by_cases nothing : total = 0
  · subst nothing
    simp [Binary64.key, isNaN, zero]
  · have positive : ¬(total : Int) < 0 := by omega
    have some : ¬(total : Int) = 0 := by omega
    simp only [some, positive, if_false, Binary64.key, isNaN, Int.natAbs_natCast, decide_false,
      Bool.false_eq_true]
    exact ⟨by simpa using inside, trivial⟩

theorem finite_or_infinity (least : .zero ≤ x) : x.isFinite = true ∨ x = infinity false := by
  cases infinite : x.isInfinite with
  | true => exact .inr (infinity_of_zero_le least infinite)
  | false => exact .inl (isFinite_iff.mpr ⟨least.2.1, infinite⟩)

/-- A sum of numbers that are at least zero is no less than either of them. -/
theorem le_add (first : .zero ≤ x) (second : .zero ≤ y) : x ≤ x + y ∧ y ≤ x + y := by
  rcases finite_or_infinity first with xFinite | rfl
  · rcases finite_or_infinity second with yFinite | rfl
    · obtain ⟨number, key⟩ := add_least xFinite yFinite first second
      have bound {z : Binary64} (least : .zero ≤ z) (finite : z.isFinite = true)
          (term : quanta z.magnitude ≤ quanta x.magnitude + quanta y.magnitude) : z ≤ x + y := by
        refine ⟨least.2.1, number, ?_⟩
        have inside : z.magnitude < infinityMagnitude := of_decide_eq_true finite
        have mono := nearestMagnitude_mono 1 term
        rw [nearestMagnitude_quanta inside] at mono
        rw [key, key_of_zero_le least]
        exact Int.ofNat_le.mpr mono
      exact ⟨bound first xFinite (Nat.le_add_right ..), bound second yFinite (Nat.le_add_left ..)⟩
    · rw [add_infinity first]
      exact ⟨le_infinity first.2.1, le_refl rfl⟩
  · rw [infinity_add second]
    exact ⟨le_refl rfl, le_infinity second.2.1⟩

end Binary64

end TimingBoard
