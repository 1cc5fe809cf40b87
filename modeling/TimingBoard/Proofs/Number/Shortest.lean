import TimingBoard.Proofs.Number.Rounding

namespace TimingBoard

/-! The shortest decimal of a number lies in the basin of the number.

The search tries ever finer grids.  The last one it tries is finer than any basin is wide, so that
the search ends with a point of a grid. -/

namespace Binary64

theorem significand_pos {magnitude : Nat} (nonzero : magnitude ≠ 0) : 0 < significand magnitude := by
  have positive : 0 < binade := Nat.pow_pos (by decide)
  rw [significand]
  split <;> omega

theorem unit_eq : unit = Nat.pow 2 1074 := by decide +kernel

theorem unit_pos : 0 < unit := by decide +kernel

/-- The power of ten at which the search begins, by the logarithm of the magnitude in quanta. -/
def leadingPowerOf (log : Nat) : Int := ((log : Int) - 1072) * 30103 / 100000 + 1

theorem leadingPower_eq (magnitude : Nat) :
    leadingPower magnitude = leadingPowerOf (Nat.log2 (quanta magnitude)) := rfl

theorem exponent_of_lt_binade {magnitude : Nat} (small : magnitude < binade) :
    exponent magnitude = 0 := by
  rw [exponent, Nat.div_eq_of_lt small]

theorem exponent_lt {magnitude : Nat} (finite : magnitude < infinityMagnitude) :
    exponent magnitude < 2046 := by
  have positive : 0 < binade := Nat.pow_pos (by decide)
  have below : magnitude / binade < 2047 := (Nat.div_lt_iff_lt_mul positive).mpr finite
  rw [exponent]
  omega

theorem log2_quanta {magnitude : Nat} (normal : binade ≤ magnitude) :
    Nat.log2 (quanta magnitude) = 52 + exponent magnitude := by
  have binade_eq : binade = 2 ^ 52 := rfl
  have low : binade ≤ significand magnitude := by
    rw [significand, if_neg (Nat.not_lt.mpr normal)]
    exact Nat.le_add_right ..
  have high := significand_lt magnitude
  have scale := Nat.two_pow_pos (exponent magnitude)
  have nonzero : quanta magnitude ≠ 0 := by
    rw [quanta, Nat.pow_eq]
    exact Nat.mul_ne_zero (by omega) (by omega)
  rw [Nat.log2_eq_iff nonzero, quanta, Nat.pow_eq, Nat.add_right_comm, Nat.pow_add, Nat.pow_add]
  exact ⟨Nat.mul_le_mul_right _ (by omega), Nat.mul_lt_mul_of_pos_right (by omega) scale⟩

end Binary64

namespace Basin

open Binary64

variable {basin : Basin} {tie : Tie} {power : Int} {digits : Nat}

/-- The decimal is a point of the basin. -/
def Holds (basin : Basin) (decimal : Decimal) : Prop :=
  basin.contains (10 ^ (-decimal.power).toNat)
    (decimal.digits * (4 * unit * 10 ^ decimal.power.toNat)) = true

theorem holds_of_onGrid? (found : basin.onGrid? tie power = some digits) :
    basin.Holds ⟨digits, power⟩ := by
  simp only [onGrid?, Nat.pow_eq] at found
  rw [Holds]
  dsimp only
  generalize 4 * unit * 10 ^ power.toNat = step at found ⊢
  generalize 10 ^ (-power).toNat = scale at found ⊢
  split at found
  case h_1 below above =>
      have low := le_roundQuotient tie (basin.centre * scale) step
      have high := roundQuotient_le tie (basin.centre * scale) step
      cases found
      rcases Nat.lt_or_eq_of_le low with less | same
      · have next : roundQuotient tie (basin.centre * scale) step = basin.centre * scale / step + 1 := by
          omega
        rwa [next]
      · rwa [← same]
  case h_2 below _ =>
      cases found
      exact below
  case h_3 above =>
      cases found
      exact above
  case h_4 => cases found

theorem contains_of_between {scale point : Nat} (low : basin.low * scale < point)
    (high : point < basin.high * scale) : basin.contains scale point = true := by
  rw [contains]
  split <;> simp [low, high, low.le, high.le]

/-- A grid with steps shorter than the basin has a point in it. -/
theorem onGrid?_isSome (lower : basin.low ≤ basin.centre) (upper : basin.centre < basin.high)
    (fine : basin.low * 10 ^ (-power).toNat + 4 * unit * 10 ^ power.toNat <
      basin.high * 10 ^ (-power).toNat) : (basin.onGrid? tie power).isSome = true := by
  have scaled : 0 < 10 ^ (-power).toNat := Nat.pow_pos (by decide)
  have stepped : 0 < 4 * unit * 10 ^ power.toNat :=
    Nat.mul_pos (Nat.mul_pos (by decide) unit_pos) (Nat.pow_pos (by decide))
  simp only [onGrid?, Nat.pow_eq]
  generalize 4 * unit * 10 ^ power.toNat = step at fine stepped ⊢
  generalize 10 ^ (-power).toNat = scale at fine scaled ⊢
  -- The two grid points around the centre.
  have before : basin.centre * scale / step * step ≤ basin.centre * scale := Nat.div_mul_le_self ..
  have after : basin.centre * scale < (basin.centre * scale / step + 1) * step :=
    Nat.lt_mul_of_div_lt (Nat.lt_succ_self _) stepped
  have low : basin.low * scale ≤ basin.centre * scale := Nat.mul_le_mul_right _ lower
  have high : basin.centre * scale < basin.high * scale := Nat.mul_lt_mul_of_pos_right upper scaled
  rw [Nat.add_mul, Nat.one_mul] at after ⊢
  by_cases first : basin.low * scale < basin.centre * scale / step * step
  · rw [contains_of_between first (before.trans_lt high)]
    cases basin.contains scale (basin.centre * scale / step * step + step) <;> rfl
  · rw [contains_of_between (low.trans_lt after) (by omega)]
    cases basin.contains scale (basin.centre * scale / step * step) <;> rfl

/-- The search ends with a point of the basin if the last grid it tries has one. -/
theorem holds_coarsest {grids : Nat} (last : (basin.onGrid? tie (power - grids)).isSome = true) :
    basin.Holds (basin.coarsest tie (grids + 1) power) := by
  induction grids generalizing power with
  | zero =>
      obtain ⟨digits, found⟩ := Option.isSome_iff_exists.mp last
      rw [Int.natCast_zero, Int.sub_zero] at found
      rw [coarsest, found]
      exact holds_of_onGrid? found
  | succ grids ih =>
      rw [coarsest]
      cases found : basin.onGrid? tie power with
      | some digits => exact holds_of_onGrid? found
      | none =>
          refine ih ?_
          rwa [Int.sub_sub, Int.add_comm 1, ← Int.natCast_succ]

/-- The grid has shorter steps than any basin of numbers with that exponent is wide. -/
def Fine (exponent : Nat) (power : Int) : Prop :=
  4 * unit * 10 ^ power.toNat < 3 * 2 ^ exponent * 10 ^ (-power).toNat

instance (exponent : Nat) (power : Int) : Decidable (Fine exponent power) :=
  inferInstanceAs (Decidable (_ < _))

theorem fine_normal : ∀ exponent < 2046, Fine exponent (leadingPowerOf (52 + exponent) - 23) := by
  decide +kernel

theorem fine_subnormal : ∀ log < 52, Fine 0 (leadingPowerOf log - 23) := by
  decide +kernel

section Magnitude

variable {magnitude : Nat}

theorem low_le_centre (magnitude : Nat) : (ofMagnitude magnitude).low ≤ (ofMagnitude magnitude).centre :=
  Nat.sub_le ..

theorem high_le_of_le {limit top : Nat} (digits : 4 * significand magnitude + 2 ≤ limit)
    (scale : exponent magnitude ≤ top) :
    (ofMagnitude magnitude).high ≤ limit * Nat.pow 2 top := by
  have high : (ofMagnitude magnitude).high =
      (4 * significand magnitude + 2) * Nat.pow 2 (exponent magnitude) := by
    simp only [ofMagnitude, quanta]
    ring
  rw [high]
  exact Nat.mul_le_mul digits (Nat.pow_le_pow_right (by decide) scale)

theorem centre_lt_high (magnitude : Nat) :
    (ofMagnitude magnitude).centre < (ofMagnitude magnitude).high :=
  Nat.lt_add_of_pos_right (Nat.mul_pos (by decide) (Nat.pow_pos (by decide)))

theorem quanta_pos (nonzero : magnitude ≠ 0) : 2 ^ exponent magnitude ≤ quanta magnitude :=
  Nat.le_mul_of_pos_left _ (significand_pos nonzero)

/-- No number but zero has zero in its basin. -/
theorem low_pos (nonzero : magnitude ≠ 0) : 0 < (ofMagnitude magnitude).low := by
  have step : 0 < 2 ^ exponent magnitude := Nat.two_pow_pos _
  have one := quanta_pos nonzero
  simp only [ofMagnitude, Nat.pow_eq]
  split <;> omega

theorem low_add_le_high (nonzero : magnitude ≠ 0) :
    (ofMagnitude magnitude).low + 3 * 2 ^ exponent magnitude ≤ (ofMagnitude magnitude).high := by
  have one := quanta_pos nonzero
  simp only [ofMagnitude, Nat.pow_eq]
  split <;> omega

theorem holds_shortest (tie : Tie) (nonzero : magnitude ≠ 0) (finite : magnitude < infinityMagnitude) :
    (ofMagnitude magnitude).Holds (shortest tie magnitude) := by
  have fine : Fine (exponent magnitude) (leadingPower magnitude - (23 : Nat)) := by
    rw [leadingPower_eq]
    by_cases small : magnitude < binade
    · have whole : quanta magnitude = magnitude := by
        rw [quanta, significand, if_pos small, exponent_of_lt_binade small, Nat.pow_eq, Nat.pow_zero,
          Nat.mul_one]
      rw [exponent_of_lt_binade small, whole]
      exact fine_subnormal _ ((Nat.log2_lt nonzero).mpr small)
    · rw [log2_quanta (Nat.not_lt.mp small)]
      exact fine_normal _ (exponent_lt finite)
  refine holds_coarsest (onGrid?_isSome (low_le_centre magnitude) (centre_lt_high magnitude) ?_)
  calc (ofMagnitude magnitude).low * _ + 4 * unit * _
    _ < (ofMagnitude magnitude).low * _ + 3 * 2 ^ exponent magnitude * _ := Nat.add_lt_add_left fine _
    _ = ((ofMagnitude magnitude).low + 3 * 2 ^ exponent magnitude) * _ := (Nat.add_mul ..).symm
    _ ≤ (ofMagnitude magnitude).high * _ := Nat.mul_le_mul_right _ (low_add_le_high nonzero)

/-- The middle between the two largest finite numbers. -/
def lastMiddle : Nat := (2 ^ 54 - 3) * Nat.pow 2 970

theorem high_le (below : magnitude < infinityMagnitude - 1) :
    (ofMagnitude magnitude).high ≤ lastMiddle * (4 * unit) := by
  have binade_eq : binade = 2 ^ 52 := rfl
  have top : infinityMagnitude = 2047 * binade := rfl
  have significand_le := significand_lt magnitude
  have finite : exponent magnitude ≤ 2045 := Nat.le_of_lt_succ (exponent_lt (by omega))
  rcases Nat.lt_or_eq_of_le finite with less | last
  · have digits : 4 * significand magnitude + 2 ≤ 2 ^ 55 := by omega
    exact (high_le_of_le digits (Nat.le_of_lt_succ less)).trans (by decide +kernel)
  · have digits : 4 * significand magnitude + 2 ≤ 2 ^ 55 - 6 := by
      have split := Nat.div_add_mod magnitude binade
      have quotient : magnitude / binade = 2046 := by
        rw [exponent] at last
        omega
      rw [quotient] at split
      rw [significand, if_neg (by omega)]
      omega
    exact (high_le_of_le digits finite).trans (by decide +kernel)

end Magnitude

/-- What is left of a point of the basin when its last digits are dropped is no larger. -/
theorem Holds.le_high {decimal : Decimal} (holds : basin.Holds decimal) {kept dropped power : Nat}
    (fits : kept * 10 ^ dropped ≤ decimal.digits) (placed : (power : Int) = dropped + decimal.power) :
    kept * 10 ^ power * (4 * unit) ≤ basin.high := by
  have inside : decimal.digits * (4 * unit * 10 ^ decimal.power.toNat) ≤
      basin.high * 10 ^ (-decimal.power).toNat := by
    rw [Holds, contains] at holds
    split at holds <;> simp only [Bool.and_eq_true, decide_eq_true_eq] at holds
    · exact holds.2
    · exact holds.2.le
  rcases Int.le_total 0 decimal.power with whole | fraction
  · obtain ⟨scale, same⟩ := Int.eq_ofNat_of_zero_le whole
    have sum : power = dropped + scale := by omega
    rw [same] at inside
    calc kept * 10 ^ power * (4 * unit)
      _ = kept * 10 ^ dropped * (4 * unit * 10 ^ scale) := by rw [sum]; ring
      _ ≤ decimal.digits * (4 * unit * 10 ^ scale) := Nat.mul_le_mul_right _ fits
      _ ≤ basin.high := by simpa using inside
  · obtain ⟨scale, same⟩ := Int.eq_ofNat_of_zero_le (Int.neg_nonneg_of_nonpos fraction)
    have sum : dropped = power + scale := by omega
    have none : decimal.power.toNat = 0 := by omega
    rw [same, none, Int.toNat_natCast] at inside
    refine Nat.le_of_mul_le_mul_right ?_ (Nat.pow_pos (by decide : 0 < 10) (n := scale))
    calc kept * 10 ^ power * (4 * unit) * 10 ^ scale
      _ = kept * 10 ^ dropped * (4 * unit) := by rw [sum]; ring
      _ ≤ decimal.digits * (4 * unit) := Nat.mul_le_mul_right _ fits
      _ ≤ basin.high * 10 ^ scale := by simpa using inside

end Basin

end TimingBoard
