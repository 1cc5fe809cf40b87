import TimingBoard.Number.Binary64

namespace TimingBoard.Binary64

/-! The order of numbers other than NaN: a strict weak order, in which both zeros are one. -/

theorem lt_iff_key_lt {x y : Binary64} (xNumber : x.isNaN = false) (yNumber : y.isNaN = false) :
    x.lt y = true ↔ x.key < y.key := by
  simp [lt, xNumber, yNumber]

theorem not_lt_iff_key_le {x y : Binary64} (xNumber : x.isNaN = false)
    (yNumber : y.isNaN = false) : x.lt y = false ↔ y.key ≤ x.key := by
  simp [lt, xNumber, yNumber]

theorem numbers_of_lt {x y : Binary64} (below : x.lt y = true) :
    x.isNaN = false ∧ y.isNaN = false := by
  simp only [lt, Bool.and_eq_true, Bool.not_eq_true'] at below
  exact below.1

/-- What is not above a number is below whatever that number is below. -/
theorem lt_of_not_lt_of_lt {x y z : Binary64} (number : x.isNaN = false)
    (notAbove : y.lt x = false) (below : y.lt z = true) : x.lt z = true := by
  obtain ⟨yNumber, zNumber⟩ := numbers_of_lt below
  have low : x.key ≤ y.key := (not_lt_iff_key_le yNumber number).mp notAbove
  have high : y.key < z.key := (lt_iff_key_lt yNumber zNumber).mp below
  exact (lt_iff_key_lt number zNumber).mpr (by omega)

theorem lt_asymm {x y : Binary64} (below : x.lt y = true) : y.lt x = false := by
  obtain ⟨xNumber, yNumber⟩ := numbers_of_lt below
  have keys : x.key < y.key := (lt_iff_key_lt xNumber yNumber).mp below
  exact (not_lt_iff_key_le yNumber xNumber).mpr (by omega)

end TimingBoard.Binary64
