import TimingBoard.Number.Decimal

namespace TimingBoard

/-! What stands in the text of a number with a fixed count of places. -/

namespace Decimal

theorem isDigit_of_mem_places {decimal : Decimal} {c : Char}
    (member : c ∈ decimal.places.1 ∨ c ∈ decimal.places.2) : c.isDigit = true := by
  have digits : ∀ c ∈ decimalDigits decimal.digits, c.isDigit = true :=
    fun _ member => Nat.isDigit_of_mem_toDigits (by decide) (by decide) member
  have zeros (count : Nat) : ∀ c ∈ List.replicate count '0', c.isDigit = true := by
    intro c member
    rw [List.eq_of_mem_replicate member]
    decide
  rw [places] at member
  generalize (-decimal.power).toNat = count at member
  by_cases whole : count = 0
  · simp only [if_pos whole, List.not_mem_nil, or_false] at member
    exact (List.mem_append.mp member).elim (digits c) (zeros _ c)
  · simp only [if_neg whole] at member
    have padded := member.elim List.mem_of_mem_take List.mem_of_mem_drop
    exact (List.mem_append.mp padded).elim (zeros _ c) (digits c)

theorem colon_not_mem_positional (decimal : Decimal) : ':' ∉ decimal.positional := by
  have colon : ¬ ':'.isDigit = true := by decide
  have whole : ':' ∉ decimal.places.1 := fun member => colon (isDigit_of_mem_places (.inl member))
  have fraction : ':' ∉ decimal.places.2 := fun member => colon (isDigit_of_mem_places (.inr member))
  rw [positional]
  generalize decimal.places = places at whole fraction ⊢
  obtain ⟨digits, rest⟩ := places
  cases rest with
  | nil => exact whole
  | cons first rest => simpa using ⟨whole, List.ne_and_not_mem_of_not_mem_cons fraction⟩

end Decimal

theorem Binary64.colon_not_mem_fixed (places : Nat) (x : Binary64) : ':' ∉ (x.fixed places).toList := by
  have sign : ':' ∉ x.sign := by
    rw [Binary64.sign]
    split <;> decide
  rw [fixed, String.toList_ofList]
  split
  · decide
  · split
    · simp [sign]
    · simp [sign, Decimal.colon_not_mem_positional]

end TimingBoard
