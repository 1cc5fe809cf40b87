import Mathlib.Data.List.Basic
import TimingBoard.Text.Utf8

namespace TimingBoard.Utf8

/-! The order of texts is the order of their bytes.

The bytes of two characters differ first at a byte that both have, and that byte orders them as the
characters are ordered.  So whatever follows the characters does not matter. -/

/-- At the first place where they differ, both have a byte, and `first` has the lesser one. -/
def Below (first second : List UInt8) : Prop :=
  ∃ shared less greater rest later, first = shared ++ less :: rest ∧
    second = shared ++ greater :: later ∧ less < greater

theorem Below.append_lt {first second : List UInt8} (below : Below first second)
    (rest later : List UInt8) : first ++ rest < second ++ later := by
  obtain ⟨shared, less, greater, behind, further, rfl, rfl, lt⟩ := below
  rw [List.append_assoc, List.append_assoc]
  exact List.append_left_lt (List.cons_lt_cons_iff.mpr (.inl lt))

/-- One more byte in front, which settles the order unless it is the same. -/
theorem Below.byte {less greater : Nat} {rest later : List UInt8} (le : less ≤ greater)
    (fits : greater < UInt8.size) (tied : less = greater → Below rest later) :
    Below (UInt8.ofNat less :: rest) (UInt8.ofNat greater :: later) := by
  rcases Nat.lt_or_eq_of_le le with lt | same
  · have lt := (UInt8.ofNat_lt_iff_lt (Nat.lt_trans lt fits) fits).mpr lt
    exact ⟨[], _, _, rest, later, rfl, rfl, lt⟩
  · obtain ⟨shared, low, high, behind, further, rfl, rfl, lt⟩ := tied same
    exact ⟨UInt8.ofNat less :: shared, low, high, behind, further, rfl, same ▸ rfl, lt⟩

theorem Below.last {less greater : Nat} {rest later : List UInt8} (lt : less < greater)
    (fits : greater < UInt8.size) :
    Below (UInt8.ofNat less :: rest) (UInt8.ofNat greater :: later) :=
  .byte (Nat.le_of_lt lt) fits fun same => absurd same (Nat.ne_of_lt lt)

theorem utf8EncodeChar_below {first second : Char} (lt : first < second) :
    Below (String.utf8EncodeChar first) (String.utf8EncodeChar second) := by
  have less : first.val.toNat < second.val.toNat := lt
  have top : second.val.toNat < 0x110000 := by
    rcases second.valid with low | high <;> simp only [UInt32.toNat] at * <;> omega
  have size : UInt8.size = 256 := rfl
  simp only [String.utf8EncodeChar]
  generalize first.val.toNat = a at less
  generalize second.val.toNat = b at less top
  clear lt
  -- More bytes begin with a greater one; as many bytes are compared from the leading one on.
  by_cases one : a ≤ 0x7F
  · rw [if_pos one]
    by_cases otherOne : b ≤ 0x7F
    · rw [if_pos otherOne]
      exact .last less (by omega)
    · rw [if_neg otherOne]
      split
      · exact .last (by omega) (by omega)
      · split <;> exact .last (by omega) (by omega)
  · rw [if_neg one, if_neg (by omega : ¬b ≤ 0x7F)]
    by_cases two : a ≤ 0x7FF
    · rw [if_pos two]
      by_cases otherTwo : b ≤ 0x7FF
      · rw [if_pos otherTwo]
        exact .byte (by omega) (by omega) fun _ => .last (by omega) (by omega)
      · rw [if_neg otherTwo]
        split <;> exact .last (by omega) (by omega)
    · rw [if_neg two, if_neg (by omega : ¬b ≤ 0x7FF)]
      by_cases three : a ≤ 0xFFFF
      · rw [if_pos three]
        by_cases otherThree : b ≤ 0xFFFF
        · rw [if_pos otherThree]
          exact .byte (by omega) (by omega) fun _ => .byte (by omega) (by omega) fun _ =>
            .last (by omega) (by omega)
        · rw [if_neg otherThree]
          exact .last (by omega) (by omega)
      · rw [if_neg three, if_neg (by omega : ¬b ≤ 0xFFFF)]
        exact .byte (by omega) (by omega) fun _ => .byte (by omega) (by omega) fun _ =>
          .byte (by omega) (by omega) fun _ => .last (by omega) (by omega)

theorem encode_lt_encode {first second : String} (lt : first < second) :
    encode first < encode second := by
  have lt : first.toList < second.toList := String.lt_iff.mp lt
  simp only [encode]
  generalize first.toList = chars at lt
  generalize second.toList = others at lt
  induction chars generalizing others with
  | nil =>
      cases others with
      | nil => exact absurd lt (List.lt_irrefl [])
      | cons other others =>
          rw [List.flatMap_cons]
          cases bytes : String.utf8EncodeChar other with
          | nil => exact absurd bytes String.utf8EncodeChar_ne_nil
          | cons byte rest => exact List.nil_lt_cons ..
  | cons char chars ih =>
      cases others with
      | nil => exact absurd lt (List.not_lt_nil _)
      | cons other others =>
          rw [List.flatMap_cons, List.flatMap_cons]
          rcases List.cons_lt_cons_iff.mp lt with less | ⟨rfl, less⟩
          · exact (utf8EncodeChar_below less).append_lt _ _
          · exact List.append_left_lt (ih others less)

theorem encode_injective {first second : String} (same : encode first = encode second) :
    first = second :=
  Option.some.inj ((decode?_encode first).symm.trans (same ▸ decode?_encode second))

/-- A byte below 128 is the code point of its character. -/
theorem toNat_of_mem_utf8EncodeChar {c : Char} {byte : UInt8} (ascii : byte.toNat < 0x80)
    (member : byte ∈ String.utf8EncodeChar c) : c.val.toNat = byte.toNat := by
  have high {n : Nat} (least : 0x80 ≤ n) (fits : n < UInt8.size) : byte ≠ UInt8.ofNat n := by
    rintro rfl
    rw [UInt8.toNat_ofNat_of_lt' fits] at ascii
    omega
  have size : UInt8.size = 256 := rfl
  simp only [String.utf8EncodeChar] at member
  split at member
  · obtain rfl := List.mem_singleton.mp member
    rw [UInt8.toNat_ofNat']
    omega
  · exfalso
    split at member
    · simp only [List.mem_cons, List.not_mem_nil, or_false] at member
      rcases member with lead | last
      · exact high (by omega) (by omega) lead
      · exact high (by omega) (by omega) last
    · split at member <;> simp only [List.mem_cons, List.not_mem_nil, or_false] at member
      · rcases member with lead | next | last
        · exact high (by omega) (by omega) lead
        · exact high (by omega) (by omega) next
        · exact high (by omega) (by omega) last
      · rcases member with lead | next | third | last
        · exact high (by omega) (by omega) lead
        · exact high (by omega) (by omega) next
        · exact high (by omega) (by omega) third
        · exact high (by omega) (by omega) last

theorem mem_toList_of_mem_encode {c : Char} {byte : UInt8} (ascii : byte.toNat < 0x80)
    (same : c.val.toNat = byte.toNat) {text : String} (member : byte ∈ encode text) :
    c ∈ text.toList := by
  obtain ⟨other, among, inside⟩ := List.mem_flatMap.mp member
  have code := toNat_of_mem_utf8EncodeChar ascii inside
  have equal : c = other := Char.ext (UInt32.toNat_inj.mp (same.trans code.symm))
  exact equal ▸ among

end TimingBoard.Utf8
