namespace TimingBoard

/-! Sets of code points as ascending ranges; both ends of a range belong to it. -/

abbrev CodePoints := List (Nat × Nat)

namespace CodePoints

def holds : CodePoints → Char → Bool
  | [], _ => false
  | (first, last) :: rest, c =>
      if c.toNat < first then false else c.toNat ≤ last || holds rest c

end CodePoints

end TimingBoard
