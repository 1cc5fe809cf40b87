import Mathlib.Data.List.Induction
import TimingBoard.Aggregate.Basic

namespace TimingBoard

/-! Trees taken in one after the other, by any producers in any order.

Each roster is described by what it holds for one name: a tree of another producer changes nothing
there. -/

theorem Roster.get?_insert {α : Type} (roster : Roster α) (name other : String) (value : α) :
    (roster.insert name value).get? other = if name = other then some value else roster.get? other := by
  by_cases same : name = other
  · subst same
    rw [if_pos rfl, roster.get?_insert_self]
  · rw [if_neg same, roster.get?_insert_of_ne value (Ne.symm same)]

/-- A tree and the time at which it is taken in. -/
structure Arrival where
  time : Int
  tree : TimingTree

namespace Aggregate

/-- Takes in all arrivals in their order. -/
def takeAll (aggregate : Aggregate) (arrivals : List Arrival) : Aggregate :=
  arrivals.foldl (fun aggregate arrival => aggregate.apply arrival.time arrival.tree) aggregate

theorem takeAll_append_singleton (aggregate : Aggregate) (arrivals : List Arrival)
    (last : Arrival) :
    aggregate.takeAll (arrivals ++ [last]) =
      (aggregate.takeAll arrivals).apply last.time last.tree := by
  simp [takeAll]

/-- The worst case of a producer after one more of its trees. -/
def worse (worst : Option TimingTree) (tree : TimingTree) : TimingTree :=
  match worst with
  | some longest => if longest.time.lt tree.time then tree else longest
  | none => tree

theorem get?_updateWorst (worst : Roster TimingTree) (tree : TimingTree) (name : String) :
    (updateWorst worst tree).get? name =
      if tree.name = name then some (worse (worst.get? name) tree) else worst.get? name := by
  unfold updateWorst
  by_cases own : tree.name = name
  · subst own
    rw [if_pos rfl]
    cases held : worst.get? tree.name with
    | none => simp [worse, Roster.get?_insert]
    | some longest =>
        by_cases longer : longest.time.lt tree.time
        · simp [worse, longer, Roster.get?_insert]
        · simp [worse, longer, held]
  · rw [if_neg own]
    cases worst.get? tree.name with
    | none => simp [Roster.get?_insert, own]
    | some longest =>
        by_cases longer : longest.time.lt tree.time
        · simp [longer, Roster.get?_insert, own]
        · simp [longer]

end Aggregate

end TimingBoard
