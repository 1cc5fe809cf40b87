import Mathlib.Data.List.Chain
import TimingBoard.Proofs.Tree.Stem

namespace TimingBoard

/-! The branches of an outline are connected.

What is drawn in front of a line depends on the siblings above it only, and yet it says what comes
further down: a bar or a fork stands exactly where a later line of that level is reached before the
drawing goes back to a level further out. -/

/-- Later lines come back to that depth before they come to a smaller one. -/
def ReturnsTo (depth : Nat) (later : List Nat) : Prop :=
  ∃ before after, later = before ++ depth :: after ∧ ∀ between ∈ before, depth ≤ between

theorem not_returnsTo_nil (depth : Nat) : ¬ ReturnsTo depth [] := by
  rintro ⟨before, after, same, -⟩
  simp at same

theorem returnsTo_cons {depth next : Nat} {later : List Nat} :
    ReturnsTo depth (next :: later) ↔ next = depth ∨ depth < next ∧ ReturnsTo depth later := by
  constructor
  · rintro ⟨before, after, same, deep⟩
    cases before with
    | nil => exact .inl (List.cons.inj same).1
    | cons first before =>
        obtain ⟨rfl, rfl⟩ := List.cons.inj same
        obtain ⟨high, deep⟩ := List.forall_mem_cons.mp deep
        rcases Nat.eq_or_lt_of_le high with same | below
        · exact .inl same.symm
        · exact .inr ⟨below, before, after, rfl, deep⟩
  · rintro (rfl | ⟨below, before, after, rfl, deep⟩)
    · exact ⟨[], later, rfl, by simp⟩
    · exact ⟨next :: before, after, rfl, List.forall_mem_cons.mpr ⟨Nat.le_of_lt below, deep⟩⟩

theorem returnsTo_append {depth : Nat} {below later : List Nat} (deeper : ∀ between ∈ below, depth < between) :
    ReturnsTo depth (below ++ later) ↔ ReturnsTo depth later := by
  induction below with
  | nil => rfl
  | cons next below ih =>
      obtain ⟨first, deeper⟩ := List.forall_mem_cons.mp deeper
      rw [List.cons_append, returnsTo_cons, ih deeper]
      simp [first, Nat.ne_of_gt first]

namespace Stem

/-- The stem tells what the depths of the lines below it are like. -/
structure Fits (stem : Stem) (later : List Nat) : Prop where
  forked : stem.forked = true ↔ ReturnsTo stem.depth later
  bars : ∀ level passing, stem.bars[level]? = some passing →
    (passing = true ↔ ReturnsTo (level + 1) later)

/-- The stems of an outline from its second line on. -/
structure Connected (stems : List Stem) : Prop where
  /-- A line is at most one level deeper than the one above it, which is the root at first. -/
  climbs : (0 :: stems.map depth).IsChain fun above depth => depth ≤ above + 1
  fits : ∀ before stem later, stems = before ++ stem :: later → stem.Fits (later.map depth)

/-- Stems that may stand below a line of that depth. -/
def ConnectTo (above : Nat) : List Stem → Prop
  | [] => True
  | stem :: later =>
      stem.depth ≤ above + 1 ∧ stem.Fits (later.map depth) ∧ ConnectTo stem.depth later

variable {above : Nat} {bars : List Bool} {forked : Bool} {stems below later : List Stem}

theorem ConnectTo.climbs (connect : ConnectTo above stems) :
    (above :: stems.map depth).IsChain fun above depth => depth ≤ above + 1 := by
  induction stems generalizing above with
  | nil => exact .singleton above
  | cons stem later ih => exact .cons_cons connect.1 (ih connect.2.2)

theorem ConnectTo.fits (connect : ConnectTo above stems) (before : List Stem) (stem : Stem)
    (later : List Stem) (split : stems = before ++ stem :: later) : stem.Fits (later.map depth) := by
  induction before generalizing above stems with
  | nil =>
      subst split
      exact connect.2.1
  | cons first before ih =>
      subst split
      exact ih connect.2.2 rfl

/-- Lines that come after those with these bars. -/
structure Follow (bars : List Bool) (later : List Stem) : Prop where
  passing : ∀ level passing, bars[level]? = some passing →
    (passing = true ↔ ReturnsTo (level + 1) (later.map depth))
  /-- Further in there is nothing left to come. -/
  closed : ∀ level, bars.length < level → ¬ ReturnsTo level (later.map depth)
  connect : ∀ above, bars.length ≤ above → ConnectTo above later

theorem Follow.fits (follow : Follow (bars ++ [forked]) later)
    (deeper : ∀ stem ∈ below, bars.length + 1 < stem.depth) :
    Fits ⟨bars, forked⟩ ((below ++ later).map depth) := by
  have skips (level : Nat) (inside : level ≤ bars.length) :
      ReturnsTo (level + 1) ((below ++ later).map depth) ↔ ReturnsTo (level + 1) (later.map depth) := by
    rw [List.map_append]
    refine returnsTo_append fun between member => ?_
    obtain ⟨stem, inBelow, rfl⟩ := List.mem_map.mp member
    exact Nat.lt_of_le_of_lt (Nat.succ_le_succ inside) (deeper stem inBelow)
  constructor
  · exact (follow.passing bars.length forked (by simp)).trans (skips bars.length (Nat.le_refl _)).symm
  · intro level passing found
    obtain ⟨inside, -⟩ := List.getElem?_eq_some_iff.mp found
    have own : (bars ++ [forked])[level]? = some passing := by
      rw [List.getElem?_append_left inside, found]
    exact (follow.passing level passing own).trans (skips level (Nat.le_of_lt inside)).symm

end Stem

namespace Entry

open Stem (Follow ConnectTo Connected)

def stems (bars : List Bool) (entries : List Entry) : List Stem := (rowsEach bars entries).map (·.1)

variable {bars : List Bool} {forked : Bool} {later : List Stem}

theorem lt_depth_of_mem_stems {entries : List Entry} {stem : Stem} (member : stem ∈ stems bars entries) :
    bars.length < stem.depth := by
  obtain ⟨row, inside, rfl⟩ := List.mem_map.mp member
  exact lt_depth_of_mem_rowsEach inside

theorem stems_cons (bars : List Bool) (entry : Entry) (rest : List Entry) :
    stems bars (entry :: rest) =
      ⟨bars, !rest.isEmpty⟩ :: (stems (bars ++ [!rest.isEmpty]) entry.children ++ stems bars rest) := by
  cases entry
  simp [stems, rowsEach, rows]

/-- After an entry come its later siblings, and then what comes after all of them. -/
theorem follow_siblings (follow : Follow bars later) (rest : List Entry)
    (connect : ∀ above, bars.length ≤ above → ConnectTo above (stems bars rest ++ later)) :
    Follow (bars ++ [!rest.isEmpty]) (stems bars rest ++ later) := by
  have returns (level : Nat) (inside : level ≤ bars.length) :
      ReturnsTo level ((stems bars rest ++ later).map Stem.depth) ↔
        ReturnsTo level (later.map Stem.depth) := by
    rw [List.map_append]
    refine returnsTo_append fun between member => ?_
    obtain ⟨stem, inRest, rfl⟩ := List.mem_map.mp member
    exact Nat.lt_of_le_of_lt inside (lt_depth_of_mem_stems inRest)
  have own : (!rest.isEmpty) = true ↔
      ReturnsTo (bars.length + 1) ((stems bars rest ++ later).map Stem.depth) := by
    cases rest with
    | nil => simpa [stems, rowsEach] using follow.closed (bars.length + 1) (Nat.lt_succ_self _)
    | cons next rest => simp [stems_cons, returnsTo_cons, Stem.depth]
  constructor
  · intro level passing found
    -- The last of the bars is the fork of the entry itself.
    by_cases inside : level < bars.length
    · rw [List.getElem?_append_left inside] at found
      exact (follow.passing level passing found).trans (returns (level + 1) inside).symm
    · have last : level = bars.length := by
        have bound := (List.getElem?_eq_some_iff.mp found).1
        rw [List.length_append, List.length_singleton] at bound
        omega
      subst last
      rw [List.getElem?_concat_length] at found
      cases found
      exact own
  · intro level deep again
    rw [List.length_append, List.length_singleton] at deep
    cases rest with
    | nil => exact follow.closed level (by omega) again
    | cons next rest =>
        -- The next sibling is not as deep.
        rw [stems_cons, List.cons_append, List.map_cons, returnsTo_cons] at again
        have shallow : Stem.depth ⟨bars, !rest.isEmpty⟩ = bars.length + 1 := rfl
        omega
  · intro above high
    rw [List.length_append] at high
    exact connect above (by omega)

mutual

theorem rows_connect : (entry : Entry) → (bars : List Bool) → (forked : Bool) → (later : List Stem) →
    Follow (bars ++ [forked]) later → ∀ above, bars.length ≤ above →
      ConnectTo above ((rows bars forked entry).map (·.1) ++ later)
  | ⟨_, _, _, _, children⟩, bars, forked, later, follow, above, high => by
      have inner := rowsEach_connect children (bars ++ [forked]) later follow (bars.length + 1) (by simp)
      refine ⟨Nat.succ_le_succ high, follow.fits fun stem member => ?_, inner⟩
      simpa using lt_depth_of_mem_stems member

theorem rowsEach_connect : (entries : List Entry) → (bars : List Bool) → (later : List Stem) →
    Follow bars later → ∀ above, bars.length ≤ above → ConnectTo above (stems bars entries ++ later)
  | [], _, _, follow, above, high => follow.connect above high
  | entry :: rest, bars, later, follow, above, high => by
      have siblings := follow_siblings follow rest (rowsEach_connect rest bars later follow)
      have first := rows_connect entry bars _ _ siblings above high
      rwa [stems, rowsEach, List.map_append, List.append_assoc]

end

theorem connected_stems (entries : List Entry) : Connected (stems [] entries) := by
  have follow : Follow [] [] := ⟨by simp, fun level _ => not_returnsTo_nil level, fun _ _ => trivial⟩
  have connect := rowsEach_connect entries [] [] follow 0 (Nat.le_refl 0)
  rw [List.append_nil] at connect
  exact ⟨connect.climbs, connect.fits⟩

end Entry

namespace TimingTree

/-- The branches of an outline are connected, in either view.  Every line below that of the root starts
with a stem as deep as its entry, and the stems tell where the lines below them lead. -/
theorem lines_connected (tree : TimingTree) (comments summarize : Bool) :
    ∃ later stems,
      tree.lines comments summarize = (Entry.ofRoot summarize tree).describe comments :: later ∧
        later.map Stem.ofLine? = stems.map some ∧ (∀ stem ∈ stems, 1 ≤ stem.depth) ∧
        Stem.Connected stems ∧
        stems.map Stem.depth =
          (Entry.labelling.pathsOf (Entry.ofRoot summarize tree).children).map List.length := by
  have depths := congrArg (List.map Prod.fst)
    (Entry.rowsEach_labelled [] (Entry.ofRoot summarize tree).children)
  refine ⟨_, Entry.stems [] (Entry.ofRoot summarize tree).children,
    Entry.lines_eq_rows comments (Entry.ofRoot summarize tree), ?_, ?_, Entry.connected_stems _, ?_⟩
  · simp only [Entry.stems, List.map_map, Function.comp_def, Entry.rowText, Stem.ofLine?_drawn]
  · exact fun stem _ => Nat.succ_pos stem.bars.length
  · simpa [Entry.stems, Labelling.pathsOf, Function.comp_def] using depths

end TimingTree

end TimingBoard
