namespace TimingBoard

/-! Values kept by name, in the order of the names.

Names are ordered by their code points, which is also the order of their bytes.  A roster has one
representation: two rosters that hold the same value under every name are equal. -/

structure Roster (α : Type) where
  entries : List (String × α)
  ordered : entries.Pairwise fun first second => first.1 < second.1

namespace Roster

/-- Puts a value in its place, instead of the one that was there. -/
def insertEntry (name : String) (value : α) : List (String × α) → List (String × α)
  | [] => [(name, value)]
  | (other, kept) :: rest =>
      if name < other then (name, value) :: (other, kept) :: rest
      else if other < name then (other, kept) :: insertEntry name value rest
      else (name, value) :: rest

theorem mem_insertEntry {name : String} {value : α} {entries : List (String × α)}
    {entry : String × α} (member : entry ∈ insertEntry name value entries) :
    entry = (name, value) ∨ entry ∈ entries := by
  induction entries with
  | nil => exact .inl (List.mem_singleton.mp member)
  | cons first rest ih =>
      obtain ⟨other, kept⟩ := first
      simp only [insertEntry] at member
      split at member
      · exact List.mem_cons.mp member
      · split at member
        · rcases List.mem_cons.mp member with same | later
          · exact .inr (same ▸ List.mem_cons_self)
          · exact (ih later).imp_right (List.mem_cons_of_mem _)
        · exact (List.mem_cons.mp member).imp_right (List.mem_cons_of_mem _)

theorem insertEntry_ordered {name : String} {value : α} {entries : List (String × α)}
    (ordered : entries.Pairwise fun first second => first.1 < second.1) :
    (insertEntry name value entries).Pairwise fun first second => first.1 < second.1 := by
  induction entries with
  | nil => exact List.pairwise_singleton _ _
  | cons first rest ih =>
      obtain ⟨other, kept⟩ := first
      obtain ⟨below, restOrdered⟩ := List.pairwise_cons.mp ordered
      simp only [insertEntry]
      split
      · rename_i before
        refine List.pairwise_cons.mpr ⟨fun entry member => ?_, ordered⟩
        rcases List.mem_cons.mp member with same | later
        · exact same ▸ before
        · exact String.lt_trans before (below entry later)
      · split
        · rename_i after
          refine List.pairwise_cons.mpr ⟨fun entry member => ?_, ih restOrdered⟩
          rcases mem_insertEntry member with same | later
          · exact same ▸ after
          · exact below entry later
        · rename_i notBefore notAfter
          have same : other = name :=
            String.le_antisymm (String.not_lt.mp notBefore) (String.not_lt.mp notAfter)
          exact List.pairwise_cons.mpr ⟨fun entry member => same ▸ below entry member, restOrdered⟩

def empty : Roster α := ⟨[], .nil⟩

instance : Inhabited (Roster α) := ⟨empty⟩

def insert (roster : Roster α) (name : String) (value : α) : Roster α :=
  ⟨insertEntry name value roster.entries, insertEntry_ordered roster.ordered⟩

def get? (roster : Roster α) (name : String) : Option α :=
  (roster.entries.find? (fun entry => entry.1 == name)).map (·.2)

def names (roster : Roster α) : List String := roster.entries.map (·.1)

def values (roster : Roster α) : List α := roster.entries.map (·.2)

def size (roster : Roster α) : Nat := roster.entries.length

def isEmpty (roster : Roster α) : Bool := roster.entries.isEmpty

theorem get?_insert_self (roster : Roster α) (name : String) (value : α) :
    (roster.insert name value).get? name = some value := by
  obtain ⟨entries, ordered⟩ := roster
  simp only [get?, insert]
  clear ordered
  induction entries with
  | nil => simp [insertEntry]
  | cons first rest ih =>
      obtain ⟨other, kept⟩ := first
      simp only [insertEntry]
      split
      · simp
      · split
        · rename_i after
          have different : other ≠ name := fun same => String.lt_irrefl name (same ▸ after)
          simpa [different] using ih
        · simp

theorem get?_insert_of_ne (roster : Roster α) {name other : String} (value : α)
    (different : other ≠ name) : (roster.insert name value).get? other = roster.get? other := by
  obtain ⟨entries, ordered⟩ := roster
  simp only [get?, insert]
  clear ordered
  have away : (name == other) = false := by simpa using different.symm
  induction entries with
  | nil => simp [insertEntry, away]
  | cons first rest ih =>
      obtain ⟨third, kept⟩ := first
      simp only [insertEntry]
      split
      · simp [away]
      · split
        · by_cases found : third = other
          · simp [found]
          · simpa [found] using ih
        · rename_i notBefore notAfter
          have same : third = name :=
            String.le_antisymm (String.not_lt.mp notBefore) (String.not_lt.mp notAfter)
          simp [away, same]

theorem get?_eq_some_iff (roster : Roster α) {name : String} {value : α} :
    roster.get? name = some value ↔ (name, value) ∈ roster.entries := by
  obtain ⟨entries, ordered⟩ := roster
  simp only [get?]
  induction entries with
  | nil => simp
  | cons entry rest ih =>
      obtain ⟨other, kept⟩ := entry
      obtain ⟨below, restOrdered⟩ := List.pairwise_cons.mp ordered
      by_cases same : other = name
      · subst same
        have absent : (other, value) ∉ rest := fun member => String.lt_irrefl other (below _ member)
        simp [absent, eq_comm]
      · have apart : (name, value) ≠ (other, kept) := fun equal => same (congrArg Prod.fst equal).symm
        simpa [same, Ne.symm same, apart] using ih restOrdered

theorem mem_names_iff (roster : Roster α) {name : String} :
    name ∈ roster.names ↔ (roster.get? name).isSome = true := by
  simp only [names, List.mem_map, Prod.exists, exists_and_right, exists_eq_right,
    ← get?_eq_some_iff, Option.isSome_iff_exists]

end Roster

end TimingBoard
