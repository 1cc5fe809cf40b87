import Mathlib.Data.List.TakeWhile
import Mathlib.Tactic.MkIffOfInductiveProp
import TimingBoard.Source.Directory

namespace TimingBoard

/-! Paths of names in a directory.

A path that is joined to a plain name leads on from where the path itself leads: to the entry of that
name.  Only the whole path can still be too long, the directory not be one to look names up in, or the
name not be one at all. -/

/-- A name that an entry of a directory can have. -/
@[mk_iff]
structure IsName (name : FileName) : Prop where
  nonempty : name ≠ []
  undotted : isDots name = false
  unslashed : slash ∉ name
  nonzero : 0 ∉ name
  fits : name.length ≤ longestName

instance (name : FileName) : Decidable (IsName name) := decidable_of_iff _ (isName_iff name).symm

/-- The entries of a directory, each under a name of its own. -/
structure Listing (entries : List (FileName × Node)) : Prop where
  named : ∀ entry ∈ entries, IsName entry.1
  distinct : (entries.map (·.1)).Nodup

/-- The path of the name cannot be followed to its end, whatever that is: it is too long, or names in
the directory may not be looked up. -/
def OutOfReach (directory : List UInt8) (access : Access) (name : FileName) : Prop :=
  longestPath < (joinPath directory name).length ∨ access.searchable = false

instance (directory : List UInt8) (access : Access) (name : FileName) :
    Decidable (OutOfReach directory access name) :=
  inferInstanceAs (Decidable (_ ∨ _))

/-- Read backwards, a name begins with its ending, which ends at the first dot. -/
theorem dropWhile_reverse (stem : FileName) {ending : FileName} (undotted : dot ∉ ending) :
    (stem ++ dot :: ending).reverse.dropWhile (· != dot) = dot :: stem.reverse ∧
      (stem ++ dot :: ending).reverse.takeWhile (· != dot) = ending.reverse := by
  have passed : ∀ byte ∈ ending.reverse, (byte != dot) = true := by
    intro byte member
    rw [bne_iff_ne]
    rintro rfl
    exact undotted (List.mem_reverse.mp member)
  have backwards : (stem ++ dot :: ending).reverse = ending.reverse ++ dot :: stem.reverse := by simp
  rw [backwards, List.dropWhile_append_of_pos passed, List.takeWhile_append_of_pos passed]
  simp

theorem splitName_eq_some_iff {name stem ending : FileName} :
    splitName name = (stem, some ending) ↔
      name = stem ++ dot :: ending ∧ stem ≠ [] ∧ dot ∉ ending ∧ name ≠ [dot, dot] := by
  constructor
  · intro split
    have whole := List.takeWhile_append_dropWhile (p := (· != dot)) (l := name.reverse)
    have passed : ∀ byte ∈ name.reverse.takeWhile (· != dot), byte ≠ dot := fun byte member =>
      bne_iff_ne.mp (List.mem_takeWhile_imp (p := (· != dot)) member)
    rw [splitName] at split
    cases rest : name.reverse.dropWhile (· != dot) with
    | nil => simp [rest] at split
    | cons byte before =>
        have last : byte = dot := by
          have head := List.head?_dropWhile_not (· != dot) name.reverse
          simpa [rest] using head
        rw [rest] at split whole
        dsimp only at split
        split at split
        · simp at split
        · rename_i proper
          obtain ⟨rfl, same⟩ := Prod.mk.inj split
          obtain rfl := Option.some.inj same
          rw [not_or] at proper
          refine ⟨?_, by simpa using proper.1, ?_, proper.2⟩
          · have forwards := congrArg List.reverse whole
            rw [last] at forwards
            simpa using forwards.symm
          · exact fun member => passed dot (List.mem_reverse.mp member) rfl
  · rintro ⟨rfl, nonempty, undotted, proper⟩
    obtain ⟨dropped, taken⟩ := dropWhile_reverse stem undotted
    rw [splitName, dropped, taken]
    simp [nonempty, proper]

theorem splitOn_append_slash (before after : List UInt8) :
    (before ++ slash :: after).splitOn slash = before.splitOn slash ++ after.splitOn slash :=
  List.splitOnP_append_cons before after (beq_self_eq_true slash)

section Joined

variable {directory : List UInt8} {name : FileName}

theorem mem_joinPath_iff (relative : name.head? ≠ some slash) {byte : UInt8} (plain : byte ≠ slash) :
    byte ∈ joinPath directory name ↔ byte ∈ directory ∨ byte ∈ name := by
  rw [joinPath, if_neg relative]
  split <;> simp [plain]

theorem length_add_le_joinPath (directory : List UInt8) (relative : name.head? ≠ some slash) :
    directory.length + name.length ≤ (joinPath directory name).length := by
  rw [joinPath, if_neg relative]
  split
  · rw [List.length_append]
  · rw [List.length_append, List.length_cons]
    omega

theorem head?_joinPath (relative : name.head? ≠ some slash) (nonempty : directory ≠ []) :
    (joinPath directory name).head? = directory.head? := by
  rw [joinPath, if_neg relative]
  cases directory with
  | nil => exact absurd rfl nonempty
  | cons first rest => split <;> rfl

/-- The parts of the joined path are those of the path, less an empty one behind its last slash, and
the name. -/
theorem splitOn_joinPath (unslashed : slash ∉ name) (nonempty : directory ≠ []) :
    ∃ parts, (joinPath directory name).splitOn slash = parts ++ [name] ∧
      (directory.splitOn slash = parts ∨ directory.splitOn slash = parts ++ [[]]) := by
  have alone : name.splitOn slash = [name] := List.splitOn_eq_singleton unslashed
  have relative : name.head? ≠ some slash := fun first => unslashed (List.mem_of_head? first)
  rw [joinPath, if_neg relative]
  by_cases ended : directory.getLast? = some slash
  · obtain ⟨before, rfl⟩ := List.getLast?_eq_some_iff.mp ended
    refine ⟨before.splitOn slash, ?_, .inr (splitOn_append_slash before [])⟩
    rw [if_pos (.inr ended), List.append_assoc, List.singleton_append, splitOn_append_slash, alone]
  · refine ⟨directory.splitOn slash, ?_, .inl rfl⟩
    rw [if_neg (by simp [nonempty, ended]), splitOn_append_slash, alone]

end Joined

theorem Node.entry_eq_some_iff {entries : List (FileName × Node)} (listing : Listing entries)
    {name : FileName} {node : Node} : entry? entries name = some node ↔ (name, node) ∈ entries := by
  have distinct := listing.distinct
  clear listing
  unfold entry?
  induction entries with
  | nil => simp
  | cons entry rest ih =>
      obtain ⟨other, kept⟩ := entry
      obtain ⟨fresh, distinct⟩ := List.nodup_cons.mp distinct
      by_cases same : other = name
      · subst same
        have absent : (other, node) ∉ rest := fun member =>
          fresh (List.mem_map.mpr ⟨_, member, rfl⟩)
        simp [absent, eq_comm]
      · have apart : (name, node) ≠ (other, kept) := fun equal => same (congrArg Prod.fst equal).symm
        simpa [same, apart] using ih distinct

namespace Visit

variable {visit next : Visit} {access : Access} {entries : List (FileName × Node)} {name : FileName}

theorem child?_eq_some_iff (inside : visit.node = .directory access entries)
    (listing : Listing entries) :
    visit.child? name = some next ↔ ∃ node, (name, node) ∈ entries ∧ visit.below name node = next := by
  simp only [child?, inside, Option.map_eq_some_iff, Node.entry_eq_some_iff listing]

theorem step_eq_ok_iff (inside : visit.node = .directory access entries) (named : name ≠ [])
    (undotted : isDots name = false) :
    visit.step name = .ok next ↔
      access.searchable = true ∧ name.length ≤ longestName ∧ visit.child? name = some next := by
  simp only [isDots, Bool.or_eq_false_iff, beq_eq_false_iff_ne] at undotted
  simp only [step, inside, named, undotted, if_false]
  cases access.searchable with
  | false => simp
  | true =>
      by_cases long : longestName < name.length
      · simp [long, Nat.not_le.mpr long]
      · cases found : visit.child? name <;> simp [long, Nat.not_lt.mp long]

/-- Nothing follows the last slash of a path, and the visit stays where it is. -/
theorem step_nil (stepped : visit.step [] = .ok next) : next = visit := by
  rw [step] at stepped
  split at stepped
  · rw [if_pos rfl] at stepped
    exact (Except.ok.inj stepped).symm
  · cases stepped

theorem follow_append_singleton {parts : List FileName} {last : FileName} :
    visit.follow (parts ++ [last]) = (visit.follow parts).bind (·.step last) := by
  rw [follow_append]
  congr 1
  funext next
  simp [follow]

end Visit

namespace FileSystem

variable {files : FileSystem} {path directory : List UInt8} {start place visit : Visit}

theorem locate_eq_ok_iff :
    files.locate path = .ok visit ↔
      ∃ start, files.entrance path = .ok start ∧ start.follow (path.splitOn slash) = .ok visit := by
  rw [locate]
  cases files.entrance path <;> simp [bind, Except.bind]

theorem entrance_eq_ok_iff :
    files.entrance path = .ok start ↔
      0 ∉ path ∧ path.length ≤ longestPath ∧ ∃ first, path.head? = some first ∧
        (if first = slash then .ok files.top else files.workplace) = .ok start := by
  unfold entrance
  by_cases zero : 0 ∈ path
  · simp [zero]
  · rw [List.contains_eq_mem, if_neg (by simpa using zero)]
    by_cases long : longestPath < path.length
    · simp [long, Nat.not_le.mpr long]
    · rw [if_neg long]
      cases path with
      | nil => simp
      | cons first rest =>
          have short : (first :: rest).length ≤ longestPath := Nat.not_lt.mp long
          simp only [zero, not_false_eq_true, short, List.head?_cons, Option.some.injEq, true_and,
            exists_eq_left']

/-- From a directory a joined path leads to the entry with that name, if it can be followed. -/
theorem locate_joinPath_eq_ok_iff {access : Access} {entries : List (FileName × Node)}
    {name : FileName} (found : files.locate directory = .ok place)
    (inside : place.node = .directory access entries) (named : name ≠ [])
    (undotted : isDots name = false) (unslashed : slash ∉ name) :
    files.locate (joinPath directory name) = .ok visit ↔
      0 ∉ name ∧ name.length ≤ longestName ∧ ¬OutOfReach directory access name ∧
        place.child? name = some visit := by
  obtain ⟨start, entered, followed⟩ := locate_eq_ok_iff.mp found
  obtain ⟨nonzero, -, first, head, starts⟩ := entrance_eq_ok_iff.mp entered
  have nonempty : directory ≠ [] := fun empty => by simp [empty] at head
  have relative : name.head? ≠ some slash := fun first => unslashed (List.mem_of_head? first)
  obtain ⟨parts, joined, ended⟩ := splitOn_joinPath unslashed nonempty
  -- Without the empty part behind a last slash the path leads to the same place.
  have led : start.follow parts = .ok place := by
    rcases ended with same | behind
    · rwa [same] at followed
    · rw [behind, Visit.follow_append_singleton] at followed
      cases before : start.follow parts with
      | error fault => simp [before, Except.bind] at followed
      | ok reached =>
          rw [before] at followed
          rw [Visit.step_nil followed]
  have entrance_joined (other : Visit) : files.entrance (joinPath directory name) = .ok other ↔
      0 ∉ name ∧ (joinPath directory name).length ≤ longestPath ∧ start = other := by
    rw [entrance_eq_ok_iff, mem_joinPath_iff relative (by decide), head?_joinPath relative nonempty,
      head]
    simp [nonzero, starts]
  rw [locate_eq_ok_iff]
  simp only [entrance_joined, joined, Visit.follow_append_singleton, OutOfReach, not_or, Nat.not_lt,
    Bool.not_eq_false]
  constructor
  · rintro ⟨_, ⟨noZero, short, rfl⟩, steps⟩
    rw [led] at steps
    obtain ⟨searchable, fits, child⟩ := (Visit.step_eq_ok_iff inside named undotted).mp steps
    exact ⟨noZero, fits, ⟨short, searchable⟩, child⟩
  · rintro ⟨noZero, fits, ⟨short, searchable⟩, child⟩
    have steps := (Visit.step_eq_ok_iff inside named undotted).mpr ⟨searchable, fits, child⟩
    exact ⟨start, ⟨noZero, short, rfl⟩, by rw [led]; exact steps⟩

end FileSystem

end TimingBoard
