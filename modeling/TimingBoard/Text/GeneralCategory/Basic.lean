import TimingBoard.Text.GeneralCategory.Runs

namespace TimingBoard

/-! General categories of characters.  A constructor is named by the two letters that the Unicode
standard gives its category. -/

inductive GeneralCategory where
  | lu
  | ll
  | lt
  | lm
  | lo
  | mn
  | mc
  | me
  | nd
  | nl
  | no
  | pc
  | pd
  | ps
  | pe
  | pi
  | pf
  | po
  | sm
  | sc
  | sk
  | so
  | zs
  | zl
  | zp
  | cc
  | cf
  | cs
  | co
  /-- Not assigned to a character. -/
  | cn
deriving DecidableEq, Repr

namespace GeneralCategory

def codes : List (String × GeneralCategory) :=
  [("Lu", .lu), ("Ll", .ll), ("Lt", .lt), ("Lm", .lm), ("Lo", .lo), ("Mn", .mn), ("Mc", .mc),
   ("Me", .me), ("Nd", .nd), ("Nl", .nl), ("No", .no), ("Pc", .pc), ("Pd", .pd), ("Ps", .ps),
   ("Pe", .pe), ("Pi", .pi), ("Pf", .pf), ("Po", .po), ("Sm", .sm), ("Sc", .sc), ("Sk", .sk),
   ("So", .so), ("Zs", .zs), ("Zl", .zl), ("Zp", .zp), ("Cc", .cc), ("Cf", .cf), ("Cs", .cs),
   ("Co", .co), ("Cn", .cn)]

def ofCode (code : String) : GeneralCategory := (codes.lookup code).getD .cn

/-- Where a run starts, and the category of its code points. -/
structure Run where
  start : Nat
  category : GeneralCategory

/-- Reads runs: a category is known by its letters, and digits count its code points. -/
def read : (letters : List Char) → (start count : Nat) → List Char → List Run
  | letters, start, _, [] => [⟨start, ofCode (String.ofList letters)⟩]
  | letters, start, count, c :: rest =>
      if c.isDigit then read letters start (10 * count + (c.toNat - '0'.toNat)) rest
      else if count = 0 then read (letters ++ [c]) start 0 rest
      else ⟨start, ofCode (String.ofList letters)⟩ :: read [c] (start + count) 0 rest

/-- The category of the last run between two places that starts at or before the code point. -/
def search (table : Array Run) (code low high : Nat) : GeneralCategory :=
  if low + 1 < high then
    if (table[(low + high) / 2]?).any (fun run => run.start ≤ code) then
      search table code ((low + high) / 2) high
    else search table code low ((low + high) / 2)
  else ((table[low]?).map (·.category)).getD .cn
termination_by high - low

def table : Array Run := (read [] 0 0 runs.toList).toArray

def ofChar (c : Char) : GeneralCategory := search table c.toNat 0 table.size

def isLetter : GeneralCategory → Bool
  | .lu | .ll | .lt | .lm | .lo => true
  | _ => false

end GeneralCategory

end TimingBoard
