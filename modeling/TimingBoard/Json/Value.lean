import TimingBoard.Number.Decimal

namespace TimingBoard.Json

/-! JSON values as a reader meets them.

A text is read from left to right and the first problem met settles how reading fails.  A value
therefore keeps everything up to the place where its text breaks off, together with what goes
wrong there, and whoever reads or skips the value finds the problems in the order of the text. -/

/-- Why a text cannot be read: it is no JSON text, it does not have the wanted form, or it ends
inside a value. -/
inductive Failure where
  | malformed
  | mismatch
  | truncated
deriving DecidableEq, Repr

/-- A place where a text breaks off: how it fails when the content is wanted, and how when it is
only skipped. -/
structure Fault where
  read : Failure
  skip : Failure
deriving DecidableEq, Repr

namespace Fault

def malformed : Fault := ⟨.malformed, .malformed⟩

def truncated : Fault := ⟨.truncated, .truncated⟩

/-- The end of the text inside a number, which skipping does not tell from a wrong character. -/
def endOfNumber : Fault := ⟨.truncated, .malformed⟩

end Fault

/-- The end of a container: closed, or the place where its text breaks off. -/
abbrev Ending := Option Fault

/-- A number as it is spelled: decimal digits before and after the point, and the exponent with
its sign. -/
structure Numeral where
  negative : Bool
  whole : List Char
  fraction : List Char
  exponent : Option (Bool × List Char)
deriving DecidableEq, Repr

/-- A value.  The content of a text or of a key is absent when an escape in it stands for half a
surrogate pair. -/
inductive Value where
  | null
  | bool (value : Bool)
  | number (numeral : Numeral)
  | text (content : Option String)
  | array (elements : List Value) (ending : Ending)
  | object (members : List (Option String × Value)) (ending : Ending)
  | broken (fault : Fault)

abbrev Member := Option String × Value

instance : Inhabited Value := ⟨.null⟩

def Ending.skip : Ending → Except Failure Unit
  | none => .ok ()
  | some fault => .error fault.skip

mutual

/-- Passing over a value: only its grammar matters. -/
def Value.skip : Value → Except Failure Unit
  | .array elements ending => do
      skipElements elements
      ending.skip
  | .object members ending => do
      skipMembers members
      ending.skip
  | .broken fault => .error fault.skip
  | .null | .bool _ | .number _ | .text _ => .ok ()

def skipElements : List Value → Except Failure Unit
  | [] => .ok ()
  | element :: rest => do
      element.skip
      skipElements rest

def skipMembers : List Member → Except Failure Unit
  | [] => .ok ()
  | (_, value) :: rest => do
      value.skip
      skipMembers rest

end

end TimingBoard.Json
