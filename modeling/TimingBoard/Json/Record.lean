import TimingBoard.Json.Numeral
import TimingBoard.Json.Reader

namespace TimingBoard.Json

/-! Reading values of a wanted form, and records in particular.

A record is an object with named fields in any order, or an array of its fields in their declared
order.  Containers that are read may nest to a limit; those that are skipped may nest freely. -/

/-- How many containers may be open at once. -/
def nestingLimit : Nat := 127

namespace Value

/-- The failure of a value that has another kind than the wanted one.  Scalars are read to their
end first. -/
def mismatch : Value → Failure
  | .broken fault => fault.read
  | .text none => .malformed
  | .number numeral => if numeral.number?.isNone then .malformed else .mismatch
  | .null | .bool _ | .text (some _) | .array _ _ | .object _ _ => .mismatch

def asText : Value → Except Failure String
  | .text (some content) => .ok content
  | value => .error value.mismatch

def asNumber : Value → Except Failure Binary64
  | .number numeral =>
      match numeral.number? with
      | some x => .ok x
      | none => .error .malformed
  | value => .error value.mismatch

def asNatural : Value → Except Failure Nat
  | .number numeral =>
      match numeral.natural? with
      | some n => .ok n
      | none => .error (mismatch (.number numeral))
  | value => .error value.mismatch

def asOptional (read : Value → Except Failure α) : Value → Except Failure (Option α)
  | .null => .ok none
  | value => (read value).map some

end Value

/-- The end of a container whose content is wanted. -/
def Ending.read : Ending → Except Failure Unit
  | none => .ok ()
  | some fault => .error fault.read

def readAll (read : Value → Except Failure α) : List Value → Except Failure (List α)
  | [] => .ok []
  | element :: rest => do
      let first ← read element
      let others ← readAll read rest
      pure (first :: others)

/-- An array, if one more container may be opened. -/
def Value.asList (read : Value → Except Failure α) :
    (budget : Nat) → Value → Except Failure (List α)
  | 0, .array _ _ => .error .malformed
  | _ + 1, .array elements ending => do
      let results ← readAll read elements
      ending.read
      pure results
  | _, value => .error value.mismatch

structure RecordField (ρ : Type) where
  name : String
  /-- The positional form may end before this field. -/
  optional : Bool
  isSet : ρ → Bool
  set : Value → ρ → Except Failure ρ

/-- Fields by name.  A name may come once; other members are skipped. -/
def readMembers (fields : List (RecordField ρ)) : List Member → ρ → Except Failure ρ
  | [], draft => .ok draft
  | (none, _) :: _, _ => .error .malformed
  | (some key, value) :: rest, draft =>
      match fields.find? (fun field => field.name = key) with
      | some field => do
          if field.isSet draft then throw .mismatch
          let draft ← field.set value draft
          readMembers fields rest draft
      | none => do
          value.skip
          readMembers fields rest draft

def readElements (ending : Ending) :
    List (RecordField ρ) → List Value → ρ → Except Failure ρ
  | [], [], draft => do
      ending.read
      pure draft
  | [], _ :: _, _ => .error .malformed
  | fields@(_ :: _), [], draft => do
      ending.read
      if fields.all (·.optional) then pure draft else throw .mismatch
  | field :: fields, value :: rest, draft => do
      let draft ← field.set value draft
      readElements ending fields rest draft

/-- Reads the fields of a record into `draft`, if one more container may be opened. -/
def readRecord (fields : List (RecordField ρ)) (draft : ρ) :
    (budget : Nat) → Value → Except Failure ρ
  | _ + 1, .object members ending => do
      let draft ← readMembers fields members draft
      ending.read
      pure draft
  | _ + 1, .array elements ending => readElements ending fields elements draft
  | 0, .object _ _ | 0, .array _ _ => .error .malformed
  | _, value => .error value.mismatch

def required : Option α → Except Failure α
  | some value => .ok value
  | none => .error .mismatch

end TimingBoard.Json
