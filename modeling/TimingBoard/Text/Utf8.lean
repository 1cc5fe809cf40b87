namespace TimingBoard.Utf8

/-! Text as UTF-8 bytes. -/

def encode (text : String) : List UInt8 := text.toList.flatMap String.utf8EncodeChar

/-- The text that the bytes encode; absent when they encode none. -/
def decode? (bytes : List UInt8) : Option String := String.fromUTF8? bytes.toByteArray

/-- Where bytes stop being text. -/
structure Flaw where
  start : Nat
  /-- How many bytes are out of place, absent when the bytes end inside a character. -/
  length : Option Nat
deriving DecidableEq, Repr

/-- The bounds of the bytes that follow the first byte of a character; absent when no character starts
with that byte. -/
def following? (first : UInt8) : Option (List (UInt8 × UInt8)) :=
  if first ≤ 0x7F then some []
  else if first ≤ 0xC1 then none
  else if first ≤ 0xDF then some [(0x80, 0xBF)]
  else if first = 0xE0 then some [(0xA0, 0xBF), (0x80, 0xBF)]
  else if first = 0xED then some [(0x80, 0x9F), (0x80, 0xBF)]
  else if first ≤ 0xEF then some [(0x80, 0xBF), (0x80, 0xBF)]
  else if first = 0xF0 then some [(0x90, 0xBF), (0x80, 0xBF), (0x80, 0xBF)]
  else if first ≤ 0xF3 then some [(0x80, 0xBF), (0x80, 0xBF), (0x80, 0xBF)]
  else if first = 0xF4 then some [(0x80, 0x8F), (0x80, 0xBF), (0x80, 0xBF)]
  else none

/-- Reads on inside the character at `start`, of which `read` bytes are known. -/
def flawFrom (start read : Nat) : (awaited : List (UInt8 × UInt8)) → List UInt8 → Flaw
  | [], [] => ⟨start + read, none⟩
  | _ :: _, [] => ⟨start, none⟩
  | [], first :: rest =>
      match following? first with
      | some awaited => flawFrom (start + read) 1 awaited rest
      | none => ⟨start + read, some 1⟩
  | (least, greatest) :: awaited, byte :: rest =>
      if least ≤ byte ∧ byte ≤ greatest then flawFrom start (read + 1) awaited rest
      else ⟨start, some read⟩

/-- The first flaw of the bytes; text has it at its end. -/
def flaw (bytes : List UInt8) : Flaw := flawFrom 0 0 [] bytes

def Flaw.message (flaw : Flaw) : String :=
  match flaw.length with
  | some length =>
      "invalid utf-8 sequence of " ++ toString length ++ " bytes from index " ++ toString flaw.start
  | none => "incomplete utf-8 byte sequence from index " ++ toString flaw.start

theorem toByteArray_encode (text : String) : (encode text).toByteArray = text.toByteArray :=
  String.utf8Encode_toList

theorem decode?_encode (text : String) : decode? (encode text) = some text := by
  simp only [decode?, toByteArray_encode, String.fromUTF8?]
  rw [dif_pos text.isValidUTF8]
  rfl

theorem eq_encode_of_decode? {bytes : List UInt8} {text : String}
    (decoded : decode? bytes = some text) : bytes = encode text := by
  have same : bytes.toByteArray = text.toByteArray := by
    simp only [decode?, String.fromUTF8?] at decoded
    split at decoded
    · cases decoded; rfl
    · contradiction
  have data := congrArg (fun array : ByteArray => array.data.toList)
    (same.trans (toByteArray_encode text).symm)
  simpa using data

end TimingBoard.Utf8
