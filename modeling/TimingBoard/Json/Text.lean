import TimingBoard.Json.Value

namespace TimingBoard.Json.Text

/-! Quoted text: the escapes that are written and the ones that are understood. -/

def hexDigit? (c : Char) : Option Nat :=
  if '0' ≤ c ∧ c ≤ '9' then some (c.toNat - '0'.toNat)
  else if 'a' ≤ c ∧ c ≤ 'f' then some (c.toNat - 'a'.toNat + 10)
  else if 'A' ≤ c ∧ c ≤ 'F' then some (c.toNat - 'A'.toNat + 10)
  else none

def codeUnit? (a b c d : Char) : Option Nat := do
  pure ((((← hexDigit? a) * 16 + (← hexDigit? b)) * 16 + (← hexDigit? c)) * 16 + (← hexDigit? d))

def isHighSurrogate (unit : Nat) : Bool := 0xD800 ≤ unit && unit < 0xDC00

def isLowSurrogate (unit : Nat) : Bool := 0xDC00 ≤ unit && unit < 0xE000

def pairValue (high low : Nat) : Nat := 0x10000 + (high - 0xD800) * 0x400 + (low - 0xDC00)

def shortEscape? : Char → Option Char
  | '"' => some '"'
  | '\\' => some '\\'
  | '/' => some '/'
  | 'b' => some '\x08'
  | 'f' => some '\x0c'
  | 'n' => some '\n'
  | 'r' => some '\r'
  | 't' => some '\t'
  | _ => none

structure Progress where
  /-- The characters read, last one first. -/
  reversed : List Char := []
  /-- A high surrogate that waits for its other half. -/
  pending : Option Nat := none
  /-- No surrogate has been left alone. -/
  sound : Bool := true

namespace Progress

def push (progress : Progress) (c : Char) : Progress :=
  { reversed := c :: progress.reversed
    sound := progress.sound && progress.pending.isNone }

def pushUnit (progress : Progress) (unit : Nat) : Progress :=
  match progress.pending with
  | some high =>
      if isLowSurrogate unit then
        { progress with
          reversed := Char.ofNat (pairValue high unit) :: progress.reversed
          pending := none }
      else { progress with pending := none, sound := false }
  | none =>
      if isHighSurrogate unit then { progress with pending := some unit }
      else if isLowSurrogate unit then { progress with sound := false }
      else progress.push (Char.ofNat unit)

def content (progress : Progress) : Option String :=
  if progress.sound && progress.pending.isNone then some (String.ofList progress.reversed.reverse)
  else none

/-- A surrogate left alone is met before whatever ends the text later. -/
def fault (progress : Progress) (failure : Failure) : Fault :=
  ⟨if progress.sound then failure else .malformed, failure⟩

end Progress

/-- A text up to its closing quote and what follows it, or where it breaks off. -/
inductive Scanned where
  | closed (content : Option String) (rest : List Char)
  | broken (fault : Fault)

/-- Four digits are looked for among the bytes that are left. -/
def lacksFourBytes (rest : List Char) : Bool := rest.foldl (fun total c => total + c.utf8Size) 0 < 4

/-- Reads a text whose opening quote has been passed. -/
def scan (progress : Progress) : List Char → Scanned
  | [] => .broken (progress.fault .truncated)
  | '"' :: rest => .closed progress.content rest
  | ['\\'] => .broken (progress.fault .truncated)
  | '\\' :: 'u' :: a :: b :: c :: d :: rest =>
      match codeUnit? a b c d with
      | some unit => scan (progress.pushUnit unit) rest
      | none => .broken (progress.fault .malformed)
  | '\\' :: 'u' :: rest =>
      .broken (progress.fault (if lacksFourBytes rest then .truncated else .malformed))
  | '\\' :: mark :: rest =>
      match shortEscape? mark with
      | some c => scan (progress.push c) rest
      | none => .broken (progress.fault .malformed)
  | c :: rest =>
      if c.toNat < 0x20 then .broken (progress.fault .malformed)
      else scan (progress.push c) rest

def hexDigit (n : Nat) : Char := Char.ofNat (if n < 10 then '0'.toNat + n else 'a'.toNat + n - 10)

/-- Quotes, backslashes and control characters are escaped, and nothing else. -/
def escape (c : Char) : List Char :=
  if c = '"' then ['\\', '"']
  else if c = '\\' then ['\\', '\\']
  else if c = '\x08' then ['\\', 'b']
  else if c = '\x0c' then ['\\', 'f']
  else if c = '\n' then ['\\', 'n']
  else if c = '\r' then ['\\', 'r']
  else if c = '\t' then ['\\', 't']
  else if c.toNat < 0x20 then
    ['\\', 'u', '0', '0', hexDigit (c.toNat / 16), hexDigit (c.toNat % 16)]
  else [c]

def quote (content : String) : List Char := '"' :: content.toList.flatMap escape ++ ['"']

end TimingBoard.Json.Text
