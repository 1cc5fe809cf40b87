import TimingBoard.Json.Reader
import TimingBoard.Json.Writer

namespace TimingBoard.Json

/-! Tokens are read as they are spelled: numbers and quoted texts.

An exponent may be marked and signed in several ways.  A character of a text may stand for itself or be
escaped, and an escape that stands for half a surrogate pair leaves the text without content. -/

/-- A run of digits with at least one. -/
def Digits (digits : List Char) : Prop := digits ≠ [] ∧ ∀ c ∈ digits, isDigit c = true

/-- What follows does not go on with digits. -/
def NoDigit (rest : List Char) : Prop := ∀ c, rest.head? = some c → isDigit c = false

/-- What follows does not go on with a number. -/
def EndsNumber (rest : List Char) : Prop :=
  NoDigit rest ∧ ∀ c ∈ ['.', 'e', 'E'], rest.head? ≠ some c

namespace Numeral

/-- A token as the grammar has it: no part is empty but for the fraction, and a zero before the
point stands alone. -/
structure Proper (numeral : Numeral) : Prop where
  whole : Digits numeral.whole
  alone : numeral.whole.head? = some '0' → numeral.whole = ['0']
  fraction : ∀ c ∈ numeral.fraction, isDigit c = true
  exponent : ∀ negative digits, numeral.exponent = some (negative, digits) → Digits digits

variable {digits rest : List Char}

theorem scanDigits_append (spelled : Digits digits) (ends : NoDigit rest) :
    scanDigits (digits ++ rest) = .ok (digits, rest) := by
  obtain ⟨some, all⟩ := spelled
  have taken : (digits ++ rest).takeWhile isDigit = digits := by
    rw [List.takeWhile_append_of_pos all]
    cases rest with
    | nil => simp
    | cons c rest => simp [ends c rfl]
  have left : (digits ++ rest).dropWhile isDigit = rest := by
    rw [List.dropWhile_append_of_pos all]
    cases rest with
    | nil => rfl
    | cons c rest => simp [ends c rfl]
  cases digits with
  | nil => exact absurd rfl some
  | cons first digits =>
      rw [List.cons_append, scanDigits, if_pos (all first List.mem_cons_self), ← List.cons_append,
        taken, left]

theorem scanWhole_append (spelled : Digits digits) (alone : digits.head? = some '0' → digits = ['0'])
    (ends : NoDigit rest) : scanWhole (digits ++ rest) = .ok (digits, rest) := by
  by_cases zero : digits.head? = some '0'
  · rw [alone zero]
    cases rest with
    | nil => rfl
    | cons c rest => simp [scanWhole, ends c rfl]
  · rw [← scanDigits_append spelled ends, scanWhole]
    rintro c later same
    cases digits with
    | nil => exact spelled.1 rfl
    | cons first digits =>
        rw [List.cons_append] at same
        exact zero (congrArg some (List.cons.inj same).1)

/-- The fraction with its point, if there is one. -/
def fractionText (fraction : List Char) : List Char :=
  if fraction.isEmpty then [] else '.' :: fraction

/-- The ways to spell an exponent. -/
inductive ExponentSpells : List Char → Option (Bool × List Char) → Prop where
  | absent : ExponentSpells [] none
  | unsigned {mark : Char} {digits : List Char} (marks : mark = 'e' ∨ mark = 'E')
      (spelled : Digits digits) : ExponentSpells (mark :: digits) (some (false, digits))
  | signed {mark : Char} {digits : List Char} (marks : mark = 'e' ∨ mark = 'E')
      (spelled : Digits digits) (negative : Bool) :
      ExponentSpells (mark :: (if negative then '-' else '+') :: digits) (some (negative, digits))

/-- The ways to spell a number. -/
inductive Spells : List Char → Numeral → Prop where
  | intro {numeral : Numeral} {exponent : List Char} (proper : numeral.Proper)
      (spells : ExponentSpells exponent numeral.exponent) :
      Spells ((if numeral.negative then ['-'] else []) ++ (numeral.whole ++
        (fractionText numeral.fraction ++ exponent))) numeral

theorem scanFraction_append {fraction : List Char} (spelled : ∀ c ∈ fraction, isDigit c = true)
    (ends : NoDigit rest) (pointless : rest.head? ≠ some '.') :
    scanFraction (fractionText fraction ++ rest) = .ok (fraction, rest) := by
  cases fraction with
  | nil =>
      cases rest with
      | nil => rfl
      | cons c rest =>
          have different : c ≠ '.' := fun same => pointless (congrArg some same)
          simp [fractionText, scanFraction, different]
  | cons first fraction => exact scanDigits_append ⟨List.cons_ne_nil _ _, spelled⟩ ends

theorem scanExponent_append {exponent : Option (Bool × List Char)} {text : List Char}
    (spells : ExponentSpells text exponent) (ends : EndsNumber rest) :
    scanExponent (text ++ rest) = .ok (exponent, rest) := by
  cases spells with
  | absent =>
      cases rest with
      | nil => rfl
      | cons c rest =>
          have unmarked : ¬ (c = 'e' ∨ c = 'E') := by
            rintro (rfl | rfl)
            · exact ends.2 'e' (by decide) rfl
            · exact ends.2 'E' (by decide) rfl
          simp [scanExponent, unmarked]
  | @unsigned mark digits marks spelled =>
      have read := scanDigits_append spelled ends.1
      cases digits with
      | nil => exact absurd rfl spelled.1
      | cons first digits =>
          have digit : isDigit first = true := spelled.2 first List.mem_cons_self
          have negative : first ≠ '-' := by
            rintro rfl
            exact absurd digit (by decide)
          have positive : first ≠ '+' := by
            rintro rfl
            exact absurd digit (by decide)
          rw [List.cons_append] at read
          simp [scanExponent, marks, negative, positive, read, Except.map]
  | signed marks spelled negative =>
      have read := scanDigits_append spelled ends.1
      cases negative <;> simp [scanExponent, marks, read, Except.map]

theorem noDigit_fractionText {fraction : List Char} (ends : NoDigit rest) :
    NoDigit (fractionText fraction ++ rest) := by
  cases fraction with
  | nil => exact ends
  | cons first fraction =>
      rintro c same
      cases same
      decide

theorem exponent_ends {exponent : Option (Bool × List Char)} {text : List Char}
    (spells : ExponentSpells text exponent) (ends : EndsNumber rest) :
    NoDigit (text ++ rest) ∧ (text ++ rest).head? ≠ some '.' := by
  cases spells with
  | absent => exact ⟨ends.1, ends.2 '.' (by decide)⟩
  | unsigned marks | signed marks =>
      rcases marks with rfl | rfl <;> exact ⟨by rintro _ ⟨⟩; decide, by simp⟩

theorem scan_append {numeral : Numeral} {exponent : List Char} (proper : numeral.Proper)
    (spells : ExponentSpells exponent numeral.exponent) (ends : EndsNumber rest) :
    scan numeral.negative (numeral.whole ++ (fractionText numeral.fraction ++
      (exponent ++ rest))) = .ok (numeral, rest) := by
  obtain ⟨undigited, pointless⟩ := exponent_ends spells ends
  have unwhole : NoDigit (fractionText numeral.fraction ++ (exponent ++ rest)) :=
    noDigit_fractionText undigited
  have whole := scanWhole_append proper.whole proper.alone unwhole
  have fraction := scanFraction_append proper.fraction undigited pointless
  have exponent := scanExponent_append spells ends
  simp [scan, whole, fraction, exponent, bind, Except.bind, pure, Except.pure]

/-- A number is written as the grammar has it, with a sign in every exponent. -/
theorem spells_render {numeral : Numeral} (proper : numeral.Proper) :
    Spells numeral.render numeral := by
  obtain ⟨negative, whole, fraction, exponent⟩ := numeral
  cases exponent with
  | none =>
      rw [render, List.append_nil, List.append_assoc]
      simpa [fractionText] using Spells.intro proper .absent
  | some exponent =>
      obtain ⟨down, digits⟩ := exponent
      rw [render, List.append_assoc, List.append_assoc]
      exact .intro proper (.signed (.inl rfl) (proper.exponent down digits rfl) down)

end Numeral

namespace Text

/-- An escaped code unit. -/
inductive Escaped (unit : Nat) : List Char → Prop where
  | intro {a b c d : Char} (digits : codeUnit? a b c d = some unit) :
      Escaped unit ['\\', 'u', a, b, c, d]

/-- A surrogate stands for nothing without its other half. -/
def Surrogate (unit : Nat) : Prop := isHighSurrogate unit = true ∨ isLowSurrogate unit = true

/-- The other half of a pair comes first in the text. -/
def StartsLow (text : List Char) : Prop :=
  ∃ low escape rest, isLowSurrogate low = true ∧ Escaped low escape ∧ text = escape ++ rest

/-- The ways to spell a text between its quotes. -/
inductive Spells : List Char → Option (List Char) → Prop where
  | empty : Spells [] (some [])
  | plain {c : Char} {text : List Char} {content : Option (List Char)} (printable : 0x20 ≤ c.toNat)
      (unquoted : c ≠ '"') (unescaped : c ≠ '\\') (rest : Spells text content) :
      Spells (c :: text) (content.map (c :: ·))
  | short {mark c : Char} {text : List Char} {content : Option (List Char)}
      (escapes : shortEscape? mark = some c) (rest : Spells text content) :
      Spells ('\\' :: mark :: text) (content.map (c :: ·))
  | unit {unit : Nat} {escape text : List Char} {content : Option (List Char)}
      (escaped : Escaped unit escape) (whole : ¬ Surrogate unit) (rest : Spells text content) :
      Spells (escape ++ text) (content.map (Char.ofNat unit :: ·))
  | pair {high low : Nat} {first second text : List Char} {content : Option (List Char)}
      (begins : Escaped high first) (isHigh : isHighSurrogate high = true)
      (ends : Escaped low second) (isLow : isLowSurrogate low = true) (rest : Spells text content) :
      Spells (first ++ (second ++ text)) (content.map (Char.ofNat (pairValue high low) :: ·))
  | half {unit : Nat} {escape text : List Char} {content : Option (List Char)}
      (escaped : Escaped unit escape) (surrogate : Surrogate unit)
      (alone : isHighSurrogate unit = true → ¬ StartsLow text) (rest : Spells text content) :
      Spells (escape ++ text) none

/-- A character that stands for itself. -/
theorem scan_plain {c : Char} (printable : 0x20 ≤ c.toNat) (unquoted : c ≠ '"') (unescaped : c ≠ '\\')
    (progress : Progress) (rest : List Char) :
    scan progress (c :: rest) = scan (progress.push c) rest := by
  rw [scan, if_neg (Nat.not_lt.mpr printable)]
  all_goals simp [unquoted, unescaped]

theorem scan_short {mark c : Char} (escapes : shortEscape? mark = some c) (progress : Progress)
    (rest : List Char) : scan progress ('\\' :: mark :: rest) = scan (progress.push c) rest := by
  have other : mark ≠ 'u' := by
    rintro rfl
    cases escapes
  rw [scan, escapes]
  all_goals simp [other]

theorem scan_escaped {unit : Nat} {escape : List Char} (escaped : Escaped unit escape)
    (progress : Progress) (rest : List Char) :
    scan progress (escape ++ rest) = scan (progress.pushUnit unit) rest := by
  cases escaped with
  | intro digits =>
      simp only [List.cons_append, List.nil_append]
      rw [scan, digits]

section Unsound

variable {progress : Progress} (unsound : progress.sound = false)
include unsound

theorem push_unsound (c : Char) : (progress.push c).sound = false := by
  simp [Progress.push, unsound]

theorem pushUnit_unsound (unit : Nat) : (progress.pushUnit unit).sound = false := by
  unfold Progress.pushUnit
  cases progress.pending with
  | some high => dsimp only; split <;> simp [unsound]
  | none =>
      dsimp only
      split
      · exact unsound
      · split
        · rfl
        · exact push_unsound unsound _

end Unsound

/-- Once a surrogate was left alone the text has no content, whatever comes. -/
theorem scan_unsound {text : List Char} {content : Option (List Char)} (spells : Spells text content)
    {progress : Progress} (unsound : progress.sound = false) (rest : List Char) :
    scan progress (text ++ '"' :: rest) = .closed none rest := by
  induction spells generalizing progress with
  | empty => simp [scan, Progress.content, unsound]
  | plain printable unquoted unescaped _ ih =>
      rw [List.cons_append, scan_plain printable unquoted unescaped]
      exact ih (push_unsound unsound _)
  | short escapes _ ih =>
      rw [List.cons_append, List.cons_append, scan_short escapes]
      exact ih (push_unsound unsound _)
  | unit escaped _ _ ih | half escaped _ _ _ ih =>
      rw [List.append_assoc, scan_escaped escaped]
      exact ih (pushUnit_unsound unsound _)
  | pair begins _ ends _ _ ih =>
      rw [List.append_assoc, List.append_assoc, scan_escaped begins, scan_escaped ends]
      exact ih (pushUnit_unsound (pushUnit_unsound unsound _) _)

/-- A high surrogate is left alone unless the other half comes at once. -/
theorem scan_waiting {text : List Char} {content : Option (List Char)} (spells : Spells text content)
    (alone : ¬ StartsLow text) {progress : Progress} {high : Nat}
    (waiting : progress.pending = some high) (rest : List Char) :
    scan progress (text ++ '"' :: rest) = .closed none rest := by
  have pushed (c : Char) : (progress.push c).sound = false := by simp [Progress.push, waiting]
  have pushedUnit {unit : Nat} (other : isLowSurrogate unit = false) :
      (progress.pushUnit unit).sound = false := by simp [Progress.pushUnit, waiting, other]
  have other {unit : Nat} {escape text : List Char} (escaped : Escaped unit escape)
      (alone : ¬ StartsLow (escape ++ text)) : isLowSurrogate unit = false :=
    Bool.eq_false_iff.mpr fun low => alone ⟨unit, escape, text, low, escaped, rfl⟩
  cases spells with
  | empty => simp [scan, Progress.content, waiting]
  | plain printable unquoted unescaped spells =>
      rw [List.cons_append, scan_plain printable unquoted unescaped]
      exact scan_unsound spells (pushed _) rest
  | short escapes spells =>
      rw [List.cons_append, List.cons_append, scan_short escapes]
      exact scan_unsound spells (pushed _) rest
  | unit escaped _ spells | half escaped _ _ spells =>
      rw [List.append_assoc, scan_escaped escaped]
      exact scan_unsound spells (pushedUnit (other escaped alone)) rest
  | pair begins isHigh ends isLow spells =>
      rw [List.append_assoc, List.append_assoc, scan_escaped begins, scan_escaped ends]
      exact scan_unsound spells (pushUnit_unsound (pushedUnit (other begins alone)) _) rest

/-- A text is read to its closing quote. -/
theorem scan_spells {text : List Char} {content : Option (List Char)} (spells : Spells text content)
    {progress : Progress} (settled : progress.pending = none) (sound : progress.sound = true)
    (rest : List Char) :
    scan progress (text ++ '"' :: rest) =
      .closed (content.map fun later => String.ofList (progress.reversed.reverse ++ later)) rest := by
  induction spells generalizing progress with
  | empty => simp [scan, Progress.content, settled, sound]
  | @plain c _ content printable unquoted unescaped _ ih =>
      have pushed : (progress.push c).sound = true := by simp [Progress.push, sound, settled]
      rw [List.cons_append, scan_plain printable unquoted unescaped, ih rfl pushed]
      cases content <;> simp [Progress.push]
  | @short _ c _ content escapes _ ih =>
      have pushed : (progress.push c).sound = true := by simp [Progress.push, sound, settled]
      rw [List.cons_append, List.cons_append, scan_short escapes, ih rfl pushed]
      cases content <;> simp [Progress.push]
  | @unit unit _ _ content escaped whole _ ih =>
      have pushed : progress.pushUnit unit = progress.push (Char.ofNat unit) := by
        obtain ⟨notHigh, notLow⟩ := not_or.mp whole
        rw [Progress.pushUnit, settled]
        simp only [notHigh, notLow, Bool.false_eq_true, if_false]
      have kept : (progress.push (Char.ofNat unit)).sound = true := by
        simp [Progress.push, sound, settled]
      rw [List.append_assoc, scan_escaped escaped, pushed, ih rfl kept]
      cases content <;> simp [Progress.push]
  | @pair high low _ _ _ content begins isHigh ends isLow _ ih =>
      have pushed : ((progress.pushUnit high).pushUnit low).pending = none := by
        simp [Progress.pushUnit, settled, isHigh, isLow]
      have kept : ((progress.pushUnit high).pushUnit low).sound = true := by
        simp [Progress.pushUnit, settled, isHigh, isLow, sound]
      have joined : ((progress.pushUnit high).pushUnit low).reversed =
          Char.ofNat (pairValue high low) :: progress.reversed := by
        simp [Progress.pushUnit, settled, isHigh, isLow]
      rw [List.append_assoc, List.append_assoc, scan_escaped begins, scan_escaped ends, ih pushed kept,
        joined]
      cases content <;> simp
  | @half unit _ _ _ escaped surrogate alone spells _ =>
      rw [List.append_assoc, scan_escaped escaped]
      by_cases high : isHighSurrogate unit = true
      · have waiting : (progress.pushUnit unit).pending = some unit := by
          simp [Progress.pushUnit, settled, high]
        exact scan_waiting spells (alone high) waiting rest
      · have low : isLowSurrogate unit = true := surrogate.resolve_left high
        have unsound : (progress.pushUnit unit).sound = false := by
          simp [Progress.pushUnit, settled, high, low]
        exact scan_unsound spells unsound rest

/-- A text that begins at its opening quote. -/
theorem scan_body {body : List Char} {content : Option (List Char)} (spells : Spells body content)
    (rest : List Char) : scan {} (body ++ '"' :: rest) = .closed (content.map String.ofList) rest :=
  scan_spells spells rfl rfl rest

/-- The four digits of an escaped control character stand for it. -/
theorem codeUnit?_control : ∀ n < 0x20,
    codeUnit? '0' '0' (hexDigit (n / 16)) (hexDigit (n % 16)) = some n := by
  decide

theorem spells_escape (c : Char) {text : List Char} {content : Option (List Char)}
    (rest : Spells text content) : Spells (escape c ++ text) (content.map (c :: ·)) := by
  by_cases short : c ∈ ['"', '\\', '\x08', '\x0c', '\n', '\r', '\t']
  · simp only [List.mem_cons, List.not_mem_nil, or_false] at short
    rcases short with rfl | rfl | rfl | rfl | rfl | rfl | rfl <;> exact .short rfl rest
  · simp only [List.mem_cons, List.not_mem_nil, or_false, not_or] at short
    obtain ⟨unquoted, unescaped, b, f, n, r, t⟩ := short
    rw [escape, if_neg unquoted, if_neg unescaped, if_neg b, if_neg f, if_neg n, if_neg r, if_neg t]
    by_cases control : c.toNat < 0x20
    · have whole : ¬ Surrogate c.toNat := by
        simp [Surrogate, isHighSurrogate, isLowSurrogate]
        omega
      have spells := Spells.unit (.intro (codeUnit?_control c.toNat control)) whole rest
      rw [Char.ofNat_toNat] at spells
      rw [if_pos control]
      exact spells
    · rw [if_neg control]
      exact .plain (Nat.not_lt.mp control) unquoted unescaped rest

/-- What is escaped is spelled. -/
theorem spells_escaped (content : List Char) : Spells (content.flatMap escape) (some content) := by
  induction content with
  | nil => exact .empty
  | cons c content ih =>
      rw [List.flatMap_cons]
      exact spells_escape c ih

end Text

end TimingBoard.Json
