import TimingBoard.Json.Record
import TimingBoard.Proofs.Json.Token

namespace TimingBoard.Json

/-! What a text spells, and that a reader finds it.

Blanks may stand around every token.  A reader takes a value off the front of a text and leaves what
follows it, and only a number depends on what that is. -/

def Blank (text : List Char) : Prop := ∀ c ∈ text, isBlank c = true

mutual

/-- The ways to spell a value. -/
inductive Spells : List Char → Value → Prop where
  | null : Spells ['n', 'u', 'l', 'l'] .null
  | yes : Spells ['t', 'r', 'u', 'e'] (.bool true)
  | no : Spells ['f', 'a', 'l', 's', 'e'] (.bool false)
  | number {token : List Char} {numeral : Numeral} (spells : numeral.Spells token) :
      Spells token (.number numeral)
  | text {body : List Char} {content : Option (List Char)} (spells : Text.Spells body content) :
      Spells ('"' :: (body ++ ['"'])) (.text (content.map String.ofList))
  | emptyArray {inner : List Char} (blank : Blank inner) :
      Spells ('[' :: (inner ++ [']'])) (.array [] none)
  | array {inner : List Char} {elements : List Value} (spell : ElementsSpell inner elements) :
      Spells ('[' :: (inner ++ [']'])) (.array elements none)
  | emptyObject {inner : List Char} (blank : Blank inner) :
      Spells ('\x7b' :: (inner ++ ['\x7d'])) (.object [] none)
  | object {inner : List Char} {members : List Member} (spell : MembersSpell inner members) :
      Spells ('\x7b' :: (inner ++ ['\x7d'])) (.object members none)

/-- The ways to spell a value with blanks around it. -/
inductive PaddedSpells : List Char → Value → Prop where
  | intro {before text after : List Char} {value : Value} (leads : Blank before)
      (spells : Spells text value) (trails : Blank after) :
      PaddedSpells (before ++ (text ++ after)) value

inductive ElementsSpell : List Char → List Value → Prop where
  | last {text : List Char} {element : Value} (spells : PaddedSpells text element) :
      ElementsSpell text [element]
  | more {text later : List Char} {element : Value} {others : List Value}
      (spells : PaddedSpells text element) (rest : ElementsSpell later others) :
      ElementsSpell (text ++ ',' :: later) (element :: others)

inductive MemberSpells : List Char → Member → Prop where
  | intro {before body gap text : List Char} {key : Option (List Char)} {value : Value}
      (leads : Blank before) (named : Text.Spells body key) (spaced : Blank gap)
      (spells : PaddedSpells text value) :
      MemberSpells (before ++ '"' :: (body ++ '"' :: (gap ++ ':' :: text)))
        (key.map String.ofList, value)

inductive MembersSpell : List Char → List Member → Prop where
  | last {text : List Char} {member : Member} (spells : MemberSpells text member) :
      MembersSpell text [member]
  | more {text later : List Char} {member : Member} {others : List Member}
      (spells : MemberSpells text member) (rest : MembersSpell later others) :
      MembersSpell (text ++ ',' :: later) (member :: others)

end

/-! ### Blanks -/

theorem blank_nil : Blank [] := nofun

/-- No blanks are needed. -/
theorem Spells.padded {text : List Char} {value : Value} (spells : Spells text value) :
    PaddedSpells text value := by
  simpa using PaddedSpells.intro blank_nil spells blank_nil

theorem skipBlank_append {before : List Char} (blank : Blank before) (rest : List Char) :
    skipBlank (before ++ rest) = skipBlank rest :=
  List.dropWhile_append_of_pos blank

theorem skipBlank_cons {c : Char} (shown : isBlank c = false) (rest : List Char) :
    skipBlank (c :: rest) = c :: rest := by
  simp [skipBlank, shown]

@[simp]
theorem skipBlank_skipBlank (text : List Char) : skipBlank (skipBlank text) = skipBlank text := by
  induction text with
  | nil => rfl
  | cons c text ih => cases shown : isBlank c <;> simp_all [skipBlank]

theorem Value.scan_skipBlank (fuel : Nat) (text : List Char) :
    Value.scan fuel (skipBlank text) = Value.scan fuel text := by
  cases fuel with
  | zero => rfl
  | succ fuel => rw [Value.scan, Value.scan, skipBlank_skipBlank]

theorem scanElements_skipBlank (fuel : Nat) (text : List Char) :
    scanElements fuel (skipBlank text) = scanElements fuel text := by
  cases fuel with
  | zero => rfl
  | succ fuel => rw [scanElements, scanElements, Value.scan_skipBlank]

theorem scanMembers_skipBlank (fuel : Nat) (text : List Char) :
    scanMembers fuel (skipBlank text) = scanMembers fuel text := by
  cases fuel with
  | zero => rfl
  | succ fuel => rw [scanMembers, scanMembers, skipBlank_skipBlank]

/-! ### How values begin and end -/

theorem endsNumber_nil : EndsNumber [] := ⟨nofun, nofun⟩

theorem endsNumber_cons {c : Char} (separates : c ∈ [',', ']', '\x7d']) (rest : List Char) :
    EndsNumber (c :: rest) := by
  simp only [List.mem_cons, List.not_mem_nil, or_false] at separates
  rcases separates with rfl | rfl | rfl <;> exact ⟨by rintro _ ⟨⟩; decide, by simp⟩

theorem digit_ne {c other : Char} (digit : isDigit c = true) (different : isDigit other = false) :
    c ≠ other := by
  rintro rfl
  exact Bool.noConfusion (digit.symm.trans different)

theorem isBlank_of_isDigit {c : Char} (digit : isDigit c = true) : isBlank c = false := by
  simp (disch := decide) [isBlank, digit_ne digit]

theorem endsNumber_append {after rest : List Char} (blank : Blank after) (ends : EndsNumber rest) :
    EndsNumber (after ++ rest) := by
  cases after with
  | nil => exact ends
  | cons c after =>
      have space : isBlank c = true := blank c List.mem_cons_self
      constructor
      · rintro _ ⟨⟩
        refine Bool.eq_false_iff.mpr fun digit => ?_
        exact Bool.noConfusion (space.symm.trans (isBlank_of_isDigit digit))
      · rintro other member ⟨⟩
        simp only [List.mem_cons, List.not_mem_nil, or_false] at member
        rcases member with rfl | rfl | rfl <;> exact absurd space (by decide)

/-- A value is met at its first character. -/
theorem Spells.starts {text : List Char} {value : Value} (spells : Spells text value) :
    ∃ first tail, text = first :: tail ∧ isBlank first = false ∧ first ≠ ']' := by
  cases spells with
  | null | yes | no | text | emptyArray | array | emptyObject | object =>
      exact ⟨_, _, rfl, by decide, by decide⟩
  | @number _ numeral spells =>
      cases spells with
      | intro proper =>
          have starts := proper.whole
          obtain ⟨negative, whole, fraction, exponent⟩ := numeral
          cases negative with
          | true => exact ⟨'-', _, rfl, by decide, by decide⟩
          | false =>
              cases whole with
              | nil => exact absurd rfl starts.1
              | cons first whole =>
                  have digit : isDigit first = true := starts.2 first List.mem_cons_self
                  exact ⟨first, _, rfl, isBlank_of_isDigit digit, digit_ne digit (by decide)⟩

theorem PaddedSpells.starts {text : List Char} {value : Value} (spells : PaddedSpells text value) :
    ∃ first tail, (∀ rest, skipBlank (text ++ rest) = first :: (tail ++ rest)) ∧ first ≠ ']' := by
  cases spells with
  | @intro before inner after _ leads spells trails =>
      obtain ⟨first, tail, rfl, shown, going⟩ := spells.starts
      refine ⟨first, tail ++ after, fun rest => ?_, going⟩
      rw [List.append_assoc, skipBlank_append leads]
      simp [skipBlank_cons shown]

theorem ElementsSpell.starts {text : List Char} {elements : List Value}
    (spell : ElementsSpell text elements) :
    ∃ first tail, (∀ rest, skipBlank (text ++ rest) = first :: (tail ++ rest)) ∧ first ≠ ']' := by
  cases spell with
  | last spells => exact spells.starts
  | @more _ later _ _ spells =>
      obtain ⟨first, tail, starts, going⟩ := spells.starts
      exact ⟨first, tail ++ ',' :: later, fun rest => by simp [starts], going⟩

theorem member_starts {before : List Char} (leads : Blank before) (body gap text rest : List Char) :
    skipBlank (before ++ '"' :: (body ++ '"' :: (gap ++ ':' :: text)) ++ rest) =
      '"' :: (body ++ '"' :: (gap ++ ':' :: (text ++ rest))) := by
  have quoted (text : List Char) : skipBlank ('"' :: text) = '"' :: text := rfl
  rw [List.append_assoc, skipBlank_append leads, List.cons_append, quoted]
  simp

theorem MemberSpells.starts {text : List Char} {member : Member} (spells : MemberSpells text member) :
    ∃ tail, ∀ rest, skipBlank (text ++ rest) = '"' :: (tail ++ rest) := by
  cases spells with
  | @intro before body gap inner _ _ leads named spaced spells =>
      refine ⟨body ++ '"' :: (gap ++ ':' :: inner), fun rest => ?_⟩
      rw [member_starts leads]
      simp

theorem MembersSpell.starts {text : List Char} {members : List Member}
    (spell : MembersSpell text members) :
    ∃ tail, ∀ rest, skipBlank (text ++ rest) = '"' :: (tail ++ rest) := by
  cases spell with
  | last spells => exact spells.starts
  | @more _ later _ _ spells =>
      obtain ⟨tail, starts⟩ := spells.starts
      exact ⟨tail ++ ',' :: later, fun rest => by simp [starts]⟩

/-! ### Reading -/

/-- A number is met at its first character. -/
theorem Value.scan_digit {first : Char} (digit : isDigit first = true) (fuel : Nat)
    (text : List Char) :
    Value.scan (fuel + 1) (first :: text) = Value.scanNumber false (first :: text) := by
  rw [Value.scan, skipBlank_cons (isBlank_of_isDigit digit)]
  split
  case h_1 same => cases same
  case h_9 c rest same =>
      obtain ⟨rfl, rfl⟩ := List.cons.inj same
      exact if_pos digit
  all_goals exact absurd (List.cons.inj ‹_›).1 (digit_ne digit (by decide))

theorem Value.scan_number {token : List Char} {numeral : Numeral} (spells : numeral.Spells token)
    (fuel : Nat) {rest : List Char} (ends : EndsNumber rest) :
    Value.scan (fuel + 1) (token ++ rest) = (.number numeral, rest) := by
  cases spells with
  | intro proper spells =>
      have read := Numeral.scan_append proper spells ends
      have spelled := proper.whole
      obtain ⟨negative, whole, fraction, exponent⟩ := numeral
      rw [List.append_assoc, List.append_assoc, List.append_assoc]
      cases negative with
      | true =>
          have dash (text : List Char) :
              Value.scan (fuel + 1) ('-' :: text) = Value.scanNumber true text := rfl
          rw [if_pos rfl, List.singleton_append, dash, Value.scanNumber, read]
          rfl
      | false =>
          cases whole with
          | nil => exact absurd rfl spelled.1
          | cons first whole =>
              have digit : isDigit first = true := spelled.2 first List.mem_cons_self
              rw [if_neg Bool.false_ne_true, List.nil_append, List.cons_append,
                Value.scan_digit digit, Value.scanNumber, ← List.cons_append, read]
              rfl

section Step

variable {fuel : Nat} {text after rest tail : List Char} {value : Value} {ending : Ending}

theorem Value.scan_emptyArray (closes : skipBlank text = ']' :: rest) :
    Value.scan (fuel + 1) ('[' :: text) = (.array [] none, rest) := by
  have opened : skipBlank ('[' :: text) = '[' :: text := rfl
  rw [Value.scan, opened]
  simp only [closes]

theorem Value.scan_emptyObject (closes : skipBlank text = '\x7d' :: rest) :
    Value.scan (fuel + 1) ('\x7b' :: text) = (.object [] none, rest) := by
  have opened : skipBlank ('\x7b' :: text) = '\x7b' :: text := rfl
  rw [Value.scan, opened]
  simp only [closes]

theorem Value.scan_array {first : Char} (starts : skipBlank text = first :: tail)
    (going : first ≠ ']') {elements : List Value}
    (read : scanElements fuel text = (elements, ending, rest)) :
    Value.scan (fuel + 1) ('[' :: text) = (.array elements ending, rest) := by
  have opened : skipBlank ('[' :: text) = '[' :: text := rfl
  rw [← scanElements_skipBlank, starts] at read
  rw [Value.scan, opened]
  simp [starts, going, read]

theorem Value.scan_object (starts : skipBlank text = '"' :: tail) {members : List Member}
    (read : scanMembers fuel text = (members, ending, rest)) :
    Value.scan (fuel + 1) ('\x7b' :: text) = (.object members ending, rest) := by
  have opened : skipBlank ('\x7b' :: text) = '\x7b' :: text := rfl
  rw [← scanMembers_skipBlank, starts] at read
  rw [Value.scan, opened]
  simp [starts, read]

theorem scanElements_last (blank : Blank after)
    (read : Value.scan fuel text = (value, after ++ ']' :: rest)) :
    scanElements (fuel + 1) text = ([value], none, rest) := by
  have bracket : skipBlank (after ++ ']' :: rest) = ']' :: rest := skipBlank_append blank _
  rw [scanElements, read]
  simp only [bracket]

theorem scanElements_more (blank : Blank after)
    (read : Value.scan fuel text = (value, after ++ ',' :: tail)) {others : List Value}
    (later : scanElements fuel tail = (others, ending, rest)) :
    scanElements (fuel + 1) text = (value :: others, ending, rest) := by
  have comma : skipBlank (after ++ ',' :: tail) = ',' :: tail := skipBlank_append blank _
  rw [scanElements, read]
  simp only [comma, later]

section Member

variable {body gap : List Char} {key : Option (List Char)}
  (starts : skipBlank text = '"' :: (body ++ '"' :: (gap ++ ':' :: tail)))
  (named : Text.Spells body key) (spaced : Blank gap) (blank : Blank after)
include starts named spaced blank

theorem scanMembers_last (read : Value.scan fuel tail = (value, after ++ '\x7d' :: rest)) :
    scanMembers (fuel + 1) text = ([(key.map String.ofList, value)], none, rest) := by
  have colon : skipBlank (gap ++ ':' :: tail) = ':' :: tail := skipBlank_append spaced _
  have brace : skipBlank (after ++ '\x7d' :: rest) = '\x7d' :: rest := skipBlank_append blank _
  rw [scanMembers, starts]
  simp only [Text.scan_body named, colon, read, brace]

theorem scanMembers_more {later : List Char} {others : List Member}
    (read : Value.scan fuel tail = (value, after ++ ',' :: later))
    (goesOn : scanMembers fuel later = (others, ending, rest)) :
    scanMembers (fuel + 1) text = ((key.map String.ofList, value) :: others, ending, rest) := by
  have colon : skipBlank (gap ++ ':' :: tail) = ':' :: tail := skipBlank_append spaced _
  have comma : skipBlank (after ++ ',' :: later) = ',' :: later := skipBlank_append blank _
  rw [scanMembers, starts]
  simp only [Text.scan_body named, colon, read, comma, goesOn]

end Member

end Step

theorem enclosed_append (opening closing : Char) (inner rest : List Char) :
    opening :: (inner ++ [closing]) ++ rest = opening :: (inner ++ closing :: rest) := by simp

theorem length_enclosed (opening closing : Char) (inner : List Char) :
    (opening :: (inner ++ [closing])).length = inner.length + 2 := by simp

-- By recursion on the derivation.  Two calls for each container are paid for by its brackets, and each
-- further element or member by its comma.
mutual

theorem Spells.scan : {text : List Char} → {value : Value} → Spells text value →
    ∀ (fuel : Nat) (rest : List Char), 2 * text.length ≤ fuel → EndsNumber rest →
      Value.scan fuel (text ++ rest) = (value, rest)
  | text, _, spells, 0, _, enough, _ => by
      obtain ⟨first, tail, rfl, -⟩ := spells.starts
      simp at enough
  | _, _, .null, fuel + 1, _, _, _ => rfl
  | _, _, .yes, fuel + 1, _, _, _ => rfl
  | _, _, .no, fuel + 1, _, _, _ => rfl
  | _, _, .number spells, fuel + 1, _, _, ends => Value.scan_number spells fuel ends
  | _, _, .text spells, fuel + 1, rest, _, _ => by
      have opened (text : List Char) : Value.scan (fuel + 1) ('"' :: text) = Value.scanText text := rfl
      rw [enclosed_append, opened, Value.scanText, Text.scan_body spells]
  | _, _, .emptyArray blank, fuel + 1, rest, _, _ => by
      rw [enclosed_append]
      exact Value.scan_emptyArray (skipBlank_append blank _)
  | _, _, .array spell, fuel + 1, rest, enough, _ => by
      rw [length_enclosed] at enough
      obtain ⟨first, tail, starts, going⟩ := spell.starts
      rw [enclosed_append]
      exact Value.scan_array (starts _) going (spell.scan fuel rest (by omega))
  | _, _, .emptyObject blank, fuel + 1, rest, _, _ => by
      rw [enclosed_append]
      exact Value.scan_emptyObject (skipBlank_append blank _)
  | _, _, .object spell, fuel + 1, rest, enough, _ => by
      rw [length_enclosed] at enough
      obtain ⟨tail, starts⟩ := spell.starts
      rw [enclosed_append]
      exact Value.scan_object (starts _) (spell.scan fuel rest (by omega))

theorem PaddedSpells.scan : {text : List Char} → {value : Value} → PaddedSpells text value →
    ∀ (fuel : Nat) (rest : List Char), 2 * text.length ≤ fuel → EndsNumber rest →
      ∃ after, Blank after ∧ Value.scan fuel (text ++ rest) = (value, after ++ rest)
  | _, _, @PaddedSpells.intro _ _ after _ leads spells trails, fuel, rest, enough, ends => by
      rw [List.length_append, List.length_append] at enough
      have read := spells.scan fuel (after ++ rest) (by omega) (endsNumber_append trails ends)
      refine ⟨after, trails, ?_⟩
      rw [List.append_assoc, List.append_assoc, ← Value.scan_skipBlank, skipBlank_append leads,
        Value.scan_skipBlank, read]

theorem ElementsSpell.scan : {text : List Char} → {elements : List Value} →
    ElementsSpell text elements → ∀ (fuel : Nat) (rest : List Char), 2 * text.length + 1 ≤ fuel →
      scanElements fuel (text ++ ']' :: rest) = (elements, none, rest)
  | _, _, _, 0, _, enough => absurd enough (Nat.not_succ_le_zero _)
  | _, _, .last spells, fuel + 1, rest, enough => by
      obtain ⟨after, blank, read⟩ := spells.scan fuel (']' :: rest) (by omega)
        (endsNumber_cons (by decide) rest)
      exact scanElements_last blank read
  | _, _, .more spells others, fuel + 1, rest, enough => by
      rw [List.length_append, List.length_cons] at enough
      rw [List.append_assoc]
      obtain ⟨after, blank, read⟩ := spells.scan fuel (',' :: _) (by omega)
        (endsNumber_cons (by decide) _)
      exact scanElements_more blank read (others.scan fuel rest (by omega))

theorem MembersSpell.scan : {text : List Char} → {members : List Member} →
    MembersSpell text members → ∀ (fuel : Nat) (rest : List Char), 2 * text.length + 1 ≤ fuel →
      scanMembers fuel (text ++ '\x7d' :: rest) = (members, none, rest)
  | _, _, _, 0, _, enough => absurd enough (Nat.not_succ_le_zero _)
  | _, _, .last (.intro leads named spaced spells), fuel + 1, rest, enough => by
      simp only [List.length_append, List.length_cons] at enough
      obtain ⟨after, blank, read⟩ := spells.scan fuel ('\x7d' :: rest) (by omega)
        (endsNumber_cons (by decide) rest)
      exact scanMembers_last (member_starts leads ..) named spaced blank read
  | _, _, .more (.intro leads named spaced spells) others, fuel + 1, rest, enough => by
      simp only [List.length_append, List.length_cons] at enough
      obtain ⟨after, blank, read⟩ := spells.scan fuel (',' :: _) (by omega)
        (endsNumber_cons (by decide) _)
      rw [List.append_assoc]
      exact scanMembers_more (member_starts leads ..) named spaced blank read
        (others.scan fuel rest (by omega))

end

/-- Reading a text is reading the value that it spells. -/
theorem decode_spelled {text : String} {value : Value} (spells : PaddedSpells text.toList value)
    (read : Value → Except Failure α) : decode read text = read value := by
  obtain ⟨after, blank, scanned⟩ := spells.scan (2 * text.toList.length + 2) [] (by omega)
    endsNumber_nil
  rw [List.append_nil, List.append_nil] at scanned
  have ended : skipBlank after = [] := by
    rw [← List.append_nil after]
    exact skipBlank_append blank []
  rw [decode, Value.ofText, scanned]
  cases result : read value <;> simp [result, ended, bind, Except.bind, pure, Except.pure]

/-! ### Skipping -/

mutual

theorem Spells.skip : {text : List Char} → {value : Value} → Spells text value → value.skip = .ok ()
  | _, _, .null | _, _, .yes | _, _, .no | _, _, .number _ | _, _, .text _ => by rw [Value.skip]
  | _, _, .emptyArray _ | _, _, .emptyObject _ => by
      rw [Value.skip]
      rfl
  | _, _, .array spell => by
      rw [Value.skip, spell.skip]
      rfl
  | _, _, .object spell => by
      rw [Value.skip, spell.skip]
      rfl

theorem PaddedSpells.skip : {text : List Char} → {value : Value} → PaddedSpells text value →
    value.skip = .ok ()
  | _, _, .intro _ spells _ => spells.skip

theorem ElementsSpell.skip : {text : List Char} → {elements : List Value} →
    ElementsSpell text elements → skipElements elements = .ok ()
  | _, _, .last spells => by
      rw [skipElements, spells.skip]
      rfl
  | _, _, .more spells others => by
      rw [skipElements, spells.skip]
      exact others.skip

theorem MemberSpells.skip : {text : List Char} → {member : Member} → MemberSpells text member →
    member.2.skip = .ok ()
  | _, _, .intro _ _ _ spells => spells.skip

theorem MembersSpell.skip : {text : List Char} → {members : List Member} →
    MembersSpell text members → skipMembers members = .ok ()
  | _, _, .last spells => by
      rw [skipMembers, spells.skip]
      rfl
  | _, _, .more spells others => by
      rw [skipMembers, spells.skip]
      exact others.skip

end

end TimingBoard.Json
