import TimingBoard.Proofs.Json.Grammar

namespace TimingBoard.Json

/-! A value is read back from its own text.

This holds for values that have a text: no container breaks off, no text or key is absent, and
numbers are spelled as the grammar has them. -/

mutual

def Value.Spelled : Value → Prop
  | .null | .bool _ => True
  | .number numeral => numeral.Proper
  | .text content => content.isSome = true
  | .array elements ending => ending = none ∧ ElementsSpelled elements
  | .object members ending => ending = none ∧ MembersSpelled members
  | .broken _ => False

def ElementsSpelled : List Value → Prop
  | [] => True
  | element :: rest => element.Spelled ∧ ElementsSpelled rest

def MembersSpelled : List Member → Prop
  | [] => True
  | (key, value) :: rest => key.isSome = true ∧ value.Spelled ∧ MembersSpelled rest

end


theorem member_spells (key : String) {text : List Char} {value : Value} (spells : Spells text value) :
    MemberSpells (Text.quote key ++ ':' :: text) (some key, value) := by
  have named := Text.spells_escaped key.toList
  simpa [Text.quote] using MemberSpells.intro blank_nil named blank_nil spells.padded

mutual

theorem Value.spells_render : (value : Value) → value.Spelled → Spells value.render value
  | .null, _ => .null
  | .bool true, _ => .yes
  | .bool false, _ => .no
  | .number numeral, proper => by
      rw [Value.Spelled] at proper
      exact .number (Numeral.spells_render proper)
  | .text none, spelled => by
      rw [Value.Spelled] at spelled
      cases spelled
  | .text (some content), _ => by
      simpa [Value.render, Text.quote] using Spells.text (Text.spells_escaped content.toList)
  | .array [] ending, spelled => by
      rw [Value.Spelled] at spelled
      obtain ⟨rfl, -⟩ := spelled
      exact .emptyArray blank_nil
  | .array (element :: others) ending, spelled => by
      rw [Value.Spelled] at spelled
      obtain ⟨rfl, all⟩ := spelled
      exact .array (elementsSpell_render (element :: others) nofun all)
  | .object [] ending, spelled => by
      rw [Value.Spelled] at spelled
      obtain ⟨rfl, -⟩ := spelled
      exact .emptyObject blank_nil
  | .object (member :: others) ending, spelled => by
      rw [Value.Spelled] at spelled
      obtain ⟨rfl, all⟩ := spelled
      exact .object (membersSpell_render (member :: others) nofun all)
  | .broken _, spelled => by
      rw [Value.Spelled] at spelled
      exact spelled.elim

theorem elementsSpell_render : (elements : List Value) → elements ≠ [] → ElementsSpelled elements →
    ElementsSpell (commaSeparated (renderElements elements)) elements
  | [], nonempty, _ => absurd rfl nonempty
  | [element], _, all => by
      rw [ElementsSpelled] at all
      exact .last (element.spells_render all.1).padded
  | element :: next :: others, _, all => by
      rw [ElementsSpelled] at all
      exact .more (element.spells_render all.1).padded
        (elementsSpell_render (next :: others) nofun all.2)

theorem membersSpell_render : (members : List Member) → members ≠ [] → MembersSpelled members →
    MembersSpell (commaSeparated (renderMembers members)) members
  | [], nonempty, _ => absurd rfl nonempty
  | (none, _) :: _, _, all => by
      rw [MembersSpelled] at all
      cases all.1
  | [(some key, value)], _, all => by
      rw [MembersSpelled] at all
      exact .last (member_spells key (value.spells_render all.2.1))
  | (some key, value) :: next :: others, _, all => by
      rw [MembersSpelled] at all
      exact .more (member_spells key (value.spells_render all.2.1))
        (membersSpell_render (next :: others) nofun all.2.2)

end

/-- Reading the text of a value is reading the value. -/
theorem decode_toText {value : Value} (spelled : value.Spelled) (read : Value → Except Failure α) :
    decode read value.toText = read value := by
  have spells := (value.spells_render spelled).padded
  refine decode_spelled ?_ read
  rwa [Value.toText, String.toList_ofList]

/-- The result, or a text that cannot be read. -/
def orMalformed : Option α → Except Failure α
  | some value => .ok value
  | none => .error .malformed

theorem orMalformed_bind (value : Option α) (next : α → Option β) :
    orMalformed (value >>= next) = orMalformed value >>= fun value => orMalformed (next value) := by
  cases value <;> rfl

theorem orMalformed_eq_ok {value : Option α} {result : α} :
    orMalformed value = .ok result ↔ value = some result := by
  cases value <;> simp [orMalformed]

theorem Value.asNumber_number (numeral : Numeral) :
    Value.asNumber (.number numeral) = orMalformed numeral.number? := by
  cases read : numeral.number? <;> simp [Value.asNumber, read, orMalformed]

theorem Value.asList_closed (read : Value → Except Failure α) (budget : Nat) (elements : List Value) :
    Value.asList read (budget + 1) (.array elements none) = readAll read elements := by
  cases results : readAll read elements <;>
    simp [Value.asList, results, Ending.read, bind, Except.bind, pure, Except.pure]

theorem readRecord_closed {ρ : Type} (fields : List (RecordField ρ)) (draft : ρ) (budget : Nat)
    (members : List Member) :
    readRecord fields draft (budget + 1) (.object members none) = readMembers fields members draft := by
  cases read : readMembers fields members draft <;>
    simp [readRecord, read, Ending.read, bind, Except.bind, pure, Except.pure]

end TimingBoard.Json
