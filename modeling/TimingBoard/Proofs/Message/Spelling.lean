import Mathlib.Data.List.Nodup
import TimingBoard.Message.Line
import TimingBoard.Proofs.Json.RoundTrip

namespace TimingBoard

open Json

/-! The ways to spell a message.

Members may stand in any order and between members that mean nothing here.  A reader therefore meets
the entries of a record in some order, and as each of them has a place of its own in the draft, the
order does not show there. -/

namespace Json

variable {ρ ε : Type} {known : List String} {states : ε → String → Value → Prop}

/-- Members that say some entries in this order, among members of other names. -/
inductive Tells (known : List String) (states : ε → String → Value → Prop) :
    List Member → List ε → Prop where
  | nil : Tells known states [] []
  | said {entry : ε} {key : String} {value : Value} {members : List Member} {entries : List ε}
      (said : states entry key value) (rest : Tells known states members entries) :
      Tells known states ((some key, value) :: members) (entry :: entries)
  | unknown {key : String} {value : Value} {members : List Member} {entries : List ε}
      (other : key ∉ known) (rest : Tells known states members entries) :
      Tells known states ((some key, value) :: members) entries

theorem ok_of_bind_eq_ok {first rest : Except Failure Unit} (passed : (first >>= fun _ => rest) = .ok ()) :
    first = .ok () ∧ rest = .ok () := by
  cases first with
  | error failure => cases passed
  | ok => exact ⟨rfl, passed⟩

theorem Value.skip_array (elements : List Value) :
    (Value.array elements none).skip = skipElements elements := by
  rw [Value.skip]
  cases skipElements elements <;> rfl

theorem Value.skip_object (members : List Member) :
    (Value.object members none).skip = skipMembers members := by
  rw [Value.skip]
  cases skipMembers members <;> rfl

/-- Every entry is read into a place of its own. -/
structure Places (fields : List (RecordField ρ)) (states : ε → String → Value → Prop)
    (put : ρ → ε → ρ) (free : ρ → ε → Prop) (apart : ε → ε → Prop) : Prop where
  reads : ∀ {entry key value}, states entry key value → value.skip = .ok () →
    ∀ draft members, free draft entry →
      readMembers fields ((some key, value) :: members) draft =
        readMembers fields members (put draft entry)
  keeps : ∀ {draft entry other}, apart entry other → free draft other → free (put draft entry) other

/-- What the entries leave in the draft does not depend on what else there is. -/
theorem readMembers_tells {fields : List (RecordField ρ)} {put : ρ → ε → ρ} {free : ρ → ε → Prop}
    {apart : ε → ε → Prop} (places : Places fields states put free apart)
    {members : List Member} {entries : List ε} (tells : Tells (fields.map (·.name)) states members entries)
    (skipped : skipMembers members = .ok ()) (distinct : entries.Pairwise apart) (draft : ρ)
    (vacant : ∀ entry ∈ entries, free draft entry) :
    readMembers fields members draft = .ok (entries.foldl put draft) := by
  induction tells generalizing draft with
  | nil => rfl
  | @said entry _ _ _ entries said _ ih =>
      rw [skipMembers] at skipped
      obtain ⟨passed, skipped⟩ := ok_of_bind_eq_ok skipped
      obtain ⟨first, others⟩ := List.pairwise_cons.mp distinct
      obtain ⟨place, later⟩ := List.forall_mem_cons.mp vacant
      rw [places.reads said passed _ _ place, List.foldl_cons]
      exact ih skipped others _ fun other member =>
        places.keeps (first other member) (later other member)
  | @unknown key _ _ _ other _ ih =>
      rw [skipMembers] at skipped
      obtain ⟨passed, skipped⟩ := ok_of_bind_eq_ok skipped
      have unnamed : fields.find? (fun field => field.name = key) = none := by
        refine List.find?_eq_none.mpr fun field member same => other ?_
        exact List.mem_map.mpr ⟨field, member, of_decide_eq_true same⟩
      rw [readMembers, unnamed]
      dsimp only
      rw [passed]
      exact ih skipped distinct draft vacant

end Json

namespace MessageNode

/-- What a member of a node can say. -/
inductive Detail where
  | id (id : Nat)
  | name (name : String)
  | time (time : Binary64)
  | parent (parent : Nat)
  | comment (comment : String)
deriving DecidableEq

namespace Detail

def key : Detail → String
  | .id _ => "id"
  | .name _ => "name"
  | .time _ => "processing_time"
  | .parent _ => "parent_id"
  | .comment _ => "comment"

def put (draft : Draft) : Detail → Draft
  | .id value => { draft with id := some value }
  | .name value => { draft with name := some value }
  | .time value => { draft with time := some value }
  | .parent value => { draft with parent := some value }
  | .comment value => { draft with comment := some value }

/-- The place of the entry has not been taken. -/
def Free (draft : Draft) : Detail → Prop
  | .id _ => draft.id = none
  | .name _ => draft.name = none
  | .time _ => draft.time = none
  | .parent _ => draft.parent = none
  | .comment _ => draft.comment = none

/-- A number may be said by any token that stands for it. -/
inductive Says : Detail → String → Value → Prop where
  | id {id : Nat} {token : Numeral} (stands : token.natural? = some id) :
      Says (.id id) "id" (.number token)
  | name {name : String} : Says (.name name) "name" (.text (some name))
  | time {time : Binary64} {token : Numeral} (stands : token.number? = some time) :
      Says (.time time) "processing_time" (.number token)
  | parent {parent : Nat} {token : Numeral} (stands : token.natural? = some parent) :
      Says (.parent parent) "parent_id" (.number token)
  | comment {comment : String} : Says (.comment comment) "comment" (.text (some comment))

theorem Says.reads {entry : Detail} {key : String} {value : Value} (states : Says entry key value)
    (draft : Draft) (members : List Member) (free : Free draft entry) :
    readMembers fields ((some key, value) :: members) draft =
      readMembers fields members (put draft entry) := by
  cases states with
  | id stands | parent stands =>
      simp [readMembers, fields, show _ = none from free, Value.asNatural, stands, put, bind, Except.bind,
        pure, Except.pure]
  | time stands =>
      simp [readMembers, fields, show _ = none from free, Value.asNumber, stands, put, bind, Except.bind,
        pure, Except.pure]
  | name | comment =>
      simp [readMembers, fields, show _ = none from free, Value.asText, put, bind, Except.bind,
        pure, Except.pure]

theorem free_put {draft : Draft} {entry other : Detail} (apart : entry.key ≠ other.key)
    (free : Free draft other) : Free (put draft entry) other := by
  cases entry <;> cases other <;> first | exact free | exact absurd rfl apart

theorem places : Places fields Says put Free fun entry other => entry.key ≠ other.key :=
  ⟨fun states _ => states.reads, free_put⟩

theorem put_comm (draft : Draft) {entry other : Detail} (apart : entry.key ≠ other.key) :
    put (put draft entry) other = put (put draft other) entry := by
  cases entry <;> cases other <;> first | rfl | exact absurd rfl apart

end Detail

/-- The members that a node is listed with.  A parent of 0 and an empty comment may be left out. -/
inductive Lists (node : MessageNode) : List Detail → Prop where
  | intro {parent comment : List Detail}
      (parents : parent = [.parent node.parent] ∨ parent = [] ∧ node.parent = 0)
      (comments : comment = [.comment node.comment] ∨ comment = [] ∧ node.comment = "") :
      Lists node ([.id node.id, .name node.name, .time node.time] ++ parent ++ comment)

theorem Lists.finish {node : MessageNode} {entries : List Detail} (lists : node.Lists entries) :
    (entries.foldl Detail.put ({} : Draft)).finish = .ok node := by
  obtain ⟨id, name, time, parent, comment⟩ := node
  cases lists with
  | intro parents comments =>
      rcases parents with rfl | ⟨rfl, none⟩ <;> rcases comments with rfl | ⟨rfl, empty⟩ <;>
        simp_all [Detail.put, Draft.finish, required, bind, Except.bind, pure, Except.pure]

theorem Lists.keys_nodup {node : MessageNode} {entries : List Detail} (lists : node.Lists entries) :
    (entries.map Detail.key).Nodup := by
  cases lists with
  | intro parents comments =>
      rcases parents with rfl | ⟨rfl, -⟩ <;> rcases comments with rfl | ⟨rfl, -⟩ <;> simp [Detail.key]

/-- The ways to spell a node: its members in any order, among unknown ones. -/
inductive SpelledBy (node : MessageNode) : Value → Prop where
  | intro {members : List Member} {entries listed : List Detail}
      (tells : Tells (fields.map (·.name)) Detail.Says members entries)
      (order : entries.Perm listed) (lists : node.Lists listed) :
      SpelledBy node (.object members none)

/-- Entries of different keys have different places, so what they leave does not show their order. -/
theorem foldl_put_perm {entries listed : List Detail} (order : entries.Perm listed)
    (keys : (entries.map Detail.key).Nodup) (draft : Draft) :
    entries.foldl Detail.put draft = listed.foldl Detail.put draft := by
  refine order.foldl_eq' (fun entry member other among draft => ?_) draft
  by_cases same : entry.key = other.key
  · rw [List.inj_on_of_nodup_map keys member among same]
  · exact Detail.put_comm draft same

theorem SpelledBy.read {node : MessageNode} {value : Value} (spelled : node.SpelledBy value)
    (skipped : value.skip = .ok ()) (budget : Nat) : ofValue (budget + 1) value = .ok node := by
  cases spelled with
  | @intro members entries listed tells order lists =>
      rw [Value.skip_object] at skipped
      have keys : (entries.map Detail.key).Nodup := (order.map _).nodup_iff.mpr lists.keys_nodup
      have apart : entries.Pairwise fun entry other => entry.key ≠ other.key := List.pairwise_map.mp keys
      have vacant : ∀ entry ∈ entries, Detail.Free {} entry := by
        intro entry _
        cases entry <;> rfl
      have drafted : readMembers fields members ({} : Draft) = .ok (entries.foldl Detail.put {}) :=
        readMembers_tells Detail.places tells skipped apart {} vacant
      rw [ofValue, readRecord_closed, drafted, foldl_put_perm order keys]
      exact lists.finish

end MessageNode

namespace Message

/-- An array that spells the nodes one by one. -/
inductive Says (nodes : List MessageNode) : String → Value → Prop where
  | intro {elements : List Value} (spelled : List.Forall₂ MessageNode.SpelledBy nodes elements) :
      Says nodes "nodes" (.array elements none)

theorem readAll_spelled {nodes : List MessageNode} {elements : List Value}
    (spelled : List.Forall₂ MessageNode.SpelledBy nodes elements)
    (skipped : skipElements elements = .ok ()) (budget : Nat) :
    readAll (MessageNode.ofValue (budget + 1)) elements = .ok nodes := by
  induction spelled with
  | nil => rfl
  | cons first _ ih =>
      rw [skipElements] at skipped
      obtain ⟨passed, skipped⟩ := ok_of_bind_eq_ok skipped
      rw [readAll, first.read passed, ih skipped]
      rfl

theorem Says.reads {nodes : List MessageNode} {key : String} {value : Value} (states : Says nodes key value)
    (skipped : value.skip = .ok ()) (budget : Nat) (draft : Option (List MessageNode))
    (members : List Member) (free : draft = none) :
    readMembers (fields (budget + 2)) ((some key, value) :: members) draft =
      readMembers (fields (budget + 2)) members (some nodes) := by
  cases states with
  | intro spelled =>
      rw [Value.skip_array] at skipped
      have read := readAll_spelled spelled skipped budget
      simp [readMembers, fields, free, Value.asList_closed, read, bind, Except.bind, pure, Except.pure]

theorem places (budget : Nat) :
    Places (fields (budget + 2)) Says (fun _ => some) (fun draft _ => draft = none) fun _ _ => False :=
  ⟨fun states passed => states.reads passed budget, False.elim⟩

/-- The ways to spell a message as a value: its nodes, among unknown members. -/
inductive SpelledAs (message : Message) : Value → Prop where
  | intro {members : List Member} (tells : Tells ["nodes"] Says members [message.nodes]) :
      SpelledAs message (.object members none)

theorem SpelledAs.read {message : Message} {value : Value} (spelled : message.SpelledAs value)
    (skipped : value.skip = .ok ()) : ofValue nestingLimit value = .ok message := by
  cases spelled with
  | @intro members tells =>
      rw [Value.skip_object] at skipped
      have alone : [message.nodes].Pairwise fun _ _ => False := List.pairwise_singleton _ _
      have drafted := readMembers_tells (places 124) tells skipped alone none fun _ _ => rfl
      rw [nestingLimit, ofValue, readRecord_closed, drafted]
      rfl

/-- The ways to spell a message as a text. -/
def SpelledBy (message : Message) (line : String) : Prop :=
  ∃ value, PaddedSpells line.toList value ∧ message.SpelledAs value

theorem ofJson_spelled {message : Message} {line : String} (spelled : message.SpelledBy line) :
    ofJson line = .ok message := by
  obtain ⟨value, spells, spelled⟩ := spelled
  rw [ofJson, decode_spelled spells]
  exact spelled.read spells.skip

end Message

/-- All lines that spell a message give what its nodes give. -/
theorem readLine_spelled {message : Message} {line other : String} (spelled : message.SpelledBy line)
    (again : message.SpelledBy other) :
    readLine line = readLine other ∧
      (readLine line).result = message.toTree.mapError .snapshot := by
  have read {line : String} (spelled : message.SpelledBy line) :
      readLine line = ⟨message.toTree.mapError .snapshot, message.notices⟩ := by
    rw [readLine, Message.ofJson_spelled spelled]
  rw [read spelled, read again]
  exact ⟨rfl, rfl⟩

theorem spells_digit {digit : Char} (spelled : isDigit digit = true) :
    Spells [digit] (.number ⟨false, [digit], [], none⟩) := by
  have proper : Numeral.Proper ⟨false, [digit], [], none⟩ :=
    ⟨⟨List.cons_ne_nil _ _, by simp [spelled]⟩, by simp, by simp, by simp⟩
  exact .number (.intro proper .absent)

section Plan

open MessageNode (Detail)

def planTime : Binary64 := ⟨false, 0x4000000000000000⟩

def planNode : MessageNode := ⟨7, "plan", planTime, 0, ""⟩

/-- A line with nothing but what the node needs. -/
def shortPlan : String :=
  "\x7b\"nodes\":[\x7b\"id\":7,\"name\":\"plan\",\"processing_time\":2\x7d]\x7d"

/-- A line in another order, with blanks, an escaped letter, an unknown member and nothing left out. -/
def widePlan : String :=
  "\t\x7b\"x\":[null],\"n\\u006fdes\" :[\x7b\"processing_time\":2,\"comment\":\"\",\"id\":7," ++
    "\"parent_id\":0,\"name\":\"plan\"\x7d]\x7d"

theorem planTime_said : Detail.Says (.time planTime) "processing_time" (.number ⟨false, ['2'], [], none⟩) :=
  .time (by decide +kernel)

theorem spelledBy_of_padded {message : Message} {line : String} {text : List Char} {value : Value}
    (spells : PaddedSpells text value) (same : text = line.toList) (spelled : message.SpelledAs value) :
    message.SpelledBy line :=
  ⟨value, same ▸ spells, spelled⟩

theorem planNode_shortPlan : Message.SpelledBy ⟨[planNode]⟩ shortPlan := by
  have id := member_spells "id" (spells_digit (show isDigit '7' = true from rfl))
  have name := member_spells "name" (.text (Text.spells_escaped ['p', 'l', 'a', 'n']))
  have time := member_spells "processing_time" (spells_digit (show isDigit '2' = true from rfl))
  have node := Spells.object (.more id (.more name (.last time)))
  have nodes := member_spells "nodes" (.array (.last node.padded))
  have lists : planNode.Lists [.id 7, .name "plan", .time planTime] :=
    .intro (.inr ⟨rfl, rfl⟩) (.inr ⟨rfl, rfl⟩)
  refine spelledBy_of_padded (Spells.object (.last nodes)).padded (by decide +kernel)
    (.intro (.said (.intro (.cons (.intro ?_ (.refl _) lists) .nil)) .nil))
  exact .said (.id rfl) (.said .name (.said planTime_said .nil))

theorem planNode_widePlan : Message.SpelledBy ⟨[planNode]⟩ widePlan := by
  have unknown := member_spells "x" (.array (.last Spells.null.padded))
  have time := member_spells "processing_time" (spells_digit (show isDigit '2' = true from rfl))
  have comment := member_spells "comment" (.text (Text.spells_escaped []))
  have id := member_spells "id" (spells_digit (show isDigit '7' = true from rfl))
  have parent := member_spells "parent_id" (spells_digit (show isDigit '0' = true from rfl))
  have name := member_spells "name" (.text (Text.spells_escaped ['p', 'l', 'a', 'n']))
  have node := Spells.object (.more time (.more comment (.more id (.more parent (.last name)))))
  have letter : Text.Escaped 0x6f ['\\', 'u', '0', '0', '6', 'f'] := .intro rfl
  have whole : ¬ Text.Surrogate 0x6f := by rintro (high | low) <;> contradiction
  have key := Text.Spells.plain (show 0x20 ≤ 'n'.toNat by decide) (by decide) (by decide)
    (.unit letter whole (Text.spells_escaped ['d', 'e', 's']))
  have space : Blank [' '] := by simp [Blank, isBlank]
  have tab : Blank ['\t'] := by simp [Blank, isBlank]
  have nodes := MemberSpells.intro blank_nil key space (Spells.array (.last node.padded)).padded
  have lists : planNode.Lists
      ([.id 7, .name "plan", .time planTime] ++ [.parent 0] ++ [.comment ""]) :=
    .intro (.inl rfl) (.inl rfl)
  have order : [Detail.time planTime, .comment "", .id 7, .parent 0, .name "plan"].Perm
      ([.id 7, .name "plan", .time planTime] ++ [.parent 0] ++ [.comment ""]) := by decide
  refine spelledBy_of_padded (.intro tab (.object (.more unknown (.last nodes))) blank_nil)
    (by decide +kernel)
    (.intro (.unknown (by decide) (.said (.intro (.cons (.intro ?_ order lists) .nil)) .nil)))
  exact .said planTime_said (.said .comment (.said (.id rfl) (.said (.parent rfl) (.said .name .nil))))

/-- Both lines are read as the one node. -/
theorem readLine_spelled_plan :
    shortPlan ≠ widePlan ∧ readLine shortPlan = readLine widePlan ∧
      (readLine shortPlan).result = .ok ⟨"plan", "plan", planTime, none, []⟩ := by
  obtain ⟨same, result⟩ := readLine_spelled planNode_shortPlan planNode_widePlan
  refine ⟨by decide, same, result.trans ?_⟩
  rfl

end Plan

end TimingBoard
