import Mathlib.Algebra.Order.Floor.Div
import TimingBoard.Session.Discovery
import TimingBoard.Proofs.Session.Runs

namespace TimingBoard

/-! The course of a search for topics.

A search takes turns.  A turn reads the flag, looks for topics and reads the clock, and as long as no
turn settles the search it sleeps and takes another.  The first turn that settles it is the last, and
the way that turn ends is how the search ends.  No nap goes past the deadline, so once naps last as
long as asked every turn but the last two moves the clock on by a whole interval. -/

namespace Discovery

variable {rounds wait deadline earliest : Nat} {kind : String} {requested : Option String}
  {trace : List Exchange} {outcome : Outcome (List String)}

/-- What was found holds nothing that was looked for. -/
def Unmet (found : List String) : Option String → Prop
  | some topic => topic ∉ found
  | none => found = []

theorem accept?_eq_none_iff {found : List String} :
    accept? requested found = none ↔ Unmet found requested := by
  cases requested with
  | some topic => simp [accept?, Unmet]
  | none => simp [accept?, Unmet]

/-- What a turn that leaves the search open found, and when. -/
structure Turn where
  found : List String
  clock : Nat

namespace Turn

def nap (deadline : Nat) (turn : Turn) : Nat := min interval (deadline - turn.clock)

def exchanges (deadline : Nat) (turn : Turn) : List Exchange :=
  [⟨.interruptFlag, false⟩, ⟨.discover, .ok turn.found⟩, ⟨.now, turn.clock⟩,
    ⟨.sleep (turn.nap deadline), ()⟩]

structure Passes (requested : Option String) (deadline : Nat) (turn : Turn) : Prop where
  unmet : Unmet turn.found requested
  early : turn.clock < deadline

theorem Passes.nap_pos {turn : Turn} (passes : turn.Passes requested deadline) :
    0 < turn.nap deadline :=
  lt_min (by decide) (Nat.sub_pos_of_lt passes.early)

theorem nap_le (turn : Turn) : turn.nap deadline ≤ interval := min_le_left ..

theorem Passes.clock_add_nap_le {turn : Turn} (passes : turn.Passes requested deadline) :
    turn.clock + turn.nap deadline ≤ deadline := by
  have early := passes.early
  have within : turn.nap deadline ≤ deadline - turn.clock := min_le_right ..
  omega

end Turn

/-- A last turn that met the deadline. -/
def overdue (wait : Nat) (found : List String) (clock : Nat) : List Exchange :=
  [⟨.interruptFlag, false⟩, ⟨.discover, .ok found⟩, ⟨.now, clock⟩,
    ⟨.log ⟨.discovery, .info, "Topic discovery timed out after " ++ Duration.text wait⟩, ()⟩]

/-- The ways in which a turn settles a search. -/
inductive Ends (kind : String) (requested : Option String) (wait deadline : Nat) :
    List Exchange → Outcome (List String) → Prop where
  | interrupted : Ends kind requested wait deadline
      [⟨.interruptFlag, true⟩, ⟨.log ⟨.discovery, .info, "Topic discovery interrupted"⟩, ()⟩]
      (.failed .interrupted)
  | undiscovered (error : Error) : Ends kind requested wait deadline
      [⟨.interruptFlag, false⟩, ⟨.discover, .error error⟩] (.failed error)
  | seen (topic : String) (wanted : requested = some topic) (found : List String)
      (listed : topic ∈ found) : Ends kind requested wait deadline
      [⟨.interruptFlag, false⟩, ⟨.discover, .ok found⟩] (.ok [topic])
  | anything (unnamed : requested = none) (found : List String) (some : found ≠ []) :
      Ends kind requested wait deadline
      [⟨.interruptFlag, false⟩, ⟨.discover, .ok found⟩] (.ok found)
  | unseen (topic : String) (wanted : requested = some topic) (found : List String)
      (unlisted : topic ∉ found) (clock : Nat) (late : deadline ≤ clock) :
      Ends kind requested wait deadline (overdue wait found clock) (.failed (.topicNotFound topic))
  | nothing (unnamed : requested = none) (clock : Nat) (late : deadline ≤ clock) :
      Ends kind requested wait deadline (overdue wait [] clock) (.failed (.noTopics kind))

theorem ends_accepted {found topics : List String} (accepted : accept? requested found = some topics) :
    Ends kind requested wait deadline [⟨.interruptFlag, false⟩, ⟨.discover, .ok found⟩]
      (.ok topics) := by
  cases requested with
  | some topic =>
      obtain ⟨listed, rfl⟩ : topic ∈ found ∧ [topic] = topics := by simpa [accept?] using accepted
      exact .seen topic rfl found listed
  | none =>
      obtain ⟨some, rfl⟩ : found ≠ [] ∧ found = topics := by simpa [accept?] using accepted
      exact .anything rfl found some

theorem ends_overdue {found : List String} (unmet : Unmet found requested) {clock : Nat}
    (late : deadline ≤ clock) :
    Ends kind requested wait deadline (overdue wait found clock)
      (.failed (missing kind requested)) := by
  cases requested with
  | some topic => exact .unseen topic rfl found unmet clock late
  | none =>
      obtain rfl : found = [] := unmet
      exact .nothing rfl clock late

/-- No turn settles the search before the last one, which does unless the rounds are used up. -/
structure Course (kind : String) (requested : Option String) (wait deadline rounds : Nat)
    (passed : List Turn) (ending : List Exchange) (outcome : Outcome (List String)) : Prop where
  passes : ∀ turn ∈ passed, turn.Passes requested deadline
  ends : passed.length < rounds ∧ Ends kind requested wait deadline ending outcome ∨
    passed.length = rounds ∧ ending = [] ∧ outcome = .unfinished

theorem runs_search_succ
    (runs : Runs (search kind requested wait deadline (rounds + 1)) trace outcome) :
    Ends kind requested wait deadline trace outcome ∨
      ∃ turn : Turn, turn.Passes requested deadline ∧
        ∃ rest, trace = turn.exchanges deadline ++ rest ∧
          Runs (search kind requested wait deadline rounds) rest outcome := by
  rw [search] at runs
  obtain ⟨raised, trace, rfl, asked⟩ := runs_request_bind.mp runs
  cases raised with
  | true =>
      rw [if_pos rfl] at asked
      obtain ⟨trace, rfl, logged⟩ := runs_log_bind.mp asked
      obtain ⟨rfl, rfl⟩ := runs_done.mp logged
      exact .inl .interrupted
  | false =>
      rw [if_neg Bool.false_ne_true] at asked
      obtain ⟨answer, trace, rfl, looked⟩ := runs_request_bind.mp asked
      cases answer with
      | error error =>
          obtain ⟨rfl, rfl⟩ := runs_done.mp looked
          exact .inl (.undiscovered error)
      | ok found =>
          obtain ⟨_, trace, _, rfl, read, judged⟩ := runs_bind.mp looked
          obtain ⟨rfl, rfl⟩ := runs_pure.mp read
          simp only [Outcome.andThen] at judged
          cases accepted : accept? requested found with
          | some topics =>
              rw [accepted] at judged
              obtain ⟨rfl, rfl⟩ := runs_pure.mp judged
              exact .inl (ends_accepted accepted)
          | none =>
              rw [accepted] at judged
              have unmet := accept?_eq_none_iff.mp accepted
              obtain ⟨clock, trace, rfl, timed⟩ := runs_request_bind.mp judged
              -- Only a turn that met the deadline may report that nothing was found.
              by_cases late : deadline ≤ clock
              · rw [if_pos late] at timed
                obtain ⟨trace, rfl, logged⟩ := runs_log_bind.mp timed
                obtain ⟨rfl, rfl⟩ := runs_done.mp logged
                exact .inl (ends_overdue unmet late)
              · rw [if_neg late] at timed
                obtain ⟨-, trace, rfl, slept⟩ := runs_request_bind.mp timed
                exact .inr ⟨⟨found, clock⟩, ⟨unmet, Nat.lt_of_not_le late⟩, trace, rfl, slept⟩

theorem exists_course (runs : Runs (search kind requested wait deadline rounds) trace outcome) :
    ∃ passed ending, trace = passed.flatMap (Turn.exchanges deadline) ++ ending ∧
      Course kind requested wait deadline rounds passed ending outcome := by
  induction rounds generalizing trace with
  | zero =>
      obtain ⟨rfl, rfl⟩ := runs_done.mp runs
      exact ⟨[], [], rfl, by simp, .inr ⟨rfl, rfl, rfl⟩⟩
  | succ rounds ih =>
      obtain ends | ⟨turn, passes, rest, rfl, later⟩ := runs_search_succ runs
      · exact ⟨[], trace, rfl, by simp, .inl ⟨Nat.succ_pos rounds, ends⟩⟩
      · obtain ⟨passed, ending, rfl, others, ends⟩ := ih later
        refine ⟨turn :: passed, ending, by simp, List.forall_mem_cons.mpr ⟨passes, others⟩, ?_⟩
        simpa using ends

/-- What a search settles on was accepted from topics that it found. -/
theorem runs_waitForTopics_found {topics : List String}
    (runs : Runs (waitForTopics rounds kind requested wait) trace (.ok topics)) :
    ∃ found, ⟨.discover, .ok found⟩ ∈ trace ∧ accept? requested found = some topics := by
  obtain ⟨start, trace, rfl, searching⟩ := runs_request_bind.mp runs
  obtain ⟨passed, ending, rfl, course⟩ := exists_course searching
  obtain ⟨-, ends⟩ | ⟨-, -, unfinished⟩ := course.ends
  · cases ends with
    | seen topic wanted found listed =>
        exact ⟨found, by simp, by simp [accept?, wanted, listed]⟩
    | anything unnamed found some => exact ⟨topics, by simp, by simp [accept?, unnamed, some]⟩
  · cases unfinished

/-! ### The number of turns -/

def searches (trace : List Exchange) : Nat :=
  trace.countP fun exchange => exchange.request matches .discover

/-- The clock never falls, it reads `earliest` at least, and a nap lasts as long as asked. -/
def Elapses (earliest : Nat) : List Exchange → Prop
  | [] => True
  | ⟨.now, clock⟩ :: rest => earliest ≤ clock ∧ Elapses clock rest
  | ⟨.sleep nap, _⟩ :: rest => Elapses (earliest + nap) rest
  | _ :: rest => Elapses earliest rest

@[simp]
theorem searches_append (before after : List Exchange) :
    searches (before ++ after) = searches before + searches after :=
  List.countP_append

theorem searches_flatMap_exchanges (passed : List Turn) :
    searches (passed.flatMap (Turn.exchanges deadline)) = passed.length := by
  rw [searches, List.countP_flatMap]
  simp [Function.comp_def, Turn.exchanges]

/-- A turn that ends a search looks for topics unless the flag was up. -/
theorem Ends.searches (ends : Ends kind requested wait deadline trace outcome) :
    Discovery.searches trace = 1 ∨
      Discovery.searches trace = 0 ∧ ∃ rest, trace = ⟨.interruptFlag, true⟩ :: rest := by
  cases ends with
  | interrupted => exact .inr ⟨rfl, _, rfl⟩
  | undiscovered | seen | anything | unseen | nothing => exact .inl rfl

/-- Every turn that passes but the last one moves the clock on by a whole interval. -/
theorem length_mul_interval_lt {passed : List Turn} {ending : List Exchange}
    (passes : ∀ turn ∈ passed, turn.Passes requested deadline)
    (elapses : Elapses earliest (passed.flatMap (Turn.exchanges deadline) ++ ending)) :
    passed.length * interval < deadline - earliest + interval := by
  induction passed generalizing earliest with
  | nil => simp [interval, Duration.millisecond]
  | cons turn passed ih =>
      obtain ⟨first, others⟩ := List.forall_mem_cons.mp passes
      obtain ⟨reached, later⟩ : earliest ≤ turn.clock ∧ Elapses (turn.clock + turn.nap deadline)
          (passed.flatMap (Turn.exchanges deadline) ++ ending) := elapses
      have early := first.early
      have rest := ih others later
      rw [List.length_cons, Nat.succ_mul]
      rcases Nat.le_total interval (deadline - turn.clock) with whole | short
      · rw [Turn.nap, min_eq_left whole] at rest
        omega
      · -- The nap ends at the deadline, so no turn that passes comes after it.
        rw [Turn.nap, min_eq_right short] at rest
        have last : passed.length < 1 :=
          Nat.lt_of_mul_lt_mul_right (a := interval) (by omega)
        obtain rfl := List.eq_nil_of_length_eq_zero (Nat.lt_one_iff.mp last)
        have remaining : 0 < deadline - earliest := by omega
        simpa using remaining

theorem length_passed_le {start : Nat} {passed : List Turn} {ending : List Exchange}
    (passes : ∀ turn ∈ passed, turn.Passes requested (start + wait))
    (elapses : Elapses start (passed.flatMap (Turn.exchanges (start + wait)) ++ ending)) :
    passed.length ≤ wait ⌈/⌉ interval := by
  have within := length_mul_interval_lt passes elapses
  rw [Nat.add_sub_cancel_left] at within
  rw [Nat.ceilDiv_eq_add_pred_div, Nat.le_div_iff_mul_le (by decide)]
  omega

theorem searches_course {start : Nat} {passed : List Turn} {ending : List Exchange} :
    searches (⟨.now, start⟩ :: (passed.flatMap (Turn.exchanges deadline) ++ ending)) =
      passed.length + searches ending := by
  rw [searches, List.countP_cons, ← searches, searches_append, searches_flatMap_exchanges]
  rfl

namespace Course

variable {passed : List Turn} {ending : List Exchange}

theorem searches_le (course : Course kind requested wait deadline rounds passed ending outcome) :
    searches ending ≤ 1 := by
  obtain ⟨-, ends⟩ | ⟨-, rfl, -⟩ := course.ends
  · obtain one | ⟨none, -⟩ := ends.searches
    · exact one.le
    · exact none.le.trans (Nat.zero_le 1)
  · exact Nat.zero_le 1

/-- A search that never looked was given no turn or found the flag up at once. -/
theorem unlooked (course : Course kind requested wait deadline rounds passed ending outcome)
    (unlooked : passed.length + searches ending = 0) :
    rounds = 0 ∨ passed = [] ∧ ∃ rest, ending = ⟨.interruptFlag, true⟩ :: rest := by
  obtain ⟨unpassed, unsearched⟩ := Nat.add_eq_zero_iff.mp unlooked
  obtain ⟨-, ends⟩ | ⟨used, -, -⟩ := course.ends
  · obtain one | ⟨-, raised⟩ := ends.searches
    · exact absurd (one.symm.trans unsearched) Nat.one_ne_zero
    · exact .inr ⟨List.eq_nil_of_length_eq_zero unpassed, raised⟩
  · exact .inl (used.symm.trans unpassed)

end Course

/-- The first turn that settles a search ends it.  It looks for topics at least once unless the flag
is up at the start, it never sleeps past the deadline, and the wait bounds how often it looks. -/
theorem waitForTopics_settled
    (runs : Runs (waitForTopics rounds kind requested wait) trace outcome) :
    ∃ start passed ending,
      trace = ⟨.now, start⟩ :: (passed.flatMap (Turn.exchanges (start + wait)) ++ ending) ∧
      Course kind requested wait (start + wait) rounds passed ending outcome ∧
      (∀ turn ∈ passed, 0 < turn.nap (start + wait) ∧
        turn.nap (start + wait) ≤ 50 * Duration.millisecond ∧
        turn.clock + turn.nap (start + wait) ≤ start + wait) ∧
      (searches trace = 0 →
        rounds = 0 ∨ ∃ rest, trace = ⟨.now, start⟩ :: ⟨.interruptFlag, true⟩ :: rest) ∧
      (Elapses 0 trace →
        searches trace ≤ wait ⌈/⌉ (50 * Duration.millisecond) + 1 ∧
        (wait ⌈/⌉ (50 * Duration.millisecond) < rounds → outcome ≠ .unfinished)) := by
  obtain ⟨start, trace, rfl, searching⟩ := runs_request_bind.mp runs
  obtain ⟨passed, ending, rfl, course⟩ := exists_course searching
  refine ⟨start, passed, ending, rfl, course, fun turn member => ?_, fun never => ?_,
    fun elapses => ?_⟩
  · have passes := course.passes turn member
    exact ⟨passes.nap_pos, turn.nap_le, passes.clock_add_nap_le⟩
  · rw [searches_course] at never
    obtain unused | ⟨rfl, rest, rfl⟩ := course.unlooked never
    · exact .inl unused
    · exact .inr ⟨rest, rfl⟩
  · have bounded : passed.length ≤ wait ⌈/⌉ (50 * Duration.millisecond) :=
      length_passed_le course.passes elapses.2
    refine ⟨?_, fun enough => ?_⟩
    · rw [searches_course]
      exact Nat.add_le_add bounded course.searches_le
    · rintro rfl
      obtain ⟨-, ends⟩ | ⟨used, -, -⟩ := course.ends
      · cases ends
      · omega

/-- A missing topic is looked for three times within an interval and a half. -/
theorem waitForTopics_settled_missing_topic :
    let wait := 75 * Duration.millisecond
    let first : Turn := ⟨["other"], 7⟩
    let second : Turn := ⟨[], 50000007⟩
    let trace : List Exchange := ⟨.now, 7⟩ ::
      ([first, second].flatMap (Turn.exchanges (7 + wait)) ++ overdue wait ["other"] 75000007)
    Runs (waitForTopics 3 "timing" (some "planner") wait) trace
        (.failed (.topicNotFound "planner")) ∧
      Elapses 0 trace ∧ second.nap (7 + wait) = 25 * Duration.millisecond ∧
      searches trace = 3 ∧ searches trace ≤ wait ⌈/⌉ (50 * Duration.millisecond) + 1 := by
  intro wait first second trace
  have runs : Runs (waitForTopics 3 "timing" (some "planner") wait) trace
      (.failed (.topicNotFound "planner")) := by
    repeat constructor
  have elapses : Elapses 0 trace := by
    change 0 ≤ 7 ∧ 7 ≤ 7 ∧ 7 + first.nap (7 + wait) ≤ 50000007 ∧
      50000007 + second.nap (7 + wait) ≤ 75000007 ∧ True
    decide
  obtain ⟨-, -, -, -, -, -, -, bounded⟩ := waitForTopics_settled runs
  exact ⟨runs, elapses, by decide, rfl, (bounded elapses).1⟩

end Discovery

end TimingBoard
