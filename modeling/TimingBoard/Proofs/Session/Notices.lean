import Mathlib.Data.List.Forall2
import TimingBoard.Session.Dashboard
import TimingBoard.Proofs.Session.Traces

namespace TimingBoard

/-! What a dashboard says about copies.

A dashboard is fed events and looks at an aggregate, call by call, and goes on with the board that the
call before has left.  How copies go is seen in the notice and nowhere else: whatever the clipboard
answers, the boards of two runs that were fed the same differ in their notices alone, and the notice is
about the latest copy. -/

theorem Event.ne_copyView_of_stop {event : Event} {reason : StopReason}
    (stops : event.stop? = some reason) : event ≠ .copyView := by
  rintro rfl
  cases stops

def Reply.notice? : Reply Unit → Option String
  | .answer () => some "Copied view to clipboard"
  | .error reason => some reason.message
  | .unwinding => none

def Exchange.notice? : Exchange → Option String
  | ⟨.copy _, reply⟩ => reply.notice?
  | _ => none

/-- The end of a status line with a notice, or without one. -/
def appendix : Option String → String
  | some notice => " | " ++ notice
  | none => ""

namespace Dashboard

/-- A status line up to the field that tells whether trees are summarized. -/
def statusHead (board : Dashboard) (aggregate : Aggregate) : String :=
  board.instanceName ++ " | " ++ (toString aggregate.latest.size ++ " producer(s)") ++ " | " ++
    (toString aggregate.count ++ " message(s)") ++ " | " ++
    ("updated " ++ (aggregate.stamp.map (clockText board.zone)).getD "never") ++ " | " ++
    ("comments " ++ onOff board.flags.comments) ++ " | " ++
    ("summarize " ++ onOff board.flags.summarize)

theorem statusLine_eq (board : Dashboard) (aggregate : Aggregate) :
    board.statusLine aggregate = board.statusHead aggregate ++ appendix board.notice := by
  obtain ⟨title, topic, name, zone, flags, notice⟩ := board
  cases notice <;> simp [statusLine, statusHead, appendix, String.append_assoc]

theorem frame_eq (board : Dashboard) (aggregate : Aggregate) :
    board.frame aggregate =
      ⟨board.viewText aggregate, board.statusHead aggregate ++ appendix board.notice⟩ :=
  congrArg (TreeScreen.mk (board.viewText aggregate)) (board.statusLine_eq aggregate)

end Dashboard

/-- A step of a dashboard: what it was given, what it exchanged and how it came back. -/
structure Call where
  board : Dashboard
  event : Event
  aggregate : Aggregate
  trace : List Exchange
  outcome : Outcome (Step × Dashboard)

namespace Call

def input (call : Call) : Event × Aggregate := (call.event, call.aggregate)

/-- What the call notes about its copy, if it makes one. -/
def notice? (call : Call) : Option String := call.trace.findSome? (·.notice?)

def next (call : Call) : Dashboard :=
  { call.board with
    flags := call.event.flags call.board.flags
    notice := call.notice?.or call.board.notice }

def given (call : Call) : Step :=
  match call.event.stop? with
  | some reason => .stopped reason
  | none => .running (call.next.frame call.aggregate)

structure Goes (call : Call) : Prop where
  ends : call.outcome = .ok (call.given, call.next)
  notices : call.notice?.isSome ↔ call.event = .copyView
  copies : copied call.trace =
    if call.event = .copyView then [call.board.viewText call.aggregate] else []

end Call

/-- Each call takes the board that the one before has left, and every copy comes back. -/
def Dashboard.Fed (board : Dashboard) : List Call → Prop
  | [] => True
  | call :: rest =>
      call.board = board ∧ Runs (board.step call.event call.aggregate) call.trace call.outcome ∧
        (∀ text, ⟨.copy text, .unwinding⟩ ∉ call.trace) ∧
        ∀ step next, call.outcome = .ok (step, next) → next.Fed rest

/-- The notice of the latest call that was to copy the view. -/
def latestNotice (calls : List Call) : Option String :=
  (calls.filter (·.event = .copyView)).getLast?.bind (·.notice?)

/-- What a call of a running dashboard or of a stopping one shows, with all calls before it. -/
inductive Shows (before : List Call) (call : Call) : Prop where
  | stopped (reason : StopReason) (stops : call.event.stop? = some reason)
      (unshared : copied call.trace = []) (ends : call.outcome = .ok (.stopped reason, call.board))
  | running (goesOn : call.event.stop? = none) (frame : TreeScreen) (next : Dashboard)
      (ends : call.outcome = .ok (.running frame, next))
      (flags : next.flags = call.event.flags call.board.flags)
      (status : frame.status =
        next.statusHead call.aggregate ++ appendix (latestNotice (before ++ [call])))
      (copies : copied call.trace = if call.event = .copyView then [frame.text] else [])

namespace Call

theorem goes_of_unshared {call : Call} (kept : call.event ≠ .copyView) (silent : call.trace = [])
    (ends : call.outcome =
      .ok (call.given, { call.board with flags := call.event.flags call.board.flags })) :
    call.Goes where
  ends := by
    rw [ends, next, notice?, silent]
    rfl
  notices := by simp [notice?, silent, kept]
  copies := by simp [copied, silent, kept]

theorem goes {call : Call}
    (runs : Runs (call.board.step call.event call.aggregate) call.trace call.outcome)
    (answered : ∀ text, ⟨.copy text, .unwinding⟩ ∉ call.trace) : call.Goes := by
  obtain ⟨board, event, aggregate, trace, outcome⟩ := call
  simp only at runs answered
  rw [Dashboard.step] at runs
  cases stops : event.stop? with
  | some reason =>
      rw [stops] at runs
      obtain ⟨rfl, rfl⟩ := runs_done.mp runs
      refine goes_of_unshared (Event.ne_copyView_of_stop stops) rfl ?_
      simp only [given, stops, Event.flags_of_stop stops]
  | none =>
      rw [stops] at runs
      by_cases shares : event = .copyView
      · subst shares
        obtain ⟨reply, rest, rfl, later⟩ := runs_ask.mp runs
        cases reply with
        | answer =>
            obtain ⟨rfl, rfl⟩ := runs_done.mp later
            exact ⟨rfl, by simp [notice?, Exchange.notice?, Reply.notice?], rfl⟩
        | error reason =>
            obtain ⟨_, rest, rfl, last⟩ := runs_ask.mp later
            obtain ⟨rfl, rfl⟩ := runs_done.mp last
            exact ⟨rfl, by simp [notice?, Exchange.notice?, Reply.notice?], rfl⟩
        | unwinding => exact absurd List.mem_cons_self (answered _)
      · simp only [if_neg shares] at runs
        obtain ⟨rfl, rfl⟩ := runs_done.mp runs
        refine goes_of_unshared shares rfl ?_
        simp only [given, stops]
        rfl

end Call

theorem latestNotice_append {seen : List Call} {call : Call} (goes : call.Goes) :
    latestNotice (seen ++ [call]) = call.notice?.or (latestNotice seen) := by
  by_cases shares : call.event = .copyView
  · obtain ⟨notice, noted⟩ := Option.isSome_iff_exists.mp (goes.notices.mpr shares)
    simp [latestNotice, shares, noted]
  · have silent : call.notice? = none := by simpa [shares] using goes.notices
    simp [latestNotice, shares, silent]

theorem Call.Goes.shows {call : Call} (goes : call.Goes) {before : List Call}
    (noticed : call.board.notice = latestNotice before) : Shows before call := by
  have ends := goes.ends
  cases stops : call.event.stop? with
  | some reason =>
      have kept := Event.ne_copyView_of_stop stops
      have silent : call.notice? = none := by simpa [kept] using goes.notices
      have unchanged : call.next = call.board := by
        rw [next, Event.flags_of_stop stops, silent]
        rfl
      rw [given, stops, unchanged] at ends
      exact .stopped reason stops (goes.copies.trans (if_neg kept)) ends
  | none =>
      have latest : latestNotice (before ++ [call]) = call.next.notice := by
        rw [latestNotice_append goes, ← noticed, next]
      rw [given, stops] at ends
      refine .running stops (call.next.frame call.aggregate) call.next ends rfl ?_ ?_
      · rw [latest, Dashboard.frame_eq]
      · rw [goes.copies]
        by_cases shares : call.event = .copyView
        · simp [shares, next, Dashboard.frame, Dashboard.viewText, Event.flags]
        · rw [if_neg shares, if_neg shares]

theorem shows_of_fed {board : Dashboard} {calls seen before after : List Call} {call : Call}
    (fed : board.Fed calls) (noticed : board.notice = latestNotice seen)
    (split : calls = before ++ call :: after) : Shows (seen ++ before) call := by
  -- Every call keeps that the notice of the board is the latest one of the calls seen so far.
  induction before generalizing board calls seen with
  | nil =>
      subst split
      obtain ⟨rfl, runs, answered, -⟩ := fed
      simpa using (Call.goes runs answered).shows noticed
  | cons first before ih =>
      subst split
      obtain ⟨rfl, runs, answered, later⟩ := fed
      have goes := Call.goes runs answered
      have noticed : first.next.notice = latestNotice (seen ++ [first]) := by
        rw [latestNotice_append goes, ← noticed, Call.next]
      simpa using ih (later _ _ goes.ends) noticed rfl

/-! ### Two clipboards -/

/-- The same step and the same flags, with status lines that may end differently. -/
inductive SameShow (call other : Call) : Prop where
  | stopped (reason : StopReason) (first second : Dashboard)
      (ends : call.outcome = .ok (.stopped reason, first))
      (otherEnds : other.outcome = .ok (.stopped reason, second))
      (flags : second.flags = first.flags)
  | running (text head : String) (notice otherNotice : Option String) (first second : Dashboard)
      (heads : head = first.statusHead call.aggregate)
      (ends : call.outcome = .ok (.running ⟨text, head ++ appendix notice⟩, first))
      (otherEnds : other.outcome = .ok (.running ⟨text, head ++ appendix otherNotice⟩, second))
      (flags : second.flags = first.flags)

namespace Call

variable {call other : Call} {notice : Option String}

theorem next_alike (boards : other.board = { call.board with notice })
    (events : other.event = call.event) :
    ∃ notice, other.next = { call.next with notice } := by
  rw [next, boards, events]
  exact ⟨_, rfl⟩

theorem Goes.sameShow (goes : call.Goes) (otherGoes : other.Goes)
    (boards : other.board = { call.board with notice }) (inputs : other.input = call.input) :
    SameShow call other := by
  obtain ⟨events, aggregates⟩ : other.event = call.event ∧ other.aggregate = call.aggregate :=
    Prod.mk.inj inputs
  obtain ⟨otherNotice, alike⟩ := next_alike boards events
  have ends := goes.ends
  have otherEnds := otherGoes.ends
  rw [given, Dashboard.frame_eq] at ends
  rw [given, events, aggregates, alike, Dashboard.frame_eq] at otherEnds
  cases stops : call.event.stop? with
  | some reason =>
      rw [stops] at ends otherEnds
      exact .stopped reason _ _ ends otherEnds rfl
  | none =>
      rw [stops] at ends otherEnds
      exact .running (call.next.viewText call.aggregate) _ _ otherNotice _ _ rfl ends otherEnds rfl

end Call

theorem sameShow_of_fed {board other : Dashboard} {calls others : List Call}
    {notice : Option String} (boards : other = { board with notice }) (fed : board.Fed calls)
    (otherFed : other.Fed others) (inputs : others.map Call.input = calls.map Call.input) :
    List.Forall₂ SameShow calls others := by
  -- Every pair of calls keeps that the boards differ in their notices alone.
  induction calls generalizing board other others notice with
  | nil =>
      obtain rfl := List.map_eq_nil_iff.mp inputs
      exact .nil
  | cons call calls ih =>
      obtain ⟨next, rest, rfl, same, later⟩ := List.map_eq_cons_iff.mp inputs
      obtain ⟨rfl, runs, answered, goesOn⟩ := fed
      obtain ⟨rfl, otherRuns, otherAnswered, otherGoesOn⟩ := otherFed
      have goes := Call.goes runs answered
      have otherGoes := Call.goes otherRuns otherAnswered
      refine .cons (goes.sameShow otherGoes boards same) ?_
      obtain ⟨notice, alike⟩ := Call.next_alike boards (congrArg Prod.fst same)
      exact ih alike (goesOn _ _ goes.ends) (otherGoesOn _ _ otherGoes.ends) later

/-- A new dashboard says at the end of its status lines how the latest copy went, and what the
clipboard answers shows nowhere else.  A call that is to copy the view copies the text of its own
frame, and no other call copies. -/
theorem fed_shows_copies_in_notices {board : Dashboard} (fresh : board.notice = none)
    {calls : List Call} (fed : board.Fed calls) :
    (∀ before call after, calls = before ++ call :: after → Shows before call) ∧
      ∀ others, board.Fed others → others.map Call.input = calls.map Call.input →
        List.Forall₂ SameShow calls others := by
  refine ⟨fun before call after split => ?_, fun others otherFed inputs => ?_⟩
  · have unnoticed : board.notice = latestNotice [] := fresh
    exact shows_of_fed fed unnoticed split
  · have itself : board = { board with notice := board.notice } := rfl
    exact sameShow_of_fed itself fed otherFed inputs

/-- One clipboard refuses and then takes a copy, the other one takes and then refuses it; in between
both dashboards are stopped. -/
theorem fed_shows_copies_in_notices_refused :
    let aggregate := Aggregate.new false
    let refusal : Error := .clipboard "no display"
    let taken := some "Copied view to clipboard"
    let refused := some refusal.message
    let board (notice : Option String) : Dashboard := ⟨"trees", none, "viz", .utc, {}, notice⟩
    let copying (before after : Option String) (reply : Reply Unit) (notes : List Exchange) : Call :=
      ⟨board before, .copyView, aggregate,
        ⟨.copy ((board none).viewText aggregate), reply⟩ :: notes,
        .ok (.running ((board after).frame aggregate), board after)⟩
    let stopping (notice : Option String) : Call :=
      ⟨board notice, .quit, aggregate, [], .ok (.stopped .plain, board notice)⟩
    let warning : Exchange :=
      ⟨.log ⟨.dashboard, .warn, "Export failed: " ++ refusal.message⟩, ()⟩
    let calls := [copying none refused (.error refusal) [warning], stopping refused,
      copying refused taken (.answer ()) []]
    let others := [copying none taken (.answer ()) [], stopping taken,
      copying taken refused (.error refusal) [warning]]
    (board none).notice = none ∧ (board none).Fed calls ∧ (board none).Fed others ∧
      others.map Call.input = calls.map Call.input ∧
      latestNotice calls = taken ∧ latestNotice others = refused ∧
      Shows (calls.take 2) (copying refused taken (.answer ()) []) ∧
      List.Forall₂ SameShow calls others := by
  intro aggregate refusal taken refused board copying stopping warning calls others
  have fed : (board none).Fed calls := by
    refine ⟨rfl, by repeat' constructor, by simp [copying, warning], ?_⟩
    rintro _ _ ⟨⟩
    refine ⟨rfl, by repeat' constructor, by simp [stopping], ?_⟩
    rintro _ _ ⟨⟩
    exact ⟨rfl, by repeat' constructor, by simp [copying], fun _ _ _ => trivial⟩
  have otherFed : (board none).Fed others := by
    refine ⟨rfl, by repeat' constructor, by simp [copying], ?_⟩
    rintro _ _ ⟨⟩
    refine ⟨rfl, by repeat' constructor, by simp [stopping], ?_⟩
    rintro _ _ ⟨⟩
    exact ⟨rfl, by repeat' constructor, by simp [copying, warning], fun _ _ _ => trivial⟩
  obtain ⟨shows, same⟩ := fed_shows_copies_in_notices rfl fed
  exact ⟨rfl, fed, otherFed, rfl, rfl, rfl, shows _ _ [] rfl, same others otherFed rfl⟩

end TimingBoard
