import Mathlib.Data.List.Basic
import TimingBoard.Proofs.Session.Course

namespace TimingBoard.Session

/-! The terminal of a session.

A session takes the terminal at most once and gives it back exactly once on every way out of the
dashboard.  It does not use the terminal afterwards, and touches the output only afterwards. -/

variable {rounds : Nat} {plan : SessionPlan} {trace : List Exchange}
  {outcome : Outcome SessionOutcome}

/-- What is left of a session once the terminal is back, and its outcome.  A dashboard that failed
or unwound, or a terminal that could not be restored, leaves no report. -/
def Concludes (plan : SessionPlan) (live : Outcome (StopReason × ViewFlags))
    (restored : Except Error Unit) (rest : List Exchange) (outcome : Outcome SessionOutcome) : Prop :=
  match live, restored with
  | .failed error, _ => outcome = .failed error ∧ rest = restoreNotes .session restored
  | .ok _, .error error => outcome = .failed error ∧ rest = restoreNotes .session restored
  | .unwound, _ => outcome = .unwound ∧ rest = restoreNotes .terminal restored
  | .unfinished, _ => False
  | .ok stopped, .ok () => Runs (closing plan stopped) rest outcome

/-- What comes before the terminal is asked for: a search that found topics, and a flag that is down
after it. -/
def Opening (rounds : Nat) (plan : SessionPlan) (topics : List String) (start : List Exchange) :
    Prop :=
  ∃ search, Runs (Discovery.waitForTopics rounds plan.kind plan.topic plan.wait) search (.ok topics) ∧
    start = search ++ [foundNote topics, ⟨.interruptFlag, false⟩]

structure TerminalDiscipline (rounds : Nat) (plan : SessionPlan) (trace : List Exchange)
    (outcome : Outcome SessionOutcome) : Prop where
  takenOnce : (reaches trace).count .taking ≤ 1
  takenAfterSearch : ∀ before answer after, trace = before ++ ⟨.acquire, answer⟩ :: after →
    ∃ topics, Opening rounds plan topics before
  /-- Without the terminal nothing is drawn, polled, restored, copied or written. -/
  untaken : ⟨.acquire, .ok ()⟩ ∉ trace →
    ∀ reach ∈ reaches trace, reach = .taking ∨ reach = .elsewhere
  /-- Once taken, the terminal is given back exactly once and not used any more; nothing is written
  before, and how the dashboard ended and how the return went decide what comes after. -/
  givenBack : ∀ before after, trace = before ++ ⟨.acquire, .ok ()⟩ :: after →
    outcome ≠ .unfinished →
      ∃ topics held live restored rest, after = held ++ ⟨.restore, restored⟩ :: rest ∧
        (reaches trace).count .givingBack = 1 ∧ .terminal ∉ reaches rest ∧
        .output ∉ reaches (before ++ held) ∧ Runs (drive rounds plan topics) held live ∧
        Concludes plan live restored rest outcome
  /-- As long as the dashboard is still running, the terminal is held. -/
  unfinished : outcome = .unfinished → .givingBack ∉ reaches trace ∧ .output ∉ reaches trace

/-- A trace has one place where an exchange reaches for `reach`, if nothing around it does. -/
theorem split_unique {before after start later : List Exchange} {here there : Exchange}
    {reach : Reach} (same : before ++ here :: after = start ++ there :: later)
    (reached : here.request.reach = reach) (startFree : reach ∉ reaches start)
    (laterFree : reach ∉ reaches later) : before = start ∧ here = there ∧ after = later := by
  have absent {trace : List Exchange} (free : reach ∉ reaches trace) : here ∉ trace :=
    fun member => free (reached ▸ List.mem_map_of_mem member)
  obtain ⟨rfl, rfl, rfl⟩ :=
    (List.append_cons_inj_of_notMem (absent startFree) (absent laterFree)).mp same.symm
  exact ⟨rfl, rfl, rfl⟩

theorem count_reaches {start later : List Exchange} {here : Exchange} {reach : Reach}
    (reached : here.request.reach = reach) (startFree : reach ∉ reaches start)
    (laterFree : reach ∉ reaches later) : (reaches (start ++ here :: later)).count reach = 1 := by
  rw [reaches_append, reaches_cons, List.count_append, reached, List.count_cons_self,
    List.count_eq_zero.mpr startFree, List.count_eq_zero.mpr laterFree]

theorem restoreNotes_reporting (source : LogSource) (restored : Except Error Unit) :
    ∀ reach ∈ reaches (restoreNotes source restored), reach.reporting := by
  cases restored with
  | ok => simp [restoreNotes]
  | error reason => simp [restoreNotes, Request.reach, Reach.reporting]

theorem concludes_of_closes {live : Outcome (StopReason × ViewFlags)} {restored : Except Error Unit}
    {rest : List Exchange} (ended : live ≠ .unfinished)
    (closes : Runs ((concluded live restored).andThen (closing plan)) rest outcome) :
    Concludes plan live restored (restoreNotes (noteSource live) restored ++ rest) outcome := by
  cases live with
  | ok stopped =>
      cases restored with
      | ok => exact closes
      | error error =>
          obtain ⟨rfl, rfl⟩ := runs_done.mp closes
          exact ⟨rfl, List.append_nil _⟩
  | failed error =>
      obtain ⟨rfl, rfl⟩ := runs_done.mp closes
      exact ⟨rfl, List.append_nil _⟩
  | unwound =>
      obtain ⟨rfl, rfl⟩ := runs_done.mp closes
      exact ⟨rfl, List.append_nil _⟩
  | unfinished => exact absurd rfl ended

theorem Concludes.reporting {live : Outcome (StopReason × ViewFlags)} {restored : Except Error Unit}
    (concludes : Concludes plan live restored trace outcome) :
    ∀ reach ∈ reaches trace, reach.reporting := by
  cases live with
  | ok stopped =>
      cases restored with
      | ok => exact Runs.reaches concludes Reach.reporting (closing_reports plan stopped)
      | error error => exact concludes.2 ▸ restoreNotes_reporting _ _
  | failed error => exact concludes.2 ▸ restoreNotes_reporting _ _
  | unwound => exact concludes.2 ▸ restoreNotes_reporting _ _
  | unfinished => exact concludes.elim

theorem Concludes.finishes {live : Outcome (StopReason × ViewFlags)} {restored : Except Error Unit}
    (concludes : Concludes plan live restored trace outcome) : outcome ≠ .unfinished := by
  cases live with
  | ok stopped =>
      cases restored with
      | ok => exact Runs.finishes concludes (closing_finishes plan stopped)
      | error error => exact concludes.1 ▸ nofun
  | failed error => exact concludes.1 ▸ nofun
  | unwound => exact concludes.1 ▸ nofun
  | unfinished => exact concludes.elim

theorem Opening.not_reached {topics : List String} {start : List Exchange}
    (opening : Opening rounds plan topics start) {reach : Reach} (different : reach ≠ .elsewhere) :
    reach ∉ reaches start := by
  obtain ⟨search, found, rfl⟩ := opening
  have absent : reach ∉ reaches search :=
    found.not_reached (· = .elsewhere)
      ((Discovery.waitForTopics_asks _ _ _ _).mono fun _ => Request.search.elsewhere) different
  simpa [foundNote, Request.reach, different] using absent

section Taken

variable {topics : List String} {start later : List Exchange}

theorem Opening.takenOnce (opening : Opening rounds plan topics start) (answer : Except Error Unit)
    (laterFree : .taking ∉ reaches later) :
    (reaches (start ++ ⟨.acquire, answer⟩ :: later)).count .taking ≤ 1 :=
  Nat.le_of_eq (count_reaches rfl (opening.not_reached (by decide)) laterFree)

/-- The terminal is asked for in one place. -/
theorem Opening.split (opening : Opening rounds plan topics start) {answer other : Except Error Unit}
    {before after : List Exchange} (laterFree : .taking ∉ reaches later)
    (same : start ++ ⟨.acquire, answer⟩ :: later = before ++ ⟨.acquire, other⟩ :: after) :
    before = start ∧ other = answer ∧ after = later := by
  have startFree : .taking ∉ reaches start := opening.not_reached (by decide)
  obtain ⟨starts, asked, ends⟩ := split_unique same.symm rfl startFree laterFree
  cases asked
  exact ⟨starts, rfl, ends⟩

theorem refused_disciplined (opening : Opening rounds plan topics start) (error : Error) :
    TerminalDiscipline rounds plan (start ++ [⟨.acquire, .error error⟩]) (.failed error) where
  takenOnce := opening.takenOnce _ List.not_mem_nil
  takenAfterSearch := by
    intro before answer after same
    obtain ⟨rfl, -, -⟩ := opening.split List.not_mem_nil same
    exact ⟨topics, opening⟩
  untaken := by
    intro _ reach member
    by_cases different : reach = .elsewhere
    · exact .inr different
    · have last := (List.mem_append.mp (reaches_append .. ▸ member)).resolve_left
        (opening.not_reached different)
      exact .inl (List.mem_singleton.mp last)
  givenBack := by
    intro before after same
    obtain ⟨-, impossible, -⟩ := opening.split List.not_mem_nil same
    cases impossible
  unfinished := nofun

theorem unfinished_disciplined (opening : Opening rounds plan topics start)
    (runs : Runs (drive rounds plan topics) later .unfinished) :
    TerminalDiscipline rounds plan (start ++ ⟨.acquire, .ok ()⟩ :: later) .unfinished where
  takenOnce := opening.takenOnce _ (runs.not_reached Reach.live (drive_asks _ _ _) id)
  takenAfterSearch := by
    intro before answer after same
    obtain ⟨rfl, -, -⟩ := opening.split (runs.not_reached Reach.live (drive_asks _ _ _) id) same
    exact ⟨topics, opening⟩
  untaken := fun absent => absurd (by simp) absent
  givenBack := fun _ _ _ finished => absurd rfl finished
  unfinished := by
    intro _
    have laterFree (reach : Reach) (never : ¬ reach.live) : reach ∉ reaches later :=
      runs.not_reached Reach.live (drive_asks _ _ _) never
    constructor
    · simp [Request.reach, opening.not_reached, laterFree .givingBack id]
    · simp [Request.reach, opening.not_reached, laterFree .output id]

theorem returned_disciplined (opening : Opening rounds plan topics start)
    {held rest : List Exchange} {live : Outcome (StopReason × ViewFlags)}
    {restored : Except Error Unit} (runs : Runs (drive rounds plan topics) held live)
    (concludes : Concludes plan live restored rest outcome) :
    TerminalDiscipline rounds plan
      (start ++ ⟨.acquire, .ok ()⟩ :: (held ++ ⟨.restore, restored⟩ :: rest)) outcome := by
  have heldFree (reach : Reach) (never : ¬ reach.live) : reach ∉ reaches held :=
    runs.not_reached Reach.live (drive_asks _ _ _) never
  have restFree (reach : Reach) (never : ¬ reach.reporting) : reach ∉ reaches rest :=
    fun member => never (concludes.reporting reach member)
  have laterFree : .taking ∉ reaches (held ++ ⟨.restore, restored⟩ :: rest) := by
    simp [Request.reach, heldFree .taking id, restFree .taking id]
  exact
    { takenOnce := opening.takenOnce _ laterFree
      takenAfterSearch := by
        intro before answer after same
        obtain ⟨rfl, -, -⟩ := opening.split laterFree same
        exact ⟨topics, opening⟩
      untaken := fun absent => absurd (by simp) absent
      givenBack := by
        -- There is one place where the terminal is taken, so `before` is the opening.
        intro before after same _
        obtain ⟨rfl, -, rfl⟩ := opening.split laterFree same
        have startFree : .givingBack ∉ reaches (before ++ ⟨.acquire, .ok ()⟩ :: held) := by
          simp [Request.reach, opening.not_reached, heldFree .givingBack id]
        have once : (reaches ((before ++ ⟨.acquire, .ok ()⟩ :: held) ++
            ⟨.restore, restored⟩ :: rest)).count .givingBack = 1 :=
          count_reaches rfl startFree (restFree .givingBack id)
        have unwritten : .output ∉ reaches (before ++ held) := by
          simp [opening.not_reached, heldFree .output id]
        rw [List.append_assoc, List.cons_append] at once
        exact ⟨topics, held, live, restored, rest, rfl, once, restFree .terminal id, unwritten, runs,
          concludes⟩
      unfinished := fun impossible => absurd impossible concludes.finishes }

end Taken

theorem early_disciplined (quiet : ∀ reach ∈ reaches trace, reach = .elsewhere) :
    TerminalDiscipline rounds plan trace outcome := by
  have never (reach : Reach) (different : reach ≠ .elsewhere) : reach ∉ reaches trace :=
    fun member => different (quiet reach member)
  have untaken (before : List Exchange) (answer : Except Error Unit) (after : List Exchange) :
      trace ≠ before ++ ⟨.acquire, answer⟩ :: after := by
    rintro rfl
    exact never .taking (by decide) (by simp [Request.reach])
  exact
    { takenOnce := by
        rw [List.count_eq_zero.mpr (never .taking (by decide))]
        exact Nat.zero_le 1
      takenAfterSearch := fun before answer after split => absurd split (untaken before answer after)
      untaken := fun _ reach member => .inr (quiet reach member)
      givenBack := fun before after split => absurd split (untaken before _ after)
      unfinished := fun _ => ⟨never .givingBack (by decide), never .output (by decide)⟩ }

theorem run_terminalDiscipline (runs : Runs (run rounds plan) trace outcome) :
    TerminalDiscipline rounds plan trace outcome := by
  cases run_course runs with
  | early quiet nothing => exact early_disciplined quiet
  | @borrowed search taken rest topics live outcome found borrows closes =>
      have opening : Opening rounds plan topics
          (search ++ [foundNote topics, ⟨.interruptFlag, false⟩]) := ⟨search, found, rfl⟩
      cases borrows with
      | refused error =>
          obtain ⟨rfl, rfl⟩ := runs_done.mp closes
          exact refused_disciplined opening error
      | unfinished driven =>
          obtain ⟨rfl, rfl⟩ := runs_done.mp closes
          rw [List.append_nil]
          exact unfinished_disciplined opening driven
      | @returned held live driven ended restored =>
          simpa using returned_disciplined opening driven (concludes_of_closes ended closes)

/-- The keys are lost in the first round, and then the terminal cannot be given back. -/
def lostKeys : List Exchange :=
  [⟨.now, 0⟩, ⟨.interruptFlag, false⟩, ⟨.discover, .ok ["planner"]⟩, foundNote ["planner"],
    ⟨.interruptFlag, false⟩, ⟨.acquire, .ok ()⟩, ⟨.subscribe "planner", .answer ()⟩,
    ⟨.log ⟨.ingestion, .info, "Ingestion started for 1 topic(s)"⟩, ()⟩, ⟨.now, 0⟩,
    ⟨.interruptFlag, false⟩, ⟨.now, 30⟩, ⟨.poll 70, .error (.io "no keys")⟩,
    ⟨.log ⟨.ingestion, .info, "Shutting down ingestion"⟩, ()⟩, ⟨.stopIngestion, ()⟩,
    ⟨.restore, .error (.io "no terminal")⟩,
    ⟨.log ⟨.session, .error, Lease.failureNote (.io "no terminal")⟩, ()⟩]

theorem runs_lostKeys :
    Runs (run 1 ⟨"ProcessingTimeTree", some "planner", 0, 100, "viz", false, .utc⟩) lostKeys
      (.failed (.io "no keys")) := by
  repeat' constructor

theorem run_terminalDiscipline_lostKeys :
    Runs (run 1 ⟨"ProcessingTimeTree", some "planner", 0, 100, "viz", false, .utc⟩) lostKeys
        (.failed (.io "no keys")) ∧
      TerminalDiscipline 1 ⟨"ProcessingTimeTree", some "planner", 0, 100, "viz", false, .utc⟩ lostKeys
        (.failed (.io "no keys")) :=
  ⟨runs_lostKeys, run_terminalDiscipline runs_lostKeys⟩

end TimingBoard.Session
