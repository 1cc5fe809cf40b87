import TimingBoard.Proofs.Session.Reach

namespace TimingBoard.Session

/-! The ways a session can go.

`run_course` takes a run of a session apart: it ends before the terminal is taken, or topics were
found, the terminal was asked for, and what follows is fixed by how the dashboard ended and by how
giving the terminal back went. -/

variable {α : Type} {rounds : Nat} {plan : SessionPlan} {trace : List Exchange}

def foundNote (topics : List String) : Exchange :=
  ⟨.log ⟨.session, .info, "Discovered topic(s): " ++ ", ".intercalate topics⟩, ()⟩

/-- What is noted when the terminal cannot be given back, and by whom. -/
def restoreNotes (source : LogSource) : Except Error Unit → List Exchange
  | .ok () => []
  | .error error => [⟨.log ⟨source, .error, Lease.failureNote error⟩, ()⟩]

/-- While unwinding only the end of the lease is left to note it. -/
def noteSource : Outcome α → LogSource
  | .unwound => .terminal
  | _ => .session

/-- How the end of the dashboard and the return of the terminal make one outcome.  A failure of the
dashboard goes first. -/
def concluded : Outcome α → Except Error Unit → Outcome α
  | .ok value, .ok () => .ok value
  | .ok _, .error error => .failed error
  | .failed error, _ => .failed error
  | .unwound, _ => .unwound
  | .unfinished, _ => .unfinished

/-- The end of a lease does not unwind, and gives nothing back that was released. -/
theorem runs_drop {lease : Lease} {outcome : Outcome Unit} (runs : Runs lease.drop trace outcome) :
    outcome = .ok () ∧ (lease.released = true → trace = []) ∧
      (lease.released = false →
        ∃ result, trace = ⟨.restore, result⟩ :: restoreNotes .terminal result) := by
  obtain ⟨released⟩ := lease
  cases released with
  | true =>
      obtain ⟨rfl, rfl⟩ := runs_done.mp runs
      exact ⟨rfl, fun _ => rfl, nofun⟩
  | false =>
      obtain ⟨result, rest, rfl, later⟩ := runs_ask.mp runs
      cases result with
      | ok =>
          obtain ⟨rfl, rfl⟩ := runs_done.mp later
          exact ⟨rfl, nofun, fun _ => ⟨_, rfl⟩⟩
      | error reason =>
          obtain ⟨_, rest, rfl, last⟩ := runs_ask.mp later
          obtain ⟨rfl, rfl⟩ := runs_done.mp last
          exact ⟨rfl, nofun, fun _ => ⟨_, rfl⟩⟩

theorem runs_settle {live outcome : Outcome α} (runs : Runs (settle Lease.new live) trace outcome) :
    ∃ result, trace = ⟨.restore, result⟩ :: restoreNotes .session result ∧
      outcome = concluded live result := by
  obtain ⟨result, rest, rfl, later⟩ := runs_ask.mp runs
  refine ⟨result, ?_⟩
  cases result with
  | ok =>
      cases live <;> obtain ⟨rfl, rfl⟩ := runs_done.mp later <;> exact ⟨rfl, rfl⟩
  | error reason =>
      obtain ⟨_, rest, rfl, last⟩ := runs_ask.mp later
      cases live <;> obtain ⟨rfl, rfl⟩ := runs_done.mp last <;> exact ⟨rfl, rfl⟩

/-- The ways a program can go that holds the terminal while `body` runs. -/
inductive Borrowed (body : Program α) : List Exchange → Outcome α → Prop where
  | refused (error : Error) : Borrowed body [⟨.acquire, .error error⟩] (.failed error)
  /-- `body` is still running when the rounds are used up. -/
  | unfinished {held : List Exchange} (runs : Runs body held .unfinished) :
      Borrowed body (⟨.acquire, .ok ()⟩ :: held) .unfinished
  | returned {held : List Exchange} {live : Outcome α} (runs : Runs body held live)
      (ended : live ≠ .unfinished) (result : Except Error Unit) :
      Borrowed body
        (⟨.acquire, .ok ()⟩ :: (held ++ ⟨.restore, result⟩ :: restoreNotes (noteSource live) result))
        (concluded live result)

theorem runs_withTerminal {body : Program α} {outcome : Outcome α}
    (runs : Runs (withTerminal body) trace outcome) : Borrowed body trace outcome := by
  obtain ⟨answer, rest, rfl, later⟩ := runs_request_bind.mp runs
  cases answer with
  | error error =>
      obtain ⟨rfl, rfl⟩ := runs_done.mp later
      exact .refused error
  | ok =>
      obtain ⟨held, after, live, rfl, first, last⟩ := runs_attempt_bind.mp later
      cases live with
      | ok value =>
          obtain ⟨result, rfl, rfl⟩ := runs_settle last
          exact .returned first nofun result
      | failed error =>
          obtain ⟨result, rfl, rfl⟩ := runs_settle last
          exact .returned first nofun result
      | unwound =>
          obtain ⟨restored, rest, dropped, rfl, drop, unwinds⟩ := runs_bind.mp last
          obtain ⟨rfl, -, restores⟩ := runs_drop drop
          obtain ⟨result, rfl⟩ := restores rfl
          obtain ⟨rfl, rfl⟩ := runs_done.mp unwinds
          rw [List.append_nil]
          exact .returned first nofun result
      | unfinished =>
          obtain ⟨rfl, rfl⟩ := runs_done.mp last
          rw [List.append_nil]
          exact .unfinished first

/-- What a session does once the terminal is back. -/
def closing (plan : SessionPlan) (stopped : StopReason × ViewFlags) : Program SessionOutcome := do
  let aggregate ← Program.request .snapshot
  let outcome ← Report.run plan.boldHeadings aggregate stopped.1 stopped.2
  pure ⟨stopped.1, outcome.exitCode⟩

theorem closing_asks (plan : SessionPlan) (stopped : StopReason × ViewFlags) :
    (closing plan stopped).AsksOnly Request.closing :=
  .ask trivial fun aggregate =>
    (Report.run_asks plan.boldHeadings aggregate stopped.1 stopped.2).bind fun _ => trivial

theorem closing_reports (plan : SessionPlan) (stopped : StopReason × ViewFlags) :
    (closing plan stopped).AsksOnly (·.reach.reporting) :=
  (closing_asks plan stopped).mono fun _ => Request.closing.reporting

theorem closing_finishes (plan : SessionPlan) (stopped : StopReason × ViewFlags) :
    (closing plan stopped).Finishes :=
  .ask fun aggregate =>
    (Report.run_finishes plan.boldHeadings aggregate stopped.1 stopped.2).bind fun _ =>
      Program.finishes_pure _

/-- Topics are looked for: none are settled on, or there are some and the flag is down. -/
theorem runs_topics? {found : Outcome (Option (List String))}
    (runs : Runs (topics? rounds plan) trace found) :
    (∀ topics, found ≠ .ok (some topics)) ∨
      ∃ search topics, found = .ok (some topics) ∧
        trace = search ++ [foundNote topics, ⟨.interruptFlag, false⟩] ∧
        Runs (Discovery.waitForTopics rounds plan.kind plan.topic plan.wait) search (.ok topics) := by
  obtain ⟨search, after, waited, rfl, first, last⟩ := runs_attempt_bind.mp runs
  cases waited with
  | ok topics =>
      obtain ⟨rest, rfl, later⟩ := runs_log_bind.mp last
      obtain ⟨raised, rest, rfl, settled⟩ := runs_request_bind.mp later
      cases raised with
      | true =>
          obtain ⟨rfl, rfl⟩ := runs_done.mp settled
          exact .inl nofun
      | false =>
          obtain ⟨rfl, rfl⟩ := runs_done.mp settled
          exact .inr ⟨search, topics, rfl, rfl, first⟩
  | failed error =>
      cases interrupt : error.isInterrupt <;> simp only [interrupt] at last <;>
        obtain ⟨rfl, rfl⟩ := runs_done.mp last <;> exact .inl nofun
  | unwound =>
      obtain ⟨rfl, rfl⟩ := runs_done.mp last
      exact .inl nofun
  | unfinished =>
      obtain ⟨rfl, rfl⟩ := runs_done.mp last
      exact .inl nofun

/-- The ways a session can go. -/
inductive Course (rounds : Nat) (plan : SessionPlan) :
    List Exchange → Outcome SessionOutcome → Prop where
  /-- It ends before the terminal is asked for. -/
  | early {trace : List Exchange} {outcome : Outcome SessionOutcome}
      (quiet : ∀ reach ∈ reaches trace, reach = .elsewhere)
      (nothing : ∀ value, outcome = .ok value → value = ⟨.interrupt, 1⟩) :
      Course rounds plan trace outcome
  | borrowed {search taken rest : List Exchange} {topics : List String}
      {live : Outcome (StopReason × ViewFlags)} {outcome : Outcome SessionOutcome}
      (found : Runs (Discovery.waitForTopics rounds plan.kind plan.topic plan.wait) search
        (.ok topics))
      (borrows : Borrowed (drive rounds plan topics) taken live)
      (closes : Runs (live.andThen (closing plan)) rest outcome) :
      Course rounds plan
        (search ++ [foundNote topics, ⟨.interruptFlag, false⟩] ++ (taken ++ rest)) outcome

theorem run_course {outcome : Outcome SessionOutcome} (runs : Runs (run rounds plan) trace outcome) :
    Course rounds plan trace outcome := by
  obtain ⟨search, after, found, rfl, first, last⟩ := runs_bind.mp runs
  have quiet := first.reaches (· = .elsewhere)
    ((topics?_asks rounds plan).mono fun _ => Request.search.elsewhere)
  rcases runs_topics? first with missed | ⟨search, topics, rfl, rfl, found⟩
  · cases found with
    | ok settled =>
        cases settled with
        | some topics => exact absurd rfl (missed topics)
        | none =>
            obtain ⟨rest, rfl, later⟩ := runs_log_bind.mp last
            obtain ⟨rfl, rfl⟩ := runs_done.mp later
            refine .early ?_ fun value same => (Outcome.ok.inj same).symm
            simpa [or_imp, forall_and, Request.reach] using quiet
    | failed error =>
        obtain ⟨rfl, rfl⟩ := runs_done.mp last
        exact .early (by simpa using quiet) nofun
    | unwound =>
        obtain ⟨rfl, rfl⟩ := runs_done.mp last
        exact .early (by simpa using quiet) nofun
    | unfinished =>
        obtain ⟨rfl, rfl⟩ := runs_done.mp last
        exact .early (by simpa using quiet) nofun
  -- What follows the lease is `closing`, on whatever outcome the lease left.
  · obtain ⟨taken, rest, live, rfl, borrowed, closes⟩ := runs_bind.mp last
    exact .borrowed found (runs_withTerminal borrowed) closes

end TimingBoard.Session
