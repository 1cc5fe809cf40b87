import TimingBoard.Proofs.Session.Reach

namespace TimingBoard

/-! One round of a dashboard.

A round asks for the flag, the time, a key and the aggregate, takes one step, and goes on with what
the step leaves to do.  Which flags a dashboard shows is told by how often its events toggled them. -/

/-- Toggled as often as the events say, from the flags of a new dashboard. -/
def flagsAfter (events : List Event) : ViewFlags where
  comments := decide (events.count .toggleComments % 2 = 1)
  summarize := decide (events.count .toggleSummarize % 2 = 0)

theorem flagsAfter_append_singleton (events : List Event) (last : Event) :
    flagsAfter (events ++ [last]) = last.flags (flagsAfter events) := by
  have odd (n : Nat) : decide ((n + 1) % 2 = 1) = !decide (n % 2 = 1) := by
    rw [← decide_not]
    exact decide_eq_decide.mpr (by omega)
  have even (n : Nat) : decide ((n + 1) % 2 = 0) = !decide (n % 2 = 0) := by
    rw [← decide_not]
    exact decide_eq_decide.mpr (by omega)
  cases last with
  | toggleComments =>
      simp [flagsAfter, Event.flags, ViewFlags.toggleComments, odd]
  | toggleSummarize =>
      simp [flagsAfter, Event.flags, ViewFlags.toggleSummarize, even]
  | _ => simp [flagsAfter, Event.flags]

namespace Dashboard

/-- What the loop does with the result of a step, in a tick that began at `start`. -/
def conclude (interval start rounds : Nat) :
    Step × Dashboard → Program (Outcome StopReason × Dashboard)
  | (.stopped reason, board) => do
      Program.info .dashboard ("Refresh loop stopped: " ++ reason.name)
      pure (.ok reason, board)
  | (.running screen, board) => do
      match ← Program.request (.draw (.trees screen)) with
      | .error error => pure (.failed error, board)
      | .unwinding => pure (.unwound, board)
      | .answer () => do
          let start ← nextStart interval start
          board.refreshFrom interval start rounds

/-- A round that goes on to look at the aggregate. -/
theorem refreshFrom_succ (interval : Nat) (board : Dashboard) (start rounds : Nat) :
    board.refreshFrom interval start (rounds + 1) = (do
      if ← Program.request .interruptFlag then
        Program.info .dashboard "Interrupt received, stopping refresh loop"
        pure (.ok .interrupt, board)
      else
        let now ← Program.request .now
        match ← Program.request (.poll (remaining interval start now)) with
        | .error error => pure (.failed error, board)
        | .unwinding => pure (.unwound, board)
        | .answer key =>
            let aggregate ← Program.request .snapshot
            let stepped ← board.step (.ofKey? key) aggregate
            conclude interval start rounds stepped) := by
  refine congrArg (Program.request .interruptFlag).bind (funext fun raised => ?_)
  cases raised with
  | true => rfl
  | false =>
      refine congrArg (Program.request .now).bind (funext fun now => ?_)
      refine congrArg (Program.request (.poll (remaining interval start now))).bind
        (funext fun polled => ?_)
      cases polled with
      | error error => rfl
      | unwinding => rfl
      | answer key =>
          refine congrArg (Program.request .snapshot).bind (funext fun aggregate => ?_)
          refine congrArg (board.step (.ofKey? key) aggregate).bind (funext fun (step, board) => ?_)
          cases step <;> rfl

/-- Looks at the clock, with what it showed. -/
def readings (nows : List Nat) : List Exchange := nows.map fun now => ⟨.now, now⟩

theorem runs_nextStart_bind {interval start : Nat} {next : Nat → Program α} {trace : List Exchange}
    {outcome : Outcome α} (runs : Runs (nextStart interval start >>= next) trace outcome) :
    ∃ nows later rest, trace = readings nows ++ rest ∧ Runs (next later) rest outcome := by
  obtain ⟨looks, rest, begun, rfl, times, goesOn⟩ := runs_bind.mp runs
  obtain ⟨now, after, rfl, decided⟩ := runs_request_bind.mp times
  split at decided
  · obtain ⟨restarted, last, rfl, ends⟩ := runs_ask.mp decided
    obtain ⟨rfl, rfl⟩ := runs_done.mp ends
    exact ⟨[now, restarted], restarted, rest, rfl, goesOn⟩
  · obtain ⟨rfl, rfl⟩ := runs_done.mp decided
    exact ⟨[now], start, rest, rfl, goesOn⟩

/-- The ways a step can go.  What is noted about a copy shows nowhere. -/
inductive Stepped (board : Dashboard) (event : Event) (aggregate : Aggregate) :
    List Exchange → Outcome (Step × Dashboard) → Prop where
  | stopped (reason : StopReason) (stops : event.stop? = some reason) :
      Stepped board event aggregate [] (.ok (.stopped reason, board))
  | unshared (goesOn : event.stop? = none) (kept : event ≠ .copyView) :
      Stepped board event aggregate []
        (.ok (.running (frame { board with flags := event.flags board.flags } aggregate),
          { board with flags := event.flags board.flags }))
  | shared (shares : event = .copyView) (reply : Reply Unit) (back : reply ≠ .unwinding)
      (notes : List Exchange) (quiet : ∀ reach ∈ reaches notes, reach = .elsewhere)
      (notice : Option String) :
      Stepped board event aggregate (⟨.copy (board.viewText aggregate), reply⟩ :: notes)
        (.ok (.running (frame { board with notice } aggregate), { board with notice }))
  | unwound (shares : event = .copyView) :
      Stepped board event aggregate [⟨.copy (board.viewText aggregate), .unwinding⟩] .unwound

theorem runs_step {board : Dashboard} {event : Event} {aggregate : Aggregate}
    {trace : List Exchange} {outcome : Outcome (Step × Dashboard)}
    (runs : Runs (board.step event aggregate) trace outcome) :
    Stepped board event aggregate trace outcome := by
  rw [step] at runs
  cases stops : event.stop? with
  | some reason =>
      rw [stops] at runs
      obtain ⟨rfl, rfl⟩ := runs_done.mp runs
      exact .stopped reason stops
  | none =>
      rw [stops] at runs
      by_cases shares : event = .copyView
      · subst shares
        obtain ⟨reply, rest, rfl, later⟩ := runs_ask.mp runs
        cases reply with
        | answer =>
            obtain ⟨rfl, rfl⟩ := runs_done.mp later
            exact .shared rfl (.answer ()) nofun [] (by simp) _
        | error reason =>
            obtain ⟨_, rest, rfl, last⟩ := runs_ask.mp later
            obtain ⟨rfl, rfl⟩ := runs_done.mp last
            exact .shared rfl (.error reason) nofun _ (by simp [Request.reach]) _
        | unwinding =>
            obtain ⟨rfl, rfl⟩ := runs_done.mp later
            exact .unwound rfl
      · simp only [if_neg shares] at runs
        obtain ⟨rfl, rfl⟩ := runs_done.mp runs
        exact .unshared stops shares

end Dashboard

end TimingBoard
