import TimingBoard.Proofs.Session.Effects

namespace TimingBoard

/-! A clipboard that fails.

Two programs are alike if they differ only in what a copy that did not unwind has left behind: in log
records and in the status line.  A run of the one is then a run of the other, with whatever the
clipboard answers there. -/

/-- Both unwind, or both come back. -/
def Reply.SameEnd (first second : Reply Unit) : Prop := first = .unwinding ↔ second = .unwinding

namespace Exchange

def reply? : Exchange → Option (Reply Unit)
  | ⟨.copy _, reply⟩ => some reply
  | _ => none

def isLog : Exchange → Bool
  | ⟨.log _, _⟩ => true
  | _ => false

/-- The same request and the same answer, up to the answers of the clipboard and status lines. -/
inductive Alike : Exchange → Exchange → Prop where
  | same (exchange : Exchange) : Alike exchange exchange
  | copy (text : String) {first second : Reply Unit} (ends : first.SameEnd second) :
      Alike ⟨.copy text, first⟩ ⟨.copy text, second⟩
  | frame (text first second : String) (reply : Reply Unit) :
      Alike ⟨.draw (.trees ⟨text, first⟩), reply⟩ ⟨.draw (.trees ⟨text, second⟩), reply⟩

end Exchange

/-- What the clipboard has answered. -/
def replies (trace : List Exchange) : List (Reply Unit) := trace.filterMap (·.reply?)

def unlogged (trace : List Exchange) : List Exchange := trace.filter fun exchange => !exchange.isLog

inductive Outcome.Alike (related : α → β → Prop) : Outcome α → Outcome β → Prop where
  | ok {first : α} {second : β} (values : related first second) : Alike related (.ok first) (.ok second)
  | failed (error : Error) : Alike related (.failed error) (.failed error)
  | unwound : Alike related .unwound .unwound
  | unfinished : Alike related .unfinished .unfinished

inductive Program.Alike (related : α → β → Prop) : Program α → Program β → Prop where
  | done {first : Outcome α} {second : Outcome β} (ends : first.Alike related second) :
      Alike related (.done first) (.done second)
  | ask {request : Request} {next : request.Answer → Program α} {later : request.Answer → Program β}
      (other : request.reach ≠ .clipboard) (rest : ∀ answer, Alike related (next answer) (later answer)) :
      Alike related (.ask request next) (.ask request later)
  | copy {text : String} {next : Reply Unit → Program α} {later : Reply Unit → Program β}
      (rest : ∀ first second, first.SameEnd second → Alike related (next first) (later second)) :
      Alike related (.ask (.copy text) next) (.ask (.copy text) later)
  | frame {text first second : String} {next : Reply Unit → Program α} {later : Reply Unit → Program β}
      (rest : ∀ reply, Alike related (next reply) (later reply)) :
      Alike related (.ask (.draw (.trees ⟨text, first⟩)) next) (.ask (.draw (.trees ⟨text, second⟩)) later)
  | logFirst {record : LogRecord} {next : Unit → Program α} {other : Program β}
      (rest : Alike related (next ()) other) : Alike related (.ask (.log record) next) other
  | logSecond {record : LogRecord} {program : Program α} {later : Unit → Program β}
      (rest : Alike related program (later ())) : Alike related program (.ask (.log record) later)

namespace Program.Alike

variable {α β γ δ : Type} {related : α → β → Prop} {first : Program α} {second : Program β}

theorem refl {program : Program α} (asks : program.AsksOnly (·.reach ≠ .clipboard)) :
    program.Alike Eq program := by
  induction program with
  | done outcome => cases outcome <;> exact .done (by constructor <;> rfl)
  | ask request next ih => exact .ask asks.1 fun answer => ih answer (asks.2 answer)

theorem bind {results : γ → δ → Prop} {next : α → Program γ} {later : β → Program δ}
    (alike : first.Alike related second)
    (rest : ∀ value other, related value other → (next value).Alike results (later other)) :
    (first >>= next).Alike results (second >>= later) := by
  induction alike with
  | done ends =>
      rw [done_bind, done_bind]
      cases ends with
      | ok values => exact rest _ _ values
      | failed error => exact .done (.failed error)
      | unwound => exact .done .unwound
      | unfinished => exact .done .unfinished
  | ask other _ ih => exact .ask other ih
  | copy _ ih => exact .copy ih
  | frame _ ih => exact .frame ih
  | logFirst _ ih => exact .logFirst ih
  | logSecond _ ih => exact .logSecond ih

theorem attempt (alike : first.Alike related second) :
    first.attempt.Alike (Outcome.Alike related) second.attempt := by
  induction alike with
  | done ends => exact .done (.ok ends)
  | ask other _ ih => exact .ask other ih
  | copy _ ih => exact .copy ih
  | frame _ ih => exact .frame ih
  | logFirst _ ih => exact .logFirst ih
  | logSecond _ ih => exact .logSecond ih

/-- A run of the one is a run of the other, with other answers of the clipboard. -/
theorem runs (alike : first.Alike related second) {trace : List Exchange} {outcome : Outcome α}
    {answers : List (Reply Unit)} (runs : Runs first trace outcome)
    (answered : List.Forall₂ Reply.SameEnd (replies trace) answers) :
    ∃ other ended, Runs second other ended ∧ outcome.Alike related ended ∧ replies other = answers ∧
      List.Forall₂ Exchange.Alike (unlogged trace) (unlogged other) := by
  induction alike generalizing trace answers with
  | @done first second ends =>
      obtain ⟨rfl, rfl⟩ := runs_done.mp runs
      cases answered
      exact ⟨[], second, .done, ends, rfl, .nil⟩
  | @ask request next later different _ ih =>
      obtain ⟨answer, rest, rfl, goesOn⟩ := runs_ask.mp runs
      have unasked (rest : List Exchange) : replies (⟨request, answer⟩ :: rest) = replies rest := by
        cases request <;> first | rfl | exact absurd rfl different
      rw [unasked] at answered
      obtain ⟨other, ended, goes, ends, replied, same⟩ := ih answer goesOn answered
      refine ⟨⟨request, answer⟩ :: other, ended, .ask answer goes, ends, (unasked other).trans replied, ?_⟩
      by_cases logged : Exchange.isLog ⟨request, answer⟩
      · simpa [unlogged, logged] using same
      · simpa [unlogged, logged] using ⟨.same _, same⟩
  | copy _ ih =>
      obtain ⟨reply, rest, rfl, goesOn⟩ := runs_ask.mp runs
      cases answered with
      | cons ends answered =>
        obtain ⟨other, ended, goes, outcomes, rfl, same⟩ := ih _ _ ends goesOn answered
        exact ⟨_ :: other, ended, .ask _ goes, outcomes, rfl, .cons (.copy _ ends) same⟩
  | @frame text _ status _ _ _ ih =>
      obtain ⟨reply, rest, rfl, goesOn⟩ := runs_ask.mp runs
      obtain ⟨other, ended, goes, ends, rfl, same⟩ := ih reply goesOn answered
      exact ⟨⟨.draw (.trees ⟨text, status⟩), reply⟩ :: other, ended,
        runs_ask.mpr ⟨reply, other, rfl, goes⟩, ends, rfl, .cons (.frame _ _ _ reply) same⟩
  | logFirst _ ih =>
      obtain ⟨_, rest, rfl, goesOn⟩ := runs_ask.mp runs
      obtain ⟨other, ended, goes, ends, rfl, same⟩ := ih goesOn answered
      exact ⟨other, ended, goes, ends, rfl, same⟩
  | logSecond _ ih =>
      obtain ⟨other, ended, goes, ends, rfl, same⟩ := ih runs answered
      exact ⟨_ :: other, ended, .ask () goes, ends, rfl, same⟩

end Program.Alike

theorem Outcome.Alike.eq {first second : Outcome α} (alike : first.Alike Eq second) :
    first = second := by
  cases alike with
  | ok values => rw [values]
  | failed error => rfl
  | unwound => rfl
  | unfinished => rfl

open Program

namespace Dashboard

/-- The same step, up to the status line and what it is made of. -/
inductive SameStep : Step × Dashboard → Step × Dashboard → Prop where
  | stopped (reason : StopReason) (board : Dashboard) (notice : Option String) :
      SameStep (.stopped reason, board) (.stopped reason, { board with notice })
  | running (board : Dashboard) (notice : Option String) (aggregate : Aggregate) :
      SameStep (.running (board.frame aggregate), board)
        (.running ({ board with notice }.frame aggregate), { board with notice })

theorem copyView_alike (board : Dashboard) (notice : Option String) (aggregate : Aggregate) :
    (board.copyView aggregate).Alike (fun first second => ∃ notice, second = { first with notice })
      ({ board with notice }.copyView aggregate) := by
  refine .copy fun first second ends => ?_
  cases first with
  | answer =>
      cases second with
      | answer => exact .done (.ok ⟨_, rfl⟩)
      | error reason => exact .logSecond (.done (.ok ⟨_, rfl⟩))
      | unwinding => exact nomatch ends.mpr rfl
  | error reason =>
      cases second with
      | answer => exact .logFirst (.done (.ok ⟨_, rfl⟩))
      | error other => exact .logFirst (.logSecond (.done (.ok ⟨_, rfl⟩)))
      | unwinding => exact nomatch ends.mpr rfl
  | unwinding =>
      rw [ends.mp rfl]
      exact .done .unwound

theorem step_alike (board : Dashboard) (notice : Option String) (event : Event)
    (aggregate : Aggregate) :
    (board.step event aggregate).Alike SameStep ({ board with notice }.step event aggregate) := by
  rw [step, step]
  cases event.stop? with
  | some reason => exact .done (.ok (.stopped reason board notice))
  | none =>
      by_cases shares : event = .copyView
      · subst shares
        refine (copyView_alike board notice aggregate).bind ?_
        rintro first second ⟨notice, rfl⟩
        exact .done (.ok (.running first notice aggregate))
      · simp only [if_neg shares]
        exact .done (.ok (.running { board with flags := event.flags board.flags } notice aggregate))

theorem refreshFrom_alike (interval : Nat) (board : Dashboard) (notice : Option String)
    (start rounds : Nat) :
    (board.refreshFrom interval start rounds).Alike
      (fun first second => first.1 = second.1 ∧ first.2.flags = second.2.flags)
      ({ board with notice }.refreshFrom interval start rounds) := by
  induction rounds generalizing board notice start with
  | zero => exact .done (.ok ⟨rfl, rfl⟩)
  | succ rounds ih =>
      rw [refreshFrom_succ, refreshFrom_succ]
      refine .ask nofun fun raised => ?_
      cases raised with
      | true => exact .ask nofun fun _ => .done (.ok ⟨rfl, rfl⟩)
      | false =>
          refine .ask nofun fun now => .ask nofun fun polled => ?_
          cases polled with
          | error reason => exact .done (.ok ⟨rfl, rfl⟩)
          | unwinding => exact .done (.ok ⟨rfl, rfl⟩)
          | answer key =>
              refine .ask nofun fun aggregate => (step_alike board notice _ aggregate).bind ?_
              rintro _ _ (⟨reason, board, notice⟩ | ⟨board, notice, aggregate⟩)
              · exact .ask nofun fun _ => .done (.ok ⟨rfl, rfl⟩)
              · refine .frame fun drawn => ?_
                cases drawn with
                | error reason => exact .done (.ok ⟨rfl, rfl⟩)
                | unwinding => exact .done (.ok ⟨rfl, rfl⟩)
                | answer =>
                    have asks : (nextStart interval start).AsksOnly (·.reach ≠ .clipboard) :=
                      (nextStart_asks interval start).mono fun _ same => same ▸ nofun
                    refine (Alike.refl asks).bind ?_
                    rintro start _ rfl
                    exact ih board notice start

theorem refresh_alike (interval : Nat) (board : Dashboard) (notice : Option String) (rounds : Nat) :
    (board.refresh interval rounds).Alike
      (fun first second => first.1 = second.1 ∧ first.2.flags = second.2.flags)
      ({ board with notice }.refresh interval rounds) :=
  .ask nofun fun start => refreshFrom_alike interval board notice start rounds

end Dashboard

theorem Report.copyWorst_alike (aggregate : Aggregate) :
    (copyWorst aggregate).Alike (fun _ _ => True) (copyWorst aggregate) := by
  refine .copy fun first second ends => ?_
  cases first with
  | answer =>
      cases second with
      | answer => exact .ask nofun fun _ => .done (.ok trivial)
      | error reason => exact .logFirst (.logSecond (.done (.ok trivial)))
      | unwinding => exact nomatch ends.mpr rfl
  | error reason =>
      cases second with
      | answer => exact .logFirst (.logSecond (.done (.ok trivial)))
      | error other => exact .logFirst (.logSecond (.done (.ok trivial)))
      | unwinding => exact nomatch ends.mpr rfl
  | unwinding =>
      rw [ends.mp rfl]
      exact .done .unwound

theorem Report.run_alike (bold : Bool) (aggregate : Aggregate) (reason : StopReason)
    (flags : ViewFlags) :
    (run bold aggregate reason flags).Alike (fun first second => first.exitCode = second.exitCode)
      (run bold aggregate reason flags) := by
  unfold run
  split
  · exact .ask nofun fun _ => .done (.ok rfl)
  · refine (Alike.refl ((writeAll_asks _).mono fun _ same => same ▸ nofun)).bind fun _ _ _ => ?_
    refine .ask nofun fun flushed => ?_
    cases flushed with
    | error error => exact .done (.failed error)
    | ok =>
        cases reason.copiesWorst with
        | true => exact (copyWorst_alike aggregate).bind fun _ _ _ => .done (.ok rfl)
        | false => exact .done (.ok rfl)

namespace Session

theorem drive_alike (rounds : Nat) (plan : SessionPlan) (topics : List String) :
    (drive rounds plan topics).Alike Eq (drive rounds plan topics) := by
  have chooses : (chooseTopic rounds topics).AsksOnly (·.reach ≠ .clipboard) :=
    (chooseTopic_asks rounds topics).mono fun request asked => by
      cases request <;> first | exact asked.elim | exact nofun
  refine (Alike.refl chooses).bind ?_
  rintro chosen _ rfl
  cases chosen with
  | none => exact .ask nofun fun _ => .done (.ok rfl)
  | some topic =>
      refine (Alike.refl ((subscribeAll_asks [topic]).mono fun _ same => same ▸ nofun)).bind fun _ _ _ => ?_
      refine .ask nofun fun _ => ?_
      refine (Dashboard.refresh_alike plan.tick _ none rounds).bind ?_
      rintro ⟨verdict, board⟩ ⟨_, other⟩ ⟨rfl, flags⟩
      cases verdict with
      | ok reason => exact .ask nofun fun _ => .ask nofun fun _ => .done (.ok (by rw [flags]))
      | failed error => exact .ask nofun fun _ => .ask nofun fun _ => .done (.failed error)
      | unwound => exact .done .unwound
      | unfinished => exact .done .unfinished

theorem settle_asks (live : Outcome α) :
    (settle Lease.new live).AsksOnly (·.reach ≠ .clipboard) := by
  refine ⟨nofun, fun released => ?_⟩
  cases released with
  | ok => cases live <;> trivial
  | error error => exact ⟨nofun, fun _ => by cases live <;> trivial⟩

theorem drop_asks : Lease.new.drop.AsksOnly (·.reach ≠ .clipboard) := by
  refine ⟨nofun, fun released => ?_⟩
  cases released with
  | ok => trivial
  | error error => exact ⟨nofun, fun _ => trivial⟩

theorem withTerminal_alike {body : Program α} (alike : body.Alike Eq body) :
    (withTerminal body).Alike Eq (withTerminal body) := by
  refine .ask nofun fun answer => ?_
  cases answer with
  | error error => exact .done (.failed error)
  | ok =>
      refine alike.attempt.bind fun live other same => ?_
      cases same.eq
      refine .refl ?_
      cases live with
      | unfinished => trivial
      | unwound => exact drop_asks.bind fun _ => trivial
      | ok value => exact settle_asks (.ok value)
      | failed error => exact settle_asks (.failed error)

theorem run_alike (rounds : Nat) (plan : SessionPlan) :
    (run rounds plan).Alike Eq (run rounds plan) := by
  have searches : (topics? rounds plan).AsksOnly (·.reach ≠ .clipboard) :=
    (topics?_asks rounds plan).mono fun _ asked => asked.elsewhere ▸ nofun
  refine (Alike.refl searches).bind ?_
  rintro found _ rfl
  cases found with
  | none => exact .ask nofun fun _ => .done (.ok rfl)
  | some topics =>
      refine (withTerminal_alike (drive_alike rounds plan topics)).bind ?_
      rintro ⟨reason, flags⟩ _ rfl
      refine .ask nofun fun aggregate => ?_
      refine (Report.run_alike plan.boldHeadings aggregate reason flags).bind ?_
      exact fun first second same => .done (.ok (by rw [same]))

/-- Output is not excepted from being alike. -/
theorem outputs_of_alike {trace other : List Exchange}
    (alike : List.Forall₂ Exchange.Alike (unlogged trace) (unlogged other)) :
    outputs other = outputs trace := by
  have same {left right : List Exchange} (alike : List.Forall₂ Exchange.Alike left right) :
      outputs right = outputs left := by
    induction alike with
    | nil => rfl
    | @cons first second _ _ here _ ih =>
        cases here with
        | same => rw [outputs, outputs, List.filter_cons, List.filter_cons, ← outputs, ← outputs, ih]
        | copy => exact ih
        | frame => exact ih
  have kept (trace : List Exchange) : outputs (unlogged trace) = outputs trace := by
    rw [outputs, outputs, unlogged, List.filter_filter]
    refine List.filter_congr fun exchange _ => ?_
    obtain ⟨request, answer⟩ := exchange
    cases request <;> rfl
  rw [← kept trace, ← kept other]
  exact same alike

/-- Which texts a session copies, and when, what it writes, and how it exits; and that a clipboard
which fails changes nothing else. -/
theorem run_copies {rounds : Nat} {plan : SessionPlan} {trace : List Exchange}
    {outcome : Outcome SessionOutcome} (runs : Runs (run rounds plan) trace outcome)
    (received : ∀ aggregate, ⟨.snapshot, aggregate⟩ ∈ trace →
      ∃ tracksTotal arrivals, aggregate = (Aggregate.new tracksTotal).takeAll arrivals) :
    Effects plan trace outcome ∧
      ∀ answers, List.Forall₂ Reply.SameEnd (replies trace) answers →
        ∃ other, Runs (run rounds plan) other outcome ∧ replies other = answers ∧
          List.Forall₂ Exchange.Alike (unlogged trace) (unlogged other) ∧
          outputs other = outputs trace := by
  refine ⟨run_effects runs received, fun answers answered => ?_⟩
  obtain ⟨other, ended, goes, ends, replied, alike⟩ := (run_alike rounds plan).runs runs answered
  rw [← ends.eq] at goes
  exact ⟨other, goes, replied, alike, outputs_of_alike alike⟩

/-- One call has been received before the first tick. -/
def heard : Aggregate := (Aggregate.new false).takeAll [⟨60, ⟨"planner", "call", .zero, none, []⟩⟩]

def shownHeard : String := frameText (some "planner") [] heard

def heardStatus (notice : Option String) : String :=
  Dashboard.statusLine ⟨LiveView.defaultTitle, some "planner", "viz", .utc, {}, notice⟩ heard

/-- The view is to be copied, which fails, and then the report is asked for. -/
def refusedCopy : List Exchange :=
  [⟨.now, 0⟩, ⟨.interruptFlag, false⟩, ⟨.discover, .ok ["planner"]⟩, foundNote ["planner"],
    ⟨.interruptFlag, false⟩, ⟨.acquire, .ok ()⟩, ⟨.subscribe "planner", .answer ()⟩,
    ⟨.log ⟨.ingestion, .info, "Ingestion started for 1 topic(s)"⟩, ()⟩, ⟨.now, 0⟩,
    ⟨.interruptFlag, false⟩, ⟨.now, 0⟩, ⟨.poll 100, .answer (some ⟨.char 'y', []⟩)⟩,
    ⟨.snapshot, heard⟩,
    ⟨.copy shownHeard, .error (.clipboard "no display")⟩,
    ⟨.log ⟨.dashboard, .warn, "Export failed: " ++ (Error.clipboard "no display").message⟩, ()⟩,
    ⟨.draw (.trees ⟨shownHeard, heardStatus (Error.clipboard "no display").message⟩), .answer ()⟩,
    ⟨.now, 30⟩, ⟨.interruptFlag, false⟩, ⟨.now, 40⟩,
    ⟨.poll 60, .answer (some ⟨.char 'r', []⟩)⟩, ⟨.snapshot, heard⟩,
    ⟨.log ⟨.dashboard, .info, "Refresh loop stopped: " ++ StopReason.report.name⟩, ()⟩,
    ⟨.log ⟨.ingestion, .info, "Shutting down ingestion"⟩, ()⟩, ⟨.stopIngestion, ()⟩,
    ⟨.restore, .ok ()⟩, ⟨.snapshot, heard⟩] ++
  Report.whole false heard {} ++
  [⟨.copy heard.worstJson, .answer ()⟩,
    ⟨.log ⟨.report, .info,
      "Copied " ++ toString heard.worst.size ++ " worst-case tree(s) to clipboard"⟩, ()⟩]

theorem runs_refusedCopy :
    Runs (run 2 ⟨"ProcessingTimeTree", some "planner", 0, 100, "viz", false, .utc⟩) refusedCopy
      (.ok ⟨.report, 0⟩) := by
  repeat' constructor

theorem received_refusedCopy (aggregate : Aggregate) (member : ⟨.snapshot, aggregate⟩ ∈ refusedCopy) :
    ∃ tracksTotal arrivals, aggregate = (Aggregate.new tracksTotal).takeAll arrivals := by
  have same : aggregate = heard := by
    simpa [refusedCopy, foundNote, Report.whole] using member
  exact ⟨false, _, same⟩

theorem run_copies_refusedCopy :
    let plan : SessionPlan := ⟨"ProcessingTimeTree", some "planner", 0, 100, "viz", false, .utc⟩
    let answers : List (Reply Unit) := [.answer (), .error (.clipboard "no display")]
    Runs (run 2 plan) refusedCopy (.ok ⟨.report, 0⟩) ∧
      (∀ aggregate, ⟨.snapshot, aggregate⟩ ∈ refusedCopy →
        ∃ tracksTotal arrivals, aggregate = (Aggregate.new tracksTotal).takeAll arrivals) ∧
      copied refusedCopy = [shownHeard, heard.worstJson] ∧
      Effects plan refusedCopy (.ok ⟨.report, 0⟩) ∧
      ∃ other, Runs (run 2 plan) other (.ok ⟨.report, 0⟩) ∧ replies other = answers ∧
        List.Forall₂ Exchange.Alike (unlogged refusedCopy) (unlogged other) ∧
        outputs other = outputs refusedCopy := by
  intro plan answers
  obtain ⟨effects, otherwise⟩ := run_copies runs_refusedCopy received_refusedCopy
  have answered : List.Forall₂ Reply.SameEnd (replies refusedCopy) answers :=
    .cons (by simp [Reply.SameEnd]) (.cons (by simp [Reply.SameEnd]) .nil)
  exact ⟨runs_refusedCopy, received_refusedCopy, rfl, effects, otherwise answers answered⟩

end Session

end TimingBoard
