import TimingBoard.Proofs.Aggregate.Producers
import TimingBoard.Proofs.Session.Course
import TimingBoard.Proofs.Session.Frames

namespace TimingBoard

/-! What a session copies, writes and returns.

The worst cases are copied only after a whole report, and how the session exits is told by the
aggregate that the report is about. -/

namespace Report

/-- The exchanges with the output for a report that is written and flushed without an error. -/
def whole (bold : Bool) (aggregate : Aggregate) (flags : ViewFlags) : List Exchange :=
  (parts bold aggregate flags).map (fun part => ⟨.write part, .ok ()⟩) ++ [⟨.flush, .ok ()⟩]

/-- A report has at least the heading of the worst cases. -/
theorem text_ne_empty (bold : Bool) (aggregate : Aggregate) (flags : ViewFlags) :
    text bold aggregate flags ≠ "" := by
  have titled : heading bold worstHeading ≠ "" := by cases bold <;> decide
  rw [text, parts, String.join_append, sectionParts, String.join_cons]
  intro empty
  exact titled (String.append_eq_empty_iff.mp (String.append_eq_empty_iff.mp empty).2).1

theorem outputs_writes (parts : List String) :
    outputs (parts.map fun part => ⟨.write part, .ok ()⟩) =
      parts.map fun part => ⟨.write part, .ok ()⟩ := by
  simp [outputs, Request.reach]

theorem written_writes (parts : List String) :
    written (parts.map fun part => ⟨.write part, .ok ()⟩) = parts := by
  simp [written, Exchange.written?]

theorem copied_writes (parts : List String) :
    copied (parts.map fun part => ⟨.write part, .ok ()⟩) = [] := by
  simp [copied, Exchange.copied?]

theorem copied_of_writes {trace : List Exchange}
    (writes : ∀ exchange ∈ trace, ∃ part, exchange.request = .write part) : copied trace = [] := by
  refine copied_eq_nil fun reached => ?_
  obtain ⟨exchange, member, same⟩ := List.mem_map.mp reached
  obtain ⟨part, asked⟩ := writes exchange member
  rw [asked] at same
  cases same

/-- Either all parts are written, or there is an error and nothing is flushed. -/
theorem runs_writeAll {parts : List String} {trace : List Exchange} {outcome : Outcome Unit}
    (runs : Runs (writeAll parts) trace outcome) :
    outcome = .ok () ∧ trace = parts.map (fun part => ⟨.write part, .ok ()⟩) ∨
      (∃ error, outcome = .failed error) ∧ ∀ exchange ∈ trace, ∃ part, exchange.request = .write part := by
  induction parts generalizing trace with
  | nil =>
      obtain ⟨rfl, rfl⟩ := runs_done.mp runs
      exact .inl ⟨rfl, rfl⟩
  | cons part rest ih =>
      obtain ⟨written, later, rfl, goesOn⟩ := runs_request_bind.mp runs
      cases written with
      | error error =>
          obtain ⟨rfl, rfl⟩ := runs_done.mp goesOn
          exact .inr ⟨⟨error, rfl⟩, by simp⟩
      | ok =>
          rcases ih goesOn with ⟨rfl, rfl⟩ | ⟨failed, writes⟩
          · exact .inl ⟨rfl, rfl⟩
          · exact .inr ⟨failed, List.forall_mem_cons.mpr ⟨⟨part, rfl⟩, writes⟩⟩

theorem runs_copyWorst {aggregate : Aggregate} {trace : List Exchange} {outcome : Outcome Bool}
    (runs : Runs (copyWorst aggregate) trace outcome) :
    copied trace = [aggregate.worstJson] ∧ outputs trace = [] ∧ written trace = [] ∧
      (outcome = .unwound ∧ ⟨.copy aggregate.worstJson, .unwinding⟩ ∈ trace ∨
        ∃ shared, outcome = .ok shared) := by
  obtain ⟨reply, later, rfl, goesOn⟩ := runs_request_bind.mp runs
  cases reply with
  | unwinding =>
      obtain ⟨rfl, rfl⟩ := runs_done.mp goesOn
      exact ⟨rfl, rfl, rfl, .inl ⟨rfl, List.mem_cons_self⟩⟩
  | error error =>
      obtain ⟨rest, rfl, noted⟩ := runs_log_bind.mp goesOn
      obtain ⟨rfl, rfl⟩ := runs_done.mp noted
      exact ⟨rfl, rfl, rfl, .inr ⟨false, rfl⟩⟩
  | answer =>
      obtain ⟨rest, rfl, noted⟩ := runs_log_bind.mp goesOn
      obtain ⟨rfl, rfl⟩ := runs_done.mp noted
      exact ⟨rfl, rfl, rfl, .inr ⟨true, rfl⟩⟩

/-- The ways a report can go. -/
inductive Went (bold : Bool) (aggregate : Aggregate) (reason : StopReason) (flags : ViewFlags)
    (trace : List Exchange) : Outcome ReportOutcome → Prop where
  | empty (nothing : aggregate.isEmpty = true) (quiet : ∀ reach ∈ reaches trace, reach = .elsewhere) :
      Went bold aggregate reason flags trace (.ok ⟨1, false⟩)
  | broken (some : aggregate.isEmpty = false) (error : Error) (uncopied : copied trace = [])
      (unflushed : ⟨.flush, .ok ()⟩ ∉ trace) : Went bold aggregate reason flags trace (.failed error)
  | whole {outcome : Outcome ReportOutcome} (some : aggregate.isEmpty = false)
      (out : outputs trace = whole bold aggregate flags)
      (written : written trace = parts bold aggregate flags)
      (copied : copied trace = if reason = .report then [aggregate.worstJson] else [])
      (ended : outcome = .unwound ∨ ∃ shared, outcome = .ok ⟨0, shared⟩) :
      Went bold aggregate reason flags trace outcome

/-- The worst cases of a report that is out. -/
theorem runs_copies {aggregate : Aggregate} {reason : StopReason} {trace : List Exchange}
    {outcome : Outcome ReportOutcome}
    (runs : Runs (do
      let shared ← if reason.copiesWorst then copyWorst aggregate else pure false
      pure ⟨0, shared⟩) trace outcome) :
    copied trace = (if reason = .report then [aggregate.worstJson] else []) ∧ outputs trace = [] ∧
      written trace = [] ∧
      (outcome = .unwound ∧ ⟨.copy aggregate.worstJson, .unwinding⟩ ∈ trace ∨
        ∃ shared, outcome = .ok ⟨0, shared⟩) := by
  by_cases asked : reason = .report
  · subst asked
    obtain ⟨copies, rest, shared, rfl, shares, ends⟩ := runs_bind.mp runs
    obtain ⟨once, unwritten, silent, ended⟩ := runs_copyWorst shares
    rcases ended with ⟨rfl, unwinding⟩ | ⟨shared, rfl⟩
    · obtain ⟨rfl, rfl⟩ := runs_done.mp ends
      rw [List.append_nil]
      exact ⟨once, unwritten, silent, .inl ⟨rfl, unwinding⟩⟩
    · obtain ⟨rfl, rfl⟩ := runs_done.mp ends
      rw [List.append_nil]
      exact ⟨once, unwritten, silent, .inr ⟨shared, rfl⟩⟩
  · have unasked : reason.copiesWorst = false := by simpa [StopReason.copiesWorst] using asked
    rw [unasked] at runs
    obtain ⟨rfl, rfl⟩ := runs_done.mp runs
    rw [if_neg asked]
    exact ⟨rfl, rfl, rfl, .inr ⟨false, rfl⟩⟩

theorem runs_run {bold : Bool} {aggregate : Aggregate} {reason : StopReason} {flags : ViewFlags}
    {trace : List Exchange} {outcome : Outcome ReportOutcome}
    (runs : Runs (run bold aggregate reason flags) trace outcome) :
    Went bold aggregate reason flags trace outcome := by
  cases empty : aggregate.isEmpty with
  | true =>
      rw [run, empty] at runs
      obtain ⟨rest, rfl, ends⟩ := runs_log_bind.mp runs
      obtain ⟨rfl, rfl⟩ := runs_done.mp ends
      exact .empty empty (by simp [Request.reach])
  | false =>
      rw [run, empty] at runs
      obtain ⟨writes, rest, wrote, rfl, first, last⟩ := runs_bind.mp runs
      rcases runs_writeAll first with ⟨rfl, rfl⟩ | ⟨⟨error, rfl⟩, writes⟩
      · obtain ⟨flushed, later, rfl, goesOn⟩ := runs_request_bind.mp last
        cases flushed with
        | error error =>
            obtain ⟨rfl, rfl⟩ := runs_done.mp goesOn
            refine .broken empty error ?_ (by simp)
            rw [copied_append, copied_writes]
            rfl
        | ok =>
            obtain ⟨copies, unwritten, silent, ended⟩ := runs_copies goesOn
            refine .whole empty ?_ ?_ ?_ (ended.imp_left And.left)
            · rw [outputs_append, outputs_writes]
              exact congrArg (_ ++ ⟨.flush, .ok ()⟩ :: ·) unwritten
            · rw [written_append, written_writes]
              exact (congrArg (_ ++ ·) silent).trans (List.append_nil _)
            · rw [copied_append, copied_writes]
              exact copies
      · obtain ⟨rfl, rfl⟩ := runs_done.mp last
        rw [List.append_nil]
        refine .broken empty error (copied_of_writes writes) fun flushed => ?_
        obtain ⟨part, asked⟩ := writes _ flushed
        cases asked

section Went

variable {bold : Bool} {aggregate : Aggregate} {reason : StopReason} {flags : ViewFlags}
  {trace : List Exchange} {outcome : Outcome ReportOutcome}

/-- The worst cases are due once a report that was asked for is out. -/
theorem Went.copied_of_out (went : Went bold aggregate reason flags trace outcome)
    (asked : reason = .report) (some : aggregate.isEmpty = false)
    (out : outputs trace = Report.whole bold aggregate flags) : copied trace = [aggregate.worstJson] := by
  cases went with
  | empty nothing => exact absurd (some.symm.trans nothing) nofun
  | broken _ error uncopied unflushed =>
      have flushed : ⟨.flush, .ok ()⟩ ∈ outputs trace := by simp [out, Report.whole]
      exact absurd (List.mem_of_mem_filter flushed) unflushed
  | whole _ _ _ copied => rw [copied, if_pos asked]

theorem Went.copied_of_not_out (went : Went bold aggregate reason flags trace outcome)
    (undue : ¬ (reason = .report ∧ aggregate.isEmpty = false ∧
      outputs trace = Report.whole bold aggregate flags)) : copied trace = [] := by
  cases went with
  | empty nothing quiet => exact copied_eq_nil fun reached => nomatch quiet _ reached
  | broken _ error uncopied => exact uncopied
  | whole some out _ copied => rw [copied, if_neg fun asked => undue ⟨asked, some, out⟩]

theorem Went.exitCode_eq_zero_iff {result : ReportOutcome}
    (went : Went bold aggregate reason flags trace (.ok result)) :
    result.exitCode = 0 ↔ aggregate.isEmpty = false := by
  cases went with
  | empty nothing => simp [nothing]
  | whole some _ _ _ ended =>
      obtain ⟨shared, same⟩ := ended.resolve_left nofun
      cases same
      simp [some]

theorem Went.written_iff {result : ReportOutcome}
    (went : Went bold aggregate reason flags trace (.ok result)) :
    String.join (written trace) ≠ "" ↔ result.exitCode = 0 := by
  cases went with
  | empty nothing quiet =>
      rw [written_eq_nil fun reached => nomatch quiet _ reached]
      simp
  | whole some _ texts _ ended =>
      obtain ⟨shared, same⟩ := ended.resolve_left nofun
      cases same
      simp only [texts, iff_true]
      exact text_ne_empty bold aggregate flags

end Went

end Report

namespace Session

variable {rounds : Nat} {plan : SessionPlan} {trace : List Exchange}
  {outcome : Outcome SessionOutcome}

/-- The worst cases are to be copied: the dashboard was stopped for a report, something had come by
the final look, and all of the report is out. -/
structure Reported (plan : SessionPlan) (trace : List Exchange) (aggregate : Aggregate) : Prop where
  stopped : stopReason (events trace) = .report
  final : final? trace = some aggregate
  received : 0 < aggregate.count
  out : outputs trace = Report.whole plan.boldHeadings aggregate (flagsAfter (events trace))

structure Effects (plan : SessionPlan) (trace : List Exchange) (outcome : Outcome SessionOutcome) :
    Prop where
  /-- The views come first, and after them the worst cases. -/
  reported : ∀ aggregate, Reported plan trace aggregate →
    copied trace = sharedTexts (frames trace) ++ [aggregate.worstJson]
  unreported : (∀ aggregate, ¬ Reported plan trace aggregate) →
    copied trace = sharedTexts (frames trace)
  drawn : Draws (frames trace) trace outcome
  reason : ∀ result, outcome = .ok result → result.reason = stopReason (events trace)
  exitCode : ∀ result, outcome = .ok result →
    (result.exitCode = 0 ↔ ∃ aggregate, final? trace = some aggregate ∧ 0 < aggregate.count)
  written : ∀ result, outcome = .ok result →
    (String.join (written trace) ≠ "" ↔ result.exitCode = 0)

/-- A session that ends before the terminal is held. -/
theorem effects_of_quiet (quiet : ∀ reach ∈ reaches trace, reach = .taking ∨ reach = .elsewhere)
    (ended : ∀ result, outcome = .ok result → result = ⟨.interrupt, 1⟩) :
    Effects plan trace outcome := by
  have never (reach : Reach) (different : reach ≠ .taking ∧ reach ≠ .elsewhere) :
      reach ∉ reaches trace :=
    fun reached => (quiet reach reached).elim different.1 different.2
  have unseen : glances trace = [] := glances_eq_nil_of_not_reached (never .terminal (by decide))
  have shownFrames : frames trace = [] := by rw [frames, unseen]; rfl
  have uncopied : copied trace = sharedTexts (frames trace) := by
    rw [copied_eq_nil (never .clipboard (by decide)), shownFrames]
    rfl
  have unfinal : final? trace = none := final?_eq_none (never .givingBack (by decide))
  have undrawn : framed trace = [] := framed_eq_nil (never .terminal (by decide))
  constructor
  · intro aggregate reported
    rw [reported.final] at unfinal
    cases unfinal
  · exact fun _ => uncopied
  · rw [shownFrames]
    exact ⟨undrawn ▸ List.nil_prefix, fun _ => undrawn⟩
  · rintro result same
    rw [ended result same, events, unseen]
    rfl
  · rintro result same
    rw [ended result same, unfinal]
    simp
  · rintro result same
    rw [ended result same, written_eq_nil (never .output (by decide))]
    simp

section Held

variable {opening held rest : List Exchange} {live : Outcome (StopReason × ViewFlags)}
  (asked : ∀ exchange ∈ opening, exchange.request.search)
include asked

theorem not_reached_search {reach : Reach} (different : reach ≠ .elsewhere) :
    reach ∉ reaches opening := by
  intro reached
  obtain ⟨exchange, member, same⟩ := List.mem_map.mp reached
  exact different (same.symm.trans (asked exchange member).elsewhere)

theorem not_givenBack (holds : .givingBack ∉ reaches held) :
    .givingBack ∉ reaches (opening ++ ⟨.acquire, .ok ()⟩ :: held) := by
  simp [Request.reach, not_reached_search asked, holds]

theorem copied_held : copied (opening ++ ⟨.acquire, .ok ()⟩ :: (held ++ rest)) =
    copied held ++ copied rest := by
  rw [copied_append, copied_eq_nil (not_reached_search asked (by decide)), ← copied_append]
  rfl

variable (unused : .terminal ∉ reaches rest) (blind : rest.head?.bind (·.aggregate?) = none)
include unused

theorem framed_held : framed (opening ++ ⟨.acquire, .ok ()⟩ :: (held ++ rest)) = framed held := by
  rw [framed_append, framed_eq_nil (not_reached_search asked (by decide)), List.nil_append]
  refine (framed_append held rest).trans ?_
  rw [framed_eq_nil unused, List.append_nil]

include blind

theorem glances_held : glances (opening ++ ⟨.acquire, .ok ()⟩ :: (held ++ rest)) = glances held := by
  rw [glances_append opening rfl,
    glances_eq_nil_of_not_reached (not_reached_search asked (by decide)), List.nil_append]
  refine (glances_append held blind).trans ?_
  rw [glances_eq_nil_of_not_reached unused, List.append_nil]

/-- Only while the terminal is held there are frames. -/
theorem frames_held (driven : Driven held live) :
    frames (opening ++ ⟨.acquire, .ok ()⟩ :: (held ++ rest)) = frames held := by
  have unsubscribing : ∀ exchange ∈ opening, exchange.request.Unsubscribing :=
    fun exchange member => (asked exchange member).unsubscribing
  rw [frames, glances_held asked unused blind, findSome?_subscribed_append unsubscribing, frames]
  cases subscribed : held.findSome? (·.subscribed?) with
  | none =>
      rw [driven.subscribed subscribed]
      rfl
  | some topic =>
      have first : (⟨.acquire, .ok ()⟩ :: (held ++ rest)).findSome? (·.subscribed?) = some topic :=
        List.findSome?_append.trans (by rw [subscribed]; rfl)
      rw [first]

/-- A session that holds the terminal and comes to no report. -/
theorem effects_of_unreported (driven : Driven held live) (uncopied : .clipboard ∉ reaches rest)
    (unfinal : final? (opening ++ ⟨.acquire, .ok ()⟩ :: (held ++ rest)) = none)
    (unwinds : live = .unwound → outcome = .unwound) (failed : ∀ result, outcome ≠ .ok result) :
    Effects plan (opening ++ ⟨.acquire, .ok ()⟩ :: (held ++ rest)) outcome := by
  have shownFrames := frames_held asked unused blind driven
  have shown : framed (opening ++ ⟨.acquire, .ok ()⟩ :: (held ++ rest)) = framed held :=
    framed_held asked unused
  constructor
  · intro aggregate reported
    rw [reported.final] at unfinal
    cases unfinal
  · intro _
    rw [shownFrames, copied_held asked, copied_eq_nil uncopied, List.append_nil]
    exact driven.shared
  · rw [shownFrames]
    exact ⟨shown ▸ driven.drawn.inOrder,
      fun ended => shown.trans (driven.drawn.all fun unwound => ended (unwinds unwound))⟩
  · exact fun result same => absurd same (failed result)
  · exact fun result same => absurd same (failed result)
  · exact fun result same => absurd same (failed result)

end Held

/-- After the final look comes the report, and its exit code is that of the session. -/
theorem runs_closing {stopped : StopReason × ViewFlags} {rest : List Exchange}
    (runs : Runs (closing plan stopped) rest outcome) :
    ∃ aggregate report reported, rest = ⟨.snapshot, aggregate⟩ :: report ∧
      Report.Went plan.boldHeadings aggregate stopped.1 stopped.2 report reported ∧
      ∀ result, outcome = .ok result →
        result.reason = stopped.1 ∧ ∃ shared, reported = .ok ⟨result.exitCode, shared⟩ := by
  obtain ⟨aggregate, rest, rfl, reports⟩ := runs_request_bind.mp runs
  obtain ⟨report, after, reported, rfl, first, last⟩ := runs_bind.mp reports
  have went := Report.runs_run first
  cases reported with
  | ok value =>
      obtain ⟨rfl, rfl⟩ := runs_done.mp last
      refine ⟨aggregate, report, _, by rw [List.append_nil], went, ?_⟩
      rintro result same
      cases same
      exact ⟨rfl, value.copiedWorst, rfl⟩
  | failed error =>
      obtain ⟨rfl, rfl⟩ := runs_done.mp last
      exact ⟨aggregate, report, _, by rw [List.append_nil], went, nofun⟩
  | unwound =>
      obtain ⟨rfl, rfl⟩ := runs_done.mp last
      exact ⟨aggregate, report, _, by rw [List.append_nil], went, nofun⟩
  | unfinished =>
      obtain ⟨rfl, rfl⟩ := runs_done.mp last
      exact ⟨aggregate, report, _, by rw [List.append_nil], went, nofun⟩

/-- A session that gives the terminal back and looks at the aggregate for its report. -/
theorem effects_of_closing {opening held rest : List Exchange} {stopped : StopReason × ViewFlags}
    (asked : ∀ exchange ∈ opening, exchange.request.search) (driven : Driven held (.ok stopped))
    (holds : ∀ reach ∈ reaches held, reach.live) (runs : Runs (closing plan stopped) rest outcome)
    (received : ∀ aggregate, ⟨.snapshot, aggregate⟩ ∈ rest →
      (aggregate.isEmpty = false ↔ 0 < aggregate.count)) :
    Effects plan (opening ++ ⟨.acquire, .ok ()⟩ :: (held ++ ⟨.restore, .ok ()⟩ :: rest)) outcome := by
  have reporting := runs.reaches Reach.reporting (closing_reports plan stopped)
  obtain ⟨aggregate, report, reported, rfl, went, returned⟩ := runs_closing runs
  obtain ⟨reason, flags⟩ := stopped
  generalize whole : opening ++ ⟨.acquire, .ok ()⟩ :: (held ++ ⟨.restore, .ok ()⟩ ::
    ⟨.snapshot, aggregate⟩ :: report) = trace
  have unused : .terminal ∉ reaches (⟨.restore, .ok ()⟩ :: ⟨.snapshot, aggregate⟩ :: report) := by
    intro reached
    rcases List.mem_cons.mp reached with same | reached
    · cases same
    · exact reporting _ reached
  have unreached (reach : Reach) (different : reach ≠ .elsewhere) (dead : ¬ reach.live) :
      reach ∉ reaches opening ∧ reach ∉ reaches held :=
    ⟨not_reached_search asked different, fun reached => dead (holds reach reached)⟩
  have seen : events trace = events held := by
    rw [← whole, events, glances_held asked unused rfl, events]
  have shownFrames : frames trace = frames held := whole ▸ frames_held asked unused rfl driven
  have shown : framed trace = framed held := whole ▸ framed_held asked unused
  have copies : copied trace = sharedTexts (frames trace) ++ copied report := by
    rw [shownFrames, ← whole, copied_held asked, driven.shared]
    rfl
  have final : final? trace = some aggregate := by
    have ended := (unreached .givingBack (by decide) id).2
    rw [← whole, ← List.cons_append, ← List.append_assoc, final?_append (not_givenBack asked ended)]
    rfl
  have out : outputs trace = outputs report := by
    obtain ⟨started, ended⟩ := unreached .output (by decide) id
    rw [← whole, outputs_append, outputs_eq_nil started]
    refine (outputs_append held _).trans ?_
    rw [outputs_eq_nil ended]
    rfl
  have texts : written trace = written report := by
    obtain ⟨started, ended⟩ := unreached .output (by decide) id
    rw [← whole, written_append, written_eq_nil started]
    refine (written_append held _).trans ?_
    rw [written_eq_nil ended]
    rfl
  obtain ⟨reasoned, flagged⟩ := driven.stopped reason flags rfl
  rw [← seen] at reasoned flagged
  have received := received aggregate List.mem_cons_self
  have due {other : Aggregate} : Reported plan trace other → other = aggregate ∧ reason = .report ∧
      aggregate.isEmpty = false ∧ outputs report = Report.whole plan.boldHeadings aggregate flags := by
    intro reported
    cases Option.some.inj (reported.final.symm.trans final)
    exact ⟨rfl, reasoned.trans reported.stopped, received.mpr reported.received,
      by rw [flagged, ← out]; exact reported.out⟩
  constructor
  · intro other reported
    obtain ⟨rfl, asked, some, whole⟩ := due reported
    rw [copies, went.copied_of_out asked some whole]
  · intro unreported
    rw [copies, went.copied_of_not_out, List.append_nil]
    rintro ⟨asked, some, whole⟩
    exact unreported aggregate
      ⟨reasoned.symm.trans asked, final, received.mp some, by rw [out, whole, flagged]⟩
  · rw [shownFrames]
    exact ⟨shown ▸ driven.drawn.inOrder, fun _ => shown.trans (driven.drawn.all (by simp))⟩
  · exact fun result same => (returned result same).1.trans reasoned
  · intro result same
    obtain ⟨-, shared, rfl⟩ := returned result same
    rw [went.exitCode_eq_zero_iff, received, final]
    simp
  · intro result same
    obtain ⟨-, shared, rfl⟩ := returned result same
    rw [texts, went.written_iff]

/-- A session that gives the terminal back without a report. -/
theorem effects_of_failed {opening held : List Exchange} {live : Outcome (StopReason × ViewFlags)}
    {restored : Except Error Unit} (asked : ∀ exchange ∈ opening, exchange.request.search)
    (driven : Driven held live) (holds : ∀ reach ∈ reaches held, reach.live)
    (unwinds : live = .unwound → outcome = .unwound) (failed : ∀ result, outcome ≠ .ok result) :
    Effects plan (opening ++ ⟨.acquire, .ok ()⟩ ::
      (held ++ ⟨.restore, restored⟩ :: restoreNotes (noteSource live) restored)) outcome := by
  have notes {reach : Reach} (different : reach ≠ .givingBack ∧ reach ≠ .elsewhere) :
      reach ∉ reaches (⟨.restore, restored⟩ :: restoreNotes (noteSource live) restored) := by
    cases restored <;> simp [restoreNotes, Request.reach, different]
  have before := not_givenBack asked (holds .givingBack)
  refine effects_of_unreported asked (notes (by decide)) ?_ driven (notes (by decide)) ?_ unwinds failed
  · rfl
  · rw [← List.cons_append, ← List.append_assoc, final?_append before]
    cases restored <;> rfl

theorem run_effects (runs : Runs (run rounds plan) trace outcome)
    (received : ∀ aggregate, ⟨.snapshot, aggregate⟩ ∈ trace →
      ∃ tracksTotal arrivals, aggregate = (Aggregate.new tracksTotal).takeAll arrivals) :
    Effects plan trace outcome := by
  cases run_course runs with
  | early quiet nothing =>
      exact effects_of_quiet (fun reach reached => .inr (quiet reach reached)) nothing
  | @borrowed search taken rest topics live outcome found borrows closes =>
      have asked : ∀ exchange ∈ search ++ [foundNote topics, ⟨.interruptFlag, false⟩],
          exchange.request.search := by
        have asked := found.asked (Discovery.waitForTopics_asks _ _ _ _)
        simpa [or_imp, forall_and, foundNote, Request.search] using asked
      generalize search ++ [foundNote topics, ⟨.interruptFlag, false⟩] = opening at asked received ⊢
      cases borrows with
      | refused error =>
          obtain ⟨rfl, rfl⟩ := runs_done.mp closes
          refine effects_of_quiet (fun reach reached => ?_) nofun
          by_cases same : reach = .elsewhere
          · exact .inr same
          · have last := (List.mem_append.mp (reaches_append .. ▸ reached)).resolve_left
              (not_reached_search asked same)
            exact .inl (List.mem_singleton.mp last)
      | @unfinished held drives =>
          obtain ⟨rfl, rfl⟩ := runs_done.mp closes
          have holds : .givingBack ∉ reaches held :=
            drives.not_reached Reach.live (drive_asks _ _ _) id
          refine effects_of_unreported asked List.not_mem_nil rfl (drive_driven drives)
            List.not_mem_nil (final?_eq_none ?_) nofun nofun
          rw [List.append_nil]
          exact not_givenBack asked holds
      | @returned held live drives ended restored =>
          have holds := drives.reaches Reach.live (drive_asks _ _ _)
          have driven := drive_driven drives
          cases live with
          | ok stopped =>
              cases restored with
              | ok =>
                  rw [List.cons_append, List.append_assoc]
                  refine effects_of_closing asked driven holds closes fun aggregate member => ?_
                  have member : ⟨.snapshot, aggregate⟩ ∈ rest := member
                  obtain ⟨tracksTotal, arrivals, rfl⟩ := received aggregate (by simp [member])
                  exact Aggregate.isEmpty_takeAll tracksTotal arrivals
              | error error =>
                  obtain ⟨rfl, rfl⟩ := runs_done.mp closes
                  rw [List.append_nil]
                  exact effects_of_failed asked driven holds nofun nofun
          | failed error =>
              obtain ⟨rfl, rfl⟩ := runs_done.mp closes
              rw [List.append_nil]
              exact effects_of_failed asked driven holds nofun nofun
          | unwound =>
              obtain ⟨rfl, rfl⟩ := runs_done.mp closes
              rw [List.append_nil]
              exact effects_of_failed asked driven holds (fun _ => rfl) nofun
          | unfinished => exact absurd rfl ended

end Session

end TimingBoard
