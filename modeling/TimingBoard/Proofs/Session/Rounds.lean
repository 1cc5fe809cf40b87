import TimingBoard.Proofs.Session.Runs
import TimingBoard.Session.Basic

namespace TimingBoard

/-! A session that comes to its end does so with any larger number of rounds as well.

One more round changes a loop only where the loop had none left.  This carries over from a program
to whatever goes on with its outcome, as long as that does not go on without rounds. -/

variable {α β : Type}

/-- `longer` differs from the program at most where the program ends with a spent outcome. -/
inductive Program.ExtendedBy (spent : Outcome α → Prop) : Program α → Program α → Prop where
  | spent {outcome : Outcome α} {longer : Program α} (stuck : spent outcome) :
      ExtendedBy spent (.done outcome) longer
  | done {outcome : Outcome α} : ExtendedBy spent (.done outcome) (.done outcome)
  | ask {request : Request} {next longer : request.Answer → Program α}
      (rest : ∀ answer, (next answer).ExtendedBy spent (longer answer)) :
      ExtendedBy spent (.ask request next) (.ask request longer)

namespace Program.ExtendedBy

variable {spent : Outcome α → Prop} {after : Outcome β → Prop} {program longer : Program α}

theorem refl (program : Program α) : program.ExtendedBy spent program := by
  induction program with
  | done outcome => exact .done
  | ask request next ih => exact .ask ih

theorem ask_bind {request : Request} {next longer : request.Answer → Program β}
    (rest : ∀ answer, (next answer).ExtendedBy after (longer answer)) :
    (Program.request request >>= next).ExtendedBy after (Program.request request >>= longer) :=
  .ask rest

theorem bind {next later : α → Program β} (first : program.ExtendedBy spent longer)
    (stops : ∀ outcome, spent outcome → ∃ last, outcome.andThen next = .done last ∧ after last)
    (rest : ∀ value, (next value).ExtendedBy after (later value)) :
    (program >>= next).ExtendedBy after (longer >>= later) := by
  induction first with
  | @spent outcome longer stuck =>
      obtain ⟨last, stopped, still⟩ := stops outcome stuck
      rw [done_bind, stopped]
      exact .spent still
  | @done outcome =>
      rw [done_bind, done_bind]
      cases outcome with
      | ok value => exact rest value
      | failed error => exact .done
      | unwound => exact .done
      | unfinished => exact .done
  | ask _ ih => exact .ask ih

/-- What comes first needs no rounds. -/
theorem bind_right (program : Program α) {next later : α → Program β}
    (rest : ∀ value, (next value).ExtendedBy after (later value)) :
    (program >>= next).ExtendedBy after (program >>= later) := by
  have same : program.ExtendedBy (fun _ => False) program := .refl program
  exact same.bind (fun _ => False.elim) rest

theorem bind_unfinished {next later : α → Program β}
    (first : program.ExtendedBy (· = .unfinished) longer)
    (rest : ∀ value, (next value).ExtendedBy (· = .unfinished) (later value)) :
    (program >>= next).ExtendedBy (· = .unfinished) (longer >>= later) := by
  refine first.bind ?_ rest
  rintro outcome rfl
  exact ⟨.unfinished, rfl, rfl⟩

theorem attempt (first : program.ExtendedBy (· = .unfinished) longer) :
    program.attempt.ExtendedBy (· = .ok .unfinished) longer.attempt := by
  induction first with
  | spent stuck => exact .spent (congrArg Outcome.ok stuck)
  | done => exact .done
  | ask _ ih => exact .ask ih

theorem runs {trace : List Exchange} {outcome : Outcome α}
    (extended : program.ExtendedBy spent longer) (runs : Runs program trace outcome)
    (ended : ¬ spent outcome) : Runs longer trace outcome := by
  induction extended generalizing trace with
  | spent stuck =>
      obtain ⟨rfl, rfl⟩ := runs_done.mp runs
      exact absurd stuck ended
  | done => exact runs
  | ask _ ih =>
      obtain ⟨answer, rest, rfl, later⟩ := runs_ask.mp runs
      exact .ask answer (ih answer later)

end Program.ExtendedBy

open Program

theorem Discovery.search_extended (kind : String) (requested : Option String)
    (wait deadline rounds : Nat) :
    (search kind requested wait deadline rounds).ExtendedBy (· = .unfinished)
      (search kind requested wait deadline (rounds + 1)) := by
  induction rounds with
  | zero => exact .spent rfl
  | succ rounds ih =>
      refine .ask_bind fun raised => ?_
      split
      · exact .refl _
      · refine .ask_bind fun answer => ?_
        refine .bind_right _ fun found => ?_
        split
        · exact .done
        · refine .ask_bind fun now => ?_
          split
          · exact .refl _
          · exact .ask_bind fun _ => ih

theorem Menu.choose_extended (selector : Selector) (rounds : Nat) :
    (choose selector rounds).ExtendedBy (· = .unfinished) (choose selector (rounds + 1)) := by
  induction rounds generalizing selector with
  | zero => exact .spent rfl
  | succ rounds ih =>
      refine .ask_bind fun raised => ?_
      split
      · exact .done
      · refine .ask_bind fun drawn => .bind_right _ fun _ => ?_
        refine .ask_bind fun polled => .bind_right _ fun pressed => ?_
        cases pressed with
        | none => exact ih selector
        | some key =>
            dsimp only
            split
            · exact ih _
            · exact .refl _
            · exact .done

theorem Dashboard.refreshFrom_extended (tick : Nat) (board : Dashboard) (start rounds : Nat) :
    (board.refreshFrom tick start rounds).ExtendedBy
      (fun outcome => ∃ last, outcome = .ok (.unfinished, last))
      (board.refreshFrom tick start (rounds + 1)) := by
  induction rounds generalizing board start with
  -- Out of rounds the loop still hands its board on, so its spent outcome is a value.
  | zero => exact .spent ⟨board, rfl⟩
  | succ rounds ih =>
      refine .ask_bind fun raised => ?_
      split
      · exact .refl _
      · refine .ask_bind fun now => .ask_bind fun polled => ?_
        cases polled with
        | error reason => exact .done
        | unwinding => exact .done
        | answer pressed =>
            refine .ask_bind fun aggregate => .bind_right _ fun (step, board) => ?_
            cases step with
            | stopped reason => exact .refl _
            | running screen =>
                refine .ask_bind fun drawn => ?_
                cases drawn with
                | error reason => exact .done
                | unwinding => exact .done
                | answer => exact .bind_right _ (ih board)

theorem Dashboard.refresh_extended (tick : Nat) (board : Dashboard) (rounds : Nat) :
    (board.refresh tick rounds).ExtendedBy (fun outcome => ∃ last, outcome = .ok (.unfinished, last))
      (board.refresh tick (rounds + 1)) :=
  .ask_bind fun start => board.refreshFrom_extended tick start rounds

namespace Session

theorem topics?_extended (rounds : Nat) (plan : SessionPlan) :
    (topics? rounds plan).ExtendedBy (· = .unfinished) (topics? (rounds + 1) plan) := by
  have search : (Discovery.waitForTopics rounds plan.kind plan.topic plan.wait).ExtendedBy
      (· = .unfinished) (Discovery.waitForTopics (rounds + 1) plan.kind plan.topic plan.wait) :=
    .ask_bind fun start => Discovery.search_extended _ _ _ _ rounds
  refine search.attempt.bind ?_ fun _ => .refl _
  rintro outcome rfl
  exact ⟨.unfinished, rfl, rfl⟩

theorem chooseTopic_extended (rounds : Nat) (topics : List String) :
    (chooseTopic rounds topics).ExtendedBy (· = .unfinished) (chooseTopic (rounds + 1) topics) := by
  unfold chooseTopic
  split
  · exact .done
  · exact Menu.choose_extended _ rounds

theorem drive_extended (rounds : Nat) (plan : SessionPlan) (topics : List String) :
    (drive rounds plan topics).ExtendedBy (· = .unfinished) (drive (rounds + 1) plan topics) := by
  refine (chooseTopic_extended rounds topics).bind_unfinished fun chosen => ?_
  cases chosen with
  | none => exact .refl _
  | some topic =>
      refine .bind_right _ fun _ => .bind_right _ fun _ => ?_
      refine (Dashboard.refresh_extended plan.tick _ rounds).bind ?_ fun _ => .refl _
      rintro outcome ⟨board, rfl⟩
      exact ⟨.unfinished, rfl, rfl⟩

theorem withTerminal_extended {body longer : Program α}
    (extended : body.ExtendedBy (· = .unfinished) longer) :
    (withTerminal body).ExtendedBy (· = .unfinished) (withTerminal longer) := by
  refine .ask_bind fun taken => .bind_right _ fun _ => ?_
  refine extended.attempt.bind ?_ fun _ => .refl _
  rintro outcome rfl
  exact ⟨.unfinished, rfl, rfl⟩

theorem run_extended (rounds : Nat) (plan : SessionPlan) :
    (run rounds plan).ExtendedBy (· = .unfinished) (run (rounds + 1) plan) := by
  refine (topics?_extended rounds plan).bind_unfinished fun found => ?_
  cases found with
  | none => exact .refl _
  | some topics =>
      refine (withTerminal_extended (drive_extended rounds plan topics)).bind_unfinished ?_
      exact fun _ => .refl _

/-- A run that is over is a run with any larger number of rounds. -/
theorem run_more_rounds {rounds more : Nat} {plan : SessionPlan} {trace : List Exchange}
    {outcome : Outcome SessionOutcome} (runs : Runs (run rounds plan) trace outcome)
    (ended : outcome ≠ .unfinished) (enough : rounds ≤ more) :
    Runs (run more plan) trace outcome := by
  induction enough with
  | refl => exact runs
  | step _ ih => exact (run_extended _ plan).runs ih ended

end Session

end TimingBoard
