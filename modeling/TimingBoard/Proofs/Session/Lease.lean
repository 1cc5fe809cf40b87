import TimingBoard.Proofs.Session.Terminal
import TimingBoard.Proofs.Session.Traces

namespace TimingBoard.Lease

/-! The end of a lease.

However a lease is used, and wherever its use unwinds, the terminal is given back exactly once.  A
use leaves a held lease held, unless it is a release, and a released lease released.  So the first
release gives the terminal back and alone tells how that went, and without one the end of the lease
gives it back and can only note a failure.  What unwinds is a use, or whoever uses the lease between
two uses; giving back works or fails. -/

open Session (restoreNotes runs_drop)

variable {lease : Lease} {use : Use} {uses : List Use} {trace : List Exchange}

/-- Frames are drawn and keys are polled, and nothing else. -/
def OnlyTerminal (trace : List Exchange) : Prop := ∀ reach ∈ reaches trace, reach = .terminal

theorem onlyTerminal_nil : OnlyTerminal [] := List.forall_mem_nil _

theorem OnlyTerminal.not_reached (only : OnlyTerminal trace) {reach : Reach}
    (different : reach ≠ .terminal) : reach ∉ reaches trace :=
  fun member => different (only reach member)

theorem OnlyTerminal.append {later : List Exchange} (only : OnlyTerminal trace)
    (onlyLater : OnlyTerminal later) : OnlyTerminal (trace ++ later) := by
  intro reach member
  rw [reaches_append] at member
  exact (List.mem_append.mp member).elim (only reach) (onlyLater reach)

theorem OnlyTerminal.logged_eq_nil (only : OnlyTerminal trace) : logged trace = [] :=
  TimingBoard.logged_eq_nil (only.not_reached (by decide))

theorem runs_release {outcome : Outcome (Except Error Unit × Lease)}
    (runs : Runs lease.release trace outcome) :
    lease.released = true ∧ trace = [] ∧ outcome = .ok (.ok (), lease) ∨
      lease.released = false ∧
        ∃ result, trace = [⟨.restore, result⟩] ∧ outcome = .ok (result, ⟨true⟩) := by
  obtain ⟨released⟩ := lease
  cases released with
  | true => exact .inl ⟨rfl, runs_done.mp runs⟩
  | false =>
      obtain ⟨result, rest, rfl, later⟩ := runs_ask.mp runs
      obtain ⟨rfl, rfl⟩ := runs_done.mp later
      exact .inr ⟨rfl, result, rfl, rfl⟩

/-- All that one use can do.  Nothing is left of a use that unwinds but what it exchanged. -/
inductive Applied (lease : Lease) : Use → List Exchange → Option (Used × Lease) → Prop where
  | again (released : lease.released = true) : Applied lease .release [] (some (.done, lease))
  | restored (held : lease.released = false) (result : Except Error Unit) :
      Applied lease .release [⟨.restore, result⟩] (some (.ofExcept result, ⟨true⟩))
  | shown {use : Use} {exchanges : List Exchange} (other : use ≠ .release)
      (only : OnlyTerminal exchanges) (used : Used) :
      Applied lease use exchanges (some (used, lease))
  | unwound {use : Use} {exchanges : List Exchange} (other : use ≠ .release)
      (only : OnlyTerminal exchanges) : Applied lease use exchanges none

theorem runs_apply {outcome : Outcome (Option (Used × Lease))}
    (runs : Runs (lease.apply use) trace outcome) :
    ∃ applied, outcome = .ok applied ∧ Applied lease use trace applied := by
  cases use with
  | release =>
      obtain ⟨before, after, released, rfl, first, last⟩ := runs_bind.mp runs
      obtain ⟨again, rfl, rfl⟩ | ⟨held, result, rfl, rfl⟩ := runs_release first
      · obtain ⟨rfl, rfl⟩ := runs_done.mp last
        exact ⟨_, rfl, .again again⟩
      · obtain ⟨rfl, rfl⟩ := runs_done.mp last
        exact ⟨_, rfl, .restored held result⟩
  | draw screen =>
      obtain ⟨drawn, rest, rfl, last⟩ := runs_request_bind.mp runs
      have other : Use.draw screen ≠ .release := Use.noConfusion
      have only (reply : Reply Unit) : OnlyTerminal [⟨.draw screen, reply⟩] := by
        simp [OnlyTerminal, Request.reach]
      cases drawn with
      | answer =>
          obtain ⟨rfl, rfl⟩ := runs_done.mp last
          exact ⟨_, rfl, .shown other (only _) .done⟩
      | error error =>
          obtain ⟨rfl, rfl⟩ := runs_done.mp last
          exact ⟨_, rfl, .shown other (only _) (.failed error)⟩
      | unwinding =>
          obtain ⟨rfl, rfl⟩ := runs_done.mp last
          exact ⟨_, rfl, .unwound other (only _)⟩
  | poll nanoseconds =>
      obtain ⟨polled, rest, rfl, last⟩ := runs_request_bind.mp runs
      have other : Use.poll nanoseconds ≠ .release := Use.noConfusion
      have only (reply : Reply (Option Key)) : OnlyTerminal [⟨.poll nanoseconds, reply⟩] := by
        simp [OnlyTerminal, Request.reach]
      cases polled with
      | answer pressed =>
          obtain ⟨rfl, rfl⟩ := runs_done.mp last
          exact ⟨_, rfl, .shown other (only _) (.key pressed)⟩
      | error error =>
          obtain ⟨rfl, rfl⟩ := runs_done.mp last
          exact ⟨_, rfl, .shown other (only _) (.failed error)⟩
      | unwinding =>
          obtain ⟨rfl, rfl⟩ := runs_done.mp last
          exact ⟨_, rfl, .unwound other (only _)⟩
  | unwind =>
      obtain ⟨rfl, rfl⟩ := runs_done.mp runs
      exact ⟨_, rfl, .unwound Use.noConfusion onlyTerminal_nil⟩

/-- A use that came back: what was exchanged in it, and the lease after it. -/
structure Turn where
  use : Use
  exchanges : List Exchange
  used : Used
  lease : Lease

namespace Turn

/-- A turn that leaves the terminal held. -/
structure Holds (turn : Turn) : Prop where
  other : turn.use ≠ .release
  only : OnlyTerminal turn.exchanges
  held : turn.lease.released = false

/-- A turn under a lease that was released before. -/
structure Follows (turn : Turn) : Prop where
  again : turn.use = .release → turn.exchanges = [] ∧ turn.used = .done
  only : OnlyTerminal turn.exchanges
  released : turn.lease.released = true

end Turn

theorem onlyTerminal_turns {turns : List Turn}
    (only : ∀ turn ∈ turns, OnlyTerminal turn.exchanges) :
    OnlyTerminal (turns.flatMap (·.exchanges)) := by
  induction turns with
  | nil => exact onlyTerminal_nil
  | cons turn rest ih =>
      obtain ⟨first, others⟩ := List.forall_mem_cons.mp only
      exact first.append (ih others)

/-- A lease from its beginning to its end. -/
structure Course where
  turns : List Turn
  /-- What was exchanged in a use that unwound. -/
  cut : List Exchange
  /-- What was exchanged at the end of the lease. -/
  ending : List Exchange

namespace Course

def exchanges (course : Course) : List Exchange :=
  course.turns.flatMap (·.exchanges) ++ (course.cut ++ course.ending)

/-- What is told of the uses that came back. -/
def told (course : Course) : List (Used × Lease) :=
  course.turns.map fun turn => (turn.used, turn.lease)

def preceded (turn : Turn) (course : Course) : Course :=
  { course with turns := turn :: course.turns }

end Course

/-- The courses of a lease that is put to some uses.  The first use that unwinds is the last. -/
inductive Goes : Lease → List Use → Course → Prop where
  | ended {lease : Lease} {ending : List Exchange} (ends : Runs lease.drop ending (.ok ())) :
      Goes lease [] ⟨[], [], ending⟩
  | unwound {lease : Lease} {use : Use} {rest : List Use} {cut ending : List Exchange}
      (unwinds : Runs (lease.apply use) cut (.ok none)) (ends : Runs lease.drop ending (.ok ())) :
      Goes lease (use :: rest) ⟨[], cut, ending⟩
  | next {lease next : Lease} {use : Use} {rest : List Use} {exchanges : List Exchange}
      {used : Used} {course : Course}
      (returns : Runs (lease.apply use) exchanges (.ok (some (used, next))))
      (later : Goes next rest course) :
      Goes lease (use :: rest) (course.preceded ⟨use, exchanges, used, next⟩)

theorem runs_useAll {outcome : Outcome (List (Used × Lease))}
    (runs : Runs (lease.useAll uses) trace outcome) :
    ∃ course, Goes lease uses course ∧ trace = course.exchanges ∧ outcome = .ok course.told := by
  induction uses generalizing lease trace outcome with
  | nil =>
      obtain ⟨ending, rest, ended, rfl, ends, last⟩ := runs_bind.mp runs
      obtain ⟨rfl, -⟩ := runs_drop ends
      obtain ⟨rfl, rfl⟩ := runs_done.mp last
      exact ⟨_, .ended ends, List.append_nil ending, rfl⟩
  | cons use rest ih =>
      obtain ⟨first, after, answer, rfl, applies, goesOn⟩ := runs_bind.mp runs
      obtain ⟨applied, rfl, -⟩ := runs_apply applies
      cases applied with
      | none =>
          obtain ⟨ending, rest, ended, rfl, ends, last⟩ := runs_bind.mp goesOn
          obtain ⟨rfl, -⟩ := runs_drop ends
          obtain ⟨rfl, rfl⟩ := runs_done.mp last
          rw [List.append_nil]
          exact ⟨_, .unwound applies ends, rfl, rfl⟩
      | some returned =>
          obtain ⟨others, rest, result, rfl, later, last⟩ := runs_bind.mp goesOn
          obtain ⟨course, goes, rfl, rfl⟩ := ih later
          obtain ⟨rfl, rfl⟩ := runs_done.mp last
          refine ⟨_, .next applies goes, ?_, rfl⟩
          simp [Course.exchanges, Course.preceded]

namespace Course

/-- The ways in which the terminal is given back. -/
inductive GivesBack : Course → Prop where
  /-- In the first release, which tells how it went.  Later ones and the end do nothing. -/
  | released {before after : List Turn} {cut : List Exchange} (result : Except Error Unit)
      (held : ∀ turn ∈ before, turn.Holds) (follow : ∀ turn ∈ after, turn.Follows)
      (only : OnlyTerminal cut) :
      GivesBack
        ⟨before ++ ⟨.release, [⟨.restore, result⟩], .ofExcept result, ⟨true⟩⟩ :: after, cut, []⟩
  /-- At the end, without a release.  A failure is noted there. -/
  | dropped {turns : List Turn} {cut : List Exchange} (result : Except Error Unit)
      (held : ∀ turn ∈ turns, turn.Holds) (only : OnlyTerminal cut) :
      GivesBack ⟨turns, cut, ⟨.restore, result⟩ :: restoreNotes .terminal result⟩

variable {course : Course}

theorem GivesBack.preceded {turn : Turn} (givesBack : course.GivesBack) (holds : turn.Holds) :
    (course.preceded turn).GivesBack := by
  cases givesBack with
  | released result held follow only =>
      exact .released result (List.forall_mem_cons.mpr ⟨holds, held⟩) follow only
  | dropped result held only =>
      exact .dropped result (List.forall_mem_cons.mpr ⟨holds, held⟩) only

/-- Up to its return the terminal is used, and afterwards it is used or a failure is noted. -/
theorem GivesBack.parts (givesBack : course.GivesBack) :
    ∃ start result later notes, course.exchanges = start ++ ⟨.restore, result⟩ :: (later ++ notes) ∧
      OnlyTerminal start ∧ OnlyTerminal later ∧ (∀ reach ∈ reaches notes, reach.reporting) ∧
      logged notes = logged course.ending := by
  cases givesBack with
  | @released before after cut result held follow only =>
      have start := onlyTerminal_turns fun turn member => (held turn member).only
      have later := (onlyTerminal_turns fun turn member => (follow turn member).only).append only
      exact ⟨_, result, _, [], by simp [exchanges], start, later, nofun, rfl⟩
  | @dropped turns cut result held only =>
      have start := (onlyTerminal_turns fun turn member => (held turn member).only).append only
      exact ⟨_, result, [], _, by simp [exchanges], start, onlyTerminal_nil,
        Session.restoreNotes_reporting .terminal result, rfl⟩

theorem GivesBack.once (givesBack : course.GivesBack) :
    (reaches course.exchanges).count .givingBack = 1 := by
  obtain ⟨start, result, later, notes, same, used, reused, noted, -⟩ := givesBack.parts
  have laterFree : .givingBack ∉ reaches (later ++ notes) := by
    rw [reaches_append, List.mem_append, not_or]
    exact ⟨reused.not_reached (by decide), fun member => noted _ member⟩
  rw [same]
  exact Session.count_reaches rfl (used.not_reached (by decide)) laterFree

/-- Nothing is logged but at the end of the lease. -/
theorem GivesBack.logged_eq (givesBack : course.GivesBack) :
    logged course.exchanges = logged course.ending := by
  obtain ⟨start, result, later, notes, same, used, reused, -, noted⟩ := givesBack.parts
  have none : logged [⟨.restore, result⟩] = [] := rfl
  rw [same, List.append_cons, logged_append, logged_append, logged_append, used.logged_eq_nil, none,
    reused.logged_eq_nil, noted]
  rfl

end Course

variable {course : Course}

/-- Under a released lease nothing is left to give back. -/
theorem Goes.follow (goes : Goes lease uses course) (released : lease.released = true) :
    (∀ turn ∈ course.turns, turn.Follows) ∧ OnlyTerminal course.cut ∧ course.ending = [] := by
  induction goes with
  | ended ends =>
      obtain ⟨-, nothing, -⟩ := runs_drop ends
      exact ⟨List.forall_mem_nil _, onlyTerminal_nil, nothing released⟩
  | unwound unwinds ends =>
      obtain ⟨-, nothing, -⟩ := runs_drop ends
      obtain ⟨applied, same, can⟩ := runs_apply unwinds
      cases same
      cases can with
      | unwound other only => exact ⟨List.forall_mem_nil _, only, nothing released⟩
  | @next lease _ use _ exchanges used _ returns later ih =>
      obtain ⟨applied, same, can⟩ := runs_apply returns
      cases same
      cases can with
      | again =>
          obtain ⟨follow, only, nothing⟩ := ih released
          have first : Turn.Follows ⟨.release, [], .done, lease⟩ :=
            ⟨fun _ => ⟨rfl, rfl⟩, onlyTerminal_nil, released⟩
          exact ⟨List.forall_mem_cons.mpr ⟨first, follow⟩, only, nothing⟩
      | restored held => simp [released] at held
      | shown other onlyFirst =>
          obtain ⟨follow, only, nothing⟩ := ih released
          have first : Turn.Follows ⟨use, exchanges, used, lease⟩ :=
            ⟨fun release => absurd release other, onlyFirst, released⟩
          exact ⟨List.forall_mem_cons.mpr ⟨first, follow⟩, only, nothing⟩

/-- A held lease stays held up to the first release. -/
theorem Goes.givesBack (goes : Goes lease uses course) (held : lease.released = false) :
    course.GivesBack := by
  induction goes with
  | ended ends =>
      obtain ⟨-, -, restores⟩ := runs_drop ends
      obtain ⟨result, rfl⟩ := restores held
      exact .dropped result (List.forall_mem_nil _) onlyTerminal_nil
  | unwound unwinds ends =>
      obtain ⟨-, -, restores⟩ := runs_drop ends
      obtain ⟨result, rfl⟩ := restores held
      obtain ⟨applied, same, can⟩ := runs_apply unwinds
      cases same
      cases can with
      | unwound other only => exact .dropped result (List.forall_mem_nil _) only
  | @next _ _ _ _ _ _ course returns later ih =>
      obtain ⟨applied, same, can⟩ := runs_apply returns
      cases same
      cases can with
      | again released => simp [held] at released
      | restored _ result =>
          obtain ⟨turns, cut, ending⟩ := course
          obtain ⟨follow, only, rfl⟩ := later.follow rfl
          exact @Course.GivesBack.released [] turns cut result (List.forall_mem_nil _) follow only
      | shown other only => exact (ih held).preceded ⟨other, only, held⟩

/-- The terminal is given back once: in the first release, which alone tells how that went, or
without one at the end of the lease, which logs a failure.  Neither a failure nor an unwinding use
keeps the lease from its end. -/
theorem useAll_givesBack_once {outcome : Outcome (List (Used × Lease))}
    (runs : Runs (new.useAll uses) trace outcome) :
    ∃ course, Goes new uses course ∧ trace = course.exchanges ∧ outcome = .ok course.told ∧
      course.GivesBack ∧ (reaches trace).count .givingBack = 1 ∧
      logged trace = logged course.ending := by
  obtain ⟨course, goes, rfl, rfl⟩ := runs_useAll runs
  have givesBack := goes.givesBack rfl
  exact ⟨course, goes, rfl, rfl, givesBack, givesBack.once, givesBack.logged_eq⟩

/-- A lease whose first release fails and that is used on, until a use unwinds. -/
def usedOn : List Use := [.poll 100, .release, .draw (.menu ⟨[], 0⟩), .release, .unwind, .release]

def usedOnTrace : List Exchange :=
  [⟨.poll 100, .answer none⟩, ⟨.restore, .error (.io "no terminal")⟩,
    ⟨.draw (.menu ⟨[], 0⟩), .error (.io "no screen")⟩]

def usedOnTold : List (Used × Lease) :=
  [(.key none, ⟨false⟩), (.failed (.io "no terminal"), ⟨true⟩), (.failed (.io "no screen"), ⟨true⟩),
    (.done, ⟨true⟩)]

theorem runs_usedOn : Runs (new.useAll usedOn) usedOnTrace (.ok usedOnTold) := by
  repeat' constructor

theorem useAll_givesBack_once_usedOn :
    Runs (new.useAll usedOn) usedOnTrace (.ok usedOnTold) ∧
      ∃ course, Goes new usedOn course ∧ usedOnTrace = course.exchanges ∧
        Outcome.ok usedOnTold = .ok course.told ∧ course.GivesBack ∧
        (reaches usedOnTrace).count .givingBack = 1 ∧ logged usedOnTrace = logged course.ending :=
  ⟨runs_usedOn, useAll_givesBack_once runs_usedOn⟩

end TimingBoard.Lease
