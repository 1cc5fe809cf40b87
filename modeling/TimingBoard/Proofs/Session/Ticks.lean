import Mathlib.Order.Monotone.Basic
import TimingBoard.Proofs.Aggregate.Arrivals
import TimingBoard.Proofs.Session.Dashboard

namespace TimingBoard

/-! A dashboard that is fed tick by tick.

In each tick a poll brings a key, nothing or an error, and meanwhile trees may arrive and the flag may
be raised.  The loop goes on as long as ticks pass, and the first one that does not pass settles how
it ends.  What is drawn is told by all ticks up to that one: the trees that have arrived, and how often
each flag was toggled.  How long a poll may wait is told by the clock: for the rest of the interval that
goes on, which ends at the first frame after it is over. -/

/-- What comes from outside in one round of a dashboard. -/
structure Tick where
  polled : Except Error (Option Key)
  /-- Trees that arrive before the poll is over. -/
  arrivals : List Arrival
  /-- The flag is raised before the poll is over. -/
  raises : Bool
  /-- How a copy of the view goes, if one is made. -/
  copied : Except Error Unit
  drawn : Except Error Unit

namespace Tick

def event (tick : Tick) : Event :=
  match tick.polled with
  | .ok key => .ofKey? key
  | .error _ => .idle

/-- The notice that the tick leaves on the status line. -/
def notice (tick : Tick) (before : Option String) : Option String :=
  if tick.event = .copyView then
    match tick.copied with
    | .ok () => some "Copied view to clipboard"
    | .error error => some error.message
  else before

/-- The flag is up once it was up before or some tick has raised it. -/
def raisedBy (raised : Bool) (ticks : List Tick) : Bool := raised || ticks.any (·.raises)

/-- Nothing happens in it. -/
def idle : Tick := ⟨.ok none, [], false, .ok (), .ok ()⟩

def arrived (ticks : List Tick) : List Arrival := ticks.flatMap (·.arrivals)

/-- A tick after which the loop goes on. -/
structure Passes (tick : Tick) (raised : Bool) : Prop where
  lowered : raised = false
  polled : ∃ key, tick.polled = .ok key
  goesOn : tick.event.stop? = none
  drawn : tick.drawn = .ok ()

def AllPass (raised : Bool) (ticks : List Tick) : Prop :=
  ∀ before tick after, ticks = before ++ tick :: after → tick.Passes (raisedBy raised before)

end Tick

/-- The terminal exchanges of a trace. -/
def terminalUse (trace : List Exchange) : List Exchange :=
  trace.filter (·.request.reach = .terminal)

/-- The ways in which a tick ends the loop, with what is still asked of the terminal.  Each one
comes before those below it. -/
inductive Tick.Ends (tick : Tick) (wait : Nat) (raised : Bool) (frame : TreeScreen) :
    Outcome StopReason → List Exchange → Prop where
  | raised (up : raised = true) : Ends tick wait raised frame (.ok .interrupt) []
  | unpolled (down : raised = false) (error : Error) (failed : tick.polled = .error error) :
      Ends tick wait raised frame (.failed error) [⟨.poll wait, .error error⟩]
  | stopped (down : raised = false) (key : Option Key) (polled : tick.polled = .ok key)
      (reason : StopReason) (stops : (Event.ofKey? key).stop? = some reason) :
      Ends tick wait raised frame (.ok reason) [⟨.poll wait, .answer key⟩]
  | undrawn (down : raised = false) (key : Option Key) (polled : tick.polled = .ok key)
      (goesOn : (Event.ofKey? key).stop? = none) (error : Error) (failed : tick.drawn = .error error) :
      Ends tick wait raised frame (.failed error)
        [⟨.poll wait, .answer key⟩, ⟨.draw (.trees frame), .error error⟩]

/-- Where a loop stands in time. -/
structure Pace where
  /-- When the interval that goes on began. -/
  start : Nat
  /-- How often the clock has been looked at. -/
  looks : Nat

namespace Pace

variable (interval : Nat) (clock : Nat → Nat)

/-- How long the next poll may wait. -/
def wait (pace : Pace) : Nat := Dashboard.remaining interval pace.start (clock pace.looks)

/-- The pace after a tick that passes.  The clock is looked at before the poll and after the frame, and
once more where an interval is over. -/
def next (pace : Pace) : Pace :=
  if interval ≤ clock (pace.looks + 1) - pace.start then ⟨clock (pace.looks + 2), pace.looks + 3⟩
  else ⟨pace.start, pace.looks + 2⟩

/-- The pace of a new loop once some ticks have passed. -/
def after : (ticks : Nat) → Pace
  | 0 => ⟨clock 0, 1⟩
  | ticks + 1 => (after ticks).next interval clock

/-- How long the poll after some ticks may wait. -/
def waitAfter (ticks : Nat) : Nat := (after interval clock ticks).wait interval clock

theorem start_le_clock {clock : Nat → Nat} (steady : Monotone clock) (ticks : Nat) :
    (after interval clock ticks).start ≤ clock (after interval clock ticks).looks := by
  induction ticks with
  | zero => exact steady (Nat.zero_le 1)
  | succ ticks ih =>
      rw [after, next]
      split
      · exact steady (Nat.le_succ _)
      · exact Nat.le_trans ih (steady (Nat.le_add_right _ 2))

/-- A poll that waits as long as it may ends with the interval that goes on, or at once when that is
over already. -/
theorem clock_add_waitAfter {clock : Nat → Nat} (steady : Monotone clock) (ticks : Nat) :
    clock (after interval clock ticks).looks + waitAfter interval clock ticks =
      max (clock (after interval clock ticks).looks) ((after interval clock ticks).start + interval) := by
  have begun := start_le_clock interval steady ticks
  rw [waitAfter, wait, Dashboard.remaining]
  omega

/-- With keys 30 ms and 60 ms after the start, polls wait for what is left of 100 ms.  The third poll
brings none, and after its frame an interval begins anew. -/
example :
    let clock (look : Nat) := [0, 0, 30, 30, 60, 60, 100, 100].getD look 100
    (List.range 4).map (waitAfter 100 clock) = [100, 70, 40, 100] := by
  decide

end Pace

/-- The flag is raised, or not, and trees have arrived: what a tick finds. -/
structure Scene where
  /-- What the clock shows each time it is looked at. -/
  clock : Nat → Nat
  /-- How often it has been looked at. -/
  looks : Nat
  raised : Bool
  aggregate : Aggregate
  /-- The tick that was polled last, which also settles how copies and frames go. -/
  current : Tick
  coming : List Tick

namespace Scene

/-- The scene once a tick has been polled. -/
def next (scene : Scene) (tick : Tick) (later : List Tick) : Scene where
  clock := scene.clock
  looks := scene.looks
  raised := scene.raised || tick.raises
  aggregate := scene.aggregate.takeAll tick.arrivals
  current := tick
  coming := later

/-- The scene once a tick has passed. -/
def passed (scene : Scene) (interval : Nat) (pace : Pace) (tick : Tick) (later : List Tick) : Scene :=
  { scene.next tick later with looks := (pace.next interval scene.clock).looks }

/-- The scene once some ticks are over. -/
def reached (clock : Nat → Nat) (looks : Nat) (raised : Bool) (aggregate : Aggregate)
    (seen : List Tick) (coming : List Tick) : Scene :=
  ⟨clock, looks, Tick.raisedBy raised seen, aggregate.takeAll (Tick.arrived seen),
    seen.getLastD .idle, coming⟩

def poll (scene : Scene) : Reply (Option Key) × Scene :=
  match scene.coming with
  | [] => (.answer none, scene)
  | tick :: later => (.ofExcept tick.polled, scene.next tick later)

/-- A look at the clock. -/
def look (scene : Scene) : Scene := { scene with looks := scene.looks + 1 }

/-- A dashboard asks for the flag, the time, keys, the aggregate, copies and frames.  Whatever else may
be asked for works. -/
def respond : (request : Request) → Scene → request.Answer × Scene
  | .interruptFlag, scene => (scene.raised, scene)
  | .poll _, scene => scene.poll
  | .snapshot, scene => (scene.aggregate, scene)
  | .copy _, scene => (.ofExcept scene.current.copied, scene)
  | .draw _, scene => (.ofExcept scene.current.drawn, scene)
  | .log _, scene => ((), scene)
  | .discover, scene => (.ok [], scene)
  | .now, scene => (scene.clock scene.looks, scene.look)
  | .sleep _, scene => ((), scene)
  | .acquire, scene => (.ok (), scene)
  | .restore, scene => (.ok (), scene)
  | .subscribe _, scene => (.answer (), scene)
  | .stopIngestion, scene => ((), scene)
  | .write _, scene => (.ok (), scene)
  | .flush, scene => (.ok (), scene)

end Scene

namespace Dashboard

/-- The dashboard after one more tick. -/
def take (board : Dashboard) (tick : Tick) : Dashboard :=
  { board with flags := tick.event.flags board.flags, notice := tick.notice board.notice }

variable {interval start rounds : Nat} {board : Dashboard} {scene : Scene} {tick : Tick}
  {later : List Tick} {key : Option Key}

theorem perform_refreshFrom_raised (up : scene.raised = true) :
    (board.refreshFrom interval start (rounds + 1)).perform Scene.respond scene =
      ⟨[⟨.interruptFlag, true⟩,
          ⟨.log ⟨.dashboard, .info, "Interrupt received, stopping refresh loop"⟩, ()⟩],
        .ok (.ok .interrupt, board)⟩ := by
  obtain ⟨clock, looks, raised, aggregate, current, coming⟩ := scene
  cases up
  rfl

theorem perform_refreshFrom_unpolled (down : scene.raised = false)
    (comes : scene.coming = tick :: later) {error : Error} (failed : tick.polled = .error error) :
    (board.refreshFrom interval start (rounds + 1)).perform Scene.respond scene =
      ⟨[⟨.interruptFlag, false⟩, ⟨.now, scene.clock scene.looks⟩,
          ⟨.poll (remaining interval start (scene.clock scene.looks)), .error error⟩],
        .ok (.failed error, board)⟩ := by
  obtain ⟨clock, looks, raised, aggregate, current, coming⟩ := scene
  obtain ⟨polled, arrivals, raises, copied, drawn⟩ := tick
  cases down
  cases comes
  cases failed
  rfl

theorem perform_refreshFrom_polled (down : scene.raised = false)
    (comes : scene.coming = tick :: later) (polled : tick.polled = .ok key) :
    (board.refreshFrom interval start (rounds + 1)).perform Scene.respond scene =
      .after [⟨.interruptFlag, false⟩, ⟨.now, scene.clock scene.looks⟩,
          ⟨.poll (remaining interval start (scene.clock scene.looks)), .answer key⟩,
          ⟨.snapshot, (scene.next tick later).aggregate⟩]
        ((board.step tick.event (scene.next tick later).aggregate >>=
            conclude interval start rounds).perform
          Scene.respond (scene.look.next tick later)) := by
  obtain ⟨clock, looks, raised, aggregate, current, coming⟩ := scene
  obtain ⟨_, arrivals, raises, copied, drawn⟩ := tick
  cases down
  cases comes
  cases polled
  rw [refreshFrom_succ]
  rfl

theorem perform_step_stops {aggregate : Aggregate} {reason : StopReason}
    (stops : tick.event.stop? = some reason) :
    (board.step tick.event aggregate >>= conclude interval start rounds).perform Scene.respond scene =
      ⟨[⟨.log ⟨.dashboard, .info, "Refresh loop stopped: " ++ reason.name⟩, ()⟩],
        .ok (.ok reason, board)⟩ := by
  rw [step, stops]
  rfl

/-- A step that does not stop the dashboard may copy the view, and leaves the terminal alone. -/
theorem perform_step_running (board : Dashboard) (aggregate : Aggregate)
    (next : Step × Dashboard → Program β) (goesOn : tick.event.stop? = none)
    (current : scene.current = tick) :
    ∃ notes, terminalUse notes = [] ∧
      (board.step tick.event aggregate >>= next).perform Scene.respond scene =
        .after notes
          ((next (.running ((board.take tick).frame aggregate), board.take tick)).perform
            Scene.respond scene) := by
  subst current
  rw [step, goesOn, take, Tick.notice]
  obtain ⟨clock, looks, raised, held, ⟨polled, arrivals, raises, copied, drawn⟩, coming⟩ := scene
  generalize Tick.event ⟨polled, arrivals, raises, copied, drawn⟩ = event
  by_cases copies : event = .copyView
  · subst copies
    cases copied with
    | ok => exact ⟨[⟨.copy (board.viewText aggregate), .answer ()⟩], rfl, rfl⟩
    | error error =>
        exact ⟨[⟨.copy (board.viewText aggregate), .error error⟩,
          ⟨.log ⟨.dashboard, .warn, "Export failed: " ++ error.message⟩, ()⟩], rfl, rfl⟩
  · simp only [if_neg copies]
    exact ⟨[], rfl, rfl⟩

/-- After a frame the clock is looked at, and the loop goes on at the next pace. -/
theorem perform_nextStart (interval : Nat) (pace : Pace) (next : Nat → Program β)
    (looked : scene.looks = pace.looks + 1) :
    ∃ notes, terminalUse notes = [] ∧
      (nextStart interval pace.start >>= next).perform Scene.respond scene =
        .after notes ((next (pace.next interval scene.clock).start).perform Scene.respond
          { scene with looks := (pace.next interval scene.clock).looks }) := by
  obtain ⟨clock, looks, raised, held, current, coming⟩ := scene
  cases looked
  have first : (nextStart interval pace.start >>= next).perform Scene.respond
      ⟨clock, pace.looks + 1, raised, held, current, coming⟩ =
        .after [⟨.now, clock (pace.looks + 1)⟩]
          (((if interval ≤ clock (pace.looks + 1) - pace.start then Program.request .now
              else pure pace.start) >>= next).perform Scene.respond
            ⟨clock, pace.looks + 2, raised, held, current, coming⟩) := rfl
  rw [first, Pace.next]
  by_cases past : interval ≤ clock (pace.looks + 1) - pace.start
  · rw [if_pos past, if_pos past]
    exact ⟨[⟨.now, clock (pace.looks + 1)⟩, ⟨.now, clock (pace.looks + 2)⟩], rfl, rfl⟩
  · rw [if_neg past, if_neg past]
    exact ⟨[⟨.now, clock (pace.looks + 1)⟩], rfl, rfl⟩

theorem perform_conclude_drawn {screen : TreeScreen} (drawn : scene.current.drawn = .ok ()) :
    (conclude interval start rounds (.running screen, board)).perform Scene.respond scene =
      .after [⟨.draw (.trees screen), .answer ()⟩]
        ((nextStart interval start >>= fun start => board.refreshFrom interval start rounds).perform
          Scene.respond scene) := by
  obtain ⟨clock, looks, raised, aggregate, ⟨polled, arrivals, raises, copied, _⟩, coming⟩ := scene
  cases drawn
  rfl

theorem perform_conclude_undrawn {screen : TreeScreen} {error : Error}
    (failed : scene.current.drawn = .error error) :
    (conclude interval start rounds (.running screen, board)).perform Scene.respond scene =
      ⟨[⟨.draw (.trees screen), .error error⟩], .ok (.failed error, board)⟩ := by
  obtain ⟨clock, looks, raised, aggregate, ⟨polled, arrivals, raises, copied, _⟩, coming⟩ := scene
  cases failed
  rfl

@[simp]
theorem terminalUse_append (before after : List Exchange) :
    terminalUse (before ++ after) = terminalUse before ++ terminalUse after :=
  List.filter_append ..

/-- A tick that passes polls once, draws one frame, and leaves the loop to the ticks after it. -/
theorem perform_refreshFrom_passes (board : Dashboard) (interval rounds : Nat) (pace : Pace)
    (looked : scene.looks = pace.looks) (passes : tick.Passes scene.raised)
    (comes : scene.coming = tick :: later) :
    ∃ notes,
      terminalUse notes = [⟨.poll (pace.wait interval scene.clock), .ofExcept tick.polled⟩,
        ⟨.draw (.trees ((board.take tick).frame (scene.next tick later).aggregate)), .answer ()⟩] ∧
      (board.refreshFrom interval pace.start (rounds + 1)).perform Scene.respond scene =
        .after notes
          (((board.take tick).refreshFrom interval (pace.next interval scene.clock).start rounds).perform
            Scene.respond (scene.passed interval pace tick later)) := by
  obtain ⟨key, polled⟩ := passes.polled
  obtain ⟨notes, quiet, stepped⟩ := perform_step_running board (scene.next tick later).aggregate
    (conclude interval pace.start rounds) passes.goesOn
    (rfl : (scene.look.next tick later).current = tick)
  have drawn : (scene.look.next tick later).current.drawn = .ok () := passes.drawn
  have lookedTwice : (scene.look.next tick later).looks = pace.looks + 1 := congrArg (· + 1) looked
  obtain ⟨looks, silent, timed⟩ := perform_nextStart interval pace
    (fun start => (board.take tick).refreshFrom interval start rounds) lookedTwice
  rw [perform_refreshFrom_polled passes.lowered comes polled, stepped, perform_conclude_drawn drawn,
    timed, polled, looked]
  refine ⟨_, ?_, (Performance.after_after ..).trans
    ((Performance.after_after ..).trans (Performance.after_after ..))⟩
  rw [terminalUse_append, terminalUse_append, terminalUse_append, quiet, silent]
  rfl

/-- A tick that does not pass ends the loop. -/
theorem perform_refreshFrom_ends (board : Dashboard) (interval rounds : Nat) (pace : Pace)
    (looked : scene.looks = pace.looks) {verdict : Outcome StopReason} {uses : List Exchange}
    (ends : tick.Ends (pace.wait interval scene.clock) scene.raised
      ((board.take tick).frame (scene.next tick later).aggregate) verdict uses)
    (comes : scene.coming = tick :: later) :
    ∃ notes last, terminalUse notes = uses ∧
      (board.refreshFrom interval pace.start (rounds + 1)).perform Scene.respond scene =
        ⟨notes, .ok (verdict, last)⟩ ∧
      ∀ reason, verdict = .ok reason → last = board := by
  rw [Pace.wait, ← looked] at ends
  cases ends with
  | raised up =>
      rw [perform_refreshFrom_raised up]
      exact ⟨_, board, rfl, rfl, fun _ _ => rfl⟩
  | unpolled down error failed =>
      rw [perform_refreshFrom_unpolled down comes failed]
      exact ⟨_, board, rfl, rfl, nofun⟩
  | stopped down key polled reason stops =>
      have stops : tick.event.stop? = some reason := by rw [Tick.event, polled]; exact stops
      rw [perform_refreshFrom_polled down comes polled, perform_step_stops stops]
      exact ⟨_, board, rfl, rfl, fun _ _ => rfl⟩
  | undrawn down key polled goesOn error failed =>
      have goesOn : tick.event.stop? = none := by rw [Tick.event, polled]; exact goesOn
      obtain ⟨notes, quiet, stepped⟩ := perform_step_running board (scene.next tick later).aggregate
        (conclude interval pace.start rounds) goesOn
        (rfl : (scene.look.next tick later).current = tick)
      have undrawn : (scene.look.next tick later).current.drawn = .error error := failed
      rw [perform_refreshFrom_polled down comes polled, stepped, perform_conclude_undrawn undrawn]
      refine ⟨_, board.take tick, ?_, rfl, nofun⟩
      rw [terminalUse_append, Performance.after, terminalUse_append, quiet]
      rfl

end Dashboard

namespace Tick

/-- Whatever a tick brings, it passes or ends the loop. -/
theorem passes_or_ends (tick : Tick) (raised : Bool) :
    tick.Passes raised ∨ ∀ wait frame, ∃ verdict uses, tick.Ends wait raised frame verdict uses := by
  cases raised with
  | true => exact .inr fun _ frame => ⟨_, _, .raised rfl⟩
  | false =>
      cases polled : tick.polled with
      | error error => exact .inr fun _ frame => ⟨_, _, .unpolled rfl error polled⟩
      | ok key =>
          have event : tick.event = .ofKey? key := by rw [Tick.event, polled]
          cases stops : (Event.ofKey? key).stop? with
          | some reason => exact .inr fun _ frame => ⟨_, _, .stopped rfl key polled reason stops⟩
          | none =>
              cases drawn : tick.drawn with
              | error error => exact .inr fun _ frame => ⟨_, _, .undrawn rfl key polled stops error drawn⟩
              | ok => exact .inl ⟨rfl, ⟨key, polled⟩, event ▸ stops, drawn⟩

theorem raisedBy_cons (raised : Bool) (tick : Tick) (rest : List Tick) :
    raisedBy raised (tick :: rest) = raisedBy (raised || tick.raises) rest := by
  simp [raisedBy, Bool.or_assoc]

theorem allPass_nil (raised : Bool) : AllPass raised [] := by
  intro before tick after same
  simp at same

theorem allPass_cons {raised : Bool} {tick : Tick} {rest : List Tick} :
    AllPass raised (tick :: rest) ↔ tick.Passes raised ∧ AllPass (raised || tick.raises) rest := by
  constructor
  · intro passing
    refine ⟨by simpa [raisedBy] using passing [] tick rest rfl, ?_⟩
    intro before other after same
    have passes := passing (tick :: before) other after (same ▸ rfl)
    rwa [raisedBy_cons] at passes
  · rintro ⟨first, others⟩ before other after same
    cases before with
    | nil =>
        obtain ⟨rfl, -⟩ := List.cons.inj same
        simpa [raisedBy] using first
    | cons known before =>
        obtain ⟨rfl, later⟩ := List.cons.inj same
        rw [raisedBy_cons]
        exact others before other after later

/-- Either all ticks pass, or there is a first one that does not. -/
theorem allPass_or_first (raised : Bool) (ticks : List Tick) :
    AllPass raised ticks ∨
      ∃ before last after, ticks = before ++ last :: after ∧ AllPass raised before ∧
        ∀ wait frame, ∃ verdict uses,
          last.Ends wait (raisedBy raised before) frame verdict uses := by
  induction ticks generalizing raised with
  | nil => exact .inl (allPass_nil raised)
  | cons tick rest ih =>
      rcases tick.passes_or_ends raised with passes | ends
      · rcases ih (raised || tick.raises) with passing | ⟨before, last, after, rfl, passing, ends⟩
        · exact .inl (allPass_cons.mpr ⟨passes, passing⟩)
        · refine .inr ⟨tick :: before, last, after, rfl, allPass_cons.mpr ⟨passes, passing⟩, ?_⟩
          rwa [raisedBy_cons]
      · refine .inr ⟨[], tick, rest, rfl, allPass_nil raised, ?_⟩
        simpa [raisedBy] using ends

end Tick

namespace Dashboard

/-- A new dashboard after some ticks. -/
def after (board : Dashboard) (ticks : List Tick) : Dashboard :=
  { board with
    flags := flagsAfter (ticks.map Tick.event)
    notice := ticks.foldl (fun notice tick => tick.notice notice) none }

theorem take_after (board : Dashboard) (ticks : List Tick) (tick : Tick) :
    (board.after ticks).take tick = board.after (ticks ++ [tick]) := by
  simp [take, after, flagsAfter_append_singleton]

/-- The frame after some ticks: all trees that have arrived, and the flags as often toggled as the
events of the ticks say. -/
def shown (board : Dashboard) (aggregate : Aggregate) (ticks : List Tick) : TreeScreen :=
  let held := aggregate.takeAll (Tick.arrived ticks)
  let flags := flagsAfter (ticks.map Tick.event)
  ⟨LiveView.text board.title board.topic held.latest.values flags.comments flags.summarize,
    (board.after ticks).statusLine held⟩

/-- The terminal exchanges of ticks that pass, after the ticks `seen`. -/
def exchanges (board : Dashboard) (interval : Nat) (clock : Nat → Nat) (aggregate : Aggregate)
    (seen : List Tick) : List Tick → List Exchange
  | [] => []
  | tick :: rest =>
      ⟨.poll (Pace.waitAfter interval clock seen.length), .ofExcept tick.polled⟩ ::
        ⟨.draw (.trees (board.shown aggregate (seen ++ [tick]))), .answer ()⟩ ::
          board.exchanges interval clock aggregate (seen ++ [tick]) rest

theorem reached_next (clock : Nat → Nat) (looks : Nat) (raised : Bool) (aggregate : Aggregate)
    (seen later : List Tick) (tick : Tick) :
    (Scene.reached clock looks raised aggregate seen (tick :: later)).next tick later =
      .reached clock looks raised aggregate (seen ++ [tick]) later := by
  simp [Scene.reached, Scene.next, Tick.raisedBy, Tick.arrived, Aggregate.takeAll, Bool.or_assoc]

/-- The scene of a loop of which some ticks are over. -/
def sceneAfter (interval : Nat) (clock : Nat → Nat) (raised : Bool) (aggregate : Aggregate)
    (seen coming : List Tick) : Scene :=
  .reached clock (Pace.after interval clock seen.length).looks raised aggregate seen coming

theorem sceneAfter_passed (interval : Nat) (clock : Nat → Nat) (raised : Bool) (aggregate : Aggregate)
    (seen later : List Tick) (tick : Tick) :
    (sceneAfter interval clock raised aggregate seen (tick :: later)).passed interval
        (Pace.after interval clock seen.length) tick later =
      sceneAfter interval clock raised aggregate (seen ++ [tick]) later := by
  rw [Scene.passed, sceneAfter, reached_next, sceneAfter, List.length_append]
  rfl

/-- As long as ticks pass, the loop goes on as it would from the dashboard that they leave. -/
theorem perform_refreshFrom_allPass (board : Dashboard) (interval rounds : Nat) (clock : Nat → Nat)
    (raised : Bool) (aggregate : Aggregate) (seen before later : List Tick)
    (passing : Tick.AllPass (Tick.raisedBy raised seen) before) :
    ∃ notes, terminalUse notes = board.exchanges interval clock aggregate seen before ∧
      ((board.after seen).refreshFrom interval (Pace.after interval clock seen.length).start
          (before.length + rounds)).perform Scene.respond
          (sceneAfter interval clock raised aggregate seen (before ++ later)) =
        .after notes (((board.after (seen ++ before)).refreshFrom interval
            (Pace.after interval clock (seen ++ before).length).start rounds).perform Scene.respond
          (sceneAfter interval clock raised aggregate (seen ++ before) later)) := by
  induction before generalizing seen with
  | nil =>
      refine ⟨[], rfl, ?_⟩
      rw [List.append_nil, List.length_nil, Nat.zero_add]
      rfl
  | cons tick rest ih =>
      obtain ⟨first, others⟩ := Tick.allPass_cons.mp passing
      have raisedLater : Tick.raisedBy raised (seen ++ [tick]) =
          (Tick.raisedBy raised seen || tick.raises) := by
        simp [Tick.raisedBy, Bool.or_assoc]
      obtain ⟨more, moreUses, goesOn⟩ := ih (seen ++ [tick]) (raisedLater ▸ others)
      have comes : (sceneAfter interval clock raised aggregate seen (tick :: (rest ++ later))).coming =
          tick :: (rest ++ later) := rfl
      obtain ⟨notes, uses, round⟩ := perform_refreshFrom_passes (board.after seen) interval
        (rest.length + rounds) (Pace.after interval clock seen.length) rfl first comes
      have paced : (Pace.after interval clock seen.length).next interval
          (sceneAfter interval clock raised aggregate seen (tick :: (rest ++ later))).clock =
            Pace.after interval clock (seen ++ [tick]).length := by
        rw [List.length_append]
        rfl
      have screen : ((board.after seen).take tick).frame
          ((sceneAfter interval clock raised aggregate seen (tick :: (rest ++ later))).next tick
            (rest ++ later)).aggregate = board.shown aggregate (seen ++ [tick]) := by
        rw [take_after, sceneAfter, reached_next]
        rfl
      have size : (tick :: rest).length + rounds = rest.length + rounds + 1 := by
        rw [List.length_cons]
        omega
      rw [screen] at uses
      rw [take_after, paced, sceneAfter_passed, goesOn, Performance.after_after] at round
      rw [List.append_assoc, List.singleton_append] at round
      refine ⟨notes ++ more, ?_, size ▸ round⟩
      rw [terminalUse_append, uses, moreUses]
      rfl

/-- A new dashboard looks at the clock, and stands after its ticks that pass where they leave it. -/
theorem perform_refresh_allPass {board : Dashboard} (new : board.after [] = board) (interval rounds : Nat)
    (clock : Nat → Nat) (raised : Bool) (aggregate : Aggregate) (before later : List Tick)
    (passing : Tick.AllPass raised before) :
    ∃ notes, terminalUse notes = board.exchanges interval clock aggregate [] before ∧
      (board.refresh interval (before.length + rounds)).perform Scene.respond
          (.reached clock 0 raised aggregate [] (before ++ later)) =
        .after notes (((board.after before).refreshFrom interval
            (Pace.after interval clock before.length).start rounds).perform Scene.respond
          (sceneAfter interval clock raised aggregate before later)) := by
  have flagFirst : Tick.raisedBy raised [] = raised := by simp [Tick.raisedBy]
  obtain ⟨notes, uses, goesOn⟩ := perform_refreshFrom_allPass board interval rounds clock raised
    aggregate [] before later (flagFirst.symm ▸ passing)
  rw [new, List.nil_append] at goesOn
  have timed : (board.refresh interval (before.length + rounds)).perform Scene.respond
      (.reached clock 0 raised aggregate [] (before ++ later)) =
        .after [⟨.now, clock 0⟩] ((board.refreshFrom interval (Pace.after interval clock 0).start
            (before.length + rounds)).perform Scene.respond
          (sceneAfter interval clock raised aggregate [] (before ++ later))) := rfl
  refine ⟨⟨.now, clock 0⟩ :: notes, uses, ?_⟩
  rw [timed]
  exact (congrArg _ goesOn).trans (Performance.after_after ..)

/-- How the loop of a new dashboard goes.  The ticks before some tick pass, each with one poll and
one frame, and that tick ends the loop; or all ticks pass, and the loop would go on.  Each poll may
wait for the rest of the interval that goes on. -/
theorem refresh_ends_at_first (title : String) (topic : Option String) (instanceName : String)
    (zone : TimeZone) (interval : Nat) (clock : Nat → Nat) (aggregate : Aggregate) (raised : Bool)
    (ticks : List Tick) :
    let board : Dashboard := { title, topic, instanceName, zone }
    let played := (board.refresh interval ticks.length).perform Scene.respond
      (.reached clock 0 raised aggregate [] ticks)
    Runs (board.refresh interval ticks.length) played.trace played.outcome ∧
      ((∃ before last after verdict uses ended, ticks = before ++ last :: after ∧
          Tick.AllPass raised before ∧
          last.Ends (Pace.waitAfter interval clock before.length) (Tick.raisedBy raised before)
            (board.shown aggregate (before ++ [last])) verdict uses ∧
          played.outcome = .ok (verdict, ended) ∧
          terminalUse played.trace = board.exchanges interval clock aggregate [] before ++ uses ∧
          ∀ reason, verdict = .ok reason → ended.flags = flagsAfter (before.map Tick.event)) ∨
        Tick.AllPass raised ticks ∧
          (∃ ended, played.outcome = .ok (.unfinished, ended)) ∧
          terminalUse played.trace = board.exchanges interval clock aggregate [] ticks) := by
  intro board played
  refine ⟨Program.runs_perform .., ?_⟩
  have new : board.after [] = board := rfl
  rcases Tick.allPass_or_first raised ticks with passing | ⟨before, last, after, rfl, passing, ends⟩
  · obtain ⟨notes, uses, whole⟩ :=
      perform_refresh_allPass new interval 0 clock raised aggregate ticks [] passing
    rw [List.append_nil, Nat.add_zero] at whole
    have result : played = ⟨notes ++ [], .ok (.unfinished, _)⟩ := whole
    rw [result, List.append_nil]
    exact .inr ⟨passing, ⟨_, rfl⟩, uses⟩
  · obtain ⟨notes, uses, whole⟩ := perform_refresh_allPass new interval (after.length + 1) clock raised
      aggregate before (last :: after) passing
    obtain ⟨verdict, lastUses, ends⟩ := ends (Pace.waitAfter interval clock before.length)
      (board.shown aggregate (before ++ [last]))
    have comes : (sceneAfter interval clock raised aggregate before (last :: after)).coming =
        last :: after := rfl
    obtain ⟨closing, ended, closingUses, closes, stops⟩ :=
      perform_refreshFrom_ends (board.after before) interval after.length
        (Pace.after interval clock before.length) rfl
        (by rw [take_after, sceneAfter, reached_next]; exact ends) comes
    have size : (before ++ last :: after).length = before.length + (after.length + 1) := by
      rw [List.length_append, List.length_cons]
    rw [closes, ← size] at whole
    have result : played = ⟨notes ++ closing, .ok (verdict, ended)⟩ := whole
    rw [result]
    refine .inl ⟨before, last, after, verdict, lastUses, ended, rfl, passing, ends, rfl, ?_, ?_⟩
    · rw [terminalUse_append, uses, closingUses]
    · intro reason stopped
      rw [stops reason stopped]
      rfl

end Dashboard

end TimingBoard
