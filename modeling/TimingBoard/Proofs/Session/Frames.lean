import TimingBoard.Proofs.Session.Dashboard
import TimingBoard.Proofs.Session.Traces

namespace TimingBoard

/-! The frames of a session.

Every copy of the view is the text of the frame of its tick, and the dashboard hands on the reason
and the flags that its events tell. -/

/-- The frame of a tick. -/
structure Frame where
  event : Event
  text : String

/-- The text of the frame after some events. -/
def frameText (topic : Option String) (events : List Event) (aggregate : Aggregate) : String :=
  let flags := flagsAfter events
  LiveView.text LiveView.defaultTitle topic aggregate.latest.values flags.comments flags.summarize

/-- The frames of ticks, after some events that came before. -/
def framesFrom (topic : Option String) (seen : List Event) : List Glance → List Frame
  | [] => []
  | ⟨event, aggregate⟩ :: rest =>
      ⟨event, frameText topic (seen ++ [event]) aggregate⟩ :: framesFrom topic (seen ++ [event]) rest

/-- The frames of a session, of the topic that it has subscribed to. -/
def frames (trace : List Exchange) : List Frame :=
  framesFrom (trace.findSome? (·.subscribed?)) [] (glances trace)

/-- The texts of the frames in whose ticks the view is to be copied. -/
def sharedTexts (frames : List Frame) : List String :=
  (frames.filter (·.event = .copyView)).map (·.text)

/-- The texts of the frames whose ticks do not stop the dashboard. -/
def drawnTexts (frames : List Frame) : List String :=
  (frames.filter (·.event.stop? = none)).map (·.text)

theorem sharedTexts_append (before after : List Frame) :
    sharedTexts (before ++ after) = sharedTexts before ++ sharedTexts after := by
  simp [sharedTexts]

/-- Ticks come to be drawn, except that an unwinding copy leaves its own tick undrawn. -/
structure Draws (frames : List Frame) (trace : List Exchange) (outcome : Outcome α) : Prop where
  inOrder : framed trace <+: drawnTexts frames
  all : outcome ≠ .unwound → framed trace = drawnTexts frames

namespace Dashboard

variable {topic : Option String} {seen : List Event} {trace : List Exchange}
  {outcome : Outcome (Outcome StopReason × Dashboard)}

/-- What the loop of a dashboard has shown, and what it leaves. -/
structure Refreshed (topic : Option String) (seen : List Event) (trace : List Exchange)
    (outcome : Outcome (Outcome StopReason × Dashboard)) : Prop where
  shared : copied trace = sharedTexts (framesFrom topic seen (glances trace))
  drawn : Draws (framesFrom topic seen (glances trace)) trace outcome
  stopped : ∀ reason last, outcome = .ok (.ok reason, last) →
    reason = stopReason (events trace) ∧ last.flags = flagsAfter (seen ++ events trace)

/-- A loop that ends before it comes to look at the aggregate. -/
theorem Refreshed.early (blind : glances trace = []) (uncopied : copied trace = [])
    (undrawn : framed trace = [])
    (stopped : ∀ reason last, outcome = .ok (.ok reason, last) →
      reason = .interrupt ∧ last.flags = flagsAfter seen) :
    Refreshed topic seen trace outcome where
  shared := by rw [blind, uncopied]; rfl
  drawn := by rw [blind]; exact ⟨undrawn ▸ List.nil_prefix, fun _ => undrawn⟩
  stopped reason last same := by
    rw [events, blind, List.map_nil, List.append_nil]
    exact stopped reason last same

/-- How a tick begins that comes to look at the aggregate. -/
def tickStart (now wait : Nat) (key : Option Key) (aggregate : Aggregate) : List Exchange :=
  [⟨.interruptFlag, false⟩, ⟨.now, now⟩, ⟨.poll wait, .answer key⟩, ⟨.snapshot, aggregate⟩]

theorem glances_tickStart (now wait : Nat) (key : Option Key) (aggregate : Aggregate)
    (rest : List Exchange) :
    glances (tickStart now wait key aggregate ++ rest) = ⟨.ofKey? key, aggregate⟩ :: glances rest :=
  rfl

/-- Looks at the clock show nothing. -/
theorem Refreshed.timed (nows : List Nat) (later : Refreshed topic seen trace outcome) :
    Refreshed topic seen (readings nows ++ trace) outcome := by
  induction nows with
  | nil => exact later
  | cons now rest ih => exact ⟨ih.shared, ⟨ih.drawn.inOrder, ih.drawn.all⟩, ih.stopped⟩

/-- A tick that is drawn, before the others. -/
theorem Refreshed.cons {now wait : Nat} {key : Option Key} {aggregate : Aggregate}
    {notes rest : List Exchange} {screen : TreeScreen} {reply : Reply Unit}
    (goesOn : (Event.ofKey? key).stop? = none)
    (text : screen.text = frameText topic (seen ++ [.ofKey? key]) aggregate)
    (shares : copied notes = sharedTexts [⟨.ofKey? key, screen.text⟩])
    (quiet : .terminal ∉ reaches notes)
    (later : Refreshed topic (seen ++ [.ofKey? key]) rest outcome) :
    Refreshed topic seen
      (tickStart now wait key aggregate ++ (notes ++ ⟨.draw (.trees screen), reply⟩ :: rest)) outcome := by
  have after : glances (notes ++ ⟨.draw (.trees screen), reply⟩ :: rest) = glances rest := by
    rw [glances_append notes rfl, glances_eq_nil_of_not_reached quiet]
    rfl
  have texts : framed (tickStart now wait key aggregate ++
      (notes ++ ⟨.draw (.trees screen), reply⟩ :: rest)) = screen.text :: framed rest := by
    rw [framed_append, framed_append, framed_eq_nil quiet]
    rfl
  have drawn (frames : List Frame) :
      drawnTexts (⟨.ofKey? key, screen.text⟩ :: frames) = screen.text :: drawnTexts frames := by
    simp [drawnTexts, goesOn]
  rw [text] at shares texts drawn
  constructor
  · rw [glances_tickStart, after, framesFrom, copied_append, copied_append, shares]
    exact (congrArg _ later.shared).trans (sharedTexts_append [_] _).symm
  · rw [glances_tickStart, after, framesFrom]
    constructor
    · rw [texts, drawn]
      exact (List.prefix_cons_inj _).mpr later.drawn.inOrder
    · intro ended
      rw [texts, drawn, later.drawn.all ended]
  · intro reason last same
    obtain ⟨stopped, flags⟩ := later.stopped reason last same
    rw [events, glances_tickStart, after, List.map_cons, stopReason, List.findSome?_cons, goesOn]
    exact ⟨stopped, by rw [flags, List.append_assoc]; rfl⟩

/-- A tick that stops the dashboard. -/
theorem Refreshed.last {now wait : Nat} {key : Option Key} {aggregate : Aggregate}
    {rest : List Exchange} {board : Dashboard} {reason : StopReason}
    (stops : (Event.ofKey? key).stop? = some reason)
    (flagged : board.flags = flagsAfter (seen ++ [.ofKey? key]))
    (quiet : ∀ reach ∈ reaches rest, reach = .elsewhere) :
    Refreshed topic seen (tickStart now wait key aggregate ++ rest) (.ok (.ok reason, board)) := by
  have silent (reach : Reach) (different : reach ≠ .elsewhere) : reach ∉ reaches rest :=
    fun reached => different (quiet reach reached)
  have keeps : Event.ofKey? key ≠ .copyView := fun same => by
    rw [same] at stops
    cases stops
  have undrawn (frame : Frame) (same : frame.event = .ofKey? key) : drawnTexts [frame] = [] := by
    simp [drawnTexts, same, stops]
  have unframed : framed (tickStart now wait key aggregate ++ rest) = [] := by
    rw [framed_append, framed_eq_nil (silent .terminal (by decide))]
    rfl
  have only : glances (tickStart now wait key aggregate ++ rest) = [⟨.ofKey? key, aggregate⟩] := by
    rw [glances_tickStart, glances_eq_nil_of_not_reached (silent .terminal (by decide))]
  constructor
  · rw [only, copied_append, copied_eq_nil (silent .clipboard (by decide))]
    simp [framesFrom, sharedTexts, keeps, copied, tickStart, Exchange.copied?]
  · rw [only]
    exact ⟨unframed ▸ List.nil_prefix, fun _ => unframed.trans (undrawn _ rfl).symm⟩
  · intro other last same
    cases same
    rw [events, only]
    exact ⟨by simp [stopReason, stops], flagged⟩

theorem viewText_eq_frameText {board : Dashboard} (titled : board.title = LiveView.defaultTitle)
    (flagged : board.flags = flagsAfter seen) (aggregate : Aggregate) :
    board.viewText aggregate = frameText board.topic seen aggregate := by
  rw [viewText, frameText, titled, flagged]

section Tick

variable {interval start rounds now wait : Nat} {board : Dashboard} {key : Option Key}
  {aggregate : Aggregate}

/-- A tick whose frame is drawn, from where the dashboard `next` goes on. -/
theorem conclude_refreshed (next : Dashboard) {notes : List Exchange}
    (titled : next.title = LiveView.defaultTitle)
    (flagged : next.flags = flagsAfter (seen ++ [.ofKey? key]))
    (goesOn : (Event.ofKey? key).stop? = none)
    (shares : copied notes = sharedTexts [⟨.ofKey? key, next.viewText aggregate⟩])
    (quiet : .terminal ∉ reaches notes)
    (later : ∀ {start : Nat} {trace : List Exchange},
      Runs (next.refreshFrom interval start rounds) trace outcome →
        Refreshed next.topic (seen ++ [.ofKey? key]) trace outcome)
    (runs : Runs (conclude interval start rounds (.running (next.frame aggregate), next)) trace
      outcome) :
    Refreshed next.topic seen (tickStart now wait key aggregate ++ (notes ++ trace)) outcome := by
  have text := viewText_eq_frameText titled flagged aggregate
  obtain ⟨reply, rest, rfl, goes⟩ := runs_request_bind.mp runs
  refine .cons goesOn text shares quiet ?_
  cases reply with
  | error error =>
      obtain ⟨rfl, rfl⟩ := runs_done.mp goes
      exact .early rfl rfl rfl nofun
  | unwinding =>
      obtain ⟨rfl, rfl⟩ := runs_done.mp goes
      exact .early rfl rfl rfl nofun
  | answer =>
      obtain ⟨nows, begun, rest, rfl, goesOn⟩ := runs_nextStart_bind goes
      exact (later goesOn).timed nows

/-- A tick that comes to look at the aggregate, if what may follow shows what it should. -/
theorem tick_refreshed
    (titled : board.title = LiveView.defaultTitle) (flagged : board.flags = flagsAfter seen)
    (later : ∀ {seen : List Event} {start : Nat} {trace : List Exchange} {board : Dashboard},
      Runs (board.refreshFrom interval start rounds) trace outcome →
        board.title = LiveView.defaultTitle → board.flags = flagsAfter seen →
          Refreshed board.topic seen trace outcome)
    (runs : Runs (board.step (.ofKey? key) aggregate >>= conclude interval start rounds) trace
      outcome) :
    Refreshed board.topic seen (tickStart now wait key aggregate ++ trace) outcome := by
  have toggled : (Event.ofKey? key).flags board.flags = flagsAfter (seen ++ [.ofKey? key]) := by
    rw [flagged, flagsAfter_append_singleton]
  obtain ⟨notes, after, stepped, rfl, step, concludes⟩ := runs_bind.mp runs
  cases runs_step step with
  | stopped reason stops =>
      obtain ⟨rest, rfl, ends⟩ := runs_log_bind.mp concludes
      obtain ⟨rfl, rfl⟩ := runs_done.mp ends
      rw [Event.flags_of_stop stops] at toggled
      exact .last stops toggled (by simp [Request.reach])
  | unshared goesOn kept =>
      refine conclude_refreshed { board with flags := (Event.ofKey? key).flags board.flags } titled
        toggled goesOn ?_ List.not_mem_nil (fun runs => later runs titled toggled) concludes
      simp [sharedTexts, copied, kept]
  | shared shares reply back notes quiet notice =>
      have silent : copied notes = [] := copied_eq_nil fun reached => Reach.noConfusion (quiet _ reached)
      rw [shares] at toggled
      refine conclude_refreshed { board with notice } titled (shares ▸ toggled) (shares ▸ rfl) ?_ ?_
        (fun runs => later runs titled (shares ▸ toggled)) concludes
      · rw [shares]
        exact congrArg _ silent
      · intro reached
        rcases List.mem_cons.mp reached with same | reached
        · cases same
        · exact Reach.noConfusion (quiet _ reached)
  | unwound shares =>
      obtain ⟨rfl, rfl⟩ := runs_done.mp concludes
      have toggled : board.flags = flagsAfter (seen ++ [.ofKey? key]) := by
        rw [← toggled, shares]
        rfl
      rw [viewText_eq_frameText titled toggled]
      refine ⟨?_, ⟨List.nil_prefix, fun ended => absurd rfl ended⟩, by simp⟩
      have only : glances (tickStart now wait key aggregate ++
          [⟨.copy (frameText board.topic (seen ++ [.ofKey? key]) aggregate), .unwinding⟩]) =
            [⟨.ofKey? key, aggregate⟩] := rfl
      rw [List.append_nil, only, shares]
      rfl

end Tick

theorem refreshFrom_refreshed {interval start rounds : Nat} {board : Dashboard}
    (runs : Runs (board.refreshFrom interval start rounds) trace outcome)
    (titled : board.title = LiveView.defaultTitle) (flagged : board.flags = flagsAfter seen) :
    Refreshed board.topic seen trace outcome := by
  induction rounds generalizing board start seen trace with
  | zero =>
      obtain ⟨rfl, rfl⟩ := runs_done.mp runs
      exact .early rfl rfl rfl nofun
  | succ rounds ih =>
      rw [refreshFrom_succ] at runs
      obtain ⟨raised, rest, rfl, goesOn⟩ := runs_request_bind.mp runs
      cases raised with
      | true =>
          obtain ⟨rest, rfl, ends⟩ := runs_log_bind.mp goesOn
          obtain ⟨rfl, rfl⟩ := runs_done.mp ends
          refine .early rfl rfl rfl fun reason last same => ?_
          cases same
          exact ⟨rfl, flagged⟩
      | false =>
          obtain ⟨now, rest, rfl, timed⟩ := runs_request_bind.mp goesOn
          obtain ⟨polled, rest, rfl, answered⟩ := runs_request_bind.mp timed
          cases polled with
          | error error =>
              obtain ⟨rfl, rfl⟩ := runs_done.mp answered
              exact .early rfl rfl rfl nofun
          | unwinding =>
              obtain ⟨rfl, rfl⟩ := runs_done.mp answered
              exact .early rfl rfl rfl nofun
          | answer key =>
              obtain ⟨aggregate, rest, rfl, steps⟩ := runs_request_bind.mp answered
              exact tick_refreshed titled flagged ih steps

theorem refresh_refreshed {interval rounds : Nat} {board : Dashboard}
    (runs : Runs (board.refresh interval rounds) trace outcome)
    (titled : board.title = LiveView.defaultTitle) (flagged : board.flags = flagsAfter seen) :
    Refreshed board.topic seen trace outcome := by
  obtain ⟨start, rest, rfl, goesOn⟩ := runs_request_bind.mp runs
  exact (refreshFrom_refreshed goesOn titled flagged).timed [start]

end Dashboard

namespace Session

/-- What has been shown while the terminal was held, and what is handed on. -/
structure Driven (trace : List Exchange) (live : Outcome (StopReason × ViewFlags)) : Prop where
  /-- A dashboard runs only for a topic. -/
  subscribed : trace.findSome? (·.subscribed?) = none → glances trace = []
  shared : copied trace = sharedTexts (frames trace)
  drawn : Draws (frames trace) trace live
  stopped : ∀ reason flags, live = .ok (reason, flags) →
    reason = stopReason (events trace) ∧ flags = flagsAfter (events trace)

section Menu

variable {menu : List Exchange} (asked : ∀ exchange ∈ menu, exchange.request.menu)
include asked

theorem filterMap_menu {read : Exchange → Option α}
    (ignored : ∀ exchange, exchange.request.menu → read exchange = none) : menu.filterMap read = [] :=
  List.filterMap_eq_nil_iff.mpr fun exchange member => ignored exchange (asked exchange member)

theorem copied_menu : copied menu = [] := by
  refine filterMap_menu asked fun exchange asked => ?_
  obtain ⟨request, answer⟩ := exchange
  cases request <;> first | rfl | exact asked.elim

theorem framed_menu : framed menu = [] := by
  refine filterMap_menu asked fun exchange asked => ?_
  obtain ⟨request, answer⟩ := exchange
  cases request with
  | draw screen => cases screen <;> first | rfl | exact asked.elim
  | _ => rfl

theorem glances_menu : glances menu = [] := by
  refine glances_eq_nil_of_blind fun exchange member => ?_
  have asked := asked exchange member
  obtain ⟨request, answer⟩ := exchange
  cases request <;> first | rfl | exact asked.elim

/-- Nothing is shown as long as no dashboard came to look at the aggregate. -/
theorem Driven.unwatched {rest : List Exchange} {live : Outcome (StopReason × ViewFlags)}
    (start : rest.head?.bind (·.aggregate?) = none) (blind : glances rest = [])
    (uncopied : copied rest = []) (undrawn : framed rest = [])
    (stopped : ∀ value, live = .ok value → value = (.interrupt, {})) : Driven (menu ++ rest) live := by
  have blind : glances (menu ++ rest) = [] := by
    rw [glances_append menu start, glances_menu asked, blind]
    rfl
  have undrawn : framed (menu ++ rest) = [] := by
    rw [framed_append, framed_menu asked, undrawn]
    rfl
  constructor
  · exact fun _ => blind
  · rw [frames, blind, copied_append, copied_menu asked, uncopied]
    rfl
  · rw [frames, blind]
    exact ⟨undrawn ▸ List.nil_prefix, fun _ => undrawn⟩
  · intro reason flags same
    cases stopped _ same
    rw [events, blind]
    exact ⟨rfl, rfl⟩

end Menu

/-- A topic is subscribed to, and the loop runs; what comes after the loop shows nothing. -/
theorem Driven.of_refreshed {menu shown rest : List Exchange} {topic : String} {record : LogRecord}
    {looped : Outcome (Outcome StopReason × Dashboard)} {live : Outcome (StopReason × ViewFlags)}
    (asked : ∀ exchange ∈ menu, exchange.request.menu)
    (refreshed : Dashboard.Refreshed (some topic) [] shown looped)
    (quiet : ∀ reach ∈ reaches rest, reach = .elsewhere)
    (blind : rest.head?.bind (·.aggregate?) = none)
    (unwinds : looped = .unwound → live = .unwound)
    (stopped : ∀ reason flags, live = .ok (reason, flags) →
      ∃ last, looped = .ok (.ok reason, last) ∧ last.flags = flags) :
    Driven (menu ++ ⟨.subscribe topic, .answer ()⟩ :: ⟨.log record, ()⟩ :: (shown ++ rest)) live := by
  have silent (reach : Reach) (different : reach ≠ .elsewhere) : reach ∉ reaches rest :=
    fun reached => different (quiet reach reached)
  have seen : glances (menu ++ ⟨.subscribe topic, .answer ()⟩ :: ⟨.log record, ()⟩ :: (shown ++ rest)) =
      glances shown := by
    rw [glances_append menu rfl, glances_menu asked, glances, glances, glances_append shown blind,
      glances_eq_nil_of_not_reached (silent .terminal (by decide)), List.append_nil]
    rfl
  have unsubscribing : ∀ exchange ∈ menu, exchange.request.Unsubscribing :=
    fun exchange member => (asked exchange member).unsubscribing
  have shownFrames : frames (menu ++ ⟨.subscribe topic, .answer ()⟩ :: ⟨.log record, ()⟩ ::
      (shown ++ rest)) = framesFrom (some topic) [] (glances shown) := by
    rw [frames, seen, findSome?_subscribed_append unsubscribing]
    rfl
  have texts : framed (menu ++ ⟨.subscribe topic, .answer ()⟩ :: ⟨.log record, ()⟩ :: (shown ++ rest)) =
      framed (shown ++ rest) := by
    rw [framed_append, framed_menu asked]
    rfl
  rw [framed_append shown, framed_eq_nil (silent .terminal (by decide)), List.append_nil] at texts
  constructor
  · simp [Exchange.subscribed?]
  · rw [shownFrames, copied_append, copied_menu asked, ← refreshed.shared]
    refine (copied_append shown rest).trans ?_
    rw [copied_eq_nil (silent .clipboard (by decide)), List.append_nil]
  · rw [shownFrames]
    exact ⟨texts ▸ refreshed.drawn.inOrder,
      fun ended => texts.trans (refreshed.drawn.all fun unwound => ended (unwinds unwound))⟩
  · intro reason flags same
    obtain ⟨last, looped, rfl⟩ := stopped reason flags same
    rw [events, seen]
    exact refreshed.stopped reason last looped

/-- What a session does once a topic is chosen. -/
def watch (rounds : Nat) (plan : SessionPlan) (topic : String) : Program (StopReason × ViewFlags) := do
  subscribeAll [topic]
  Program.info .ingestion "Ingestion started for 1 topic(s)"
  let board : Dashboard :=
    { title := LiveView.defaultTitle
      topic := some topic
      instanceName := plan.instanceName
      zone := plan.zone }
  match ← board.refresh plan.tick rounds with
  | (.ok reason, board) => do
      shutDown
      pure (reason, board.flags)
  | (.failed error, _) => do
      shutDown
      Program.fail error
  | (.unwound, _) => .unwind
  | (.unfinished, _) => .unfinished

theorem watch_driven {rounds : Nat} {plan : SessionPlan} {topic : String} {menu trace : List Exchange}
    {live : Outcome (StopReason × ViewFlags)} (asked : ∀ exchange ∈ menu, exchange.request.menu)
    (runs : Runs (watch rounds plan topic) trace live) : Driven (menu ++ trace) live := by
  obtain ⟨subscription, rest, subscribed, rfl, subscribes, goesOn⟩ := runs_bind.mp runs
  obtain ⟨reply, after, rfl, replied⟩ := runs_request_bind.mp subscribes
  cases reply with
  | error error =>
      obtain ⟨rfl, rfl⟩ := runs_done.mp replied
      obtain ⟨rfl, rfl⟩ := runs_done.mp goesOn
      exact .unwatched asked rfl rfl rfl rfl (by simp)
  | unwinding =>
      obtain ⟨rfl, rfl⟩ := runs_done.mp replied
      obtain ⟨rfl, rfl⟩ := runs_done.mp goesOn
      exact .unwatched asked rfl rfl rfl rfl (by simp)
  | answer =>
      obtain ⟨rfl, rfl⟩ := runs_done.mp replied
      obtain ⟨rest, rfl, watches⟩ := runs_log_bind.mp goesOn
      obtain ⟨shown, rest, looped, rfl, loops, ends⟩ := runs_bind.mp watches
      have refreshed : Dashboard.Refreshed (some topic) [] shown looped :=
        Dashboard.refresh_refreshed loops rfl rfl
      cases looped with
      | failed error =>
          obtain ⟨rfl, rfl⟩ := runs_done.mp ends
          exact .of_refreshed asked refreshed (List.forall_mem_nil _) rfl (by simp) (by simp)
      | unwound =>
          obtain ⟨rfl, rfl⟩ := runs_done.mp ends
          exact .of_refreshed asked refreshed (List.forall_mem_nil _) rfl (fun _ => rfl) (by simp)
      | unfinished =>
          obtain ⟨rfl, rfl⟩ := runs_done.mp ends
          exact .of_refreshed asked refreshed (List.forall_mem_nil _) rfl (by simp) (by simp)
      | ok looped =>
          obtain ⟨verdict, board⟩ := looped
          cases verdict with
          | ok reason =>
              obtain ⟨after, rfl, stops⟩ := runs_log_bind.mp ends
              obtain ⟨_, after, rfl, last⟩ := runs_request_bind.mp stops
              obtain ⟨rfl, rfl⟩ := runs_done.mp last
              refine .of_refreshed asked refreshed (by simp [Request.reach]) rfl (by simp) ?_
              rintro reason flags same
              cases same
              exact ⟨board, rfl, rfl⟩
          | failed error =>
              obtain ⟨after, rfl, stops⟩ := runs_log_bind.mp ends
              obtain ⟨_, after, rfl, last⟩ := runs_request_bind.mp stops
              obtain ⟨rfl, rfl⟩ := runs_done.mp last
              exact .of_refreshed asked refreshed (by simp [Request.reach]) rfl (by simp) (by simp)
          | unwound =>
              obtain ⟨rfl, rfl⟩ := runs_done.mp ends
              exact .of_refreshed asked refreshed (List.forall_mem_nil _) rfl (by simp) (by simp)
          | unfinished =>
              obtain ⟨rfl, rfl⟩ := runs_done.mp ends
              exact .of_refreshed asked refreshed (List.forall_mem_nil _) rfl (by simp) (by simp)

theorem drive_driven {rounds : Nat} {plan : SessionPlan} {topics : List String}
    {trace : List Exchange} {live : Outcome (StopReason × ViewFlags)}
    (runs : Runs (drive rounds plan topics) trace live) : Driven trace live := by
  obtain ⟨menu, rest, chosen, rfl, chooses, drives⟩ := runs_bind.mp runs
  have asked := chooses.asked (chooseTopic_asks rounds topics)
  cases chosen with
  | failed error =>
      obtain ⟨rfl, rfl⟩ := runs_done.mp drives
      exact .unwatched asked rfl rfl rfl rfl nofun
  | unwound =>
      obtain ⟨rfl, rfl⟩ := runs_done.mp drives
      exact .unwatched asked rfl rfl rfl rfl nofun
  | unfinished =>
      obtain ⟨rfl, rfl⟩ := runs_done.mp drives
      exact .unwatched asked rfl rfl rfl rfl nofun
  | ok chosen =>
      cases chosen with
      | none =>
          obtain ⟨rest, rfl, ends⟩ := runs_log_bind.mp drives
          obtain ⟨rfl, rfl⟩ := runs_done.mp ends
          exact .unwatched asked rfl rfl rfl rfl fun value same => (Outcome.ok.inj same).symm
      | some topic => exact watch_driven asked drives

end Session

end TimingBoard
