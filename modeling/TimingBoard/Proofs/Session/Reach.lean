import TimingBoard.Proofs.Session.Runs
import TimingBoard.Session.Basic

namespace TimingBoard

/-! What the parts of a session reach for.

The search for topics touches neither the terminal nor the clipboard nor the output, the dashboard
uses the terminal but never takes it or gives it back, and the report never uses it. -/

/-- What a request reaches for. -/
inductive Reach where
  | taking
  | givingBack
  | terminal
  | clipboard
  | output
  | elsewhere
deriving DecidableEq

def Request.reach : Request → Reach
  | .acquire => .taking
  | .restore => .givingBack
  | .draw _ | .poll _ => .terminal
  | .copy _ => .clipboard
  | .write _ | .flush => .output
  | _ => .elsewhere

/-- What the requests of a trace reach for, in their order. -/
def reaches (trace : List Exchange) : List Reach := trace.map (·.request.reach)

@[simp]
theorem reaches_nil : reaches [] = [] := rfl

@[simp]
theorem reaches_cons (exchange : Exchange) (trace : List Exchange) :
    reaches (exchange :: trace) = exchange.request.reach :: reaches trace := rfl

@[simp]
theorem reaches_append (before after : List Exchange) :
    reaches (before ++ after) = reaches before ++ reaches after :=
  List.map_append

theorem Runs.reaches {program : Program α} {trace : List Exchange} {outcome : Outcome α}
    (runs : Runs program trace outcome) (allowed : Reach → Prop)
    (asks : program.AsksOnly fun request => allowed request.reach) :
    ∀ reach ∈ reaches trace, allowed reach := by
  intro reach member
  obtain ⟨exchange, found, rfl⟩ := List.mem_map.mp member
  exact runs.asked asks exchange found

theorem Runs.not_reached {program : Program α} {trace : List Exchange} {outcome : Outcome α}
    {reach : Reach} (runs : Runs program trace outcome) (allowed : Reach → Prop)
    (asks : program.AsksOnly fun request => allowed request.reach) (never : ¬ allowed reach) :
    reach ∉ TimingBoard.reaches trace :=
  fun member => never (runs.reaches allowed asks reach member)

open Program

def Request.Unsubscribing (request : Request) : Prop := ∀ topic, request ≠ .subscribe topic

/-- What is asked to find topics. -/
def Request.search : Request → Prop
  | .interruptFlag | .discover | .now | .sleep _ | .log _ => True
  | _ => False

theorem Request.search.unsubscribing {request : Request} (asked : request.search) :
    request.Unsubscribing := by
  rintro topic rfl
  exact asked

theorem Request.search.elsewhere {request : Request} (asked : request.search) :
    request.reach = .elsewhere := by
  cases request <;> first | exact asked.elim | rfl

theorem Discovery.search_asks (kind : String) (requested : Option String) (wait deadline rounds : Nat) :
    (search kind requested wait deadline rounds).AsksOnly Request.search := by
  induction rounds with
  | zero => trivial
  | succ rounds ih =>
      refine AsksOnly.ask trivial fun raised => ?_
      split
      · exact ⟨trivial, fun _ => trivial⟩
      · refine AsksOnly.ask trivial fun answer => ?_
        refine (asksOnly_ofExcept answer).bind fun found => ?_
        split
        · trivial
        · refine AsksOnly.ask trivial fun now => ?_
          split
          · exact ⟨trivial, fun _ => trivial⟩
          · exact AsksOnly.ask trivial fun _ => ih

theorem Discovery.waitForTopics_asks (rounds : Nat) (kind : String) (requested : Option String)
    (wait : Nat) : (waitForTopics rounds kind requested wait).AsksOnly Request.search :=
  AsksOnly.ask trivial fun start => search_asks kind requested wait (start + wait) rounds

namespace Session

theorem topics?_asks (rounds : Nat) (plan : SessionPlan) :
    (topics? rounds plan).AsksOnly Request.search := by
  refine (Discovery.waitForTopics_asks rounds plan.kind plan.topic plan.wait).attempt.bind
    fun found => ?_
  cases found with
  | ok topics =>
      refine AsksOnly.ask trivial fun _ => ?_
      refine AsksOnly.ask trivial fun raised => ?_
      split <;> trivial
  | failed error =>
      dsimp only
      split <;> trivial
  | unwound => trivial
  | unfinished => trivial

end Session

/-- What the dashboard may reach for. -/
def Reach.live : Reach → Prop
  | .terminal | .clipboard | .elsewhere => True
  | _ => False

/-- What the report may reach for. -/
def Reach.reporting : Reach → Prop
  | .clipboard | .output | .elsewhere => True
  | _ => False

/-- What is asked to show a menu.  The aggregate is not looked at, and nothing is copied. -/
def Request.menu : Request → Prop
  | .interruptFlag | .draw (.menu _) | .poll _ | .log _ => True
  | _ => False

theorem Request.menu.unsubscribing {request : Request} (asked : request.menu) :
    request.Unsubscribing := by
  rintro topic rfl
  exact asked

theorem Request.menu.live {request : Request} (asked : request.menu) : request.reach.live := by
  cases request <;> first | exact asked.elim | trivial

theorem Menu.choose_asks (selector : Selector) (rounds : Nat) :
    (choose selector rounds).AsksOnly Request.menu := by
  induction rounds generalizing selector with
  | zero => trivial
  | succ rounds ih =>
      refine AsksOnly.ask trivial fun raised => ?_
      split
      · trivial
      · refine AsksOnly.ask trivial fun drawn => ?_
        refine (asksOnly_ofReply drawn).bind fun _ => ?_
        refine AsksOnly.ask trivial fun polled => ?_
        refine (asksOnly_ofReply polled).bind fun pressed => ?_
        cases pressed with
        | none => exact ih selector
        | some key =>
            dsimp only
            split
            · exact ih _
            · exact ⟨trivial, fun _ => trivial⟩
            · trivial

/-- What is asked to show trees.  Nothing is subscribed to. -/
def Request.dashboard : Request → Prop
  | .interruptFlag | .now | .draw (.trees _) | .poll _ | .snapshot | .copy _ | .log _ => True
  | _ => False

theorem Request.dashboard.unsubscribing {request : Request} (asked : request.dashboard) :
    request.Unsubscribing := by
  rintro topic rfl
  exact asked

theorem Request.dashboard.live {request : Request} (asked : request.dashboard) :
    request.reach.live := by
  cases request <;> first | exact asked.elim | trivial

namespace Dashboard

theorem step_asks (board : Dashboard) (event : Event) (aggregate : Aggregate) :
    (board.step event aggregate).AsksOnly Request.dashboard := by
  unfold step
  split
  · trivial
  · dsimp only
    split
    · refine AsksOnly.bind ?_ fun _ => trivial
      refine AsksOnly.ask trivial fun copied => ?_
      cases copied with
      | answer => trivial
      | error reason => exact ⟨trivial, fun _ => trivial⟩
      | unwinding => trivial
    · trivial

theorem nextStart_asks (tick start : Nat) : (nextStart tick start).AsksOnly (· = .now) := by
  refine AsksOnly.ask rfl fun now => ?_
  split
  · exact ⟨rfl, fun _ => trivial⟩
  · trivial

theorem refreshFrom_asks (tick : Nat) (board : Dashboard) (start rounds : Nat) :
    (board.refreshFrom tick start rounds).AsksOnly Request.dashboard := by
  induction rounds generalizing board start with
  | zero => trivial
  | succ rounds ih =>
      refine AsksOnly.ask trivial fun raised => ?_
      split
      · exact ⟨trivial, fun _ => trivial⟩
      · refine AsksOnly.ask trivial fun now => ?_
        refine AsksOnly.ask trivial fun polled => ?_
        cases polled with
        | error => trivial
        | unwinding => trivial
        | answer pressed =>
            refine AsksOnly.ask trivial fun aggregate => ?_
            refine (board.step_asks _ aggregate).bind fun (step, board) => ?_
            cases step with
            | stopped reason => exact ⟨trivial, fun _ => trivial⟩
            | running screen =>
                refine AsksOnly.ask trivial fun drawn => ?_
                cases drawn with
                | error => trivial
                | unwinding => trivial
                | answer =>
                    exact ((nextStart_asks tick start).mono fun _ same => same ▸ trivial).bind (ih board)

theorem refresh_asks (tick : Nat) (board : Dashboard) (rounds : Nat) :
    (board.refresh tick rounds).AsksOnly Request.dashboard :=
  AsksOnly.ask trivial fun start => board.refreshFrom_asks tick start rounds

end Dashboard

namespace Session

theorem chooseTopic_asks (rounds : Nat) (topics : List String) :
    (chooseTopic rounds topics).AsksOnly Request.menu := by
  unfold chooseTopic
  split
  · trivial
  · exact Menu.choose_asks _ rounds

theorem subscribeAll_asks (topics : List String) :
    (subscribeAll topics).AsksOnly (·.reach = .elsewhere) := by
  induction topics with
  | nil => trivial
  | cons topic rest ih =>
      refine AsksOnly.ask rfl fun answer => ?_
      exact (asksOnly_ofReply answer).bind fun _ => ih

theorem drive_asks (rounds : Nat) (plan : SessionPlan) (topics : List String) :
    (drive rounds plan topics).AsksOnly (·.reach.live) := by
  refine ((chooseTopic_asks rounds topics).mono fun _ => Request.menu.live).bind fun chosen => ?_
  cases chosen with
  | none => exact ⟨trivial, fun _ => trivial⟩
  | some topic =>
      refine ((subscribeAll_asks [topic]).mono fun _ same => same ▸ trivial).bind fun _ => ?_
      refine AsksOnly.ask trivial fun _ => ?_
      refine ((Dashboard.refresh_asks plan.tick _ rounds).mono fun _ => Request.dashboard.live).bind
        fun (stopped, board) => ?_
      cases stopped with
      | ok reason => exact ⟨trivial, fun _ => ⟨trivial, fun _ => trivial⟩⟩
      | failed error => exact ⟨trivial, fun _ => ⟨trivial, fun _ => trivial⟩⟩
      | unwound => trivial
      | unfinished => trivial

end Session

/-- What is asked once the terminal is back.  Nothing is subscribed to. -/
def Request.closing : Request → Prop
  | .snapshot | .copy _ | .write _ | .flush | .log _ => True
  | _ => False

theorem Request.closing.unsubscribing {request : Request} (asked : request.closing) :
    request.Unsubscribing := by
  rintro topic rfl
  exact asked

theorem Request.closing.reporting {request : Request} (asked : request.closing) :
    request.reach.reporting := by
  cases request <;> first | exact asked.elim | trivial

theorem Request.closing_of_output {request : Request} (writes : request.reach = .output) :
    request.closing := by
  cases request <;> trivial

namespace Report

theorem writeAll_asks (parts : List String) :
    (writeAll parts).AsksOnly (·.reach = .output) := by
  induction parts with
  | nil => trivial
  | cons part rest ih =>
      refine AsksOnly.ask rfl fun written => ?_
      exact (asksOnly_ofExcept written).bind fun _ => ih

theorem copyWorst_asks (aggregate : Aggregate) :
    (copyWorst aggregate).AsksOnly Request.closing := by
  refine AsksOnly.ask trivial fun copied => ?_
  cases copied with
  | answer => exact ⟨trivial, fun _ => trivial⟩
  | error reason => exact ⟨trivial, fun _ => trivial⟩
  | unwinding => trivial

theorem run_asks (bold : Bool) (aggregate : Aggregate) (reason : StopReason) (flags : ViewFlags) :
    (run bold aggregate reason flags).AsksOnly Request.closing := by
  unfold run
  split
  · exact ⟨trivial, fun _ => trivial⟩
  · refine ((writeAll_asks _).mono fun _ => Request.closing_of_output).bind fun _ => ?_
    refine AsksOnly.ask trivial fun flushed => ?_
    refine (asksOnly_ofExcept flushed).bind fun _ => ?_
    dsimp only
    split
    · exact (copyWorst_asks aggregate).bind fun _ => trivial
    · trivial

theorem writeAll_finishes (parts : List String) : (writeAll parts).Finishes := by
  induction parts with
  | nil => exact finishes_pure _
  | cons part rest ih => exact .ask fun written => (finishes_ofExcept written).bind fun _ => ih

theorem copyWorst_finishes (aggregate : Aggregate) : (copyWorst aggregate).Finishes := by
  refine .ask fun copied => ?_
  cases copied with
  | answer => exact .ask fun _ => finishes_pure _
  | error reason => exact .ask fun _ => finishes_pure _
  | unwinding => exact nofun

/-- A report needs no rounds. -/
theorem run_finishes (bold : Bool) (aggregate : Aggregate) (reason : StopReason)
    (flags : ViewFlags) : (run bold aggregate reason flags).Finishes := by
  unfold run
  split
  · exact .ask fun _ => finishes_pure _
  · refine (writeAll_finishes _).bind fun _ => .ask fun flushed => ?_
    refine (finishes_ofExcept flushed).bind fun _ => ?_
    dsimp only
    split
    · exact (copyWorst_finishes aggregate).bind fun _ => finishes_pure _
    · exact finishes_pure _

end Report

end TimingBoard
