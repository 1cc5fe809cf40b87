import TimingBoard.Proofs.Session.Course
import TimingBoard.Proofs.Session.Discovery
import TimingBoard.Proofs.Session.Frames
import TimingBoard.Proofs.Session.Menu

namespace TimingBoard

/-! The topic that a session subscribes to.

Searching, choosing, watching and closing subscribe to nothing, so a session subscribes at most once.
What it subscribes to was found, and it is what was asked for, the only topic there is, or the one
that the menu showed as selected when enter was pressed. -/

theorem Runs.subscribed_eq_nil {program : Program α} {trace : List Exchange} {outcome : Outcome α}
    (runs : Runs program trace outcome) (asks : program.AsksOnly Request.Unsubscribing) :
    subscribed trace = [] :=
  TimingBoard.subscribed_eq_nil (runs.asked asks)

/-- At most one topic is subscribed to, and what led to it is settled by then. -/
inductive SubscribesOnce (settled : String → List Exchange → Prop) : List Exchange → Prop where
  | never {trace : List Exchange} (none : subscribed trace = []) : SubscribesOnce settled trace
  | once {before after : List Exchange} {topic : String} {reply : Reply Unit}
      (first : subscribed before = []) (last : subscribed after = []) (led : settled topic before) :
      SubscribesOnce settled (before ++ ⟨.subscribe topic, reply⟩ :: after)

namespace SubscribesOnce

variable {settled wider : String → List Exchange → Prop} {trace : List Exchange}

theorem preceded (opening : List Exchange) (silent : subscribed opening = [])
    (widen : ∀ topic before, settled topic before → wider topic (opening ++ before))
    (subscribes : SubscribesOnce settled trace) : SubscribesOnce wider (opening ++ trace) := by
  cases subscribes with
  | never none => exact .never (by rw [subscribed_append, silent, none, List.append_nil])
  | once first last led =>
      rw [← List.append_assoc]
      exact .once (by rw [subscribed_append, silent, first, List.append_nil]) last (widen _ _ led)

theorem followed (rest : List Exchange) (silent : subscribed rest = [])
    (subscribes : SubscribesOnce settled trace) : SubscribesOnce settled (trace ++ rest) := by
  cases subscribes with
  | never none => exact .never (by rw [subscribed_append, silent, none, List.append_nil])
  | once first last led =>
      rw [List.append_assoc, List.cons_append]
      exact .once first (by rw [subscribed_append, silent, last, List.append_nil]) led

end SubscribesOnce

namespace Session

open Program

variable {rounds : Nat} {plan : SessionPlan} {topics : List String} {topic : String}
  {trace : List Exchange}

/-- How a topic is chosen: it is the only one, or the menu showed it as selected, and then enter was
pressed. -/
inductive Chosen (topics : List String) : String → List Exchange → Prop where
  | alone {topic : String} {before : List Exchange} (sole : topics = [topic]) :
      Chosen topics topic before
  | picked {topic : String} {before : List Exchange} (index : Nat) (key : Key)
      (highlighted : topics[index]? = some topic) (entered : key.code = .enter)
      (last : [⟨.draw (.menu ⟨topics, index⟩), .answer ()⟩,
        ⟨.poll Menu.pollTime, .answer (some key)⟩,
        ⟨.log ⟨.menu, .info, "Selected topic '" ++ topic ++ "'"⟩, ()⟩] <:+ before) :
      Chosen topics topic before

namespace Chosen

theorem preceded (opening : List Exchange) {before : List Exchange}
    (chosen : Chosen topics topic before) : Chosen topics topic (opening ++ before) := by
  cases chosen with
  | alone sole => exact .alone sole
  | picked index key highlighted entered last =>
      exact .picked index key highlighted entered (last.trans (List.suffix_append opening before))

theorem mem {before : List Exchange} (chosen : Chosen topics topic before) : topic ∈ topics := by
  cases chosen with
  | alone sole => exact sole ▸ List.mem_singleton_self topic
  | picked index key highlighted => exact List.mem_of_getElem? highlighted

end Chosen

/-- What led to the topic of a session. -/
structure Settled (plan : SessionPlan) (topic : String) (before : List Exchange) : Prop where
  found : ∃ found, ⟨.discover, .ok found⟩ ∈ before ∧ topic ∈ found ∧
    (plan.topic = none → Chosen found topic before)
  wanted : ∀ wanted, plan.topic = some wanted → topic = wanted

theorem runs_chooseTopic (runs : Runs (chooseTopic rounds topics) trace (.ok (some topic))) :
    Chosen topics topic trace := by
  unfold chooseTopic at runs
  split at runs
  case h_1 single =>
    obtain ⟨-, same⟩ := runs_pure.mp runs
    cases same
    exact .alone rfl
  case h_2 =>
    have runs : Runs (Menu.choose ⟨topics, Selector.walk topics.length []⟩ rounds) trace
        (.ok (some topic)) := runs
    obtain ⟨passed, ending, rfl, course⟩ := Menu.exists_course runs
    obtain ⟨-, ends⟩ | ⟨-, -, unfinished⟩ := course.ends
    · cases ends with
      | selected key entered topic highlighted =>
          refine .picked _ key highlighted entered (List.IsSuffix.trans ?_ (List.suffix_append ..))
          exact List.suffix_cons ..
    · cases unfinished

theorem runs_watch {live : Outcome (StopReason × ViewFlags)}
    (runs : Runs (watch rounds plan topic) trace live) :
    ∃ reply rest, trace = ⟨.subscribe topic, reply⟩ :: rest ∧ subscribed rest = [] := by
  obtain ⟨subscription, rest, replied, rfl, subscribes, goesOn⟩ := runs_bind.mp runs
  obtain ⟨reply, after, rfl, replies⟩ := runs_request_bind.mp subscribes
  refine ⟨reply, after ++ rest, rfl, ?_⟩
  have first : subscribed after = [] :=
    replies.subscribed_eq_nil ((asksOnly_ofReply reply).bind fun _ => trivial)
  have last : subscribed rest = [] := by
    refine goesOn.subscribed_eq_nil ?_
    cases replied with
    | failed | unwound | unfinished => trivial
    | ok =>
        refine AsksOnly.ask nofun fun _ => ?_
        refine ((Dashboard.refresh_asks plan.tick _ rounds).mono
          fun _ => Request.dashboard.unsubscribing).bind fun (stopped, board) => ?_
        cases stopped with
        | ok reason => exact ⟨nofun, fun _ => ⟨nofun, fun _ => trivial⟩⟩
        | failed error => exact ⟨nofun, fun _ => ⟨nofun, fun _ => trivial⟩⟩
        | unwound => trivial
        | unfinished => trivial
  rw [subscribed_append, first, last, List.append_nil]

theorem drive_subscribesOnce {live : Outcome (StopReason × ViewFlags)}
    (runs : Runs (drive rounds plan topics) trace live) :
    SubscribesOnce (Chosen topics) trace := by
  obtain ⟨menu, rest, chosen, rfl, chooses, drives⟩ := runs_bind.mp runs
  have silent : subscribed menu = [] := chooses.subscribed_eq_nil
    ((chooseTopic_asks rounds topics).mono fun _ => Request.menu.unsubscribing)
  cases chosen with
  | failed | unwound | unfinished =>
      obtain ⟨rfl, rfl⟩ := runs_done.mp drives
      exact .never (by rw [subscribed_append, silent]; rfl)
  | ok chosen =>
      cases chosen with
      | none =>
          obtain ⟨rest, rfl, ends⟩ := runs_log_bind.mp drives
          obtain ⟨rfl, rfl⟩ := runs_done.mp ends
          exact .never (by rw [subscribed_append, silent]; rfl)
      | some topic =>
          obtain ⟨reply, rest, rfl, last⟩ := runs_watch drives
          exact .once silent last (runs_chooseTopic chooses)

theorem subscribed_restoreNotes (source : LogSource) (result : Except Error Unit) :
    subscribed (restoreNotes source result) = [] := by
  cases result <;> rfl

theorem Borrowed.subscribesOnce {taken : List Exchange} {live : Outcome (StopReason × ViewFlags)}
    (borrows : Borrowed (drive rounds plan topics) taken live) :
    SubscribesOnce (Chosen topics) taken := by
  have held {held : List Exchange} (drives : SubscribesOnce (Chosen topics) held) :
      SubscribesOnce (Chosen topics) (⟨.acquire, .ok ()⟩ :: held) :=
    drives.preceded [⟨.acquire, .ok ()⟩] rfl fun _ _ => Chosen.preceded _
  cases borrows with
  | refused => exact .never rfl
  | unfinished drives => exact held (drive_subscribesOnce drives)
  | returned drives ended result =>
      exact held ((drive_subscribesOnce drives).followed _ (subscribed_restoreNotes _ result))

/-- A topic that is chosen from what a search settled on is what was wanted. -/
theorem Settled.of_search {search before : List Exchange}
    (searched : Runs (Discovery.waitForTopics rounds plan.kind plan.topic plan.wait) search (.ok topics))
    (chosen : Chosen topics topic before) (notes : List Exchange) :
    Settled plan topic (search ++ notes ++ before) := by
  obtain ⟨found, seen, accepted⟩ := Discovery.runs_waitForTopics_found searched
  have seen : ⟨.discover, .ok found⟩ ∈ search ++ notes ++ before := by simp [seen]
  cases wanted : plan.topic with
  | some requested =>
      obtain ⟨listed, rfl⟩ : requested ∈ found ∧ [requested] = topics := by
        simpa [Discovery.accept?, wanted] using accepted
      obtain rfl : topic = requested := List.mem_singleton.mp chosen.mem
      exact ⟨⟨found, seen, listed, by simp [wanted]⟩, by simp [wanted]⟩
  | none =>
      obtain ⟨-, rfl⟩ : found ≠ [] ∧ found = topics := by
        simpa [Discovery.accept?, wanted] using accepted
      exact ⟨⟨found, seen, chosen.mem, fun _ => chosen.preceded _⟩, by simp [wanted]⟩

theorem closes_unsubscribed {live : Outcome (StopReason × ViewFlags)} {outcome : Outcome SessionOutcome}
    (closes : Runs (live.andThen (closing plan)) trace outcome) : subscribed trace = [] := by
  refine closes.subscribed_eq_nil ?_
  cases live with
  | ok stopped => exact (closing_asks plan stopped).mono fun _ => Request.closing.unsubscribing
  | failed | unwound | unfinished => trivial

theorem run_subscribesOnce {outcome : Outcome SessionOutcome}
    (runs : Runs (run rounds plan) trace outcome) : SubscribesOnce (Settled plan) trace := by
  obtain ⟨opening, after, found, rfl, first, last⟩ := runs_bind.mp runs
  have silent : subscribed opening = [] := first.subscribed_eq_nil
    ((topics?_asks rounds plan).mono fun _ => Request.search.unsubscribing)
  obtain missed | ⟨search, topics, rfl, rfl, searched⟩ := runs_topics? first
  · refine .never ?_
    have unsubscribed : subscribed after = [] := by
      refine last.subscribed_eq_nil ?_
      cases found with
      | failed | unwound | unfinished => trivial
      | ok settled =>
          cases settled with
          | some topics => exact absurd rfl (missed topics)
          | none => exact ⟨nofun, fun _ => trivial⟩
    rw [subscribed_append, silent, unsubscribed, List.append_nil]
  · obtain ⟨taken, rest, live, rfl, borrowed, closes⟩ := runs_bind.mp last
    have borrows := (runs_withTerminal borrowed).subscribesOnce
    exact (borrows.followed rest (closes_unsubscribed closes)).preceded _ silent
      fun topic before chosen => .of_search searched chosen _

end Session

open Selector in
/-- The place of a selector is where the keys lead, and the menu shows it before each of them.  A
selection is what the last frame showed, and a session subscribes to nothing else than that, what it
was asked for, or the only topic there is. -/
theorem subscription_settled :
    (∀ topics keys, (new topics).pressAll keys = ⟨topics, walk topics.length keys⟩ ∧
      (topics = [] → walk topics.length keys = 0) ∧
      (topics ≠ [] → walk topics.length keys < topics.length)) ∧
    (∀ topics rounds trace outcome, Runs (Menu.choose (new topics) rounds) trace outcome →
      ∃ passed ending, trace = Menu.turns topics [] passed ++ ending ∧
        Menu.Course topics [] rounds passed ending outcome) ∧
    ∀ rounds plan trace outcome, Runs (Session.run rounds plan) trace outcome →
      SubscribesOnce (Session.Settled plan) trace := by
  refine ⟨fun topics keys => ⟨pressAll_new topics keys, ?_, ?_⟩, ?_, ?_⟩
  · rintro rfl
    exact Nat.le_zero.mp (walk_le 0 keys)
  · exact fun some => walk_lt (mt List.eq_nil_of_length_eq_zero some) keys
  · exact fun topics rounds trace outcome runs => Menu.exists_course runs
  · exact fun rounds plan trace outcome runs => Session.run_subscribesOnce runs

/-- The second of two topics is selected with a shifted enter, and then it cannot be subscribed to. -/
theorem subscription_settled_second :
    let plan : SessionPlan := ⟨"ProcessingTimeTree", none, 0, 100, "viz", false, .utc⟩
    let topics := ["control", "planner"]
    let before : List Exchange :=
      [⟨.now, 0⟩, ⟨.interruptFlag, false⟩, ⟨.discover, .ok topics⟩, Session.foundNote topics,
        ⟨.interruptFlag, false⟩, ⟨.acquire, .ok ()⟩] ++
      Menu.turns topics [] [some ⟨.down, []⟩, none, some ⟨.char 'j', []⟩, some ⟨.enter, [.shift]⟩] ++
      [⟨.log ⟨.menu, .info, "Selected topic 'planner'"⟩, ()⟩]
    let trace := before ++ [⟨.subscribe "planner", .error (.io "gone")⟩, ⟨.restore, .ok ()⟩]
    Runs (Session.run 4 plan) trace (.failed (.io "gone")) ∧ subscribed trace = ["planner"] ∧
      SubscribesOnce (Session.Settled plan) trace := by
  intro plan topics before trace
  have runs : Runs (Session.run 4 plan) trace (.failed (.io "gone")) := by
    repeat constructor
  exact ⟨runs, rfl, subscription_settled.2.2 4 plan trace _ runs⟩

end TimingBoard
