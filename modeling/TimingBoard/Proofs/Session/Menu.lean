import Mathlib.Data.List.Induction
import Mathlib.Data.List.ReduceOption
import TimingBoard.Proofs.Session.Runs
import TimingBoard.Session.Menu

namespace TimingBoard

/-! The course of a menu.

Keys walk through the topics, by at most one place each and never beyond the first or the last topic.
A menu takes turns.  In each turn it shows the place to which the keys so far have led and takes at
most one key.  The first turn that does not leave the menu open is the last one. -/

namespace Key

/-- Down and `j` go to the next place, up and `k` to the one before, whatever the modifiers. -/
def move (key : Key) : Int :=
  match key.code with
  | .down | .char 'j' => 1
  | .up | .char 'k' => -1
  | _ => 0

/-- `q` and escape cancel with any modifiers, and `c` cancels with control. -/
def Cancels (key : Key) : Prop :=
  key.code = .char 'q' ∨ key.code = .escape ∨ key.code = .char 'c' ∧ .control ∈ key.modifiers

theorem isInterrupt_iff {key : Key} :
    key.isInterrupt = true ↔ key.code = .char 'c' ∧ .control ∈ key.modifiers := by
  simp [isInterrupt, hasControl, and_comm]

theorem Cancels.move_eq {key : Key} (cancels : key.Cancels) : key.move = 0 := by
  obtain ⟨code, modifiers⟩ := key
  rcases cancels with rfl | rfl | ⟨rfl, -⟩ <;> rfl

end Key

namespace Selector

variable {selector : Selector} {key : Key}

/-- One move from a place in a list of that length, as far as the list goes. -/
def movedBy (length : Nat) (place : Int) (key : Key) : Int := max 0 (min (length - 1) (place + key.move))

/-- Where keys lead from the first place. -/
def walk (length : Nat) (keys : List Key) : Nat := (keys.foldl (movedBy length) 0).toNat

/-- The selected place is in the list, or is the first one of an empty list. -/
def Inside (selector : Selector) : Prop := selector.index ≤ selector.topics.length - 1

/-- What a key decides, and what it leaves of the selector. -/
inductive Handled (selector : Selector) (key : Key) : Selection × Selector → Prop where
  | cancelled (cancels : key.Cancels) : Handled selector key (.cancelled, selector)
  | selected (topic : String) (entered : key.code = .enter)
      (chosen : selector.topics[selector.index]? = some topic) :
      Handled selector key (.selected topic, selector)
  | pending (goesOn : ¬ key.Cancels)
      (unchosen : key.code = .enter → selector.topics[selector.index]? = none) (index : Nat)
      (moved : selector.Inside → (index : Int) = movedBy selector.topics.length selector.index key) :
      Handled selector key (.pending, ⟨selector.topics, index⟩)

namespace Inside

variable (inside : selector.Inside)
include inside

theorem still (still : key.move = 0) :
    (selector.index : Int) = movedBy selector.topics.length selector.index key := by
  unfold Inside at inside
  rw [movedBy, still]
  omega

theorem up (ascends : key.move = -1) :
    (selector.up.index : Int) = movedBy selector.topics.length selector.index key := by
  unfold Inside at inside
  rw [movedBy, ascends, Selector.up]
  dsimp only
  omega

theorem down (descends : key.move = 1) :
    (selector.down.index : Int) = movedBy selector.topics.length selector.index key := by
  unfold Inside at inside
  rw [movedBy, descends, Selector.down]
  split
  · dsimp only
    omega
  · omega

end Inside

theorem down_topics (selector : Selector) : selector.down.topics = selector.topics := by
  unfold down
  split <;> rfl

theorem handleKey_handled (selector : Selector) (key : Key) :
    Handled selector key (selector.handleKey key) := by
  obtain ⟨code, modifiers⟩ := key
  unfold handleKey
  by_cases interrupt : Key.isInterrupt ⟨code, modifiers⟩ = true
  · rw [if_pos interrupt]
    exact .cancelled (.inr (.inr (Key.isInterrupt_iff.mp interrupt)))
  · rw [if_neg interrupt]
    -- At the last place `down` is the selector itself, so it is brought into the form of a moved one.
    have descends (move : Key.move ⟨code, modifiers⟩ = 1) (goesOn : ¬ Key.Cancels ⟨code, modifiers⟩)
        (other : code ≠ .enter) : Handled selector ⟨code, modifiers⟩ (.pending, selector.down) := by
      have same : selector.down = ⟨selector.topics, selector.down.index⟩ := by
        rw [← selector.down_topics]
      rw [same]
      exact .pending goesOn (fun enter => absurd enter other) _ fun inside => inside.down move
    dsimp only
    split
    case h_1 | h_2 => exact .pending (by simp [Key.Cancels]) (by simp) _ fun inside => inside.up rfl
    case h_3 | h_4 => exact descends rfl (by simp [Key.Cancels]) (by simp)
    case h_5 =>
      split
      case h_1 topic chosen => exact .selected topic rfl chosen
      case h_2 unchosen =>
        exact .pending (by simp [Key.Cancels]) (fun _ => unchosen) _ fun inside => inside.still rfl
    case h_6 => exact .cancelled (.inl rfl)
    case h_7 => exact .cancelled (.inr (.inl rfl))
    case h_8 up k down j enter q escape =>
      have goesOn : ¬ Key.Cancels ⟨code, modifiers⟩ := by
        rintro (same | same | both)
        · exact q same
        · exact escape same
        · exact interrupt (Key.isInterrupt_iff.mpr both)
      refine .pending goesOn (fun same => absurd same enter) _ fun inside => inside.still ?_
      unfold Key.move
      split <;> first | rfl | contradiction

/-- What a key leaves of the selector, whatever it decides. -/
def press (selector : Selector) (key : Key) : Selector := (selector.handleKey key).2

def pressAll (selector : Selector) (keys : List Key) : Selector := keys.foldl press selector

theorem press_topics (selector : Selector) (key : Key) :
    (selector.press key).topics = selector.topics := by
  have handled := selector.handleKey_handled key
  unfold press
  generalize selector.handleKey key = result at handled
  cases handled with
  | cancelled | selected | pending => rfl

theorem press_index (inside : selector.Inside) (key : Key) :
    ((selector.press key).index : Int) = movedBy selector.topics.length selector.index key := by
  have handled := selector.handleKey_handled key
  unfold press
  generalize selector.handleKey key = result at handled
  cases handled with
  | cancelled cancels => exact inside.still cancels.move_eq
  | selected topic entered => exact inside.still (by rw [Key.move, entered])
  | pending _ _ index moved => exact moved inside

theorem walk_concat (length : Nat) (keys : List Key) (key : Key) :
    (walk length (keys ++ [key]) : Int) = movedBy length (walk length keys) key := by
  have nonneg : 0 ≤ keys.foldl (movedBy length) 0 := by
    induction keys using List.reverseRecOn with
    | nil => exact Int.le_refl 0
    | append_singleton keys key =>
        rw [List.foldl_concat]
        exact Int.le_max_left ..
  unfold walk
  rw [List.foldl_concat, Int.toNat_of_nonneg nonneg]
  exact Int.toNat_of_nonneg (Int.le_max_left ..)

theorem walk_le (length : Nat) (keys : List Key) : walk length keys ≤ length - 1 := by
  induction keys using List.reverseRecOn with
  | nil => exact Nat.zero_le _
  | append_singleton keys key =>
      have last := walk_concat length keys key
      unfold movedBy at last
      omega

theorem walk_lt {length : Nat} (some : length ≠ 0) (keys : List Key) : walk length keys < length := by
  have within := walk_le length keys
  omega

/-- Whatever keys a new selector is given, it is at the place they lead to. -/
theorem pressAll_new (topics : List String) (keys : List Key) :
    (new topics).pressAll keys = ⟨topics, walk topics.length keys⟩ := by
  induction keys using List.reverseRecOn with
  | nil => rfl
  | append_singleton keys key ih =>
      have reached : (new topics).pressAll (keys ++ [key]) = press ⟨topics, walk topics.length keys⟩ key := by
        rw [pressAll, List.foldl_concat, ← pressAll, ih]
      rw [reached]
      have stays := press_topics ⟨topics, walk topics.length keys⟩ key
      have inside : Inside ⟨topics, walk topics.length keys⟩ := walk_le topics.length keys
      have moves := press_index inside key
      rw [← walk_concat] at moves
      cases same : press ⟨topics, walk topics.length keys⟩ key with
      | mk listed index =>
          rw [same] at stays moves
          obtain rfl : listed = topics := stays
          obtain rfl : index = walk listed.length (keys ++ [key]) := Int.ofNat.inj moves
          rfl

/-- The second key down finds no further place. -/
example : (new ["control", "planner"]).pressAll [⟨.down, []⟩, ⟨.char 'j', [.alt]⟩, ⟨.up, [.shift]⟩] =
    ⟨["control", "planner"], 0⟩ := by decide

end Selector

namespace Menu

open Selector

variable {topics : List String} {keys : List Key} {rounds : Nat} {trace : List Exchange}
  {outcome : Outcome (Option String)}

/-- A frame of the menu, shown at the place to which the keys so far have led. -/
def shown (topics : List String) (keys : List Key) : Screen :=
  .menu ⟨topics, walk topics.length keys⟩

/-- A turn that leaves the menu open. -/
def turn (topics : List String) (keys : List Key) (polled : Option Key) : List Exchange :=
  [⟨.interruptFlag, false⟩, ⟨.draw (shown topics keys), .answer ()⟩,
    ⟨.poll pollTime, .answer polled⟩]

def turns (topics : List String) (keys : List Key) : List (Option Key) → List Exchange
  | [] => []
  | polled :: later => turn topics keys polled ++ turns topics (keys ++ polled.toList) later

/-- The key, if there is one, neither cancels nor finds a topic to select. -/
def Passes (topics : List String) (polled : Option Key) : Prop :=
  ∀ key ∈ polled, ¬ key.Cancels ∧ (key.code = .enter → topics = [])

/-- The ways in which a turn that comes after some keys closes the menu. -/
inductive Ends (topics : List String) (keys : List Key) :
    List Exchange → Outcome (Option String) → Prop where
  | raised : Ends topics keys [⟨.interruptFlag, true⟩] (.ok none)
  | undrawn (error : Error) : Ends topics keys
      [⟨.interruptFlag, false⟩, ⟨.draw (shown topics keys), .error error⟩] (.failed error)
  | drawUnwound : Ends topics keys
      [⟨.interruptFlag, false⟩, ⟨.draw (shown topics keys), .unwinding⟩] .unwound
  | unpolled (error : Error) : Ends topics keys
      [⟨.interruptFlag, false⟩, ⟨.draw (shown topics keys), .answer ()⟩,
        ⟨.poll pollTime, .error error⟩] (.failed error)
  | pollUnwound : Ends topics keys
      [⟨.interruptFlag, false⟩, ⟨.draw (shown topics keys), .answer ()⟩,
        ⟨.poll pollTime, .unwinding⟩] .unwound
  | cancelled (key : Key) (cancels : key.Cancels) : Ends topics keys
      (turn topics keys (some key)) (.ok none)
  | selected (key : Key) (entered : key.code = .enter) (topic : String)
      (highlighted : topics[walk topics.length keys]? = some topic) : Ends topics keys
      (turn topics keys (some key) ++
        [⟨.log ⟨.menu, .info, "Selected topic '" ++ topic ++ "'"⟩, ()⟩]) (.ok (some topic))

/-- No turn closes the menu before the last one, which does unless the rounds are used up. -/
structure Course (topics : List String) (keys : List Key) (rounds : Nat)
    (passed : List (Option Key)) (ending : List Exchange) (outcome : Outcome (Option String)) :
    Prop where
  passes : ∀ polled ∈ passed, Passes topics polled
  ends : passed.length < rounds ∧ Ends topics (keys ++ passed.reduceOption) ending outcome ∨
    passed.length = rounds ∧ ending = [] ∧ outcome = .unfinished

/-- What is left of a turn once a key has been read. -/
def afterKey (selector : Selector) (rounds : Nat) (key : Key) : Program (Option String) :=
  match selector.handleKey key with
  | (.pending, selector) => choose selector rounds
  | (.selected topic, _) => do
      Program.info .menu ("Selected topic '" ++ topic ++ "'")
      pure (some topic)
  | (.cancelled, _) => pure none

theorem runs_afterKey {key : Key}
    (runs : Runs (afterKey ⟨topics, walk topics.length keys⟩ rounds key) trace outcome) :
    Ends topics keys (turn topics keys (some key) ++ trace) outcome ∨
      Passes topics (some key) ∧
        Runs (choose ⟨topics, walk topics.length (keys ++ [key])⟩ rounds) trace outcome := by
  unfold afterKey at runs
  have handled := handleKey_handled ⟨topics, walk topics.length keys⟩ key
  generalize handleKey ⟨topics, walk topics.length keys⟩ key = result at handled runs
  cases handled with
  | cancelled cancels =>
      obtain ⟨rfl, rfl⟩ := runs_done.mp runs
      exact .inl (.cancelled key cancels)
  | selected topic entered highlighted =>
      obtain ⟨trace, rfl, logged⟩ := runs_log_bind.mp runs
      obtain ⟨rfl, rfl⟩ := runs_done.mp logged
      exact .inl (.selected key entered topic highlighted)
  | pending goesOn unchosen index moved =>
      have led : index = walk topics.length (keys ++ [key]) := by
        have moved := moved (walk_le topics.length keys)
        rw [← walk_concat] at moved
        exact Int.ofNat.inj moved
      refine .inr ⟨?_, led ▸ runs⟩
      intro pressed same
      obtain rfl : key = pressed := Option.some.inj same
      refine ⟨goesOn, fun entered => ?_⟩
      by_contra some
      have inside := walk_lt (mt List.eq_nil_of_length_eq_zero some) keys
      exact Nat.not_le_of_lt inside (List.getElem?_eq_none_iff.mp (unchosen entered))

theorem runs_choose_succ
    (runs : Runs (choose ⟨topics, walk topics.length keys⟩ (rounds + 1)) trace outcome) :
    Ends topics keys trace outcome ∨
      ∃ polled, Passes topics polled ∧ ∃ rest, trace = turn topics keys polled ++ rest ∧
        Runs (choose ⟨topics, walk topics.length (keys ++ polled.toList)⟩ rounds) rest outcome := by
  rw [choose] at runs
  obtain ⟨raised, trace, rfl, asked⟩ := runs_request_bind.mp runs
  cases raised with
  | true =>
      obtain ⟨rfl, rfl⟩ := runs_done.mp asked
      exact .inl .raised
  | false =>
      obtain ⟨drawn, trace, rfl, looked⟩ := runs_request_bind.mp asked
      cases drawn with
      | error error =>
          obtain ⟨rfl, rfl⟩ := runs_done.mp looked
          exact .inl (.undrawn error)
      | unwinding =>
          obtain ⟨rfl, rfl⟩ := runs_done.mp looked
          exact .inl .drawUnwound
      | answer =>
          obtain ⟨polled, trace, rfl, pressed⟩ := runs_request_bind.mp looked
          cases polled with
          | error error =>
              obtain ⟨rfl, rfl⟩ := runs_done.mp pressed
              exact .inl (.unpolled error)
          | unwinding =>
              obtain ⟨rfl, rfl⟩ := runs_done.mp pressed
              exact .inl .pollUnwound
          | answer polled =>
              cases polled with
              | none =>
                  refine .inr ⟨none, nofun, trace, rfl, ?_⟩
                  rw [Option.toList_none, List.append_nil]
                  exact pressed
              | some key =>
                  obtain ends | ⟨passes, later⟩ := runs_afterKey pressed
                  · exact .inl ends
                  · exact .inr ⟨some key, passes, trace, rfl, later⟩

theorem exists_course (runs : Runs (choose ⟨topics, walk topics.length keys⟩ rounds) trace outcome) :
    ∃ passed ending, trace = turns topics keys passed ++ ending ∧
      Course topics keys rounds passed ending outcome := by
  induction rounds generalizing trace keys with
  | zero =>
      obtain ⟨rfl, rfl⟩ := runs_done.mp runs
      exact ⟨[], [], rfl, by simp, .inr ⟨rfl, rfl, rfl⟩⟩
  | succ rounds ih =>
      obtain ends | ⟨polled, passes, rest, rfl, later⟩ := runs_choose_succ runs
      · refine ⟨[], trace, rfl, by simp, .inl ⟨Nat.succ_pos rounds, ?_⟩⟩
        simpa using ends
      · obtain ⟨passed, ending, rfl, others, ends⟩ := ih later
        refine ⟨polled :: passed, ending, by simp [turns],
          List.forall_mem_cons.mpr ⟨passes, others⟩, ?_⟩
        cases polled <;> simpa using ends

end Menu

end TimingBoard
