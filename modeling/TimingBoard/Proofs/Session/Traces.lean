import Mathlib.Data.List.TakeWhile
import TimingBoard.Proofs.Session.Reach

namespace TimingBoard

/-! What a trace shows to the outside.

A tick of a dashboard is seen in a trace as a poll that a look at the aggregate follows directly: a
menu polls as well but looks at nothing, and the last look of a session follows no poll. -/

/-- A tick that came to look at the aggregate. -/
structure Glance where
  event : Event
  aggregate : Aggregate

namespace Exchange

def copied? : Exchange → Option String
  | ⟨.copy text, _⟩ => some text
  | _ => none

def subscribed? : Exchange → Option String
  | ⟨.subscribe topic, _⟩ => some topic
  | _ => none

def aggregate? : Exchange → Option Aggregate
  | ⟨.snapshot, aggregate⟩ => some aggregate
  | _ => none

/-- The text of a frame of trees, whether or not it came to be shown. -/
def framed? : Exchange → Option String
  | ⟨.draw (.trees screen), _⟩ => some screen.text
  | _ => none

/-- What has reached the output. -/
def written? : Exchange → Option String
  | ⟨.write text, .ok ()⟩ => some text
  | _ => none

def logged? : Exchange → Option LogRecord
  | ⟨.log record, _⟩ => some record
  | _ => none

/-- What a poll brought. -/
def pressed? : Exchange → Option (Option Key)
  | ⟨.poll _, .answer key⟩ => some key
  | _ => none

def glance? (exchange : Exchange) (next : Option Exchange) : Option Glance := do
  let key ← exchange.pressed?
  let aggregate ← next.bind (·.aggregate?)
  some ⟨.ofKey? key, aggregate⟩

end Exchange

def copied (trace : List Exchange) : List String := trace.filterMap (·.copied?)

def framed (trace : List Exchange) : List String := trace.filterMap (·.framed?)

def written (trace : List Exchange) : List String := trace.filterMap (·.written?)

def subscribed (trace : List Exchange) : List String := trace.filterMap (·.subscribed?)

def logged (trace : List Exchange) : List LogRecord := trace.filterMap (·.logged?)

/-- The exchanges with the output. -/
def outputs (trace : List Exchange) : List Exchange := trace.filter (·.request.reach = .output)

def glances : List Exchange → List Glance
  | [] => []
  | exchange :: rest => (exchange.glance? rest.head?).toList ++ glances rest

/-- The events of all ticks. -/
def events (trace : List Exchange) : List Event := (glances trace).map (·.event)

/-- The aggregate that is looked at once the terminal is back. -/
def final? (trace : List Exchange) : Option Aggregate :=
  (trace.dropWhile (·.request.reach ≠ .givingBack)).findSome? (·.aggregate?)

/-- Why a dashboard with these events stopped.  Without an event that stops it, it was interrupted. -/
def stopReason (events : List Event) : StopReason := (events.findSome? Event.stop?).getD .interrupt

variable {trace before after : List Exchange}

@[simp]
theorem copied_append (before after : List Exchange) :
    copied (before ++ after) = copied before ++ copied after :=
  List.filterMap_append

@[simp]
theorem framed_append (before after : List Exchange) :
    framed (before ++ after) = framed before ++ framed after :=
  List.filterMap_append

@[simp]
theorem written_append (before after : List Exchange) :
    written (before ++ after) = written before ++ written after :=
  List.filterMap_append

@[simp]
theorem subscribed_append (before after : List Exchange) :
    subscribed (before ++ after) = subscribed before ++ subscribed after :=
  List.filterMap_append

@[simp]
theorem logged_append (before after : List Exchange) :
    logged (before ++ after) = logged before ++ logged after :=
  List.filterMap_append

@[simp]
theorem outputs_append (before after : List Exchange) :
    outputs (before ++ after) = outputs before ++ outputs after :=
  List.filter_append ..

section Unsubscribing

variable (asked : ∀ exchange ∈ before, exchange.request.Unsubscribing)
include asked

theorem subscribed?_eq_none : ∀ exchange ∈ before, exchange.subscribed? = none := by
  intro exchange member
  have asked := asked exchange member
  obtain ⟨request, answer⟩ := exchange
  cases request with
  | subscribe topic => exact absurd rfl (asked topic)
  | _ => rfl

theorem subscribed_eq_nil : subscribed before = [] :=
  List.filterMap_eq_nil_iff.mpr (subscribed?_eq_none asked)

theorem findSome?_subscribed_append (after : List Exchange) :
    (before ++ after).findSome? (·.subscribed?) = after.findSome? (·.subscribed?) := by
  rw [List.findSome?_append, List.findSome?_eq_none_iff.mpr (subscribed?_eq_none asked), Option.none_or]

end Unsubscribing

theorem filterMap_eq_nil_of_not_reached {reach : Reach} {read : Exchange → Option α}
    (reaching : ∀ exchange, exchange.request.reach ≠ reach → read exchange = none)
    (never : reach ∉ reaches trace) : trace.filterMap read = [] :=
  List.filterMap_eq_nil_iff.mpr fun exchange member =>
    reaching exchange fun same => never (same ▸ List.mem_map_of_mem member)

theorem copied_eq_nil (never : .clipboard ∉ reaches trace) : copied trace = [] := by
  refine filterMap_eq_nil_of_not_reached (fun exchange different => ?_) never
  obtain ⟨request, answer⟩ := exchange
  cases request <;> first | rfl | exact absurd rfl different

theorem framed_eq_nil (never : .terminal ∉ reaches trace) : framed trace = [] := by
  refine filterMap_eq_nil_of_not_reached (fun exchange different => ?_) never
  obtain ⟨request, answer⟩ := exchange
  cases request <;> first | rfl | exact absurd rfl different

theorem written_eq_nil (never : .output ∉ reaches trace) : written trace = [] := by
  refine filterMap_eq_nil_of_not_reached (fun exchange different => ?_) never
  obtain ⟨request, answer⟩ := exchange
  cases request <;> first | rfl | exact absurd rfl different

theorem logged_eq_nil (never : .elsewhere ∉ reaches trace) : logged trace = [] := by
  refine filterMap_eq_nil_of_not_reached (fun exchange different => ?_) never
  obtain ⟨request, answer⟩ := exchange
  cases request <;> first | rfl | exact absurd rfl different

theorem outputs_eq_nil (never : .output ∉ reaches trace) : outputs trace = [] := by
  refine List.filter_eq_nil_iff.mpr fun exchange member same => never ?_
  exact of_decide_eq_true same ▸ List.mem_map_of_mem member

theorem glance?_of_not_terminal {exchange : Exchange} (different : exchange.request.reach ≠ .terminal)
    (next : Option Exchange) : exchange.glance? next = none := by
  obtain ⟨request, answer⟩ := exchange
  cases request <;> first | rfl | exact absurd rfl different

theorem glance?_of_blind (exchange : Exchange) {next : Option Exchange}
    (blind : next.bind (·.aggregate?) = none) : exchange.glance? next = none := by
  rw [Exchange.glance?, blind]
  cases exchange.pressed? <;> rfl

theorem glances_append (before : List Exchange) {after : List Exchange}
    (blind : after.head?.bind (·.aggregate?) = none) :
    glances (before ++ after) = glances before ++ glances after := by
  induction before with
  | nil => rfl
  | cons exchange rest ih =>
      rw [List.cons_append, glances, glances, ih, List.append_assoc]
      cases rest with
      | nil =>
          rw [List.nil_append, glance?_of_blind exchange blind, glance?_of_blind exchange rfl]
      | cons next rest => rfl

theorem glances_eq_nil_of_not_reached (never : .terminal ∉ reaches trace) : glances trace = [] := by
  induction trace with
  | nil => rfl
  | cons exchange rest ih =>
      obtain ⟨different, later⟩ := List.ne_and_not_mem_of_not_mem_cons never
      rw [glances, glance?_of_not_terminal (Ne.symm different), ih later]
      rfl

theorem glances_eq_nil_of_blind (blind : ∀ exchange ∈ trace, exchange.aggregate? = none) :
    glances trace = [] := by
  induction trace with
  | nil => rfl
  | cons exchange rest ih =>
      obtain ⟨-, later⟩ := List.forall_mem_cons.mp blind
      have next : rest.head?.bind (·.aggregate?) = none := by
        cases rest with
        | nil => rfl
        | cons next rest => exact later next List.mem_cons_self
      rw [glances, glance?_of_blind exchange next, ih later]
      rfl

theorem final?_eq_none (never : .givingBack ∉ reaches trace) : final? trace = none := by
  have all : ∀ exchange ∈ trace, decide (exchange.request.reach ≠ .givingBack) = true :=
    fun exchange member => decide_eq_true fun same => never (same ▸ List.mem_map_of_mem member)
  rw [final?, List.dropWhile_eq_nil_iff.mpr all]
  rfl

/-- The final look follows the return of the terminal. -/
theorem final?_append (never : .givingBack ∉ reaches before) (result : Except Error Unit)
    (after : List Exchange) :
    final? (before ++ ⟨.restore, result⟩ :: after) = after.findSome? (·.aggregate?) := by
  have all : ∀ exchange ∈ before, decide (exchange.request.reach ≠ .givingBack) = true :=
    fun exchange member => decide_eq_true fun same => never (same ▸ List.mem_map_of_mem member)
  rw [final?, List.dropWhile_append_of_pos all]
  rfl

end TimingBoard
