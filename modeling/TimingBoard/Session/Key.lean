import TimingBoard.Session.View

namespace TimingBoard

/-! Keys and what they mean to a dashboard. -/

inductive KeyCode where
  | char (c : Char)
  | enter
  | escape
  | up
  | down
  | other (name : String)
deriving DecidableEq, Repr

inductive Modifier where
  | control
  | shift
  | alt
  | superKey
  | metaKey
deriving DecidableEq, Repr

structure Key where
  code : KeyCode
  modifiers : List Modifier
deriving DecidableEq, Repr

namespace Key

def hasControl (key : Key) : Bool := key.modifiers.contains .control

def controlC : Key := ⟨.char 'c', [.control]⟩

/-- Control and `c` stop a session wherever they are pressed. -/
def isInterrupt (key : Key) : Bool := key.hasControl && key.code == .char 'c'

end Key

inductive Event where
  | toggleComments
  | toggleSummarize
  | copyView
  | quit
  | quitAndReport
  | interrupt
  | idle
deriving DecidableEq, Repr

namespace Event

/-- The other control keys mean nothing; the rest of the modifiers do not matter. -/
def ofKey (key : Key) : Event :=
  if key.hasControl then
    if key.code = .char 'c' then .interrupt else .idle
  else
    match key.code with
    | .char 'c' => .toggleComments
    | .char 's' => .toggleSummarize
    | .char 'y' => .copyView
    | .char 'q' => .quit
    | .char 'r' => .quitAndReport
    | _ => .idle

/-- One key interrupts, with whatever other modifiers. -/
theorem ofKey_eq_interrupt_iff (key : Key) : ofKey key = .interrupt ↔ key.isInterrupt = true := by
  obtain ⟨code, modifiers⟩ := key
  by_cases control : Key.hasControl ⟨code, modifiers⟩ = true
  · by_cases letter : code = .char 'c' <;> simp [ofKey, Key.isInterrupt, control, letter]
  · simp only [Bool.not_eq_true] at control
    simp only [ofKey, Key.isInterrupt, control, Bool.false_and, Bool.false_eq_true, if_false,
      iff_false]
    split <;> exact Event.noConfusion

/-- A poll may bring no key. -/
def ofKey? : Option Key → Event
  | some key => ofKey key
  | none => .idle

def stop? : Event → Option StopReason
  | .quit => some .plain
  | .quitAndReport => some .report
  | .interrupt => some .interrupt
  | _ => none

def flags (event : Event) (before : ViewFlags) : ViewFlags :=
  match event with
  | .toggleComments => before.toggleComments
  | .toggleSummarize => before.toggleSummarize
  | _ => before

theorem flags_of_stop {event : Event} {reason : StopReason} (stops : event.stop? = some reason)
    (before : ViewFlags) : event.flags before = before := by
  cases event <;> simp_all [stop?, flags]

end Event

end TimingBoard
