import TimingBoard.Session.Program
import TimingBoard.Number.Duration

namespace TimingBoard

/-! Picking one of several topics. -/

structure Selector where
  topics : List String
  index : Nat
deriving DecidableEq, Repr

inductive Selection where
  | pending
  | selected (topic : String)
  | cancelled
deriving DecidableEq, Repr

namespace Selector

def new (topics : List String) : Selector := ⟨topics, 0⟩

def up (selector : Selector) : Selector := { selector with index := selector.index - 1 }

def down (selector : Selector) : Selector :=
  if selector.index + 1 < selector.topics.length then
    { selector with index := selector.index + 1 }
  else selector

def screen (selector : Selector) : Screen := .menu ⟨selector.topics, selector.index⟩

def handleKey (selector : Selector) (key : Key) : Selection × Selector :=
  if key.isInterrupt then (.cancelled, selector)
  else
    match key.code with
    | .up | .char 'k' => (.pending, selector.up)
    | .down | .char 'j' => (.pending, selector.down)
    | .enter =>
        match selector.topics[selector.index]? with
        | some topic => (.selected topic, selector)
        | none => (.pending, selector)
    | .char 'q' | .escape => (.cancelled, selector)
    | _ => (.pending, selector)

end Selector

namespace Menu

def pollTime : Nat := 100 * Duration.millisecond

/-- Shows the menu until a topic is selected; nothing is selected when it is cancelled. -/
def choose (selector : Selector) : (rounds : Nat) → Program (Option String)
  | 0 => .unfinished
  | rounds + 1 => do
      if ← Program.request .interruptFlag then
        pure none
      else
        Program.ofReply (← Program.request (.draw selector.screen))
        match ← Program.ofReply (← Program.request (.poll pollTime)) with
        | none => choose selector rounds
        | some key =>
            match selector.handleKey key with
            | (.pending, selector) => choose selector rounds
            | (.selected topic, _) => do
                Program.info .menu ("Selected topic '" ++ topic ++ "'")
                pure (some topic)
            | (.cancelled, _) => pure none

end Menu

end TimingBoard
