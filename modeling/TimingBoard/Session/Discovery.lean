import TimingBoard.Session.Program
import TimingBoard.Number.Duration

namespace TimingBoard

/-! Waiting for topics to appear, for a bounded time. -/

namespace Discovery

def interval : Nat := 50 * Duration.millisecond

/-- The topics a search settles on: the requested one alone, or all there are. -/
def accept? (requested : Option String) (found : List String) : Option (List String) :=
  match requested with
  | some topic => if found.contains topic then some [topic] else none
  | none => if found.isEmpty then none else some found

def missing (kind : String) : Option String → Error
  | some topic => .topicNotFound topic
  | none => .noTopics kind

/-- Searches until something is accepted, the flag is raised, a search fails or the deadline is
met.  The last search is at or after the deadline. -/
def search (kind : String) (requested : Option String) (wait deadline : Nat) :
    (rounds : Nat) → Program (List String)
  | 0 => .unfinished
  | rounds + 1 => do
      if ← Program.request .interruptFlag then
        Program.info .discovery "Topic discovery interrupted"
        Program.fail .interrupted
      else
        let found ← Program.ofExcept (← Program.request .discover)
        match accept? requested found with
        | some topics => pure topics
        | none =>
            let now ← Program.request .now
            if deadline ≤ now then
              Program.info .discovery ("Topic discovery timed out after " ++ Duration.text wait)
              Program.fail (missing kind requested)
            else
              Program.request (.sleep (min interval (deadline - now)))
              search kind requested wait deadline rounds

def waitForTopics (rounds : Nat) (kind : String) (requested : Option String) (wait : Nat) :
    Program (List String) := do
  let start ← Program.request .now
  search kind requested wait (start + wait) rounds

end Discovery

end TimingBoard
