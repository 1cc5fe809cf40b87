import TimingBoard.Aggregate.Basic
import TimingBoard.Session.Key
import TimingBoard.Session.Screen
import TimingBoard.Error
import TimingBoard.Log

namespace TimingBoard

/-! Programs that talk to the outside world.

A program asks one request after the other and continues with the answer.  Everything that comes
from outside is an answer: keys, discovered topics, the clock, the state of the aggregate, and
whether an operation works.  What holds for all answers is said of the runs of a program, and the
same program runs on a real terminal or on a rehearsed one by choosing how requests are answered. -/

/-- How an operation that is used while the terminal is held comes back.  It may also unwind. -/
inductive Reply (α : Type) where
  | answer (value : α)
  | error (reason : Error)
  | unwinding

def Reply.ofExcept : Except Error α → Reply α
  | .ok value => .answer value
  | .error reason => .error reason

inductive Request where
  | interruptFlag
  | discover
  /-- A clock in nanoseconds. -/
  | now
  | sleep (nanoseconds : Nat)
  | acquire
  | draw (screen : Screen)
  /-- Waits for a key, at most so many nanoseconds. -/
  | poll (nanoseconds : Nat)
  | restore
  | subscribe (topic : String)
  | stopIngestion
  | snapshot
  | copy (text : String)
  | write (text : String)
  | flush
  | log (record : LogRecord)

abbrev Request.Answer : Request → Type
  | .interruptFlag => Bool
  | .discover => Except Error (List String)
  | .now => Nat
  | .sleep _ => Unit
  | .acquire => Except Error Unit
  | .draw _ => Reply Unit
  | .poll _ => Reply (Option Key)
  | .restore => Except Error Unit
  | .subscribe _ => Reply Unit
  | .stopIngestion => Unit
  | .snapshot => Aggregate
  | .copy _ => Reply Unit
  | .write _ => Except Error Unit
  | .flush => Except Error Unit
  | .log _ => Unit

/-- How a program ends.  A program that was given too few rounds to come to an end is unfinished. -/
inductive Outcome (α : Type) where
  | ok (value : α)
  | failed (error : Error)
  | unwound
  | unfinished

inductive Program (α : Type) where
  | done (outcome : Outcome α)
  | ask (request : Request) (next : request.Answer → Program α)

namespace Program

def bind : Program α → (α → Program β) → Program β
  | .done (.ok value), next => next value
  | .done (.failed error), _ => .done (.failed error)
  | .done .unwound, _ => .done .unwound
  | .done .unfinished, _ => .done .unfinished
  | .ask request rest, next => .ask request fun answer => (rest answer).bind next

instance : Monad Program where
  pure value := .done (.ok value)
  bind := bind

def fail (error : Error) : Program α := .done (.failed error)

def unwind : Program α := .done .unwound

def unfinished : Program α := .done .unfinished

def request (request : Request) : Program request.Answer := .ask request pure

/-- The outcome of a program as a value. -/
def attempt : Program α → Program (Outcome α)
  | .done outcome => .done (.ok outcome)
  | .ask request rest => .ask request fun answer => (rest answer).attempt

def ofOutcome (outcome : Outcome α) : Program α := .done outcome

def ofExcept : Except Error α → Program α
  | .ok value => pure value
  | .error error => fail error

def ofReply : Reply α → Program α
  | .answer value => pure value
  | .error error => fail error
  | .unwinding => unwind

def log (source : LogSource) (level : Level) (message : String) : Program Unit :=
  request (.log ⟨source, level, message⟩)

def info (source : LogSource) (message : String) : Program Unit := log source .info message

def interpret {m : Type → Type} [Monad m] (respond : (request : Request) → m request.Answer) :
    Program α → m (Outcome α)
  | .done outcome => pure outcome
  | .ask request rest => do
      let answer ← respond request
      (rest answer).interpret respond

end Program

structure Exchange where
  request : Request
  answer : request.Answer

/-- The program may exchange `trace` with the outside world and end so. -/
inductive Runs : Program α → List Exchange → Outcome α → Prop where
  | done {outcome : Outcome α} : Runs (.done outcome) [] outcome
  | ask {request : Request} {next : request.Answer → Program α} {trace : List Exchange}
      {outcome : Outcome α} (answer : request.Answer) (rest : Runs (next answer) trace outcome) :
      Runs (.ask request next) (⟨request, answer⟩ :: trace) outcome

end TimingBoard
