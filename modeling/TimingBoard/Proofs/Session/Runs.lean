import TimingBoard.Session.Program

namespace TimingBoard

/-! The runs of a program, read off its parts.

A run of two programs one after the other is a run of the first, followed by a run of what its
outcome leaves to do.  What a program may ask at all bounds what its runs ask. -/

variable {α β : Type} {trace : List Exchange}

namespace Outcome

/-- What is left to do after a part that ended so. -/
def andThen : Outcome α → (α → Program β) → Program β
  | .ok value, next => next value
  | .failed error, _ => .done (.failed error)
  | .unwound, _ => .done .unwound
  | .unfinished, _ => .done .unfinished

end Outcome

theorem Program.done_bind (result : Outcome α) (next : α → Program β) :
    (Program.done result >>= next) = result.andThen next := by
  cases result <;> rfl

@[simp]
theorem runs_done {result outcome : Outcome α} :
    Runs (.done result) trace outcome ↔ trace = [] ∧ outcome = result := by
  constructor
  · intro runs
    cases runs
    exact ⟨rfl, rfl⟩
  · rintro ⟨rfl, rfl⟩
    exact .done

@[simp]
theorem runs_pure {value : α} {outcome : Outcome α} :
    Runs (pure value) trace outcome ↔ trace = [] ∧ outcome = .ok value :=
  runs_done

@[simp]
theorem runs_ask {request : Request} {next : request.Answer → Program α} {outcome : Outcome α} :
    Runs (.ask request next) trace outcome ↔
      ∃ answer rest, trace = ⟨request, answer⟩ :: rest ∧ Runs (next answer) rest outcome := by
  constructor
  · intro runs
    cases runs with
    | ask answer rest => exact ⟨answer, _, rfl, rest⟩
  · rintro ⟨answer, rest, rfl, runs⟩
    exact .ask answer runs

theorem runs_bind {program : Program α} {next : α → Program β} {outcome : Outcome β} :
    Runs (program >>= next) trace outcome ↔
      ∃ before after result, trace = before ++ after ∧ Runs program before result ∧
        Runs (result.andThen next) after outcome := by
  induction program generalizing trace with
  | done result =>
      rw [Program.done_bind]
      constructor
      · intro runs
        exact ⟨[], trace, result, rfl, .done, runs⟩
      · rintro ⟨before, after, ended, rfl, first, last⟩
        obtain ⟨rfl, rfl⟩ := runs_done.mp first
        exact last
  | ask request rest ih =>
      constructor
      · intro runs
        obtain ⟨answer, trace, rfl, later⟩ := runs_ask.mp runs
        obtain ⟨before, after, result, rfl, first, last⟩ := (ih answer).mp later
        exact ⟨_ :: before, after, result, rfl, .ask answer first, last⟩
      · rintro ⟨before, after, result, rfl, first, last⟩
        obtain ⟨answer, later, rfl, second⟩ := runs_ask.mp first
        exact .ask answer ((ih answer).mpr ⟨later, after, result, rfl, second, last⟩)

/-- A request that is asked first. -/
@[simp]
theorem runs_request_bind {request : Request} {next : request.Answer → Program β}
    {outcome : Outcome β} :
    Runs (Program.request request >>= next) trace outcome ↔
      ∃ answer rest, trace = ⟨request, answer⟩ :: rest ∧ Runs (next answer) rest outcome :=
  runs_ask

/-- A log record that is written first. -/
@[simp]
theorem runs_log_bind {source : LogSource} {level : Level} {message : String}
    {next : Unit → Program β} {outcome : Outcome β} :
    Runs (Program.log source level message >>= next) trace outcome ↔
      ∃ rest, trace = ⟨.log ⟨source, level, message⟩, ()⟩ :: rest ∧
        Runs (next ()) rest outcome := by
  constructor
  · intro runs
    obtain ⟨answer, rest, rfl, later⟩ := runs_request_bind.mp runs
    exact ⟨rest, rfl, later⟩
  · rintro ⟨rest, rfl, later⟩
    exact runs_request_bind.mpr ⟨(), rest, rfl, later⟩

@[simp]
theorem runs_attempt {program : Program α} {outcome : Outcome (Outcome α)} :
    Runs program.attempt trace outcome ↔
      ∃ result, outcome = .ok result ∧ Runs program trace result := by
  induction program generalizing trace with
  | done result =>
      simp only [Program.attempt, runs_done]
      constructor
      · rintro ⟨rfl, rfl⟩
        exact ⟨result, rfl, rfl, rfl⟩
      · rintro ⟨caught, rfl, rfl, rfl⟩
        exact ⟨rfl, rfl⟩
  | ask request rest ih =>
      simp only [Program.attempt, runs_ask, ih]
      constructor
      · rintro ⟨answer, trace, rfl, result, rfl, runs⟩
        exact ⟨result, rfl, answer, trace, rfl, runs⟩
      · rintro ⟨result, rfl, answer, trace, rfl, runs⟩
        exact ⟨answer, trace, rfl, result, rfl, runs⟩

/-- A caught program is run to its end, and then what its outcome leaves to do. -/
theorem runs_attempt_bind {program : Program α} {next : Outcome α → Program β}
    {outcome : Outcome β} :
    Runs (program.attempt >>= next) trace outcome ↔
      ∃ before after result, trace = before ++ after ∧ Runs program before result ∧
        Runs (next result) after outcome := by
  rw [runs_bind]
  constructor
  · rintro ⟨before, after, caught, rfl, first, last⟩
    obtain ⟨result, rfl, caught⟩ := runs_attempt.mp first
    exact ⟨before, after, result, rfl, caught, last⟩
  · rintro ⟨before, after, result, rfl, first, last⟩
    exact ⟨before, after, .ok result, rfl, runs_attempt.mpr ⟨result, rfl, first⟩, last⟩

namespace Program

/-- Whatever is answered, the program asks only what is allowed. -/
def AsksOnly (allowed : Request → Prop) : Program α → Prop
  | .done _ => True
  | .ask request next => allowed request ∧ ∀ answer, (next answer).AsksOnly allowed

variable {allowed : Request → Prop}

/-- A request that is asked first. -/
theorem AsksOnly.ask {request : Request} {next : request.Answer → Program β}
    (fine : allowed request) (rest : ∀ answer, (next answer).AsksOnly allowed) :
    (Program.request request >>= next).AsksOnly allowed := ⟨fine, rest⟩

theorem AsksOnly.bind {program : Program α} {next : α → Program β}
    (first : program.AsksOnly allowed) (rest : ∀ value, (next value).AsksOnly allowed) :
    (program >>= next).AsksOnly allowed := by
  induction program with
  | done result =>
      rw [done_bind]
      cases result with
      | ok value => exact rest value
      | failed error => trivial
      | unwound => trivial
      | unfinished => trivial
  | ask request next ih => exact ⟨first.1, fun answer => ih answer (first.2 answer)⟩

theorem AsksOnly.mono {wider : Request → Prop} {program : Program α}
    (asks : program.AsksOnly allowed) (wide : ∀ request, allowed request → wider request) :
    program.AsksOnly wider := by
  induction program with
  | done result => trivial
  | ask request next ih => exact ⟨wide request asks.1, fun answer => ih answer (asks.2 answer)⟩

theorem AsksOnly.attempt {program : Program α} (asks : program.AsksOnly allowed) :
    program.attempt.AsksOnly allowed := by
  induction program with
  | done result => trivial
  | ask request next ih => exact ⟨asks.1, fun answer => ih answer (asks.2 answer)⟩

theorem asksOnly_ofExcept (result : Except Error α) : (ofExcept result).AsksOnly allowed := by
  cases result <;> trivial

theorem asksOnly_ofReply (reply : Reply α) : (ofReply reply).AsksOnly allowed := by
  cases reply <;> trivial

/-- Whatever is answered, the program does not run out of rounds. -/
def Finishes : Program α → Prop
  | .done outcome => outcome ≠ .unfinished
  | .ask _ next => ∀ answer, (next answer).Finishes

theorem finishes_pure (value : α) : (pure value : Program α).Finishes := nofun

/-- A request that is asked first. -/
theorem Finishes.ask {request : Request} {next : request.Answer → Program β}
    (rest : ∀ answer, (next answer).Finishes) : (Program.request request >>= next).Finishes :=
  rest

theorem Finishes.bind {program : Program α} {next : α → Program β}
    (first : program.Finishes) (rest : ∀ value, (next value).Finishes) :
    (program >>= next).Finishes := by
  induction program with
  | done result =>
      rw [done_bind]
      cases result with
      | ok value => exact rest value
      | failed error => exact nofun
      | unwound => exact nofun
      | unfinished => exact absurd rfl first
  | ask request next ih => exact fun answer => ih answer (first answer)

theorem finishes_ofExcept (result : Except Error α) : (ofExcept result).Finishes := by
  cases result <;> exact nofun

end Program

theorem Runs.finishes {program : Program α} {outcome : Outcome α}
    (runs : Runs program trace outcome) (finishes : program.Finishes) : outcome ≠ .unfinished := by
  induction runs with
  | done => exact finishes
  | ask answer rest ih => exact ih (finishes answer)

theorem Runs.asked {program : Program α} {allowed : Request → Prop} {outcome : Outcome α}
    (runs : Runs program trace outcome) (asks : program.AsksOnly allowed) :
    ∀ exchange ∈ trace, allowed exchange.request := by
  induction runs with
  | done => simp
  | ask answer rest ih => exact List.forall_mem_cons.mpr ⟨asks.1, ih (asks.2 answer)⟩

/-- What was exchanged, and how it ended. -/
structure Performance (α : Type) where
  trace : List Exchange
  outcome : Outcome α

/-- A performance that begins with some more exchanges. -/
def Performance.after (notes : List Exchange) (rest : Performance α) : Performance α :=
  { rest with trace := notes ++ rest.trace }

theorem Performance.after_after (first second : List Exchange) (rest : Performance α) :
    .after first (.after second rest) = rest.after (first ++ second) := by
  simp [after]

/-- Performs a program in a world that answers every request. -/
def Program.perform {World : Type} (respond : (request : Request) → World → request.Answer × World) :
    Program α → World → Performance α
  | .done outcome, _ => ⟨[], outcome⟩
  | .ask request next, world =>
      let (answer, world) := respond request world
      ((next answer).perform respond world).after [⟨request, answer⟩]

theorem Program.runs_perform {World : Type}
    (respond : (request : Request) → World → request.Answer × World) (program : Program α)
    (world : World) :
    Runs program (program.perform respond world).trace (program.perform respond world).outcome := by
  induction program generalizing world with
  | done outcome => exact .done
  | ask request next ih => exact .ask _ (ih _ _)

end TimingBoard
