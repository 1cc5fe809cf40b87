import TimingBoard.Proofs.Session.Effects
import TimingBoard.Proofs.Tree.Comments

namespace TimingBoard

/-! Reports and comments.

A report is made of the totals and the worst cases without their comments.  On an output that takes
everything, what is written and which code is returned depend on nothing else, whatever the clipboard
does. -/

/-- The trees of a roster without their comments, each under its name. -/
def Roster.uncommented (roster : Roster TimingTree) : List (String × TimingTree) :=
  roster.entries.map fun (name, tree) => (name, tree.uncommented)

theorem Roster.values_uncommented (roster : Roster TimingTree) :
    roster.values.map (·.uncommented) = roster.uncommented.map (·.2) := by
  simp [Roster.values, Roster.uncommented]

/-- Totals and worst cases are the same but for their comments.  Anything else may differ. -/
structure Aggregate.AlikeBesideComments (aggregate other : Aggregate) : Prop where
  worst : aggregate.worst.uncommented = other.worst.uncommented
  total : aggregate.total.map Roster.uncommented = other.total.map Roster.uncommented

theorem Aggregate.AlikeBesideComments.isEmpty_eq {aggregate other : Aggregate}
    (alike : aggregate.AlikeBesideComments other) : aggregate.isEmpty = other.isEmpty := by
  have same := congrArg List.isEmpty alike.worst
  simpa [Roster.uncommented, Aggregate.isEmpty, Roster.isEmpty] using same

/-- Nothing that is written is refused. -/
def Exchange.Taken : Exchange → Prop
  | ⟨.write _, answer⟩ => answer = .ok ()
  | ⟨.flush, answer⟩ => answer = .ok ()
  | _ => True

namespace Report

variable {bold : Bool} {aggregate other : Aggregate} {reason : StopReason}
  {flags otherFlags : ViewFlags} {trace : List Exchange}

theorem sectionParts_eq (bold : Bool) (title : String) (roster : Roster TimingTree) (flags : ViewFlags) :
    sectionParts bold title roster.values flags =
      heading bold title :: roster.uncommented.map fun entry => entry.2.text false flags.summarize := by
  have texts : roster.values.map (·.text false flags.summarize) =
      (roster.values.map (·.uncommented)).map (·.text false flags.summarize) := by
    simp only [List.map_map, Function.comp_def, TimingTree.text_uncommented]
  rw [sectionParts, texts, Roster.values_uncommented, List.map_map]
  rfl

theorem parts_eq (alike : aggregate.AlikeBesideComments other)
    (summarize : flags.summarize = otherFlags.summarize) :
    parts bold aggregate flags = parts bold other otherFlags := by
  obtain ⟨worst, total⟩ := alike
  simp only [parts, sectionParts_eq, worst, summarize]
  congr 1
  cases kept : aggregate.total with
  | none => cases otherKept : other.total <;> simp_all
  | some roster =>
      cases otherKept : other.total with
      | none => simp [kept, otherKept] at total
      | some otherRoster =>
          have same : roster.uncommented = otherRoster.uncommented := by simpa [kept, otherKept] using total
          simp only [same]

/-- The text is out, and the code is returned unless copying unwinds. -/
structure Gave (text : String) (code : Nat) (trace : List Exchange)
    (outcome : Outcome ReportOutcome) : Prop where
  wrote : String.join (written trace) = text
  ended : (∃ copiedWorst, outcome = .ok ⟨code, copiedWorst⟩) ∨
    outcome = .unwound ∧ ∃ json, ⟨.copy json, .unwinding⟩ ∈ trace

theorem runs_writeAll_taken {parts : List String} {outcome : Outcome Unit}
    (runs : Runs (writeAll parts) trace outcome) (taken : ∀ exchange ∈ trace, exchange.Taken) :
    outcome = .ok () := by
  induction parts generalizing trace with
  | nil => exact (runs_done.mp runs).2
  | cons part rest ih =>
      obtain ⟨answer, later, rfl, goesOn⟩ := runs_request_bind.mp runs
      obtain ⟨first, others⟩ := List.forall_mem_cons.mp taken
      obtain rfl : answer = .ok () := first
      exact ih goesOn others

/-- How a report goes when the output takes everything. -/
theorem runs_run_gave {outcome : Outcome ReportOutcome}
    (runs : Runs (run bold aggregate reason flags) trace outcome)
    (taken : ∀ exchange ∈ trace, exchange.Taken) :
    Gave (if aggregate.isEmpty then "" else text bold aggregate flags)
      (if aggregate.isEmpty then 1 else 0) trace outcome := by
  cases empty : aggregate.isEmpty with
  | true =>
      rw [run, empty] at runs
      obtain ⟨rest, rfl, ends⟩ := runs_log_bind.mp runs
      obtain ⟨rfl, rfl⟩ := runs_done.mp ends
      exact ⟨rfl, .inl ⟨false, rfl⟩⟩
  | false =>
      rw [run, empty] at runs
      obtain ⟨writes, rest, wrote, rfl, first, last⟩ := runs_bind.mp runs
      obtain ⟨writesTaken, restTaken⟩ := List.forall_mem_append.mp taken
      obtain rfl := runs_writeAll_taken first writesTaken
      rcases runs_writeAll first with ⟨-, rfl⟩ | ⟨⟨error, failed⟩, -⟩
      case inr => cases failed
      obtain ⟨flushed, later, rfl, goesOn⟩ := runs_request_bind.mp last
      obtain rfl : flushed = .ok () := (List.forall_mem_cons.mp restTaken).1
      obtain ⟨-, -, silent, ended⟩ := runs_copies goesOn
      constructor
      · have flush : written (⟨.flush, .ok ()⟩ :: later) = written later := rfl
        rw [written_append, written_writes, flush, silent, List.append_nil]
        rfl
      · rcases ended with ⟨unwound, unwinding⟩ | returned
        · exact .inr ⟨unwound, _, List.mem_append_right _ (List.mem_cons_of_mem _ unwinding)⟩
        · exact .inl returned

/-- Comments are never part of a report.  Two aggregates whose totals and worst cases differ at most in
comments give the same text and the same code, for whatever reasons they are reported and however
copying goes.  In an outline, a comment stands at the end of the line that is there without it. -/
theorem run_ignores_comments (bold : Bool) (alike : aggregate.AlikeBesideComments other)
    (summarize : flags.summarize = otherFlags.summarize) :
    (∃ text code,
      (∀ reason trace outcome, Runs (run bold aggregate reason flags) trace outcome →
        (∀ exchange ∈ trace, exchange.Taken) → Gave text code trace outcome) ∧
      (∀ reason trace outcome, Runs (run bold other reason otherFlags) trace outcome →
        (∀ exchange ∈ trace, exchange.Taken) → Gave text code trace outcome)) ∧
      ∀ (tree : TimingTree) (summarize : Bool),
        List.Forall₂ (Entry.Extends fun comment => ∃ node ∈ tree.preorder, node.comment = some comment)
          (tree.lines true summarize) (tree.lines false summarize) := by
  refine ⟨⟨_, _, fun _ _ _ => runs_run_gave, fun reason trace outcome runs taken => ?_⟩, ?_⟩
  · have gave := runs_run_gave runs taken
    rwa [← alike.isEmpty_eq, text, ← parts_eq alike summarize, ← text] at gave
  · intro tree summarize
    exact (Entry.quotes_ofRoot summarize tree).lines

/-- Two aggregates with different comments, one of which is reported to a clipboard. -/
theorem run_ignores_comments_retries :
    let node (label : String) (comment : Option String) (below : List TimingTree) : TimingTree :=
      ⟨"a", label, .zero, comment, below⟩
    let first := node "call" (some "retry") [node "load" none [], node "load" (some "cold") []]
    let second := node "call" none [node "load" (some "warm") [], node "load" (some "") []]
    let aggregate := (Aggregate.new true).apply 1 first
    let other := { (Aggregate.new true).apply 9 second with latest := .empty, count := 5 }
    aggregate.AlikeBesideComments other ∧ first.comment ≠ second.comment ∧
      ∃ text code,
        (∀ trace outcome, Runs (run true aggregate .report ⟨true, true⟩) trace outcome →
          (∀ exchange ∈ trace, exchange.Taken) → Gave text code trace outcome) ∧
        (∀ trace outcome, Runs (run true other .plain ⟨false, true⟩) trace outcome →
          (∀ exchange ∈ trace, exchange.Taken) → Gave text code trace outcome) := by
  intro node first second aggregate other
  have alike : aggregate.AlikeBesideComments other := ⟨rfl, rfl⟩
  have flags : (⟨true, true⟩ : ViewFlags).summarize = (⟨false, true⟩ : ViewFlags).summarize := rfl
  obtain ⟨text, code, one, another⟩ := (run_ignores_comments true alike flags).1
  exact ⟨alike, nofun, text, code, one .report, another .plain⟩

end Report

end TimingBoard
