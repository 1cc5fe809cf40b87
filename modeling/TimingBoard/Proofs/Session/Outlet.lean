import TimingBoard.Proofs.Session.Runs
import TimingBoard.Session.Report
import TimingBoard.Text.Utf8

namespace TimingBoard

/-! Reports on an output that fails.

An output may fill up at any byte, inside any of the pieces in which a report is written, or may fail
to be flushed.  It always holds the first bytes of the report, and nothing is copied unless all of the
report is out. -/

/-- An output, by how it fails. -/
structure Outlet where
  /-- How many bytes it takes, unless it takes all. -/
  limit : Option Nat
  /-- The reason it gives when it is full. -/
  full : String
  /-- The reason it gives when it cannot be flushed, if it cannot. -/
  stuck : Option String

/-- What has come to an output and to the clipboard. -/
structure Receipt where
  taken : List UInt8 := []
  flushes : Nat := 0
  /-- All texts that were to be copied, whether or not that worked. -/
  copies : List String := []

namespace Outlet

def endless : Outlet := ⟨none, "", none⟩

def fits (outlet : Outlet) (bytes : List UInt8) : Bool := outlet.limit.all (bytes.length ≤ ·)

/-- The bytes that are taken of those offered. -/
def cut (outlet : Outlet) (bytes : List UInt8) : List UInt8 :=
  match outlet.limit with
  | some limit => bytes.take limit
  | none => bytes

def write (outlet : Outlet) (text : String) : StateM Receipt (Except Error Unit) := fun receipt =>
  let offered := receipt.taken ++ Utf8.encode text
  (if outlet.fits offered then .ok () else .error (.io outlet.full),
    { receipt with taken := outlet.cut offered })

def flush (outlet : Outlet) : StateM Receipt (Except Error Unit) := fun receipt =>
  (match outlet.stuck with
    | some reason => .error (.io reason)
    | none => .ok (),
    { receipt with flushes := receipt.flushes + 1 })

/-- A report asks for the output, for copies and for log records.  Whatever else may be asked for
works. -/
def respond (outlet : Outlet) (clipboard : String → Except Error Unit) :
    (request : Request) → StateM Receipt request.Answer
  | .write text => outlet.write text
  | .flush => outlet.flush
  | .copy text => fun receipt =>
      (.ofExcept (clipboard text), { receipt with copies := receipt.copies ++ [text] })
  | .log _ => pure ()
  | .interruptFlag => pure false
  | .discover => pure (.ok [])
  | .now => pure 0
  | .sleep _ => pure ()
  | .acquire => pure (.ok ())
  | .draw _ => pure (.answer ())
  | .poll _ => pure (.answer none)
  | .restore => pure (.ok ())
  | .subscribe _ => pure (.answer ())
  | .stopIngestion => pure ()
  | .snapshot => pure (.new false)

/-- How a program ends with this output and this clipboard, and what has come to them. -/
def deliver (outlet : Outlet) (clipboard : String → Except Error Unit) (program : Program α) :
    Outcome α × Receipt :=
  program.interpret (outlet.respond clipboard) {}

variable {outlet : Outlet} {clipboard : String → Except Error Unit} {bytes : List UInt8}

theorem cut_of_fits (fits : outlet.fits bytes = true) : outlet.cut bytes = bytes := by
  obtain ⟨limit, full, stuck⟩ := outlet
  cases limit with
  | none => rfl
  | some limit => exact List.take_of_length_le (by simpa [Outlet.fits] using fits)

theorem fits_eq_false_iff :
    outlet.fits bytes = false ↔ ∃ limit, outlet.limit = some limit ∧ limit < bytes.length := by
  cases bounded : outlet.limit <;> simp [fits, bounded]

theorem cut_append (overfull : outlet.fits bytes = false) (more : List UInt8) :
    outlet.cut (bytes ++ more) = outlet.cut bytes := by
  obtain ⟨limit, bounded, beyond⟩ := fits_eq_false_iff.mp overfull
  simp only [cut, bounded, List.take_append_of_le_length (Nat.le_of_lt beyond)]

theorem fits_append (overfull : outlet.fits bytes = false) (more : List UInt8) :
    outlet.fits (bytes ++ more) = false := by
  obtain ⟨limit, bounded, beyond⟩ := fits_eq_false_iff.mp overfull
  refine fits_eq_false_iff.mpr ⟨limit, bounded, ?_⟩
  rw [List.length_append]
  exact Nat.lt_add_right more.length beyond

end Outlet

theorem Utf8.encode_append (first rest : String) :
    Utf8.encode (first ++ rest) = Utf8.encode first ++ Utf8.encode rest := by
  simp [Utf8.encode, String.toList_append]

theorem Program.interpret_bind {World : Type} (respond : (request : Request) → StateM World request.Answer)
    (program : Program α) (next : α → Program β) (world : World) :
    (program >>= next).interpret respond world =
      ((program.interpret respond world).1.andThen next).interpret respond
        (program.interpret respond world).2 := by
  induction program generalizing world with
  | done outcome => cases outcome <;> rfl
  | ask request rest ih => exact ih _ _

theorem Program.interpret_request_bind {World : Type}
    (respond : (request : Request) → StateM World request.Answer) (request : Request)
    (next : request.Answer → Program β) (world : World) :
    (Program.request request >>= next).interpret respond world =
      (next (respond request world).1).interpret respond (respond request world).2 :=
  rfl

namespace Report

variable (outlet : Outlet) (clipboard : String → Except Error Unit)

/-- The pieces of a text come to an output as the text does. -/
theorem interpret_writeAll (parts : List String) (receipt : Receipt)
    (before : outlet.fits receipt.taken = true) :
    (writeAll parts).interpret (outlet.respond clipboard) receipt =
      (if outlet.fits (receipt.taken ++ Utf8.encode (String.join parts)) then .ok ()
        else .failed (.io outlet.full),
        { receipt with taken := outlet.cut (receipt.taken ++ Utf8.encode (String.join parts)) }) := by
  induction parts generalizing receipt with
  | nil =>
      have nothing : receipt.taken ++ Utf8.encode (String.join []) = receipt.taken :=
        List.append_nil receipt.taken
      rw [nothing, before, Outlet.cut_of_fits before]
      rfl
  | cons part rest ih =>
      rw [String.join_cons, Utf8.encode_append, ← List.append_assoc]
      cases fits : outlet.fits (receipt.taken ++ Utf8.encode part) with
      | true =>
          have takes : outlet.write part receipt =
              (.ok (), { receipt with taken := receipt.taken ++ Utf8.encode part }) := by
            simp only [Outlet.write, fits, if_true, Outlet.cut_of_fits fits]
          rw [writeAll, Program.interpret_request_bind, Outlet.respond, takes]
          exact ih _ fits
      | false =>
          have refuses : outlet.write part receipt =
              (.error (.io outlet.full),
                { receipt with taken := outlet.cut (receipt.taken ++ Utf8.encode part) }) := by
            simp only [Outlet.write, fits, Bool.false_eq_true, if_false]
          rw [writeAll, Program.interpret_request_bind, Outlet.respond, refuses,
            Outlet.fits_append fits, Outlet.cut_append fits]
          rfl

theorem interpret_copyWorst (aggregate : Aggregate) (receipt : Receipt) :
    (copyWorst aggregate).interpret (outlet.respond clipboard) receipt =
      (.ok (clipboard aggregate.worstJson).isOk,
        { receipt with copies := receipt.copies ++ [aggregate.worstJson] }) := by
  rw [copyWorst, Program.interpret_request_bind, Outlet.respond]
  cases clipboard aggregate.worstJson <;> rfl

/-- What is left to do once the whole report is out. -/
theorem interpret_copies (aggregate : Aggregate) (reason : StopReason) (receipt : Receipt) :
    (do
      let copied ← if reason.copiesWorst then copyWorst aggregate else pure false
      pure ⟨0, copied⟩ : Program ReportOutcome).interpret (outlet.respond clipboard) receipt =
        (.ok ⟨0, reason.copiesWorst && (clipboard aggregate.worstJson).isOk⟩,
          { receipt with
            copies := receipt.copies ++ if reason.copiesWorst then [aggregate.worstJson] else [] }) := by
  cases reason.copiesWorst with
  | true =>
      rw [if_pos rfl, Program.interpret_bind, interpret_copyWorst]
      rfl
  | false =>
      rw [if_neg Bool.false_ne_true, if_neg Bool.false_ne_true, List.append_nil]
      rfl

/-- Where a report stops, and what has come of it. -/
structure Delivered (outlet : Outlet) (clipboard : String → Except Error Unit) (reason : StopReason)
    (json : String) (whole : List UInt8) (outcome : Outcome ReportOutcome) (receipt : Receipt) : Prop where
  taken : receipt.taken = outlet.cut whole
  full : outlet.fits whole = false → outcome = .failed (.io outlet.full) ∧ receipt.copies = []
  stuck : outlet.fits whole = true → ∀ why, outlet.stuck = some why →
    outcome = .failed (.io why) ∧ receipt.copies = []
  out : outlet.fits whole = true → outlet.stuck = none → ∃ copied, outcome = .ok ⟨0, copied⟩ ∧
    (copied = true ↔ reason = .report ∧ clipboard json = .ok ()) ∧
    receipt.copies = if reason = .report then [json] else []

theorem deliver_run (bold : Bool) (aggregate : Aggregate) (reason : StopReason) (flags : ViewFlags)
    (some : aggregate.isEmpty = false) :
    Delivered outlet clipboard reason aggregate.worstJson (Utf8.encode (text bold aggregate flags))
      (outlet.deliver clipboard (run bold aggregate reason flags)).1
      (outlet.deliver clipboard (run bold aggregate reason flags)).2 := by
  have blank : outlet.fits [] = true := by
    cases outlet with
    | mk limit full stuck => cases limit <;> simp [Outlet.fits]
  have written := interpret_writeAll outlet clipboard (parts bold aggregate flags) {} blank
  rw [← text, List.nil_append] at written
  -- Only what the text comes to matters from here on, whichever pieces it came in.
  generalize Utf8.encode (text bold aggregate flags) = whole at written ⊢
  rw [Outlet.deliver, run, some, if_neg Bool.false_ne_true, Program.interpret_bind, written]
  cases fits : outlet.fits whole with
  | false =>
      exact ⟨rfl, fun _ => ⟨rfl, rfl⟩, fun fitting => (nomatch fits.symm.trans fitting),
        fun fitting => (nomatch fits.symm.trans fitting)⟩
  | true =>
      rw [if_pos rfl, Outcome.andThen, Program.interpret_request_bind, Outlet.respond, Outlet.flush]
      cases stuck : outlet.stuck with
      | some why =>
          refine ⟨rfl, fun beyond => (nomatch fits.symm.trans beyond), ?_,
            fun _ free => (nomatch stuck.symm.trans free)⟩
          intro _ reason same
          cases stuck.symm.trans same
          exact ⟨rfl, rfl⟩
      | none =>
          have ends := interpret_copies outlet clipboard aggregate reason
            { taken := outlet.cut whole, flushes := 1 }
          rw [List.nil_append] at ends
          refine ⟨congrArg (·.2.taken) ends, fun beyond => (nomatch fits.symm.trans beyond),
            fun _ _ same => (nomatch stuck.symm.trans same), fun _ _ => ?_⟩
          refine ⟨_, congrArg Prod.fst ends, ?_, (congrArg (·.2.copies) ends).trans ?_⟩
          · rw [Bool.and_eq_true, StopReason.copiesWorst, beq_iff_eq]
            cases clipboard aggregate.worstJson <;> simp [Except.isOk, Except.toBool]
          · simp [StopReason.copiesWorst]

/-- A report on an output that fails.  It always holds the first bytes of the text that comes to an
output without limit.  The error of the output is returned and nothing is copied, unless all of the text
is out; then the code is 0.  Without trees nothing is asked of the output or the clipboard. -/
theorem deliver_run_cut (bold : Bool) (aggregate : Aggregate) (reason : StopReason) (flags : ViewFlags)
    (outlet : Outlet) (clipboard : String → Except Error Unit) :
    let report := outlet.deliver clipboard (run bold aggregate reason flags)
    let whole := (Outlet.endless.deliver clipboard (run bold aggregate reason flags)).2.taken
    (aggregate.isEmpty = true → report = (.ok ⟨1, false⟩, {})) ∧
      (aggregate.isEmpty = false → whole = Utf8.encode (text bold aggregate flags) ∧
        Delivered outlet clipboard reason aggregate.worstJson whole report.1 report.2) := by
  intro report whole
  constructor
  · intro empty
    have silent : outlet.deliver clipboard (run bold aggregate reason flags) = (.ok ⟨1, false⟩, {}) := by
      rw [Outlet.deliver, run, empty]
      rfl
    exact silent
  · intro some
    have text := (deliver_run Outlet.endless clipboard bold aggregate reason flags some).taken
    have same : whole = Utf8.encode (Report.text bold aggregate flags) := text
    exact ⟨same, same ▸ deliver_run outlet clipboard bold aggregate reason flags some⟩

/-- An output that is full inside the first glyph of a heading. -/
theorem deliver_run_cut_insideGlyph :
    let aggregate := (Aggregate.new true).apply 1 ⟨"a", "call", .zero, none, []⟩
    let outlet : Outlet := ⟨some 6, "disk full", none⟩
    let report := outlet.deliver (fun _ => .ok ()) (run true aggregate .report ⟨false, true⟩)
    aggregate.isEmpty = false ∧ report.1 = .failed (.io "disk full") ∧
      report.2.taken = [0x1b, 0x5b, 0x31, 0x6d, 0xf0, 0x9f] ∧ report.2.copies = [] := by
  intro aggregate outlet report
  have some : aggregate.isEmpty = false := rfl
  have delivered := ((deliver_run_cut true aggregate .report ⟨false, true⟩ outlet fun _ => .ok ()).2 some).2
  have beyond := delivered.full (by decide +kernel)
  have taken := delivered.taken
  exact ⟨some, beyond.1, taken.trans (by decide +kernel), beyond.2⟩

end Report

end TimingBoard
