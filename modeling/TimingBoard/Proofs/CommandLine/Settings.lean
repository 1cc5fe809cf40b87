import Mathlib.Data.List.TakeWhile
import TimingBoard.Proofs.Number.Duration
import TimingBoard.Settings

namespace TimingBoard

/-! Settings made of the arguments of a command line.

The first fault refuses the arguments.  Without fault there are settings, unless the waiting time is
finite and still too long to be counted in nanoseconds. -/

theorem exists_of_bind_eq_ok {ε α β : Type} {result : Except ε α} {next : α → Except ε β} {value : β}
    (bound : (result >>= next) = .ok value) : ∃ first, result = .ok first ∧ next first = .ok value := by
  cases result with
  | error reason => cases bound
  | ok first => exact ⟨first, rfl, bound⟩

theorem Literal.le_of_natural? {limit n : Nat} {text : String} (read : natural? limit text = some n) :
    n ≤ limit := by
  rw [natural?] at read
  split at read <;>
  · obtain ⟨fits, same⟩ := Option.ite_none_right_eq_some.mp read
    rw [Bool.and_eq_true, decide_eq_true_eq] at fits
    exact Option.some.inj same ▸ fits.2

namespace CommandLine.Arguments

/-- The interval was counted in 64 bits. -/
def Bounded (arguments : Arguments) : Prop :=
  ∀ interval, arguments.interval = some interval → interval ≤ intervalLimit

variable {arguments next : Arguments} {pending later : Option Pending}

theorem once_eq_ok {before kept : Option α} {value : Except Stop α}
    (taken : once before value = .ok kept) : ∃ given, value = .ok given ∧ kept = some given := by
  cases before with
  | some first => cases taken
  | none =>
      cases value with
      | error stop => cases taken
      | ok given => exact ⟨given, rfl, (Except.ok.inj taken).symm⟩

theorem Bounded.give {setting : Setting} {value : String} (bounded : arguments.Bounded)
    (given : arguments.give setting value = .ok next) : next.Bounded := by
  cases setting with
  | interval =>
      obtain ⟨interval, taken, same⟩ := exists_of_bind_eq_ok given
      obtain rfl := Except.ok.inj same
      obtain ⟨n, counted, rfl⟩ := once_eq_ok taken
      intro interval present
      obtain rfl := Option.some.inj present
      cases read : Literal.natural? intervalLimit value with
      | none => simp [read, ofReading] at counted
      | some m =>
          rw [read] at counted
          exact Except.ok.inj counted ▸ Literal.le_of_natural? read
  | _ =>
      obtain ⟨_, -, same⟩ := exists_of_bind_eq_ok given
      obtain rfl := Except.ok.inj same
      exact bounded

theorem Bounded.settle (bounded : arguments.Bounded) (settled : arguments.settle pending = .ok next) :
    next.Bounded := by
  match pending with
  | none => exact Except.ok.inj settled ▸ bounded
  | some ⟨_, none⟩ => cases settled
  | some ⟨setting, some value⟩ => exact bounded.give settled

theorem Bounded.choose {choice : Choice} {attached : Option String} (bounded : arguments.Bounded)
    (chosen : arguments.choose pending choice attached = .ok (next, later)) : next.Bounded := by
  obtain ⟨settled, settles, chooses⟩ := exists_of_bind_eq_ok chosen
  have bounded := bounded.settle settles
  match choice, attached with
  | .setting setting, some value =>
      obtain ⟨given, gives, same⟩ := exists_of_bind_eq_ok chooses
      obtain ⟨rfl, -⟩ := Prod.mk.inj (Except.ok.inj same)
      exact bounded.give gives
  | .setting setting, none =>
      obtain ⟨rfl, -⟩ := Prod.mk.inj (Except.ok.inj chooses)
      exact bounded
  | .noTotal, _ =>
      dsimp only at chooses
      split at chooses
      · cases chooses
      · obtain ⟨rfl, -⟩ := Prod.mk.inj (Except.ok.inj chooses)
        exact bounded
  | .help, _ => cases chooses
  | .version, _ => cases chooses

theorem Bounded.take {text : String} (bounded : arguments.Bounded)
    (taken : arguments.take pending text = .ok (next, later)) : next.Bounded := by
  rw [Arguments.take] at taken
  split at taken
  · cases taken
  · split at taken
    · cases taken
    · exact bounded.choose taken
    · cases taken
    · exact bounded.choose taken
  · split at taken
    · obtain ⟨_, -, same⟩ := exists_of_bind_eq_ok taken
      obtain ⟨rfl, -⟩ := Prod.mk.inj (Except.ok.inj same)
      exact bounded
    · split at taken
      · cases taken
      · exact bounded.choose taken
  · obtain ⟨_, -, same⟩ := exists_of_bind_eq_ok taken
    obtain ⟨rfl, -⟩ := Prod.mk.inj (Except.ok.inj same)
    exact bounded

theorem Bounded.readFrom {words : List String} (bounded : arguments.Bounded)
    (read : arguments.readFrom pending words = .ok next) : next.Bounded := by
  induction words generalizing arguments pending with
  | nil => exact bounded.settle read
  | cons text rest ih =>
      rw [Arguments.readFrom] at read
      split at read
      · split at read
        · exact bounded.settle read
        · cases read
      · obtain ⟨⟨reached, later⟩, taken, goesOn⟩ := exists_of_bind_eq_ok read
        exact ih (bounded.take taken) goesOn

theorem bounded_of_read {words : List String} (accepted : read words = .ok arguments) :
    arguments.Bounded := by
  have start : ({} : Arguments).Bounded := by
    intro interval present
    cases present
  exact start.readFrom accepted

end CommandLine.Arguments

theorem Text.trim_eq_empty_iff {text : String} :
    trim text = "" ↔ ∀ c ∈ text.toList, isBlank c = true := by
  have empty (chars : List Char) : String.ofList chars = "" ↔ chars = [] :=
    ⟨fun same => by simpa using congrArg String.toList same, fun same => same ▸ rfl⟩
  rw [trim, empty, List.reverse_eq_nil_iff, List.dropWhile_eq_nil_iff]
  simp only [List.mem_reverse]
  have split := List.takeWhile_append_dropWhile (p := isBlank) (l := text.toList)
  constructor
  · intro blank c member
    rw [← split] at member
    rcases List.mem_append.mp member with first | rest
    · exact List.mem_takeWhile_imp first
    · exact blank c rest
  · intro blank c member
    exact blank c ((List.dropWhile_sublist _).mem member)

namespace Settings

open CommandLine Binary64

def waitingOf (arguments : Arguments) : Binary64 := arguments.waiting.getD defaultWaiting

/-- NaN, infinite or below zero. -/
def Unusable (seconds : Binary64) : Prop :=
  seconds.isNaN = true ∨ seconds.isInfinite = true ∨ seconds.lt .zero = true

/-- A fault that comes before any other. -/
inductive FirstFault (arguments : Arguments) : SettingFault → Prop where
  | waiting (unusable : Unusable (waitingOf arguments)) :
      FirstFault arguments (.waiting (waitingOf arguments))
  | interval (usable : ¬Unusable (waitingOf arguments)) (zero : arguments.interval = some 0) :
      FirstFault arguments .interval
  | instanceName (usable : ¬Unusable (waitingOf arguments)) (nonzero : arguments.interval ≠ some 0)
      (name : String) (given : arguments.instanceName = some name)
      (blank : ∀ c ∈ name.toList, Text.isBlank c = true) :
      FirstFault arguments .instanceName

/-- The waiting time is at least `2 ^ 64` seconds. -/
def Endless (arguments : Arguments) : Prop :=
  Duration.secondsLimit * unit ≤ quanta (waitingOf arguments).magnitude

/-- A generator that answers with a name and counts how often it is asked. -/
def counted (name : String) : StateM Nat String := fun calls => (name, calls + 1)

theorem unusable_iff {seconds : Binary64} : Unusable seconds ↔ acceptsWaiting seconds = false := by
  rw [Unusable, acceptsWaiting, Bool.and_eq_false_iff, Bool.not_eq_false', ← or_assoc]
  refine or_congr_left ?_
  rw [← Bool.not_eq_true, isFinite_iff, not_and_or, Bool.not_eq_false, Bool.not_eq_false]

theorem any_isBlankName_iff {name? : Option String} :
    name?.any isBlankName = true ↔
      ∃ name, name? = some name ∧ ∀ c ∈ name.toList, Text.isBlank c = true := by
  cases name? with
  | none => simp
  | some name => simp [isBlankName, Text.trim_eq_empty_iff]

theorem fault?_eq_some_iff {arguments : Arguments} {fault : SettingFault} :
    fault? arguments = some fault ↔ FirstFault arguments fault := by
  have usable_iff : (!acceptsWaiting (waitingOf arguments)) = true ↔ Unusable (waitingOf arguments) := by
    rw [Bool.not_eq_true', unusable_iff]
  rw [fault?, ← waitingOf]
  by_cases unusable : Unusable (waitingOf arguments)
  · rw [if_pos (usable_iff.mpr unusable)]
    constructor
    · intro same
      exact Option.some.inj same ▸ .waiting unusable
    · intro first
      cases first with
      | waiting => rfl
      | interval usable => exact absurd unusable usable
      | instanceName usable => exact absurd unusable usable
  · rw [if_neg (mt usable_iff.mp unusable)]
    by_cases zero : arguments.interval = some 0
    · rw [if_pos zero]
      constructor
      · intro same
        exact Option.some.inj same ▸ .interval unusable zero
      · intro first
        cases first with
        | waiting usable => exact absurd usable unusable
        | interval => rfl
        | instanceName _ nonzero => exact absurd zero nonzero
    · rw [if_neg zero]
      constructor
      · intro same
        obtain ⟨blank, same⟩ := Option.ite_none_right_eq_some.mp same
        obtain ⟨name, given, blank⟩ := any_isBlankName_iff.mp blank
        exact Option.some.inj same ▸ .instanceName unusable zero name given blank
      · intro first
        cases first with
        | waiting usable => exact absurd usable unusable
        | interval _ nonzero => exact absurd nonzero zero
        | instanceName _ _ name given blank =>
            rw [if_pos (any_isBlankName_iff.mpr ⟨name, given, blank⟩)]

theorem FirstFault.unique {arguments : Arguments} {fault other : SettingFault}
    (first : FirstFault arguments fault) (second : FirstFault arguments other) : other = fault :=
  Option.some.inj ((fault?_eq_some_iff.mpr second).symm.trans (fault?_eq_some_iff.mpr first))

theorem fault?_eq_none_iff {arguments : Arguments} :
    fault? arguments = none ↔ ∀ fault, ¬FirstFault arguments fault := by
  simp only [← fault?_eq_some_iff]
  cases fault? arguments <;> simp

structure Fits (arguments : Arguments) (generated : String) (settings : Settings) : Prop where
  ticking : 0 < settings.tick
  countable : settings.tick < Duration.secondsLimit * Duration.second
  waiting : Nearest (quanta (waitingOf arguments).magnitude * Duration.second) unit settings.waiting
  named : settings.instanceName = arguments.instanceName.getD generated

/-- What comes of arguments, and how often a name was generated. -/
structure Made (arguments : Arguments) (generated : String)
    (result : Except SettingsFailure Settings) (calls : Nat) : Prop where
  refused : ∀ fault, result = .error (.refused fault) ↔ FirstFault arguments fault
  overflow : result = .error .overflow ↔
    (∀ fault, ¬FirstFault arguments fault) ∧ Endless arguments
  made : (∃ settings, result = .ok settings) ↔
    (∀ fault, ¬FirstFault arguments fault) ∧ ¬Endless arguments
  fits : ∀ settings, result = .ok settings → Fits arguments generated settings
  generatedOnce : arguments.instanceName = none → (∀ fault, ¬FirstFault arguments fault) → calls = 1
  ungenerated : (∃ name, arguments.instanceName = some name) ∨ (∃ fault, FirstFault arguments fault) →
    calls = 0

variable {arguments : Arguments}

theorem finite_of_not_unusable (usable : ¬Unusable (waitingOf arguments)) :
    (waitingOf arguments).isFinite = true := by
  rw [isFinite_iff]
  simp only [Unusable, not_or, Bool.not_eq_true] at usable
  exact ⟨usable.1, usable.2.1⟩

theorem not_unusable_of_unfaulted (unfaulted : ∀ fault, ¬FirstFault arguments fault) :
    ¬Unusable (waitingOf arguments) :=
  fun unusable => unfaulted _ (.waiting unusable)

def settingsWith (arguments : Arguments) (instanceName : String) (waiting : Nat) : Settings where
  topic := arguments.topic
  waiting
  directory := arguments.directory.getD defaultDirectory
  tick := arguments.interval.getD defaultInterval * Duration.millisecond
  tracksTotal := !arguments.noTotal
  instanceName
  logFile := arguments.logFile

/-- How often a name is generated for arguments without fault. -/
def generations (arguments : Arguments) : Nat := if arguments.instanceName.isNone then 1 else 0

theorem ofArguments_of_faulted {fault : SettingFault} (faulted : fault? arguments = some fault)
    (generated : String) :
    ofArguments (counted generated) arguments 0 = (.error (.refused fault), 0) := by
  rw [ofArguments, faulted]
  rfl

theorem ofArguments_of_unfaulted (unfaulted : fault? arguments = none) (generated : String) :
    ofArguments (counted generated) arguments 0 =
      (match Duration.ofSeconds? (waitingOf arguments) with
        | none => .error .overflow
        | some waiting =>
            .ok (settingsWith arguments (arguments.instanceName.getD generated) waiting),
        generations arguments) := by
  rw [ofArguments, unfaulted, ← waitingOf, generations]
  cases given : arguments.instanceName <;>
    cases counts : Duration.ofSeconds? (waitingOf arguments) <;> rfl

theorem fits_settingsWith (bounded : arguments.Bounded) (unfaulted : ∀ fault, ¬FirstFault arguments fault)
    {waiting : Nat} (counts : Duration.ofSeconds? (waitingOf arguments) = some waiting)
    (generated : String) :
    Fits arguments generated
      (settingsWith arguments (arguments.instanceName.getD generated) waiting) := by
  have interval : 0 < arguments.interval.getD defaultInterval ∧
      arguments.interval.getD defaultInterval ≤ Arguments.intervalLimit := by
    cases given : arguments.interval with
    | none => exact ⟨by decide, by decide +kernel⟩
    | some interval =>
        refine ⟨Nat.pos_of_ne_zero ?_, bounded interval given⟩
        rintro rfl
        exact unfaulted _ (.interval (not_unusable_of_unfaulted unfaulted) given)
  have limits : Arguments.intervalLimit * Duration.millisecond <
      Duration.secondsLimit * Duration.second := by
    decide +kernel
  constructor
  · exact Nat.mul_pos interval.1 (by decide)
  · exact Nat.lt_of_le_of_lt (Nat.mul_le_mul_right _ interval.2) limits
  · exact Duration.nearest_of_ofSeconds? counts
  · rfl

theorem endless_iff (unfaulted : ∀ fault, ¬FirstFault arguments fault) :
    Endless arguments ↔ Duration.ofSeconds? (waitingOf arguments) = none := by
  have finite := finite_of_not_unusable (not_unusable_of_unfaulted unfaulted)
  rw [← Option.not_isSome_iff_eq_none, Duration.ofSeconds?_isSome_iff finite, Nat.not_lt, Endless]

namespace Made

variable {generated : String}

theorem of_fault {fault : SettingFault} (first : FirstFault arguments fault) :
    Made arguments generated (.error (.refused fault)) 0 := by
  have faulted : ¬∀ fault, ¬FirstFault arguments fault := fun unfaulted => unfaulted fault first
  constructor
  · intro other
    constructor
    · rintro ⟨⟩
      exact first
    · intro second
      rw [first.unique second]
  · exact ⟨nofun, fun overflows => absurd overflows.1 faulted⟩
  · constructor
    · rintro ⟨settings, ⟨⟩⟩
    · exact fun comes => absurd comes.1 faulted
  · nofun
  · exact fun _ unfaulted => absurd unfaulted faulted
  · exact fun _ => rfl

/-- Without fault the result is settled by whether the waiting time is endless. -/
theorem of_unfaulted {result : Except SettingsFailure Settings}
    (unfaulted : ∀ fault, ¬FirstFault arguments fault)
    (unrefused : ∀ fault, result ≠ .error (.refused fault))
    (overflow : result = .error .overflow ↔ Endless arguments)
    (comes : (∃ settings, result = .ok settings) ↔ ¬Endless arguments)
    (fits : ∀ settings, result = .ok settings → Fits arguments generated settings) :
    Made arguments generated result (generations arguments) where
  refused fault := ⟨fun same => absurd same (unrefused fault), fun first => absurd first (unfaulted fault)⟩
  overflow := overflow.trans ⟨fun endless => ⟨unfaulted, endless⟩, And.right⟩
  made := comes.trans ⟨fun short => ⟨unfaulted, short⟩, And.right⟩
  fits := fits
  generatedOnce absent _ := by simp [generations, absent]
  ungenerated := by
    rintro (⟨name, given⟩ | ⟨fault, first⟩)
    · simp [generations, given]
    · exact absurd first (unfaulted fault)

theorem of_endless (unfaulted : ∀ fault, ¬FirstFault arguments fault) (endless : Endless arguments) :
    Made arguments generated (.error .overflow) (generations arguments) := by
  refine of_unfaulted unfaulted nofun ⟨fun _ => endless, fun _ => rfl⟩ ?_ nofun
  constructor
  · rintro ⟨settings, ⟨⟩⟩
  · exact fun short => absurd endless short

theorem of_fits (unfaulted : ∀ fault, ¬FirstFault arguments fault) (short : ¬Endless arguments)
    {settings : Settings} (fits : Fits arguments generated settings) :
    Made arguments generated (.ok settings) (generations arguments) := by
  refine of_unfaulted unfaulted nofun ⟨nofun, fun endless => absurd endless short⟩
    ⟨fun _ => short, fun _ => ⟨settings, rfl⟩⟩ ?_
  rintro _ ⟨⟩
  exact fits

end Made

/-- Words that can be read come to settings unless the waiting time is unusable, the interval is zero or
the name is blank, in this order, or the waiting time is endless, which breaks off.  A name is generated
once if none is given and there is no fault. -/
theorem ofArguments_made {words : List String} (accepted : Arguments.read words = .ok arguments)
    (generated : String) :
    Made arguments generated (ofArguments (counted generated) arguments 0).1
      (ofArguments (counted generated) arguments 0).2 := by
  cases faulted : fault? arguments with
  | some fault =>
      rw [ofArguments_of_faulted faulted]
      exact .of_fault (fault?_eq_some_iff.mp faulted)
  | none =>
      rw [ofArguments_of_unfaulted faulted]
      have unfaulted := fault?_eq_none_iff.mp faulted
      have bounded := Arguments.bounded_of_read accepted
      cases counts : Duration.ofSeconds? (waitingOf arguments) with
      | none => exact .of_endless unfaulted ((endless_iff unfaulted).mpr counts)
      | some waiting =>
          have short : ¬Endless arguments := by simp [endless_iff unfaulted, counts]
          exact .of_fits unfaulted short (fits_settingsWith bounded unfaulted counts generated)

/-- The longest waiting time that can be counted. -/
def longestWait : Arguments := { waiting := some ⟨false, Duration.limitMagnitude - 1⟩ }

theorem ofArguments_made_longestWait :
    Arguments.read ["-w", "18446744073709549568"] = .ok longestWait ∧
      (∃ settings, (ofArguments (counted "board") longestWait 0).1 = .ok settings ∧
        Fits longestWait "board" settings) ∧
      (ofArguments (counted "board") longestWait 0).2 = 1 := by
  have accepted : Arguments.read ["-w", "18446744073709549568"] = .ok longestWait := by
    decide +kernel
  have unfaulted : ∀ fault, ¬FirstFault longestWait fault := fault?_eq_none_iff.mp (by decide +kernel)
  have short : ¬Endless longestWait := by
    rw [Endless, Nat.not_le]
    exact Duration.quanta_lt_limit_iff.mpr (by decide)
  have made := ofArguments_made accepted "board"
  obtain ⟨settings, result⟩ := made.made.mpr ⟨unfaulted, short⟩
  exact ⟨accepted, ⟨settings, result, made.fits settings result⟩, made.generatedOnce rfl unfaulted⟩

/-- A waiting time of `10 ^ 20` seconds. -/
def endlessWait : Arguments := { waiting := some ⟨false, 0x4415AF1D78B58C40⟩ }

/-- Words without fault that come to no settings, after a name has been generated. -/
theorem ofArguments_endlessWait :
    Arguments.read ["-w", "1e20"] = .ok endlessWait ∧ ¬Unusable (waitingOf endlessWait) ∧
      endlessWait.interval ≠ some 0 ∧ endlessWait.instanceName = none ∧
      ofArguments (counted "board") endlessWait 0 = (.error .overflow, 1) := by
  have accepted : Arguments.read ["-w", "1e20"] = .ok endlessWait := by decide +kernel
  have unfaulted : fault? endlessWait = none := by decide +kernel
  have usable := not_unusable_of_unfaulted (fault?_eq_none_iff.mp unfaulted)
  have uncounted : Duration.ofSeconds? (waitingOf endlessWait) = none := by decide +kernel
  refine ⟨accepted, usable, nofun, rfl, ?_⟩
  rw [ofArguments_of_unfaulted unfaulted, uncounted]
  rfl

end Settings

end TimingBoard
