import TimingBoard.Log
import TimingBoard.Pattern.Refusal
import TimingBoard.Text.Utf8

namespace TimingBoard

/-! Which log records are kept.

A filter has rules, each a limit for the parts of the program whose names start with some text; the
longest text decides.  A filter without rules keeps errors only. -/

/-- The most verbose level that is kept; absent when nothing is. -/
abbrev Limit := Option Level

/-- A rule without a target is for every part of the program. -/
structure LogRule where
  target : Option String
  limit : Limit
deriving DecidableEq, Repr

namespace LogRule

/-- How many bytes of a name the rule fixes. -/
def reach (rule : LogRule) : Nat := ((rule.target.map Utf8.encode).getD []).length

def fits (rule : LogRule) (name : String) : Bool :=
  rule.target.all fun target => target.toList.isPrefixOf name.toList

end LogRule

structure LogFilter where
  rules : List LogRule
  pattern : Option Pattern := none
deriving DecidableEq, Repr

inductive LogFilterFault where
  | rule (text : String)
  | slashes (text : String)
  | pattern (refusal : PatternRefusal)
deriving DecidableEq, Repr

def LogFilterFault.message : LogFilterFault → String
  | .rule text => "invalid logging spec '" ++ text ++ "'"
  | .slashes text => "invalid logging spec '" ++ text ++ "' (too many '/'s)"
  | .pattern refusal => "invalid regex filter - " ++ refusal.message

namespace LogFilter

def ofLimit (limit : Limit) : LogFilter := ⟨[⟨none, limit⟩], none⟩

def limit? (text : String) : Option Limit :=
  match String.ofList (text.toList.map Char.toLower) with
  | "off" => some none
  | "error" => some (some .error)
  | "warn" => some (some .warn)
  | "info" => some (some .info)
  | "debug" => some (some .debug)
  | "trace" => some (some .trace)
  | _ => none

def splitText (mark : Char) (text : String) : List String :=
  (text.toList.splitOn mark).map String.ofList

/-- Reads one rule: a limit, a target, or both.  A target alone has no limit. -/
def rule? (text : String) : Except LogFilterFault LogRule :=
  match splitText '=' text with
  | [single] =>
      match limit? single with
      | some limit => .ok ⟨none, limit⟩
      | none => .ok ⟨some single, some .trace⟩
  | [target, given] =>
      let given := Text.trim given
      if given = "" then .ok ⟨some target, some .trace⟩
      else
        match limit? given with
        | some limit => .ok ⟨some target, limit⟩
        | none => .error (.rule given)
  | _ => .error (.rule text)

/-- A later rule takes the place of an earlier one for the same target. -/
def insertRule (new : LogRule) : List LogRule → List LogRule
  | [] => [new]
  | rule :: rest =>
      if rule.target = new.target then new :: rest else rule :: insertRule new rest

def readRules (text : String) : List LogRule × List LogFilterFault :=
  let parts := ((splitText ',' text).map Text.trim).filter (· != "")
  parts.foldl (fun (rules, faults) part =>
    match rule? part with
    | .ok rule => (insertRule rule rules, faults)
    | .error fault => (rules, faults ++ [fault])) ([], [])

/-- Reads rules and, after a slash, the pattern of what messages must contain. -/
def read (text : String) : LogFilter × List LogFilterFault :=
  match splitText '/' text with
  | [rules] => (⟨(readRules rules).1, none⟩, (readRules rules).2)
  | [rules, pattern] =>
      let (rules, faults) := readRules rules
      match Pattern.ofText pattern with
      | .ok pattern => (⟨rules, some pattern⟩, faults)
      | .error refusal => (⟨rules, none⟩, faults ++ [.pattern refusal])
  | _ => (⟨[], none⟩, [.slashes text])

/-- The filter that was asked for; otherwise a log file takes what is worth knowing. -/
def choose (asked : Option String) (hasFile : Bool) : LogFilter × List LogFilterFault :=
  match asked with
  | some text => read text
  | none => (ofLimit (if hasFile then some .info else none), [])

/-- The limit for a part of the program.  Of rules that reach equally far the last one decides. -/
def limit (filter : LogFilter) (source : LogSource) : Limit :=
  if filter.rules.isEmpty then some .error
  else
    let fitting := filter.rules.filter (·.fits source.target)
    (fitting.foldl (fun (best : Option LogRule) rule =>
      match best with
      | some far => if rule.reach < far.reach then best else some rule
      | none => some rule) none).bind (·.limit)

def keeps (filter : LogFilter) (record : LogRecord) : Bool :=
  (filter.limit record.source).any (fun level => record.level.verbosity ≤ level.verbosity) &&
    filter.pattern.all (·.occursIn record.message)

end LogFilter

end TimingBoard
