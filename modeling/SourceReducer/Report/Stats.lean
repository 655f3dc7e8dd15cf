import SourceReducer.Decimal.Duration
import SourceReducer.Decimal.Tenths
import SourceReducer.Document.Value
import SourceReducer.Failure

/-! Counts that a run keeps. -/
namespace SourceReducer

/-- The size of all units together. -/
structure Metrics where
  bytes : Nat := 0
  nodes : Nat := 0
  deriving DecidableEq

/-- A part in percent of a whole, rounded down; of nothing everything is left. -/
def percent (part whole : Nat) : Nat :=
  if whole = 0 then 100 else part * 100 / whole

structure Stats where
  initial : Metrics := {}
  minimized : Metrics := {}
  passes : Nat := 0
  cleanupPasses : Nat := 0
  checks : Nat := 0
  commits : Nat := 0
  invariantRejections : Nat := 0
  parseRejections : Nat := 0
  timeouts : Nat := 0
  unknownRefs : Nat := 0
  forcedExit : Bool := false
  earlyTerminated : Bool := false
  terminationReason : Option String := none
  deriving DecidableEq

namespace Stats

/-- Counts a refusal. A request that had nothing to do is not one. -/
def recordRejection (s : Stats) : Rejection → Stats
  | .unsatisfied => { s with invariantRejections := s.invariantRejections + 1 }
  | .timedOut => { s with timeouts := s.timeouts + 1 }
  | .unparseable .. => { s with parseRejections := s.parseRejections + 1 }
  | .nothingToRemove | .exhausted => s

def recordEarlyTermination (s : Stats) (reason : String) : Stats :=
  { s with earlyTerminated := true, terminationReason := some reason }

def rejections (s : Stats) : Nat :=
  s.invariantRejections + s.parseRejections + s.timeouts

/-- A count as the nearest double. -/
def toDouble (n : Nat) : Float :=
  n.toUInt64.toFloat

/-- The share of changes that were made. -/
def successRate (s : Stats) : Float :=
  let total := s.commits + s.rejections
  if total = 0 then 0.0 else toDouble s.commits / toDouble total

/-- The percentage of bytes that were removed. -/
def byteReduction (s : Stats) : Float :=
  if s.initial.bytes = 0 then 0.0
  else (1.0 - toDouble s.minimized.bytes / toDouble s.initial.bytes) * 100.0

/-- One line about the run; `time` is the text of the time it took. -/
def render (s : Stats) (time : Option String) : String :=
  let forced := if s.forcedExit then ", forced exit" else ""
  let early := match s.earlyTerminated, s.terminationReason with
    | true, some reason => s!", early terminated: {reason}"
    | _, _ => ""
  let took := match time with
    | some text => s!", {text}"
    | none => ""
  let bytes := s!"{s.initial.bytes} -> {s.minimized.bytes} bytes"
  let nodes := s!"{s.initial.nodes} -> {s.minimized.nodes} nodes"
  let reduction := showTenths s.byteReduction
  let success := showTenths (s.successRate * 100.0)
  s!"Stats \x7b {bytes} ({reduction}% reduction), {nodes}, {s.passes} passes, " ++
    s!"{s.commits} commits, {s.checks} checks, {success}% success rate{forced}{early}{took} \x7d"

def metricsToValue (m : Metrics) : Value :=
  .table [("bytes", .ofNat m.bytes), ("nodes", .ofNat m.nodes)]

def toValue (s : Stats) : Value :=
  .table [("original", metricsToValue s.initial), ("minimized", metricsToValue s.minimized),
    ("passes", .ofNat s.passes), ("cleanup_passes", .ofNat s.cleanupPasses),
    ("checks_performed", .ofNat s.checks), ("commits", .ofNat s.commits),
    ("invariant_rejections", .ofNat s.invariantRejections),
    ("parse_rejections", .ofNat s.parseRejections), ("timeouts", .ofNat s.timeouts),
    ("unknown_node_references", .ofNat s.unknownRefs), ("forced_exit", .bool s.forcedExit),
    ("early_terminated", .bool s.earlyTerminated),
    ("termination_reason", .ofOption .text s.terminationReason)]

def readMetrics : Value.Reader Metrics := fun v => do
  let fields ← Value.readFields true ["bytes", "nodes"] v
  return { bytes := ← Value.field fields "bytes" Value.readNat
           nodes := ← Value.field fields "nodes" Value.readNat }

def fieldNames : List String :=
  ["original", "minimized", "passes", "cleanup_passes", "checks_performed", "commits",
    "invariant_rejections", "parse_rejections", "timeouts", "unknown_node_references",
    "forced_exit", "early_terminated", "termination_reason"]

/-- Counts from a record in which only the reason for an early end may be left out. -/
def ofValue : Value.Reader Stats := fun v => do
  let fields ← Value.readFields true fieldNames v
  let nat := fun name => Value.field fields name Value.readNat
  return {
    initial := ← Value.field fields "original" readMetrics
    minimized := ← Value.field fields "minimized" readMetrics
    passes := ← nat "passes"
    cleanupPasses := ← nat "cleanup_passes"
    checks := ← nat "checks_performed"
    commits := ← nat "commits"
    invariantRejections := ← nat "invariant_rejections"
    parseRejections := ← nat "parse_rejections"
    timeouts := ← nat "timeouts"
    unknownRefs := ← nat "unknown_node_references"
    forcedExit := ← Value.field fields "forced_exit" Value.readBool
    earlyTerminated := ← Value.field fields "early_terminated" Value.readBool
    terminationReason := ←
      Value.fieldOr fields "termination_reason" (Value.readOption Value.readText) none }

end Stats

end SourceReducer
