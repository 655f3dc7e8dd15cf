import SourceReducer.Report.Stats

/-! The report of a run: how far the sizes went down at each step, the counts, and what the
invariant and the strategy have to say. -/
namespace SourceReducer

/-- The steps of a run after which its size is noted. -/
inductive Checkpoint
  | start
  | initialCleanup
  | pass (number : Nat) (cleanup : Bool)
  | finalCleanup
  | blankLineCleanup
  deriving DecidableEq

def Checkpoint.message : Checkpoint → String
  | .start => "Original file(s)"
  | .initialCleanup => "After initial white-space cleanup"
  | .pass number true => s!"After pass #{number} (white-space cleanup)"
  | .pass number false => s!"After pass #{number}"
  | .finalCleanup => "After final white-space cleanup"
  | .blankLineCleanup => "After blank line clean up"

structure ProgressEntry where
  checkpoint : Checkpoint
  metrics : Metrics
  deriving DecidableEq

structure Report where
  stats : Stats := {}
  progress : List ProgressEntry := []
  invariantStatistics : String := ""
  strategyStatistics : String := ""
  deriving DecidableEq

/-- A line about one step, with sizes in percent of the size at the start. -/
def ProgressEntry.line (entry : ProgressEntry) (whole : Metrics) : String :=
  let bytes := entry.metrics.bytes
  let nodes := entry.metrics.nodes
  match entry.checkpoint with
  | .start => s!"{entry.checkpoint.message}: {bytes} bytes, {nodes} nodes."
  | _ =>
      s!"{entry.checkpoint.message}: size {bytes} bytes ({percent bytes whole.bytes}%), " ++
        s!"{nodes} nodes ({percent nodes whole.nodes}%)"

namespace Report

def lines (r : Report) : List String :=
  r.progress.map fun entry => entry.line r.stats.initial

/-- The whole report; `time` is the text of the time that the run took. -/
def render (r : Report) (time : Option String) : String :=
  String.join (r.lines.map fun line => line ++ "\n") ++ r.stats.render time ++ "\n" ++
    r.invariantStatistics ++ r.strategyStatistics

def checkpointToValue : Checkpoint → Value
  | .start => .text "Original"
  | .initialCleanup => .text "InitialCleanup"
  | .pass number cleanup =>
      .table [("Pass", .table [("number", .ofNat number), ("cleanup", .bool cleanup)])]
  | .finalCleanup => .text "FinalCleanup"
  | .blankLineCleanup => .text "BlankLineCleanup"

def entryToValue (entry : ProgressEntry) : Value :=
  .table [("checkpoint", checkpointToValue entry.checkpoint),
    ("metrics", Stats.metricsToValue entry.metrics)]

def toValue (r : Report) : Value :=
  .table [("stats", r.stats.toValue), ("progress", .list (r.progress.map entryToValue)),
    ("invariant_statistics", .text r.invariantStatistics),
    ("strategy_statistics", .text r.strategyStatistics)]

/-- The checkpoints that have a name and nothing else. -/
def namedCheckpoint? : String → Option Checkpoint
  | "Original" => some .start
  | "InitialCleanup" => some .initialCleanup
  | "FinalCleanup" => some .finalCleanup
  | "BlankLineCleanup" => some .blankLineCleanup
  | _ => none

def readPass : Value.Reader Checkpoint := fun v => do
  let fields ← Value.readFields true ["number", "cleanup"] v
  return .pass (← Value.field fields "number" Value.readNat)
    (← Value.field fields "cleanup" Value.readBool)

/-- A checkpoint is its name, or a table with its name and what belongs to it. -/
def readCheckpoint : Value.Reader Checkpoint
  | .text name => (namedCheckpoint? name).elim (.error {}) .ok
  | .table [("Pass", v)] => readPass v
  | .table [(name, .null)] => (namedCheckpoint? name).elim (.error {}) .ok
  | _ => .error {}

def readEntry : Value.Reader ProgressEntry := fun v => do
  let fields ← Value.readFields true ["checkpoint", "metrics"] v
  return { checkpoint := ← Value.field fields "checkpoint" readCheckpoint
           metrics := ← Value.field fields "metrics" Stats.readMetrics }

def ofValue : Value.Reader Report := fun v => do
  let fields ← Value.readFields true
    ["stats", "progress", "invariant_statistics", "strategy_statistics"] v
  return {
    stats := ← Value.field fields "stats" Stats.ofValue
    progress := ← Value.field fields "progress" (Value.readList readEntry)
    invariantStatistics := ← Value.field fields "invariant_statistics" Value.readText
    strategyStatistics := ← Value.field fields "strategy_statistics" Value.readText }

end Report

end SourceReducer
