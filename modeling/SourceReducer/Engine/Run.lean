import SourceReducer.Engine.Load
import SourceReducer.Report.Basic

/-! Runs: from the loaded texts through the passes of a strategy to the report. -/
namespace SourceReducer

/-- A run on its way. -/
structure Run (σ τ : Type) where
  session : Session σ
  /-- The state of the strategy. -/
  state : τ
  passes : Nat := 0
  cleanupPasses : Nat := 0
  /-- The sizes that were noted, the newest first. -/
  progress : List ProgressEntry := []

namespace Run

variable {σ τ : Type}

def record (r : Run σ τ) (checkpoint : Checkpoint) : Run σ τ :=
  { r with progress := { checkpoint, metrics := r.session.metrics } :: r.progress }

/-- Prepares the strategy, in whose requests only a fault counts, and then the invariant. -/
def prepare (e : Engine σ) (strategy : Strategy τ) (r : Run σ τ) : Except Failure Unit × Run σ τ :=
  let first := strategy.prepare e.language r.session.forest r.state
  match e.converse first r.session with
  | (.error failure, state, session) => (.error failure, { r with session, state })
  | (.ok _, state, session) =>
      let noted := session.note (.prepared session.copies.length session.forest.nodeCount)
      match e.invariant.prepare (e.candidate noted) noted.state with
      | .error failure => (.error failure, { r with session := noted, state })
      | .ok prepared => (.ok (), { r with session := { noted with state := prepared }, state })

/-- Lays all texts out anew and notes the size. A refusal is no fault. -/
def cleanup (e : Engine σ) (checkpoint : Checkpoint) (r : Run σ τ) :
    Except Failure Unit × Run σ τ :=
  match e.cleanup r.session with
  | (.error failure, session) => (.error failure, { r with session })
  | (.ok _, session) => (.ok (), { r with session }.record checkpoint)

/-- A pass that lays all texts out anew. -/
def cleanupPass (e : Engine σ) (r : Run σ τ) : Except Failure Control × Run σ τ :=
  let (outcome, session) := e.cleanup r.session
  (outcome, { r with session, cleanupPasses := r.cleanupPasses + 1 })

/-- A pass of the strategy. -/
def strategyPass (e : Engine σ) (strategy : Strategy τ) (r : Run σ τ) :
    Except Failure Control × Run σ τ :=
  let fresh := r.session.rollback
  match e.converse (strategy.pass e.language fresh.forest r.state) fresh with
  | (.error failure, state, session) => (.error failure, { r with session, state })
  | (.ok control, state, session) =>
      (.ok control, { r with session := session.note (.passed control), state })

/-- Whether another pass follows one that ended with a control. A cleanup that is refused does not
end the run. -/
def goesOn (cleanup : Bool) : Control → Bool
  | .proceed => true
  | .stop => false
  | .failed _ => cleanup

/-- The next pass. The answer says whether another one follows. -/
def pass (e : Engine σ) (strategy : Strategy τ) (interval : Nat) (r : Run σ τ) :
    Except Failure Bool × Run σ τ :=
  let number := r.passes + 1
  let isCleanup := number % interval == 0
  let counted := { r with passes := number }
  match if isCleanup then counted.cleanupPass e else counted.strategyPass e strategy with
  | (.error failure, r) => (.error failure, r)
  | (.ok control, r) => (.ok (goesOn isCleanup control), r.record (.pass number isCleanup))

/-- Whether as many passes were made as the settings allow. -/
def atLimit (settings : Settings) (r : Run σ τ) : Bool :=
  settings.maxPasses.any fun most => most ≤ r.passes

/-- Notes that the number of passes ended the run. -/
def endEarly (r : Run σ τ) : Run σ τ :=
  { r with session := { r.session with
      stats := r.session.stats.recordEarlyTermination "pass limit reached" } }

/-- Pass after pass, `fuel` of them at most. There is no answer if they are not enough. -/
def loop (e : Engine σ) (strategy : Strategy τ) (settings : Settings) :
    Nat → Run σ τ → Option (Except Failure Unit × Run σ τ)
  | 0, _ => none
  | fuel + 1, r =>
      if r.atLimit settings then some (.ok (), r.endEarly)
      else
        match r.pass e strategy settings.cleanupInterval with
        | (.error failure, r) => some (.error failure, r)
        | (.ok false, r) => some (.ok (), r)
        | (.ok true, r) => loop e strategy settings fuel r

/-- Strips the blank lines of units in turn. A refusal is no fault. -/
def stripAll (e : Engine σ) : List Nat → Session σ → Outcome σ Unit
  | [], s => (.ok (), s)
  | unit :: rest, s =>
      match e.stripUnit unit s with
      | (.error failure, s) => (.error failure, s)
      | (.ok _, s) => stripAll e rest s

/-- The report of a finished run, whose size at the start was `initial`. -/
def report (e : Engine σ) (strategy : Strategy τ) (initial : Metrics) (r : Run σ τ) :
    Except Failure Report :=
  match e.invariant.statistics r.session.state with
  | .error message => .error (.invariant message)
  | .ok invariantStatistics =>
      match strategy.statistics r.state with
      | .error message => .error (.strategy message)
      | .ok strategyStatistics =>
          .ok {
            stats := { r.session.stats with
              initial
              minimized := r.session.metrics
              passes := r.passes
              cleanupPasses := r.cleanupPasses }
            progress := r.progress.reverse
            invariantStatistics
            strategyStatistics }

/-- The last layout, unit by unit without blank lines, and the report. -/
def finish (e : Engine σ) (strategy : Strategy τ) (initial : Metrics) (r : Run σ τ) :
    Except Failure Report × Run σ τ :=
  match r.cleanup e .finalCleanup with
  | (.error failure, r) => (.error failure, r)
  | (.ok _, r) =>
      match stripAll e (List.range r.session.copies.length) r.session with
      | (.error failure, session) => (.error failure, { r with session })
      | (.ok _, session) =>
          let stripped := { r with session }.record .blankLineCleanup
          let closed := { stripped with session := session.rollback }
          (closed.report e strategy initial, closed)

/-- A whole run with `fuel` passes at most. -/
def runWithin (e : Engine σ) (strategy : Strategy τ) (settings : Settings) (fuel : Nat)
    (r : Run σ τ) : Option (Except Failure Report × Run σ τ) :=
  match r.prepare e strategy with
  | (.error failure, r) => some (.error failure, r)
  | (.ok _, prepared) =>
      match (prepared.record .start).cleanup e .initialCleanup with
      | (.error failure, r) => some (.error failure, r)
      | (.ok _, cleaned) =>
          match loop e strategy settings fuel cleaned with
          | none => none
          | some (.error failure, r) => some (.error failure, r)
          | some (.ok _, r) => some (r.finish e strategy prepared.session.metrics)

/-- A number of passes that is enough: of two passes that follow each other at least one is of the
strategy, and one more finds the limit. -/
def fuelFor (strategy : Strategy τ) (s : Session σ) : Nat :=
  2 * strategy.passBound s.forest + 2

/-- A whole run of a loaded session. -/
def start (e : Engine σ) (strategy : Strategy τ) (settings : Settings) (s : Session σ) :
    Option (Except Failure Report × Run σ τ) :=
  runWithin e strategy settings (fuelFor strategy s) { session := s, state := strategy.start }

end Run

end SourceReducer
