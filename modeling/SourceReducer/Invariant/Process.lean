import SourceReducer.Command.Basic
import SourceReducer.Decimal.Duration
import SourceReducer.Invariant.Basic
import SourceReducer.Pattern.Weight
import SourceReducer.Text.Part

/-! A property that a command decides. Every check writes the texts into a directory of its own and
runs the command there. -/
namespace SourceReducer

/-- When a command says that the property holds. -/
inductive Acceptance
  | exitCode (code : Int)
  /-- The pattern occurs in what the command printed on either channel. -/
  | outputMatches (pattern : Pattern)

def Acceptance.accepts (a : Acceptance) (f : Finished) : Bool :=
  match a with
  | .exitCode code => f.code.any fun n => (n : Int) == code
  | .outputMatches pattern =>
      pattern.occursIn (decodeLossy f.out) || pattern.occursIn (decodeLossy f.err)

structure CommandCheck where
  program : String
  /-- Arguments, in which the directory and the files have place-holders. -/
  args : List String := []
  acceptance : Acceptance
  /-- Milliseconds after which the command is stopped and counts as a no. -/
  timeout : Option Nat := none

structure CommandTally where
  runs : Nat := 0
  accepted : Nat := 0
  timeouts : Nat := 0
  /-- Milliseconds in all. -/
  elapsed : Nat := 0
  deriving DecidableEq

namespace CommandCheck

def dirHolder : String := "\x7bdir\x7d"

def filesHolder : String := "\x7bfiles\x7d"

/-- The arguments with the directory and the files in place of their holders. A holder of the files
that is an argument of its own becomes one argument per file. -/
def expandArgs (args : List String) (dir : String) (paths : List String) : List String :=
  args.flatMap fun arg =>
    if arg = filesHolder then paths
    else [replacePart filesHolder (" ".intercalate paths) (replacePart dirHolder dir arg)]

/-- The directory in which the command runs. -/
def place : Location := ["tmp", "check"]

/-- What became of a command whose time may have run out. -/
inductive Course
  | finished (f : Finished)
  | stopped (elapsed : Nat)
  /-- The check as a whole was given up. -/
  | givenUp

/-- The time limit of the command itself counts until it is gone, and that of the check until all
that it started has stopped printing. -/
def courseOf (limit timeout : Option Nat) (f : Finished) : Course :=
  match timeout.filter (· ≤ f.elapsed) with
  | some t => if limit.any (· ≤ t) then .givenUp else .stopped t
  | none => if limit.any (· ≤ f.closed) then .givenUp else .finished f

/-- The verdict on a command that was run, and the new counts. -/
def judge (c : CommandCheck) (limit : Option Nat) (f : Finished) (tally : CommandTally) :
    Verdict × CommandTally :=
  match courseOf limit c.timeout f with
  | .givenUp => (.timedOut, tally)
  | .stopped elapsed =>
      (.refused, { tally with
        runs := tally.runs + 1
        timeouts := tally.timeouts + 1
        elapsed := tally.elapsed + elapsed })
  | .finished f =>
      let accepted := c.acceptance.accepts f
      (.ofBool accepted, { tally with
        runs := tally.runs + 1
        accepted := tally.accepted + (if accepted then 1 else 0)
        elapsed := tally.elapsed + f.closed })

def check (c : CommandCheck) (run : Runner) (limit : Option Nat) (candidate : Candidate)
    (tally : CommandTally) (files : Files) : Checked CommandTally :=
  let dir := Files.pathOf place
  let close := fun (after : Files) => { after.dropTree place with here := files.here }
  match candidate.materialize dir (files.put place .directory) with
  | (.error failure, written) =>
      { verdict := .error failure, state := tally, files := close written }
  | (.ok paths, written) =>
      match run { written with here := place } c.program (expandArgs c.args dir paths) with
      | .error fault =>
          let message := s!"failed to start {c.program}: {fault.message}"
          { verdict := .error (.invariant message), state := tally, files := close written }
      | .ok (finished, after) =>
          let (verdict, state) := c.judge limit finished tally
          { verdict := .ok verdict, state, files := close after }

/-- The text of a time in milliseconds. -/
def showMilliseconds (ms : Nat) : String :=
  showDuration (ms * Nat.pow 10 6)

def showTally (c : CommandCheck) (showTime : Nat → String) (t : CommandTally) : String :=
  let time := showTime t.elapsed
  s!"Invariant 'process' ({c.program}): {t.runs} runs, {t.accepted} accepted, " ++
    s!"{t.timeouts} timed out, {time} total\n"

def invariant (c : CommandCheck) (run : Runner) (showTime : Nat → String := showMilliseconds) :
    Invariant CommandTally where
  name := "process"
  start := {}
  check := fun limit candidate tally files => c.check run limit candidate tally files
  statistics := fun tally => .ok (c.showTally showTime tally)

end CommandCheck

end SourceReducer
