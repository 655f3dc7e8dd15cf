import SourceReducer.Invariant.Condition

/-! A property that fails, hangs and writes files when its conditions say so. -/
namespace SourceReducer

structure Probe where
  /-- The fault of its initialization. -/
  initFault : Option String := none
  /-- Whether every check writes the texts into a directory of its own and notes what is there. -/
  materialize : Bool := false
  /-- A directory that every check writes the texts into. -/
  target : Option String := none
  /-- When a check never ends. -/
  hangs : Condition := .always false
  /-- When a check fails. -/
  fails : Condition := .always false
  holds : Condition := .always false
  statistics : String := ""
  statisticsFault : Option String := none

/-- The texts that a check wrote, with their paths below the directory. -/
abbrev Listing := List (String × String)

structure ProbeState where
  checks : Nat := 0
  /-- One entry per check, the newest first. -/
  listings : List (Option Listing) := []

namespace Probe

/-- The directory that the texts are written into and listed from. -/
def scratchPlace : Location := ["tmp", "materialized"]

/-- Writes the texts into a new directory and notes them. The directory does not stay. -/
def list (candidate : Candidate) (files : Files) : Except Failure Listing :=
  let dir := Files.pathOf scratchPlace
  match candidate.materialize dir (files.put scratchPlace .directory) with
  | (.error failure, _) => .error failure
  | (.ok paths, written) =>
      .ok (paths.map fun path =>
        (String.ofList (path.toList.drop (dir.length + 1)),
          (written.readText path).toOption.getD ""))

/-- What a check comes to once its files are written. -/
def decide (p : Probe) (n : Nat) (candidate : Candidate) : Except Failure Verdict :=
  if p.hangs.holds n candidate then .ok .timedOut
  else if p.fails.holds n candidate then .error (.invariant "check failed")
  else .ok (.ofBool (p.holds.holds n candidate))

/-- Writes the texts where they are wanted and decides. -/
def finish (p : Probe) (n : Nat) (candidate : Candidate) (state : ProbeState) (files : Files) :
    Checked ProbeState :=
  match p.target with
  | none => { verdict := p.decide n candidate, state, files }
  | some dir =>
      match candidate.materialize dir files with
      | (.error failure, written) => { verdict := .error failure, state, files := written }
      | (.ok _, written) => { verdict := p.decide n candidate, state, files := written }

def check (p : Probe) (candidate : Candidate) (state : ProbeState) (files : Files) :
    Checked ProbeState :=
  let next := fun listing =>
    { checks := state.checks + 1, listings := listing :: state.listings : ProbeState }
  if p.materialize then
    match list candidate files with
    | .error failure => { verdict := .error failure, state := next none, files }
    | .ok listing => p.finish state.checks candidate (next (some listing)) files
  else p.finish state.checks candidate (next none) files

def invariant (p : Probe) : Invariant ProbeState where
  name := "custom"
  start := {}
  prepare := fun _ state =>
    match p.initFault with
    | some message => .error (.invariant message)
    | none => .ok state
  check := fun _ candidate state files => p.check candidate state files
  statistics := fun _ =>
    match p.statisticsFault with
    | some message => .error message
    | none => .ok p.statistics

end Probe

end SourceReducer
