import SourceReducer.Candidate

/-! Invariants: properties that a reduced text has to keep. -/
namespace SourceReducer

inductive Verdict
  | holds
  | refused
  /-- The check was given up after its time. -/
  | timedOut
  deriving DecidableEq

def Verdict.ofBool : Bool → Verdict
  | true => .holds
  | false => .refused

/-- What a check ends with: a verdict or a fault, the new state, and the files. -/
structure Checked (σ : Type) where
  verdict : Except Failure Verdict
  state : σ
  files : Files

/-- A property of candidates that is checked with a state of type `σ`, which it starts with, and
which may read and write files. A check gets the number of milliseconds after which it is given
up. -/
structure Invariant (σ : Type) where
  name : String
  start : σ
  /-- Runs once, before the first check that the run itself makes. -/
  prepare : Candidate → σ → Except Failure σ := fun _ state => .ok state
  check : Option Nat → Candidate → σ → Files → Checked σ
  statistics : σ → Except String String := fun _ => .ok ""

/-- Counts of checks. -/
structure Tally where
  checks : Nat := 0
  accepted : Nat := 0
  deriving DecidableEq

def Tally.count (t : Tally) (accepted : Bool) : Tally :=
  { checks := t.checks + 1, accepted := t.accepted + if accepted then 1 else 0 }

def Tally.show (t : Tally) (name : String) : String :=
  s!"Invariant '{name}': {t.checks} checks, {t.accepted} accepted\n"

namespace Invariant

/-- A property that the candidate and the number of earlier checks decide. -/
def ofPredicate (name : String) (p : Nat → Candidate → Bool) : Invariant Tally where
  name
  start := {}
  check := fun _ candidate tally files =>
    let accepted := p tally.checks candidate
    { verdict := .ok (.ofBool accepted), state := tally.count accepted, files }
  statistics := fun tally => .ok (tally.show name)

/-- Every unit parses. -/
def parseable : Invariant Tally :=
  ofPredicate "parseable" fun _ candidate => candidate.allParse

/-- The same property without statistics. -/
def silent {σ : Type} (i : Invariant σ) : Invariant σ :=
  { i with statistics := fun _ => .ok "" }

/-- How a named property shows itself before its first check. -/
def describePredicate (name : String) : String :=
  s!"FnInvariant \x7b name: {quote name}, checks: 0, accepted: 0 \x7d"

end Invariant

end SourceReducer
