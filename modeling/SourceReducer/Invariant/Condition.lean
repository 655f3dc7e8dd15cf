import SourceReducer.Invariant.Basic
import SourceReducer.Text.Part

/-! Conditions on candidates, written as data. -/
namespace SourceReducer

inductive Condition
  | always (b : Bool)
  | all (conditions : List Condition)
  | any (conditions : List Condition)
  | not (condition : Condition)
  /-- The scratch text of a unit has a part. -/
  | has (unit : Nat) (part : String)
  | anyHas (part : String)
  | committedHas (unit : Nat) (part : String)
  | bytesAtLeast (unit bound : Nat)
  | bytesAtMost (unit bound : Nat)
  /-- A part occurs a number of times, no two of them overlapping. -/
  | countAtLeast (unit : Nat) (part : String) (bound : Nat)
  | allParse
  | units (count : Nat)
  | generationBelow (bound : Nat)
  | nodesAtLeast (bound : Nat)
  | workingPath (unit : Nat) (path : String)
  | hasDependents (unit index : Nat)
  | hasDependencies (unit index : Nat)
  /-- Each check has a letter, of which the last one stays; a `T` is a yes. -/
  | script (letters : String)

/-- The letter of a number, which the last letter keeps for all numbers behind it. -/
def letterAt? (letters : List Char) (n : Nat) : Option Char :=
  letters[min n (letters.length - 1)]?

namespace Condition

mutual

/-- Whether a condition holds of a candidate after `n` earlier checks. -/
def holds (n : Nat) (c : Candidate) : Condition → Bool
  | .always b => b
  | .all conditions => allHold n c conditions
  | .any conditions => anyHolds n c conditions
  | .not condition => !holds n c condition
  | .has unit part => (c.scratch? unit).any (hasPart part)
  | .anyHas part => c.texts.any (hasPart part)
  | .committedHas unit part => (c.committed? unit).any (hasPart part)
  | .bytesAtLeast unit bound => (c.scratch? unit).any fun t => bound ≤ t.utf8ByteSize
  | .bytesAtMost unit bound => (c.scratch? unit).any fun t => t.utf8ByteSize ≤ bound
  | .countAtLeast unit part bound =>
      (c.scratch? unit).any fun t => bound ≤ occurrences part.toList 0 t.toList
  | .allParse => c.allParse
  | .units count => c.copies.length == count
  | .generationBelow bound => c.forest.generation < bound
  | .nodesAtLeast bound => bound ≤ c.forest.nodeCount
  | .workingPath unit path => (c.path? unit).any (· == path)
  | .hasDependents unit index =>
      (c.forest.tree? unit).any fun t => !(c.language.dependents t index).isEmpty
  | .hasDependencies unit index =>
      (c.forest.tree? unit).any fun t => !(c.language.dependencies t index).isEmpty
  | .script letters => letterAt? letters.toList n == some 'T'

def allHold (n : Nat) (c : Candidate) : List Condition → Bool
  | [] => true
  | condition :: rest => holds n c condition && allHold n c rest

def anyHolds (n : Nat) (c : Candidate) : List Condition → Bool
  | [] => false
  | condition :: rest => holds n c condition || anyHolds n c rest

end

/-- A condition under a name. -/
def invariant (name : String) (condition : Condition) : Invariant Tally :=
  .ofPredicate name fun n c => condition.holds n c

end Condition

end SourceReducer
