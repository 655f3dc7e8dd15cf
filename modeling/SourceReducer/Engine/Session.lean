import SourceReducer.Invariant.Basic
import SourceReducer.Report.Stats
import SourceReducer.Strategy.Basic

/-! Sessions: all units as one transaction. A change is tried on the scratch texts of all units at
once. It is made only if the invariant holds of them and each of them parses; the texts are then
staged side by side and promoted together. -/
namespace SourceReducer

/-- What happened in a session. -/
inductive Event
  /-- The invariant was prepared. -/
  | prepared (units nodes : Nat)
  /-- The invariant was checked on these scratch texts. There is no verdict if the check failed. -/
  | checked (verdict : Option Verdict) (texts : List String)
  /-- A strategy made a request; then the forest had this generation and this many nodes. -/
  | requested (request : Request) (outcome : Except Failure Control) (generation nodes : Nat)
  /-- A pass of the strategy ended. -/
  | passed (control : Control)

/-- What does not change while a session lasts. -/
structure Engine (σ : Type) where
  language : Language
  invariant : Invariant σ
  /-- Milliseconds after which a check is given up. -/
  limit : Option Nat := none

structure Session (σ : Type) where
  copies : List WorkingCopy
  /-- The trees of the committed texts. -/
  forest : Forest
  stats : Stats := {}
  files : Files
  /-- The state of the invariant. -/
  state : σ
  /-- What happened, the newest first. -/
  journal : List Event := []

/-- What an operation ends with, and the session after it. -/
abbrev Outcome (σ α : Type) := Except Failure α × Session σ

namespace Session

variable {σ : Type}

def metrics (s : Session σ) : Metrics :=
  { bytes := (s.copies.map WorkingCopy.size).foldr (· + ·) 0, nodes := s.forest.nodeCount }

def note (s : Session σ) (event : Event) : Session σ :=
  { s with journal := event :: s.journal }

/-- What happened, the oldest first. -/
def events (s : Session σ) : List Event :=
  s.journal.reverse

def texts (s : Session σ) : List String :=
  s.copies.map WorkingCopy.scratch

/-- Gives all trials up. -/
def rollback (s : Session σ) : Session σ :=
  { s with copies := s.copies.map WorkingCopy.rollback }

/-- Takes the trees of the working copies as the forest of the next generation. -/
def replaceForest (s : Session σ) : Session σ :=
  { s with forest :=
      { generation := s.forest.generation + 1, trees := s.copies.map WorkingCopy.tree } }

/-- Counts a refusal and answers with it. -/
def reject (s : Session σ) (reason : Rejection) : Outcome σ Control :=
  (.ok (.failed reason), { s with stats := s.stats.recordRejection reason })

end Session

/-- Removes staged files. -/
def discardAll : List Staged → Files → Files
  | [], files => files
  | staged :: rest, files => discardAll rest (staged.discard files)

/-- Goes on with `next` after a text was staged. If it could not be, which leaves `files`, the
`earlier` ones are removed. -/
def orDiscard (earlier : List Staged) (files : Files)
    (next : Staged → Files → Except Failure (List Staged) × Files) :
    Except Failure (Staged × Files) → Except Failure (List Staged) × Files
  | .error failure => (.error failure, discardAll earlier files)
  | .ok (staged, written) => next staged written

/-- Stages working copies, after `earlier` ones were staged. If one cannot be staged, those are
removed, but not what it left itself. -/
def stageFrom (earlier : List Staged) :
    List WorkingCopy → Files → Except Failure (List Staged) × Files
  | [], files => (.ok earlier, files)
  | copy :: rest, files =>
      orDiscard earlier (copy.unstaged files)
        (fun staged written => stageFrom (earlier ++ [staged]) rest written) (copy.stage files)

def stageAll (copies : List WorkingCopy) (files : Files) : Except Failure (List Staged) × Files :=
  stageFrom [] copies files

/-- Promotes working copies in turn, each with its staged text and its new tree. The first that
fails ends it, and those after it stay as they are. -/
def promoteAll : List WorkingCopy → List Staged → List (Option Tree) → Files →
    Except Failure Unit × List WorkingCopy × Files
  | copy :: copies, staged :: rest, tree? :: trees, files =>
      match copy.promote files staged tree? with
      | .error failure => (.error failure, copy :: copies, staged.unmoved files)
      | .ok (promoted, renamed) =>
          let (outcome, others, final) := promoteAll copies rest trees renamed
          (outcome, promoted :: others, final)
  | copies, _, _, files => (.ok (), copies, files)

/-- The trees of all scratch texts, or the first unit that does not parse. -/
def parseAll (language : Language) : List WorkingCopy → Except Rejection (List Tree)
  | [] => .ok []
  | copy :: rest =>
      match copy.parseScratch language with
      | .error error => .error (.unparseable copy.unit error)
      | .ok tree => (parseAll language rest).map (tree :: ·)

namespace Engine

variable {σ τ : Type}

def candidate (e : Engine σ) (s : Session σ) : Candidate :=
  { language := e.language, copies := s.copies, forest := s.forest }

/-- Checks the invariant on the scratch texts. -/
def check (e : Engine σ) (s : Session σ) : Outcome σ Verdict :=
  let result := e.invariant.check e.limit (e.candidate s) s.state s.files
  let checked :=
    { s with
      stats := { s.stats with checks := s.stats.checks + 1 }
      state := result.state
      files := result.files }
  (result.verdict, checked.note (.checked result.verdict.toOption s.texts))

/-- Makes the scratch texts of all units the committed ones and counts that. -/
def install (s : Session σ) (trees : List (Option Tree)) : Outcome σ Unit :=
  match stageAll s.copies s.files with
  | (.error failure, files) => (.error failure, { s with files })
  | (.ok staged, written) =>
      match promoteAll s.copies staged trees written with
      | (.error failure, copies, files) => (.error failure, { s with copies, files })
      | (.ok _, copies, files) =>
          let installed := { s with copies, files }.replaceForest
          (.ok (), { installed with
            stats := { installed.stats with commits := installed.stats.commits + 1 } })

/-- Commits the scratch texts if the invariant holds of them and all of them parse. -/
def attemptCommit (e : Engine σ) (s : Session σ) : Outcome σ Control :=
  match e.check s with
  | (.error failure, checked) => (.error failure, checked)
  | (.ok .timedOut, checked) => checked.reject .timedOut
  | (.ok .refused, checked) => checked.reject .unsatisfied
  | (.ok .holds, checked) =>
      match parseAll e.language checked.copies with
      | .error reason => checked.reject reason
      | .ok trees =>
          match install checked (trees.map some) with
          | (.error failure, failed) => (.error failure, failed)
          | (.ok _, installed) => (.ok .proceed, installed)

/-- Tries to lay all texts out anew. -/
def cleanup (e : Engine σ) (s : Session σ) : Outcome σ Control :=
  let fresh := s.rollback
  e.attemptCommit { fresh with copies := fresh.copies.map (WorkingCopy.reformat e.language) }

/-- Counts the references that do not belong to the forest. -/
def countUnknown (s : Session σ) (nodes : RefSet) : Session σ :=
  let unknown := (s.forest.partition nodes).unknown.length
  { s with stats := { s.stats with unknownRefs := s.stats.unknownRefs + unknown } }

/-- Tries to remove nodes. References that do not belong to the forest are passed over. -/
def tryRemove (e : Engine σ) (nodes : RefSet) (s : Session σ) : Outcome σ Control :=
  let fresh := countUnknown s.rollback nodes
  let partition := s.forest.partition nodes
  if partition.matched = 0 then (.ok (.failed .nothingToRemove), fresh)
  else
    e.attemptCommit
      { fresh with
        copies := fresh.copies.zipWith
          (fun copy indices => if indices.isEmpty then copy else copy.excise e.language indices)
          partition.perUnit }

/-- Removes nodes without any check. A text that does not parse keeps its old tree. -/
def forceRemove (e : Engine σ) (nodes : RefSet) (s : Session σ) : Outcome σ Control :=
  let fresh := countUnknown s.rollback nodes
  let cut := { fresh with
    copies := fresh.copies.zipWith (fun copy indices => copy.excise e.language indices)
      (s.forest.partition nodes).perUnit }
  let trees := cut.copies.map fun copy => (copy.parseScratch e.language).toOption
  match install cut trees with
  | (.error failure, failed) => (.error failure, failed)
  | (.ok _, installed) =>
      (.ok .stop, { installed with stats := { installed.stats with forcedExit := true } })

/-- Tries one unit without its blank lines. -/
def stripUnit (e : Engine σ) (unit : Nat) (s : Session σ) : Outcome σ Control :=
  let fresh := s.rollback
  e.attemptCommit { fresh with copies := fresh.copies.modify unit (WorkingCopy.strip e.language) }

def perform (e : Engine σ) (request : Request) (s : Session σ) : Outcome σ Control :=
  match request with
  | .remove nodes => e.tryRemove nodes s
  | .force nodes => e.forceRemove nodes s
  | .cleanup => e.cleanup s

/-- Holds a dialogue of a strategy with a session. -/
def converse (e : Engine σ) : Dialogue τ → Session σ → Except Failure Control × τ × Session σ
  | .done outcome state, s => (outcome, state, s)
  | .touch change next, s => converse e next { s with files := change s.files }
  | .ask request next, s =>
      let (outcome, after) := e.perform request s
      converse e (next { outcome, forest := after.forest })
        (after.note (.requested request outcome after.forest.generation after.forest.nodeCount))

end Engine

end SourceReducer
