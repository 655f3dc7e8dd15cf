import SourceReducer.Failure
import SourceReducer.Files.Risk
import SourceReducer.Forest
import SourceReducer.Language
import SourceReducer.Text.Quoted

/-! The working copy of one unit. It holds the committed text, which is what its file holds, and a
scratch text, which is the committed one or a trial made from it. The file is replaced in two steps:
the scratch text is staged in a file beside the working file, and the staged file is then renamed
over it. Each of the two may fail. -/
namespace SourceReducer

structure WorkingCopy where
  unit : Nat
  /-- The working file. -/
  path : String
  /-- What is added to the name of the working file to name the staged one. -/
  suffix : String
  committed : String
  /-- The tree of the committed text. -/
  tree : Tree
  /-- The text that is tried. -/
  scratch : String
  /-- Whether the scratch text is to replace the committed one. -/
  onTrial : Bool := false
  settled : onTrial = false → scratch = committed

/-- A text staged beside the working file that it is to replace. -/
structure Staged where
  path : String
  target : String
  deriving DecidableEq

/-- Removes a staged file. That it is gone already or cannot be removed is no fault. -/
def Staged.discard (staged : Staged) (files : Files) : Files :=
  (files.riskRemove staged.path).2

/-- The files after a staged file could not be renamed. -/
def Staged.unmoved (staged : Staged) (files : Files) : Files :=
  (files.riskRename staged.path staged.target).2

namespace WorkingCopy

/-- A working copy without a trial. -/
def clean (unit : Nat) (path suffix committed : String) (tree : Tree) : WorkingCopy :=
  { unit, path, suffix, committed, tree, scratch := committed, settled := fun _ => rfl }

/-- Takes what the working file holds as the committed text. It has to parse. -/
def load (language : Language) (files : Files) (unit : Nat) (path suffix : String) :
    Except Failure WorkingCopy :=
  match files.readText path with
  | .error fault => .error (.file path fault)
  | .ok committed =>
      match language.parse committed with
      | .error error => .error (.unreadable path error)
      | .ok tree => .ok (clean unit path suffix committed tree)

/-- The number of bytes of the committed text. -/
def size (c : WorkingCopy) : Nat :=
  c.committed.utf8ByteSize

/-- The name of the working file, which files made for other programs have as well. -/
def fileName (c : WorkingCopy) : String :=
  (Path.fileName? c.path).getD s!"{showUnit c.unit}.txt"

def stagedPath (c : WorkingCopy) : String :=
  Path.withFileName c.path s!"{c.fileName}.{c.suffix}"

/-- Tries a text instead of the committed one. -/
def trying (c : WorkingCopy) (text : String) : WorkingCopy :=
  { c with scratch := text, onTrial := true, settled := by simp }

/-- Tries the committed text without some nodes. -/
def excise (language : Language) (indices : List Nat) (c : WorkingCopy) : WorkingCopy :=
  c.trying (language.excise c.committed c.tree indices)

/-- Tries the committed text laid out anew. -/
def reformat (language : Language) (c : WorkingCopy) : WorkingCopy :=
  c.trying (language.reformat c.committed)

/-- Tries the committed text without blank lines. -/
def strip (language : Language) (c : WorkingCopy) : WorkingCopy :=
  c.trying (language.stripBlank c.committed)

/-- Gives the trial up. -/
def rollback (c : WorkingCopy) : WorkingCopy :=
  if c.onTrial then { c with scratch := c.committed, onTrial := false, settled := fun _ => rfl }
  else c

def parseScratch (language : Language) (c : WorkingCopy) : Except ParseError Tree :=
  language.parse c.scratch

def scratchParses (language : Language) (c : WorkingCopy) : Bool :=
  (c.parseScratch language).isOk

/-- Writes the scratch text beside the working file. -/
def stage (files : Files) (c : WorkingCopy) : Except Failure (Staged × Files) :=
  match files.riskWrite c.stagedPath (.text c.scratch) with
  | (.error fault, _) => .error (.file c.stagedPath fault)
  | (.ok _, written) => .ok ({ path := c.stagedPath, target := c.path }, written)

/-- The files after the scratch text could not be staged. -/
def unstaged (files : Files) (c : WorkingCopy) : Files :=
  (files.riskWrite c.stagedPath (.text c.scratch)).2

/-- Makes the scratch text the committed one. Without a new tree the old one stays. -/
def promoted (c : WorkingCopy) (tree? : Option Tree) : WorkingCopy :=
  { c with
    committed := c.scratch, onTrial := false, settled := fun _ => rfl, tree := tree?.getD c.tree }

/-- Renames a staged file over its target. Its text is the committed one from then on. -/
def promote (files : Files) (staged : Staged) (tree? : Option Tree) (c : WorkingCopy) :
    Except Failure (WorkingCopy × Files) :=
  match files.riskRename staged.path staged.target with
  | (.error fault, _) => .error (.file staged.target fault)
  | (.ok _, renamed) => .ok (c.promoted tree?, renamed)

/-- Stages and promotes. The staged file of a promotion that fails stays where it is. -/
def commit (files : Files) (tree : Tree) (c : WorkingCopy) : Except Failure WorkingCopy × Files :=
  match c.stage files with
  | .error failure => (.error failure, c.unstaged files)
  | .ok (staged, written) =>
      match c.promote written staged (some tree) with
      | .error failure => (.error failure, staged.unmoved written)
      | .ok (promoted, renamed) => (.ok promoted, renamed)

/-- Writes the scratch text to a file for another program. -/
def materialize (files : Files) (path : String) (c : WorkingCopy) : Except Failure Files :=
  match files.write path (.text c.scratch) with
  | .error fault => .error (.file path fault)
  | .ok written => .ok written

def describe (language : Language) (c : WorkingCopy) : String :=
  let state := if c.onTrial then "Trial" else "Clean"
  let path := quote c.path
  let name := quote language.name
  s!"Cutter \x7b unit: UnitId({c.unit}), working: {path}, language: {name}, " ++
    s!"committed_bytes: {c.size}, state: {state} \x7d"

end WorkingCopy

end SourceReducer
