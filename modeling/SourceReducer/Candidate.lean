import SourceReducer.WorkingCopy

/-! Candidates: what an invariant sees of the texts that are tried. -/
namespace SourceReducer

structure Candidate where
  language : Language
  copies : List WorkingCopy
  /-- The forest of the committed texts. -/
  forest : Forest

namespace Candidate

def texts (c : Candidate) : List String :=
  c.copies.map WorkingCopy.scratch

def scratch? (c : Candidate) (unit : Nat) : Option String :=
  c.copies[unit]?.map WorkingCopy.scratch

def committed? (c : Candidate) (unit : Nat) : Option String :=
  c.copies[unit]?.map WorkingCopy.committed

def path? (c : Candidate) (unit : Nat) : Option String :=
  c.copies[unit]?.map WorkingCopy.path

/-- Whether every scratch text parses. -/
def allParse (c : Candidate) : Bool :=
  c.copies.all (WorkingCopy.scratchParses c.language)

/-- Finds the path for a scratch text in a directory where `used` are the names that stand in it. A
name that is used goes into a directory of its unit, which is made. -/
def place (dir : String) (used : List String) (copy : WorkingCopy) (files : Files) :
    Except Failure (String × Files) :=
  if copy.fileName ∈ used then
    let below := Path.join dir (showUnit copy.unit)
    match files.makeDirectories below with
    | .error fault => .error (.file below fault)
    | .ok made => .ok (Path.join below copy.fileName, made)
  else .ok (Path.join dir copy.fileName, files)

/-- Writes scratch texts into a directory where `used` are the names that stand in it. -/
def materializeFrom (dir : String) :
    List String → List WorkingCopy → Files → Except Failure (List String) × Files
  | _, [], files => (.ok [], files)
  | used, copy :: rest, files =>
      match place dir used copy files with
      | .error failure => (.error failure, files)
      | .ok (path, made) =>
          match copy.materialize made path with
          | .error failure => (.error failure, made)
          | .ok written =>
              match materializeFrom dir (copy.fileName :: used) rest written with
              | (.ok paths, files) => (.ok (path :: paths), files)
              | (.error failure, files) => (.error failure, files)

/-- Writes every scratch text into a directory under the name of its working file. The paths come in
the order of the units. -/
def materialize (c : Candidate) (dir : String) (files : Files) :
    Except Failure (List String) × Files :=
  materializeFrom dir [] c.copies files

end Candidate

end SourceReducer
