import SourceReducer.Files.Path
import SourceReducer.Files.Fault

/-! A store of files. Names lead to directories, symbolic links and files; two names that lead to
one file are hard links to it. Paths are followed from the current directory or the root, through
links, one name at a time. -/
namespace SourceReducer

/-- What a file holds: a text, or bytes that are not UTF-8. -/
inductive Content
  | text (s : String)
  | binary (bytes : List UInt8)
  deriving DecidableEq

/-- Bytes as a text where they are UTF-8. -/
def Content.ofBytes (bytes : List UInt8) : Content :=
  match String.fromUTF8? ⟨bytes.toArray⟩ with
  | some s => .text s
  | none => .binary bytes

def Content.bytes : Content → List UInt8
  | .text s => s.toUTF8.data.toList
  | .binary bytes => bytes

/-- The names from the root to a place, none of them a dot or two dots. -/
abbrev Location := List String

inductive Entry
  | directory
  | link (target : String)
  /-- The file with this number. -/
  | file (id : Nat)
  deriving DecidableEq

/-- What becomes of a write that fails though the store allows it. -/
structure Mishap where
  fault : FileFault
  /-- What the file holds if it was opened before the write broke off. -/
  part : Option Content := none
  deriving DecidableEq

/-- What becomes of the operations to come that the store allows: of each kind in turn, whether one
fails. Those behind the end of a list go well. -/
structure Trouble where
  writes : List (Option Mishap) := []
  removals : List (Option FileFault) := []
  renames : List (Option FileFault) := []
  deriving DecidableEq

structure Files where
  /-- What stands at each place, the oldest first. The root is a directory and is not listed. -/
  entries : List (Location × Entry)
  /-- What the files hold, by number. -/
  contents : Array Content
  /-- The current directory. -/
  here : Location
  trouble : Trouble := {}

/-- Where a path leads. -/
inductive Place
  | directory (loc : Location)
  | link (loc : Location) (target : String)
  | file (loc : Location) (id : Nat)
  /-- Nothing stands there, but the directory around it exists. -/
  | missing (around : Location) (name : String)
  deriving DecidableEq

/-- How many links are followed before a path is given up. -/
def linkLimit : Nat := 40

/-- How many bytes the name of an entry may have. -/
def nameLimit : Nat := 255

/-- How many bytes a path may have. -/
def pathLimit : Nat := 4095

namespace Files

def entry? (files : Files) (loc : Location) : Option Entry :=
  if loc.isEmpty then some .directory else files.entries.lookup loc

/-- The names to follow. A slash at the end asks for a directory, which a last dot says as well. -/
def stepsOf (path : String) : List String :=
  (Path.pieces path).filter (· != "") ++ if Path.endsInSlash path then ["."] else []

/-- The directory from which a path is followed, where `around` is the current one. -/
def startOf (around : Location) (path : String) : Location :=
  if Path.isAbsolute path then [] else around

/-- Follows names from a directory. `through` goes on behind a link that stands in a directory, has
a target and has names after it. The last name is followed through a link only if `follow` says
so. -/
def followNames (files : Files) (follow : Bool)
    (through : Location → String → List String → Except FileFault Place) (cur : Location) :
    List String → Except FileFault Place
  | [] => .ok (.directory cur)
  | name :: rest =>
      if name == "." then followNames files follow through cur rest
      else if name == ".." then followNames files follow through cur.dropLast rest
      else if nameLimit < name.utf8ByteSize then .error .nameTooLong
      else
        match files.entry? (cur ++ [name]) with
        | none => if rest.isEmpty then .ok (.missing cur name) else .error .notFound
        | some .directory => followNames files follow through (cur ++ [name]) rest
        | some (.file id) =>
            if rest.isEmpty then .ok (.file (cur ++ [name]) id) else .error .notDirectory
        | some (.link target) =>
            if rest.isEmpty && !follow then .ok (.link (cur ++ [name]) target)
            else through cur target rest

/-- Follows names, through at most `links` links. -/
def followLinks (files : Files) (follow : Bool) :
    Nat → Location → List String → Except FileFault Place
  | 0 => followNames files follow fun _ _ _ => .error .tooManyLinks
  | links + 1 => followNames files follow fun cur target rest =>
      if target.isEmpty then .error .notFound
      else followLinks files follow links (startOf cur target) (stepsOf target ++ rest)

/-- Where a path leads; the empty path leads nowhere. -/
def resolve (files : Files) (path : String) (follow : Bool) : Except FileFault Place :=
  if path.toList.contains '\x00' then .error .nulInName
  else if pathLimit < path.utf8ByteSize then .error .nameTooLong
  else if path.isEmpty then .error .notFound
  else followLinks files follow linkLimit (startOf files.here path) (stepsOf path)

/-- The file, directory or nothing at the end of a path and its links. -/
def find (files : Files) (path : String) : Except FileFault Place :=
  files.resolve path true

def put (files : Files) (loc : Location) (entry : Entry) : Files :=
  { files with entries := files.entries.filter (fun e => e.1 != loc) ++ [(loc, entry)] }

def drop (files : Files) (loc : Location) : Files :=
  { files with entries := files.entries.filter fun e => e.1 != loc }

/-- Removes a place and all below it. -/
def dropTree (files : Files) (loc : Location) : Files :=
  { files with entries := files.entries.filter fun e => !loc.isPrefixOf e.1 }

def setContent (files : Files) (id : Nat) (content : Content) : Files :=
  { files with contents := files.contents.setIfInBounds id content }

/-- Puts a new file at a place. -/
def create (files : Files) (loc : Location) (content : Content) : Files :=
  { files.put loc (.file files.contents.size) with contents := files.contents.push content }

/-- The store with nothing but an empty directory for temporary files and an empty current one. -/
def fresh : Files :=
  { entries := [(["tmp"], .directory), (["work"], .directory)], contents := #[], here := ["work"] }

end Files

end SourceReducer
