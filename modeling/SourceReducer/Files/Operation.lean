import SourceReducer.Files.Store

/-! Operations on a store of files: reading, writing, copying, renaming, removing and telling files
apart. An operation that is refused changes nothing. -/
namespace SourceReducer.Files

/-- What the file at the end of a path holds. -/
def read (files : Files) (path : String) : Except FileFault Content := do
  match ← files.find path with
  | .file _ id => return files.contents[id]?.getD (.text "")
  | .directory _ => throw .isDirectory
  | .link .. | .missing .. => throw .notFound

def readText (files : Files) (path : String) : Except FileFault String := do
  match ← files.read path with
  | .text s => return s
  | .binary _ => throw .notText

/-- A path without the slashes at its end; of a path of slashes one stays. -/
def dropSlashes (path : String) : String :=
  let kept := (path.toList.reverse.dropWhile (· == '/')).reverse
  if kept.isEmpty then path else String.ofList kept

/-- Makes the file at the end of a path hold something; a file that is not there is created, also at
the end of a link that leads to nothing. -/
def write (files : Files) (path : String) (content : Content) : Except FileFault Files := do
  if Path.endsInSlash path then
    let _ ← files.find (dropSlashes path)
    throw .isDirectory
  match ← files.find path with
  | .file _ id => return files.setContent id content
  | .missing around name => return files.create (around ++ [name]) content
  | .directory _ => throw .isDirectory
  | .link .. => throw .notFound

/-- Copies a file. The target is emptied before the source is read, so a file copied to itself ends
up empty. -/
def copy (files : Files) (source target : String) : Except FileFault Files := do
  match ← files.find source with
  | .file _ id =>
      let emptied ← files.write target (.text "")
      emptied.write target (emptied.contents[id]?.getD (.text ""))
  | .directory _ => throw .notRegular
  | .link .. | .missing .. => throw .notFound

/-- Whether a directory holds nothing. -/
def isEmptyDirectory (files : Files) (loc : Location) : Bool :=
  !files.entries.any fun e => loc.isPrefixOf e.1 && e.1 != loc

/-- Moves a place and all below it to another place. -/
def moveTree (files : Files) (source target : Location) : Files :=
  { files with entries := files.entries.map fun (loc, entry) =>
      if source.isPrefixOf loc then (target ++ loc.drop source.length, entry) else (loc, entry) }

/-- Gives what stands at one path another one. A link is moved, not followed, and what stood at the
target is replaced; a file does not replace a directory. Two names of one file stay as they are. -/
def rename (files : Files) (source target : String) : Except FileFault Files := do
  let moved ← files.resolve source false
  let goal ← files.resolve target false
  match moved, goal with
  | .missing .., _ => throw .notFound
  | .directory a, .missing around name => return files.moveTree a (around ++ [name])
  | .directory a, .directory b =>
      if a = b then return files
      else if files.isEmptyDirectory b then return (files.drop b).moveTree a b
      else throw .notEmpty
  | .directory _, _ => throw .notDirectory
  | _, .directory _ => throw .isDirectory
  | .file a id, .missing around name => return (files.drop a).put (around ++ [name]) (.file id)
  | .file a id, .file b other =>
      if id = other then return files else return (files.drop a).put b (.file id)
  | .file a id, .link b _ => return (files.drop a).put b (.file id)
  | .link a t, .missing around name => return (files.drop a).put (around ++ [name]) (.link t)
  | .link a t, .file b _ => return (files.drop a).put b (.link t)
  | .link a t, .link b _ => return (files.drop a).put b (.link t)

/-- Removes a file or a link. -/
def remove (files : Files) (path : String) : Except FileFault Files := do
  match ← files.resolve path false with
  | .file a _ | .link a _ => return files.drop a
  | .directory _ => throw .isDirectory
  | .missing .. => throw .notFound

/-- Removes a directory that holds nothing. -/
def removeDirectory (files : Files) (path : String) : Except FileFault Files := do
  match ← files.resolve path false with
  | .directory a => if files.isEmptyDirectory a then return files.drop a else throw .notEmpty
  | .file .. | .link .. => throw .notDirectory
  | .missing .. => throw .notFound

/-- Makes one directory. A slash at the end of its path changes nothing. -/
def makeDirectory (files : Files) (path : String) : Except FileFault Files := do
  match ← files.resolve (dropSlashes path) false with
  | .missing around name => return files.put (around ++ [name]) .directory
  | .directory _ | .file .. | .link .. => throw .alreadyExists

def isDirectory (files : Files) (path : String) : Bool :=
  match files.find path with
  | .ok (.directory _) => true
  | _ => false

/-- Makes a directory and those around it that are missing, `depth` of them at most. -/
def makeDirectoriesWithin (files : Files) : Nat → String → Except FileFault Files
  | 0, path => files.makeDirectory path
  | depth + 1, path =>
      if path.isEmpty then .ok files
      else
        match files.makeDirectory path with
        | .ok made => .ok made
        | .error .notFound =>
            match Path.parent? path with
            | none => .error .notFound
            | some above =>
                match makeDirectoriesWithin files depth above with
                | .error fault => .error fault
                | .ok made => made.makeDirectory path
        | .error fault => if files.isDirectory path then .ok files else .error fault

/-- Makes a directory and those around it that are missing. One that is there already is left. -/
def makeDirectories (files : Files) (path : String) : Except FileFault Files :=
  files.makeDirectoriesWithin (path.length + 1) path

/-- Makes a symbolic link. -/
def makeLink (files : Files) (path target : String) : Except FileFault Files := do
  match ← files.resolve path false with
  | .missing around name => return files.put (around ++ [name]) (.link target)
  | .directory _ | .file .. | .link .. => throw .alreadyExists

/-- Gives a file a second name. -/
def makeHardLink (files : Files) (existing path : String) : Except FileFault Files := do
  let source ← files.resolve existing false
  match ← files.resolve path false with
  | .missing around name =>
      match source with
      | .file _ id => return files.put (around ++ [name]) (.file id)
      | .link _ target => return files.put (around ++ [name]) (.link target)
      | .directory _ => throw .permissionDenied
      | .missing .. => throw .notFound
  | .directory _ | .file .. | .link .. => throw .alreadyExists

/-- Whether a path leads to something. -/
def pathExists (files : Files) (path : String) : Bool :=
  match files.find path with
  | .ok (.file ..) | .ok (.directory _) => true
  | _ => false

/-- The absolute path of a place. -/
def pathOf (loc : Location) : String :=
  "/" ++ "/".intercalate loc

/-- The absolute path, free of links, of what a path leads to. -/
def canonical? (files : Files) (path : String) : Option String :=
  match files.find path with
  | .ok (.file loc _) | .ok (.directory loc) => some (pathOf loc)
  | _ => none

/-- The absolute path that a path has or, while only its directory exists, would have. -/
def absolute (files : Files) (path : String) : String :=
  match files.canonical? path with
  | some resolved => resolved
  | none =>
      let above := match Path.parent? path with
        | some above => if above.isEmpty then "." else above
        | none => "."
      match files.canonical? above, Path.fileName? path with
      | some resolved, some name => Path.join resolved name
      | _, _ => path

/-- Whether two paths lead to one file: by identity where both lead to something, and by their
absolute paths otherwise. -/
def sameFile (files : Files) (a b : String) : Bool :=
  match files.find a, files.find b with
  | .ok (.file _ x), .ok (.file _ y) => x == y
  | .ok (.directory x), .ok (.directory y) => x == y
  | .ok (.file ..), .ok (.directory _) | .ok (.directory _), .ok (.file ..) => false
  | _, _ => Path.same (files.absolute a) (files.absolute b)

/-- All below the current directory, with paths relative to it. -/
def listing (files : Files) : List (String × Entry) :=
  files.entries.filterMap fun (loc, entry) =>
    if files.here.isPrefixOf loc && loc != files.here then
      some ("/".intercalate (loc.drop files.here.length), entry)
    else none

end SourceReducer.Files
