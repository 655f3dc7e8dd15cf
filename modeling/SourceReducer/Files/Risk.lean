import SourceReducer.Files.Operation

/-! Operations at risk. A disk may be full or a permission missing, so an operation that the store
allows may fail all the same. Such a write may have been opened before and leaves a part of the
text; a removal or a renaming that fails changes nothing. -/
namespace SourceReducer.Files

def withTrouble (files : Files) (trouble : Trouble) : Files :=
  { files with trouble }

/-- The store after an operation that has this outcome, unless it fails with a fault of its own. -/
def settle (files : Files) (fault? : Option FileFault) (outcome : Except FileFault Files) :
    Except FileFault Unit × Files :=
  match fault?, outcome with
  | none, .ok changed => (.ok (), changed)
  | none, .error fault => (.error fault, files)
  | some fault, _ => (.error fault, files)

/-- The store after a write that failed. -/
def leave (files : Files) (path : String) (mishap : Mishap) : Files :=
  match mishap.part with
  | none => files
  | some part => (files.settle none (files.write path part)).2

/-- The store with what becomes of the writes after the next one. -/
def afterWrite (files : Files) : Files :=
  files.withTrouble { files.trouble with writes := files.trouble.writes.tail }

def afterRemoval (files : Files) : Files :=
  files.withTrouble { files.trouble with removals := files.trouble.removals.tail }

def afterRename (files : Files) : Files :=
  files.withTrouble { files.trouble with renames := files.trouble.renames.tail }

def riskWrite (files : Files) (path : String) (content : Content) :
    Except FileFault Unit × Files :=
  match files.trouble.writes.head?.join with
  | none => files.afterWrite.settle none (files.afterWrite.write path content)
  | some mishap => (.error mishap.fault, files.afterWrite.leave path mishap)

def riskRemove (files : Files) (path : String) : Except FileFault Unit × Files :=
  files.afterRemoval.settle files.trouble.removals.head?.join (files.afterRemoval.remove path)

def riskRename (files : Files) (source target : String) : Except FileFault Unit × Files :=
  files.afterRename.settle files.trouble.renames.head?.join
    (files.afterRename.rename source target)

end SourceReducer.Files
