import SourceReducer.CommandLine.Execute

/-! The program: it takes the files that its arguments name into a store, runs there, and writes the
working files back. -/
namespace SourceReducer.Program

/-- Takes a file into the store under the path that it has outside. One that cannot be read is left
out. -/
def take (files : Files) (path : String) : IO Files := do
  try
    let bytes ← IO.FS.readBinFile path
    let around := (Path.parent? path).getD ""
    let made := (files.makeDirectories around).toOption.getD files
    return (made.write path (.ofBytes bytes.data.toList)).toOption.getD files
  catch _ => return files

/-- Writes a file of the store to the path that it has outside. -/
def release (files : Files) (path : String) : IO Unit := do
  match files.read path with
  | .ok content => IO.FS.writeBinFile path ⟨content.bytes.toArray⟩
  | .error _ => return

/-- The mappings that arguments and their settings file name. -/
def mappingsOf (a : Arguments) (files : Files) : List FileMapping :=
  match a.configure files with
  | .ok config => config.files
  | .error _ => []

def complain : List String → IO Unit
  | [] => return
  | message :: causes => do
      IO.eprintln s!"Error: {message}"
      unless causes.isEmpty do
        IO.eprintln "\nCaused by:"
        for cause in causes do
          IO.eprintln s!"    {cause}"

def run (args : List String) : IO UInt32 := do
  let started ← IO.monoNanosNow
  let parsed := (Arguments.parse args).toOption.getD {}
  let withConfig ← match parsed.config with
    | some path => take Files.fresh path
    | none => pure Files.fresh
  let mappings := mappingsOf parsed withConfig
  let mut files := withConfig
  for mapping in mappings do
    files ← take files mapping.input
    files ← take files mapping.output
  let result ← pure (execute args Shell.runner CommandCheck.showMilliseconds files)
  for mapping in mappings do
    release result.files mapping.output
  let finished ← IO.monoNanosNow
  IO.print (result.out (showDuration (finished - started)))
  complain result.errors
  return result.code.toUInt32

end SourceReducer.Program

def main (args : List String) : IO UInt32 :=
  SourceReducer.Program.run args
