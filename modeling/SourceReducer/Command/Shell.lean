import SourceReducer.Command.Shell.Evaluate

/-! Running programs on a store of files: the shell and the small programs. -/
namespace SourceReducer.Shell

/-- The number of the process that is started. -/
def firstProcess : Nat := 4242

/-- The directories that are searched for programs when nothing else is said. -/
def firstPath : String :=
  "/usr/local/sbin:/usr/local/bin:/usr/sbin:/usr/bin:/sbin:/bin"

/-- What a program finds when it is started: nothing to read, and two channels to print on. -/
def initial (files : Files) : Shell :=
  { files
    streams := #[.nothing, .kept [], .kept []]
    channels := [(0, 0), (1, 1), (2, 2)]
    bindings := [("HOME", "/root"), ("PATH", firstPath)].map fun (name, value) =>
      (name, { value := some value, isExported := true })
    number := firstProcess
    process := firstProcess
    nextProcess := firstProcess + 1 }

/-- Looks for a program to start. -/
def findProgram (files : Files) (program : String) : Except FileFault Evaluate.Program :=
  if program.contains '/' then
    match Evaluate.programAt? program with
    | some found => .ok found
    | none =>
        match files.find program with
        | .ok (.file ..) | .ok (.directory _) => .error .permissionDenied
        | .ok _ => .error .notFound
        | .error fault => .error fault
  else if nameLimit < program.utf8ByteSize then .error .nameTooLong
  else
    match Evaluate.program? program with
    | some found => .ok found
    | none => .error (if program == "." || program == ".." then .permissionDenied else .notFound)

/-- What a process leaves that ended at a time. -/
def finished (s : Shell) (ending : Ending) : Finished :=
  { code := match ending with
      | .exited code => some code
      | .signalled _ => none
    out := ByteText.toBytes (s.printed 1)
    err := ByteText.toBytes (s.printed 2)
    elapsed := s.clock
    closed := max s.clock (Act.closedAt s.writers) }

/-- Runs a program by its name. Only the shell and the small programs are there; any other file is
not one that may be run. -/
def runner : Runner := fun files program args =>
  if (program :: args).any (·.contains '\x00') then .error .nulInArgument
  else do
    let found ← findProgram files program
    let name := ByteText.ofText program
    let texts := args.map ByteText.ofText
    let run := Evaluate.eval Evaluate.maxDepth
    let act := match found with
      | .shell => Evaluate.runShell run name texts
      | .tool tool => Evaluate.runTool tool name texts
    let (s, ending) := match Act.finishShell run act (initial files) with
      | .ok ending s => (s, ending)
      | .error _ s => ({ s with clock := endOfTime }, .signalled 9)
    return (s.finished ending, { s.files with here := files.here })

end SourceReducer.Shell
