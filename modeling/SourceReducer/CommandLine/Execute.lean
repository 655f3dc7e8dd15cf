import SourceReducer.Command.Shell
import SourceReducer.CommandLine.Arguments
import SourceReducer.Engine.Run
import SourceReducer.Statement.Language
import SourceReducer.Strategy.Ddmin
import SourceReducer.Strategy.Greedy

/-! The command line as a function on files: its exit code, what it prints and what it leaves. -/
namespace SourceReducer

/-- Why a valid configuration comes to no report. -/
inductive RunFault
  | config (fault : ConfigFault)
  /-- The inputs could not be loaded. -/
  | load (failure : Failure)
  | run (failure : Failure)

def RunFault.chain : RunFault → List String
  | .config fault => fault.chain
  | .load failure => ["Failed to load input files", failure.message]
  | .run failure => ["Minimization failed", failure.message]

/-- Loads the files of a configuration and runs a strategy on them. -/
def Config.runWith {σ τ : Type} (c : Config) (invariant : Invariant σ) (strategy : Strategy τ)
    (files : Files) : Except RunFault Report × Files :=
  let e : Engine σ :=
    { language := Statement.language, invariant, limit := c.settings.checkTimeout }
  match e.load c.settings c.files files with
  | (.error failure, files) => (.error (.load failure), files)
  | (.ok session, files) =>
      match Run.start e strategy c.settings session with
      | none => (.error (.run (.strategy "passes without end")), files)
      | some (.error failure, r) => (.error (.run failure), r.session.files)
      | some (.ok report, r) => (.ok report, r.session.files)

/-- Runs the strategy of a configuration. -/
def Config.runStrategy {σ : Type} (c : Config) (invariant : Invariant σ) (files : Files) :
    Except RunFault Report × Files :=
  match c.strategy with
  | .greedy => c.runWith invariant Greedy.strategy files
  | .ddmin => c.runWith invariant Ddmin.strategy files

/-- Runs a configuration. Commands are run by `run`, and `showTime` shows their time. -/
def Config.execute (c : Config) (run : Runner) (showTime : Nat → String) (files : Files) :
    Except RunFault Report × Files :=
  match c.invariant.build with
  | .error fault => (.error (.config fault), files)
  | .ok none => c.runStrategy Invariant.parseable files
  | .ok (some check) => c.runStrategy (check.invariant run showTime) files

/-- What a run of the program comes to. -/
structure Exit where
  code : Nat
  /-- What is printed in front of the report. -/
  text : String := ""
  report : Option Report := none
  /-- The fault that ended it and, where there is one, its cause. -/
  errors : List String := []
  files : Files

/-- All that is printed; `time` is the text of the time that the run took. -/
def Exit.out (e : Exit) (time : String) : String :=
  e.text ++ (e.report.map fun r => r.render (some time)).getD ""

def versionText : String := "scm 0.1.0\n"

def helpText : String :=
  "Minimizes source files while an invariant keeps holding\n\n" ++
    "Usage: scm [OPTIONS]\n"

/-- What arguments come to that ask for no run. -/
def UsageFault.exit (fault : UsageFault) (files : Files) : Exit :=
  match fault with
  | .displayHelp => { code := 0, text := helpText, files }
  | .displayVersion => { code := 0, text := versionText, files }
  | _ => { code := 2, files }

/-- The configuration that arguments ask for, with the settings file that they name. -/
def Arguments.configure (a : Arguments) (files : Files) : Except Config.LoadFault Config :=
  match a.config with
  | none => .ok (a.mergeInto {})
  | some path => (Config.load files path).map a.mergeInto

/-- Runs the program on arguments that were read. -/
def Arguments.execute (a : Arguments) (run : Runner) (showTime : Nat → String) (files : Files) :
    Exit :=
  if a.printConfig then { code := 0, text := Config.defaultText ++ "\n", files }
  else
    match a.configure files with
    | .error fault =>
        let path := quote (a.config.getD "")
        { code := 1, errors := [s!"Failed to load config from {path}", fault.message], files }
    | .ok config =>
        match config.validate files with
        | .error fault =>
            { code := 1, errors := ["Invalid configuration", fault.message], files }
        | .ok _ =>
            match config.execute run showTime files with
            | (.error fault, files) => { code := 1, errors := fault.chain, files }
            | (.ok report, files) => { code := 0, report := some report, files }

/-- Runs the program on the arguments of its command line. -/
def execute (args : List String) (run : Runner) (showTime : Nat → String) (files : Files) : Exit :=
  match Arguments.parse args with
  | .error fault => fault.exit files
  | .ok a => a.execute run showTime files

end SourceReducer
