import SourceReducer.Document.Toml.Reader
import SourceReducer.Invariant.Process
import SourceReducer.Settings

/-! What a command line and a settings file say: which files to reduce, how, and under which
invariant. -/
namespace SourceReducer

inductive StrategyKind
  | greedy
  | ddmin
  deriving DecidableEq

inductive InvariantKind
  | parseable
  | exitCode
  | outputMatches
  deriving DecidableEq

structure InvariantConfig where
  kind : InvariantKind := .parseable
  command : Option String := none
  args : List String := []
  exitCode : Int := 0
  pattern : Option String := none
  timeoutSecs : Option Nat := none
  deriving DecidableEq

structure LoggingConfig where
  level : String := "info"
  format : String := "pretty"
  deriving DecidableEq

structure Config where
  settings : Settings := {}
  files : List FileMapping := []
  strategy : StrategyKind := .ddmin
  invariant : InvariantConfig := {}
  logging : LoggingConfig := {}
  deriving DecidableEq

namespace StrategyKind

def name : StrategyKind → String
  | .greedy => "greedy"
  | .ddmin => "ddmin"

def ofName? : String → Option StrategyKind
  | "greedy" => some .greedy
  | "ddmin" => some .ddmin
  | _ => none

end StrategyKind

namespace InvariantKind

def name : InvariantKind → String
  | .parseable => "parseable"
  | .exitCode => "exit-code"
  | .outputMatches => "output-matches"

def ofName? : String → Option InvariantKind
  | "parseable" => some .parseable
  | "exit-code" => some .exitCode
  | "output-matches" => some .outputMatches
  | _ => none

/-- The name under which a missing command is reported. -/
def label : InvariantKind → String
  | .parseable => "Parseable"
  | .exitCode => "ExitCode"
  | .outputMatches => "OutputMatches"

end InvariantKind

/-- Why a configuration cannot be followed. -/
inductive ConfigFault
  | logLevel (level : String)
  | logFormat (format : String)
  | settings (fault : SettingsFault)
  | noFiles
  | missingInput (path : String)
  | noCommand (kind : InvariantKind)
  | noPattern
  | badPattern (text : String) (fault : Pattern.Fault)
  | noTime

namespace ConfigFault

def message : ConfigFault → String
  | .logLevel level => s!"Invalid log level: {level}"
  | .logFormat format => s!"Invalid log format: {format}"
  | .settings fault => (Failure.settings fault).message
  | .noFiles => "No input files given"
  | .missingInput path => s!"Input file not found: {path}"
  | .noCommand kind => s!"Invariant '{kind.label}' requires a command"
  | .noPattern => "Invariant 'output-matches' requires a pattern"
  | .badPattern text _ => s!"Invalid output pattern: {text}"
  | .noTime => "Invariant timeout must be positive"

/-- What is said about a fault, and about its cause where there is one. -/
def chain (f : ConfigFault) : List String :=
  match f with
  | .badPattern _ cause => [f.message, cause.message]
  | _ => [f.message]

end ConfigFault

namespace InvariantConfig

def requireCommand (c : InvariantConfig) : Except ConfigFault String :=
  match c.command with
  | some command => .ok command
  | none => .error (.noCommand c.kind)

/-- When the command says that the property holds. There is no command where texts only have to
parse. -/
def acceptance? (c : InvariantConfig) : Except ConfigFault (Option Acceptance) :=
  match c.kind with
  | .parseable => .ok none
  | .exitCode => .ok (some (.exitCode c.exitCode))
  | .outputMatches =>
      match c.pattern with
      | none => .error .noPattern
      | some text =>
          match Pattern.ofString text with
          | .error fault => .error (.badPattern text fault)
          | .ok pattern => .ok (some (.outputMatches pattern))

/-- The command that decides the invariant, if one does. -/
def build (c : InvariantConfig) : Except ConfigFault (Option CommandCheck) :=
  match c.acceptance? with
  | .error fault => .error fault
  | .ok none => .ok none
  | .ok (some acceptance) =>
      match c.requireCommand with
      | .error fault => .error fault
      | .ok program =>
          .ok (some {
            program, args := c.args, acceptance, timeout := c.timeoutSecs.map (· * 1000) })

/-- The name of the invariant that is built. -/
def builtName : Option CommandCheck → String
  | none => "parseable"
  | some _ => "process"

end InvariantConfig

namespace Config

def levels : List String := ["trace", "debug", "info", "warn", "error"]

def formats : List String := ["pretty", "json", "compact"]

def lowercase (s : String) : String :=
  String.ofList (s.toList.map Char.toLower)

/-- Refuses invariants that no run can check. -/
def checkInvariant (c : InvariantConfig) : Except ConfigFault Unit := do
  if c.kind ≠ .parseable then
    let _ ← c.requireCommand
  let _ ← c.acceptance?
  if c.timeoutSecs = some 0 then throw .noTime

/-- Refuses configurations that no run can follow. The first fault counts: log, settings, files,
invariant. -/
def validate (c : Config) (files : Files) : Except ConfigFault Unit := do
  if lowercase c.logging.level ∉ levels then throw (.logLevel c.logging.level)
  if lowercase c.logging.format ∉ formats then throw (.logFormat c.logging.format)
  c.settings.validate.mapError .settings
  if c.files.isEmpty then throw .noFiles
  match c.files.find? fun m => !files.pathExists m.input with
  | some m => throw (.missingInput m.input)
  | none => pure ()
  (FileMapping.checkDistinct files c.files).mapError .settings
  checkInvariant c.invariant

/-- One of several names, or a table with one name and nothing in it. -/
def readNamed {α : Type} (ofName? : String → Option α) : Value.Reader α
  | .text name | .table [(name, .table [])] | .table [(name, .list [])] =>
      (ofName? name).elim (.error {}) .ok
  | _ => .error {}

def readMapping : Value.Reader FileMapping := fun v => do
  let fields ← Value.readFields false ["input", "output"] v
  return { input := ← Value.field fields "input" Value.readText
           output := ← Value.field fields "output" Value.readText }

def readSettings : Value.Reader Settings := fun v => do
  Settings.ofFields (← Value.readFields false Settings.fieldNames v)

def readStrategy : Value.Reader StrategyKind := fun v => do
  let fields ← Value.readFields false ["kind"] v
  Value.fieldOr fields "kind" (readNamed StrategyKind.ofName?) .ddmin

def readInvariant : Value.Reader InvariantConfig := fun v => do
  let fields ← Value.readFields false
    ["kind", "command", "args", "exit_code", "pattern", "timeout_secs"] v
  return {
    kind := ← Value.fieldOr fields "kind" (readNamed InvariantKind.ofName?) .parseable
    command := ← Value.fieldOr fields "command" (Value.readOption Value.readText) none
    args := ← Value.fieldOr fields "args" (Value.readList Value.readText) []
    exitCode :=
      ← Value.fieldOr fields "exit_code" (Value.readInt (-Int.pow 2 31) (Int.pow 2 31 - 1)) 0
    pattern := ← Value.fieldOr fields "pattern" (Value.readOption Value.readText) none
    timeoutSecs := ← Value.fieldOr fields "timeout_secs" (Value.readOption Value.readNat) none }

def readLogging : Value.Reader LoggingConfig := fun v => do
  let fields ← Value.readFields false ["level", "format"] v
  let defaults : LoggingConfig := {}
  return { level := ← Value.fieldOr fields "level" Value.readText defaults.level
           format := ← Value.fieldOr fields "format" Value.readText defaults.format }

/-- A configuration from a table; what is not there has its default. -/
def ofValue : Value.Reader Config := fun v => do
  let fields ← Value.readFields false
    ["minimizer", "files", "strategy", "invariant", "logging"] v
  return {
    settings := ← Value.fieldOr fields "minimizer" readSettings {}
    files := ← Value.fieldOr fields "files" (Value.readList readMapping) []
    strategy := ← Value.fieldOr fields "strategy" readStrategy .ddmin
    invariant := ← Value.fieldOr fields "invariant" readInvariant {}
    logging := ← Value.fieldOr fields "logging" readLogging {} }

/-- Why a settings file cannot be used. -/
inductive LoadFault
  | file (fault : FileFault)
  | notToml

def LoadFault.message : LoadFault → String
  | .file fault => fault.message
  | .notToml => "TOML parse error"

/-- The configuration that a settings file holds. -/
def load (files : Files) (path : String) : Except LoadFault Config :=
  match files.readText path with
  | .error fault => .error (.file fault)
  | .ok text =>
      match Toml.parse? text with
      | none => .error .notToml
      | some v =>
          match ofValue v with
          | .error _ => .error .notToml
          | .ok config => .ok config

def invariantToValue (c : InvariantConfig) : Value :=
  .table [("kind", .text c.kind.name), ("command", .ofOption .text c.command),
    ("args", .list (c.args.map .text)), ("exit_code", .int c.exitCode),
    ("pattern", .ofOption .text c.pattern), ("timeout_secs", .ofOption .ofNat c.timeoutSecs)]

def toValue (c : Config) : Value :=
  .table [("minimizer", c.settings.toValue), ("files", .list (c.files.map FileMapping.toValue)),
    ("strategy", .table [("kind", .text c.strategy.name)]),
    ("invariant", invariantToValue c.invariant),
    ("logging", .table [("level", .text c.logging.level), ("format", .text c.logging.format)])]

/-- The text of a settings file that gives every field its default. -/
def defaultText : String :=
  let c : Config := {}
  let titled := fun name lines => s!"\n[{name}]\n" ++ String.join (lines.map (· ++ "\n"))
  "files = []\n" ++
    titled "minimizer"
      [s!"cleanup_interval = {c.settings.cleanupInterval}",
        s!"staging_suffix = \"{c.settings.stagingSuffix}\""] ++
    titled "strategy" [s!"kind = \"{c.strategy.name}\""] ++
    titled "invariant"
      [s!"kind = \"{c.invariant.kind.name}\"", "args = []",
        s!"exit_code = {c.invariant.exitCode}"] ++
    titled "logging"
      [s!"level = \"{c.logging.level}\"", s!"format = \"{c.logging.format}\""]

end Config

end SourceReducer
