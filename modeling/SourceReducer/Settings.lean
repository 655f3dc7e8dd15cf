import SourceReducer.Document.Value
import SourceReducer.Files.Operation

/-! Settings of a reduction and the files it works on. -/
namespace SourceReducer

structure Settings where
  /-- Every pass whose number this divides lays the texts out anew. -/
  cleanupInterval : Nat := 10
  /-- The number of passes after which the run ends. -/
  maxPasses : Option Nat := none
  /-- Milliseconds after which a check is given up. -/
  checkTimeout : Option Nat := none
  /-- What is added to the name of a working file while its new text waits beside it. -/
  stagingSuffix : String := "scm-staged"
  deriving DecidableEq

/-- An input, which is never changed, and the working file that its text is reduced in. -/
structure FileMapping where
  input : String
  output : String
  deriving DecidableEq

inductive SettingsFault
  | shortCleanupInterval (interval : Nat)
  | noPasses
  | noTime
  | noSuffix
  | outputIsInput (output input : String)
  | sharedOutput (output : String)
  deriving DecidableEq

def SettingsFault.message : SettingsFault → String
  | .shortCleanupInterval interval => s!"cleanup_interval must be at least 2, got {interval}"
  | .noPasses => "max_passes must be positive"
  | .noTime => "check_timeout_ms must be positive"
  | .noSuffix => "staging_suffix must not be empty"
  | .outputIsInput output input => s!"output {output} is the same file as input {input}"
  | .sharedOutput output => s!"output {output} is used by more than one file"

namespace Settings

/-- Refuses settings that no run can follow. -/
def validate (s : Settings) : Except SettingsFault Unit :=
  if s.cleanupInterval < 2 then .error (.shortCleanupInterval s.cleanupInterval)
  else if s.maxPasses = some 0 then .error .noPasses
  else if s.checkTimeout = some 0 then .error .noTime
  else if s.stagingSuffix.isEmpty then .error .noSuffix
  else .ok ()

/-- A time limit given in microseconds. Whole milliseconds count. -/
def withTimeoutMicros (s : Settings) (micros : Nat) : Settings :=
  { s with checkTimeout := some (micros / 1000 % Nat.pow 2 64) }

def fieldNames : List String :=
  ["cleanup_interval", "max_passes", "check_timeout_ms", "staging_suffix"]

def ofFields (fields : List (String × Value)) : Except Value.Mismatch Settings := do
  let defaults : Settings := {}
  return {
    cleanupInterval := ←
      Value.fieldOr fields "cleanup_interval" Value.readNat defaults.cleanupInterval
    maxPasses := ← Value.fieldOr fields "max_passes" (Value.readOption Value.readNat) none
    checkTimeout := ← Value.fieldOr fields "check_timeout_ms" (Value.readOption Value.readNat) none
    stagingSuffix := ← Value.fieldOr fields "staging_suffix" Value.readText defaults.stagingSuffix }

/-- Settings from a table; a field that is not there has its default. -/
def ofTable : Value.Reader Settings
  | .table fields => ofFields fields
  | _ => .error {}

def toValue (s : Settings) : Value :=
  .table [("cleanup_interval", .ofNat s.cleanupInterval),
    ("max_passes", .ofOption .ofNat s.maxPasses),
    ("check_timeout_ms", .ofOption .ofNat s.checkTimeout),
    ("staging_suffix", .text s.stagingSuffix)]

end Settings

namespace FileMapping

/-- Looks through mappings, where `earlier` stand before them and `all` are all of them. -/
def checkDistinctFrom (files : Files) (all earlier : List FileMapping) :
    List FileMapping → Except SettingsFault Unit
  | [] => .ok ()
  | m :: rest =>
      match all.find? fun other => files.sameFile other.input m.output with
      | some other => .error (.outputIsInput m.output other.input)
      | none =>
          if earlier.any fun other => files.sameFile other.output m.output then
            .error (.sharedOutput m.output)
          else checkDistinctFrom files all (earlier ++ [m]) rest

/-- Refuses mappings where an output is the same file as an input or as another output. -/
def checkDistinct (files : Files) (mappings : List FileMapping) : Except SettingsFault Unit :=
  checkDistinctFrom files mappings [] mappings

/-- A mapping written as its input and its output with a colon between them. -/
def parse? (text : String) : Option FileMapping :=
  match text.toList.span (· != ':') with
  | (input, ':' :: output) =>
      if input.isEmpty || output.isEmpty then none
      else some { input := String.ofList input, output := String.ofList output }
  | _ => none

/-- What is said about a text that is no mapping. -/
def refusal (text : String) : String :=
  s!"expected INPUT:OUTPUT, got '{text}'"

def toValue (m : FileMapping) : Value :=
  .table [("input", .text m.input), ("output", .text m.output)]

end FileMapping

end SourceReducer
