import SourceReducer.CommandLine.Config

/-! Reading the arguments of a command line. An argument that an option waits for is kept until the
next option or the end, and only then looked at; so of two faults the one that is met first
counts. -/
namespace SourceReducer

/-- Why arguments are refused, or what they ask for instead of a run. -/
inductive UsageFault
  | unknownArgument
  | invalidValue
  | valueValidation
  | argumentConflict
  | tooManyValues
  | displayHelp
  | displayVersion
  deriving DecidableEq

structure Arguments where
  config : Option String := none
  files : List FileMapping := []
  strategy : Option StrategyKind := none
  invariant : Option InvariantKind := none
  command : Option String := none
  args : List String := []
  exitCode : Option Int := none
  pattern : Option String := none
  timeoutSecs : Option Nat := none
  cleanupInterval : Option Nat := none
  maxPasses : Option Nat := none
  logLevel : Option String := none
  jsonLogs : Bool := false
  printConfig : Bool := false

/-- Options that a value follows. -/
inductive ValueOption
  | config
  | file
  | strategy
  | invariant
  | command
  | arg
  | exitCode
  | pattern
  | timeoutSecs
  | cleanupInterval
  | maxPasses
  | logLevel
  deriving DecidableEq

/-- Options that stand alone. -/
inductive FlagOption
  | jsonLogs
  | printConfig
  | help
  | version
  deriving DecidableEq

inductive KnownOption
  | value (option : ValueOption)
  | flag (option : FlagOption)
  deriving DecidableEq

namespace KnownOption

def ofLong? : String → Option KnownOption
  | "config" => some (.value .config)
  | "file" => some (.value .file)
  | "strategy" => some (.value .strategy)
  | "invariant" => some (.value .invariant)
  | "command" => some (.value .command)
  | "arg" => some (.value .arg)
  | "exit-code" => some (.value .exitCode)
  | "pattern" => some (.value .pattern)
  | "timeout-secs" => some (.value .timeoutSecs)
  | "cleanup-interval" => some (.value .cleanupInterval)
  | "max-passes" => some (.value .maxPasses)
  | "log-level" => some (.value .logLevel)
  | "json-logs" => some (.flag .jsonLogs)
  | "print-config" => some (.flag .printConfig)
  | "help" => some (.flag .help)
  | "version" => some (.flag .version)
  | _ => none

def ofShort? : Char → Option KnownOption
  | 'c' => some (.value .config)
  | 'f' => some (.value .file)
  | 'l' => some (.value .logLevel)
  | 'h' => some (.flag .help)
  | 'V' => some (.flag .version)
  | _ => none

end KnownOption

namespace Arguments

/-- A natural number of at most 64 bits, with or without a plus. -/
def natural? (text : String) : Option Nat :=
  let digits := match text.toList with
    | '+' :: digits => digits
    | digits => digits
  if digits.isEmpty || !digits.all Char.isDigit then none
  else
    let n := digits.foldl (fun n d => n * 10 + (d.toNat - 48)) 0
    if n < Nat.pow 2 64 then some n else none

/-- An integer of 32 bits. -/
def integer32? (text : String) : Option Int :=
  let i := match text.toList with
    | '-' :: digits =>
        if digits.head? = some '+' then none
        else (natural? (String.ofList digits)).map fun n => -(n : Int)
    | _ => (natural? text).map Int.ofNat
  i.filter fun i => -Int.pow 2 31 ≤ i && i < Int.pow 2 31

/-- Whether a text after a minus makes a number: digits, of which a dot and an exponent may follow
the first one. -/
def isNumber (cs : List Char) : Bool :=
  let rest := cs.dropWhile Char.isDigit
  let afterDot := match rest with
    | '.' :: more => if cs.head? = some '.' then rest else more.dropWhile Char.isDigit
    | _ => rest
  match afterDot with
  | [] => true
  | 'e' :: digits => cs.head? != some 'e' && !digits.isEmpty && digits.all Char.isDigit
  | _ => false

/-- A value, or a fault if there is none. -/
def orFault {α : Type} (fault : UsageFault) : Option α → Except UsageFault α
  | some a => .ok a
  | none => .error fault

/-- Sets an option that may come once. -/
def once {α : Type} (old : Option α) (read : Except UsageFault α) : Except UsageFault (Option α) :=
  if old.isSome then .error .argumentConflict else read.map some

/-- Takes the value of an option. -/
def setValue (a : Arguments) (option : ValueOption) (text : String) :
    Except UsageFault Arguments := do
  let number := orFault .valueValidation (natural? text)
  match option with
  | .config =>
      let path := if text.isEmpty then .error .invalidValue else .ok text
      return { a with config := ← once a.config path }
  | .file =>
      let mapping ← orFault .valueValidation (FileMapping.parse? text)
      return { a with files := a.files ++ [mapping] }
  | .strategy =>
      let kind := orFault .invalidValue (StrategyKind.ofName? text)
      return { a with strategy := ← once a.strategy kind }
  | .invariant =>
      let kind := orFault .invalidValue (InvariantKind.ofName? text)
      return { a with invariant := ← once a.invariant kind }
  | .command => return { a with command := ← once a.command (.ok text) }
  | .arg => return { a with args := a.args ++ [text] }
  | .exitCode =>
      let code := orFault .valueValidation (integer32? text)
      return { a with exitCode := ← once a.exitCode code }
  | .pattern => return { a with pattern := ← once a.pattern (.ok text) }
  | .timeoutSecs => return { a with timeoutSecs := ← once a.timeoutSecs number }
  | .cleanupInterval => return { a with cleanupInterval := ← once a.cleanupInterval number }
  | .maxPasses => return { a with maxPasses := ← once a.maxPasses number }
  | .logLevel => return { a with logLevel := ← once a.logLevel (.ok text) }

def setFlag (a : Arguments) : FlagOption → Except UsageFault Arguments
  | .jsonLogs => if a.jsonLogs then .error .argumentConflict else .ok { a with jsonLogs := true }
  | .printConfig =>
      if a.printConfig then .error .argumentConflict else .ok { a with printConfig := true }
  | .help => .error .displayHelp
  | .version => .error .displayVersion

/-- An option that is not yet looked at: it waits for its value, or has it. -/
inductive Pending
  | nothing
  | waiting (option : ValueOption)
  | given (option : ValueOption) (text : String)

structure State where
  arguments : Arguments := {}
  pending : Pending := .nothing

/-- Looks at the pending option. -/
def State.resolve (s : State) : Except UsageFault Arguments :=
  match s.pending with
  | .nothing => .ok s.arguments
  | .waiting _ => .error .invalidValue
  | .given option text => setValue s.arguments option text

/-- Takes an option, and the value that is attached to it. -/
def takeOption (s : State) (option : KnownOption) (attached : Option String) :
    Except UsageFault State :=
  match option, attached with
  | .flag _, some _ => .error .tooManyValues
  | .flag flag, none => do return { arguments := ← setFlag (← s.resolve) flag }
  | .value option, some text => do return { arguments := ← setValue (← s.resolve) option text }
  | .value option, none => do return { arguments := ← s.resolve, pending := .waiting option }

/-- Takes a long option, with what follows an equals sign in it. -/
def takeLong (s : State) (cs : List Char) : Except UsageFault State :=
  let (name, rest) := cs.span (· != '=')
  let attached := match rest with
    | _ :: value => some (String.ofList value)
    | [] => none
  match KnownOption.ofLong? (String.ofList name) with
  | some option => takeOption s option attached
  | none => .error .unknownArgument

/-- Takes short options one after the other. What follows one that takes a value is its value. -/
def takeShorts (s : State) : List Char → Except UsageFault State
  | [] => .ok s
  | c :: rest =>
      match KnownOption.ofShort? c with
      | none => .error .unknownArgument
      | some (.flag flag) =>
          match takeOption s (.flag flag) none with
          | .error fault => .error fault
          | .ok s => takeShorts s rest
      | some (.value option) =>
          let attached := match rest with
            | [] => none
            | '=' :: value => some (String.ofList value)
            | value => some (String.ofList value)
          takeOption s (.value option) attached

/-- Whether an argument is the value that the pending option waits for, although it may look like an
option. -/
def isValueOf (option : ValueOption) (cs : List Char) : Bool :=
  option == .arg ||
    match cs with
    | '-' :: '-' :: _ => false
    | ['-'] => true
    | '-' :: rest => option == .exitCode && isNumber rest
    | _ => true

/-- Reads arguments one after the other. After two dashes no option follows. -/
def readFrom : List String → State → Except UsageFault State
  | [], s => .ok s
  | arg :: rest, s =>
      let cs := arg.toList
      let value? := match s.pending with
        | .waiting option => if isValueOf option cs then some option else none
        | _ => none
      match value? with
      | some option => readFrom rest { s with pending := .given option arg }
      | none =>
          match cs with
          | ['-', '-'] => if rest.isEmpty then .ok s else .error .unknownArgument
          | '-' :: '-' :: name =>
              match takeLong s name with
              | .error fault => .error fault
              | .ok s => readFrom rest s
          | '-' :: c :: shorts =>
              match takeShorts s (c :: shorts) with
              | .error fault => .error fault
              | .ok s => readFrom rest s
          | _ => .error .unknownArgument

def parse (args : List String) : Except UsageFault Arguments := do
  (← readFrom args {}).resolve

/-- A configuration with what the arguments say in place of what it said. -/
def mergeInto (a : Arguments) (c : Config) : Config :=
  { settings := { c.settings with
      cleanupInterval := a.cleanupInterval.getD c.settings.cleanupInterval
      maxPasses := a.maxPasses.or c.settings.maxPasses }
    files := if a.files.isEmpty then c.files else a.files
    strategy := a.strategy.getD c.strategy
    invariant := {
      kind := a.invariant.getD c.invariant.kind
      command := a.command.or c.invariant.command
      args := if a.args.isEmpty then c.invariant.args else a.args
      exitCode := a.exitCode.getD c.invariant.exitCode
      pattern := a.pattern.or c.invariant.pattern
      timeoutSecs := a.timeoutSecs.or c.invariant.timeoutSecs }
    logging := { c.logging with level := a.logLevel.getD c.logging.level } }

end Arguments

end SourceReducer
