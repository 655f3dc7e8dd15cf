import SourceReducer.Command.Basic
import SourceReducer.Command.Script.Reader
import SourceReducer.Command.Signal

/-! The state of a shell: its files and channels, its variables, and what interrupts its commands.
All texts have one character per byte. -/
namespace SourceReducer

/-- A text that was printed, with the time and the process that printed it. -/
structure Print where
  time : Nat
  process : Nat
  text : String

/-- An open file. Channels that were made from each other share one. -/
inductive Stream
  | nothing
  /-- What is printed is kept, the latest first. -/
  | kept (prints : List Print)
  /-- What is still to be read, and when its end can be seen. -/
  | source (rest : List Char) (ready : Nat)
  /-- The file with a number, and the place in it. -/
  | file (id : Nat) (position : Nat) (mode : OpenMode)

structure Variable where
  /-- A variable may have properties and no value. -/
  value : Option String := none
  isExported : Bool := false
  isReadOnly : Bool := false

/-- How a process came to its end. -/
inductive Ending
  | exited (code : Nat)
  | signalled (signal : Nat)

/-- The status that an end comes to. -/
def Ending.status : Ending → Nat
  | .exited code => code
  | .signalled signal => 128 + signal

/-- A command that runs beside the shell. -/
structure Job where
  process : Nat
  /-- When it ends, and how. -/
  finish : Nat
  ending : Ending
  /-- Whether the shell has waited for it. -/
  isWaitedFor : Bool := false

/-- A signal on its way to a process, and when it was sent. -/
structure Sent where
  process : Nat
  signal : Nat
  time : Nat
  deriving DecidableEq

structure Shell where
  files : Files
  streams : Array Stream := #[]
  /-- The streams that the channels are connected to. -/
  channels : List (Nat × Nat) := []
  bindings : List (String × Variable) := []
  functions : List (String × Command) := []
  /-- The letters of the options that are on. -/
  options : List Char := []
  /-- The name under which the shell complains. -/
  name : String := "sh"
  arguments : List String := []
  /-- The status of the last command. -/
  last : Nat := 0
  /-- The status of the last script inside of a word. -/
  lastOutput : Nat := 0
  line : Nat := 1
  /-- The command of the shell itself that is running. -/
  command : Option String := none
  /-- What is done on a signal; with an empty text the signal is ignored. The end of the shell has
  the number zero. -/
  traps : List (Nat × String) := []
  /-- What the variables were before the functions that are running made them their own. -/
  scopes : List (List (String × Option Variable)) := []
  /-- How many loops are running. -/
  loops : Nat := 0
  /-- The number that the shell gives as its own, and that of the process it really is. -/
  number : Nat
  process : Nat
  /-- The processes around it, the nearest first. -/
  around : List Nat := []
  /-- The number of the next process. -/
  nextProcess : Nat
  /-- Signals that were sent to processes and not noticed yet. -/
  signals : List Sent := []
  jobs : List Job := []
  lastJob : Option Nat := none
  /-- How many letters of an argument with options were looked at. -/
  optionOffset : Nat := 0
  /-- Milliseconds since the start. -/
  clock : Nat := 0
  /-- The processes beside the shell that may still print, and when they end. -/
  writers : List (Nat × Nat) := []
  /-- Whether something said could not be printed. -/
  hasLostText : Bool := false

/-- What keeps a shell from going on with the next command. -/
inductive Stop
  | leaveLoops (count : Nat)
  | nextRound (count : Nat)
  | leaveFunction
  | exit (code : Nat)
  /-- A command gave up after a complaint. -/
  | failed
  | killed (signal : Nat)
  /-- The commands never come to an end. -/
  | endless

abbrev Act := EStateM Stop Shell

namespace Shell

def hasOption (s : Shell) (letter : Char) : Bool :=
  s.options.contains letter

/-- The letters of all options, in the order in which those that are on are shown. -/
def optionLetters : List Char :=
  ['u', 'b', 'a', 'C', 'E', 'V', 'v', 'x', 's', 'n', 'm', 'i', 'I', 'f', 'e']

def lookup? (s : Shell) (name : String) : Option Variable :=
  s.bindings.lookup name

def putVariable (s : Shell) (name : String) (new : Option Variable) : Shell :=
  let others := s.bindings.filter fun v => v.1 != name
  { s with bindings := match new with
      | some v => others ++ [(name, v)]
      | none => others }

/-- The blanks at which values are split as long as nothing else is said. -/
def defaultGaps : String := " \t\n"

/-- The value of a parameter, if there is one. -/
def value? (s : Shell) (name : String) : Option String :=
  match name with
  | "#" => some (toString s.arguments.length)
  | "?" => some (toString s.last)
  | "$" => some (toString s.number)
  | "!" => s.lastJob.map toString
  | "-" => some (String.ofList (optionLetters.filter s.hasOption))
  | "0" => some s.name
  | "@" | "*" => if s.arguments.isEmpty then none else some (" ".intercalate s.arguments)
  | _ =>
      if name.toList.all Char.isDigit then s.arguments[(name.toNat?.getD 0) - 1]?
      else (s.lookup? name).bind Variable.value

/-- The characters at which values are split. -/
def gaps (s : Shell) : String :=
  (s.value? "IFS").getD defaultGaps

/-- The stream that a channel is connected to. -/
def stream? (s : Shell) (channel : Nat) : Option (Nat × Stream) :=
  (s.channels.lookup channel).bind fun id => (s.streams[id]?).map fun stream => (id, stream)

/-- Connects a channel to a stream, or closes it. -/
def connect (s : Shell) (channel : Nat) (stream : Option Nat) : Shell :=
  let others := s.channels.filter fun c => c.1 != channel
  { s with channels := match stream with
      | some id => (channel, id) :: others
      | none => others }

/-- Opens a stream. -/
def addStream (s : Shell) (stream : Stream) : Nat × Shell :=
  (s.streams.size, { s with streams := s.streams.push stream })

/-- The bytes of a file with others in place of those from a position on. -/
def overwrite (old : List UInt8) (position : Nat) (bytes : List UInt8) : List UInt8 :=
  old.take position ++ List.replicate (position - old.length) 0 ++ bytes ++
    old.drop (position + bytes.length)

/-- Prints a text on a stream. -/
def printOn (s : Shell) (id : Nat) (stream : Stream) (text : String) : Shell :=
  match stream with
  | .kept prints =>
      let print := { time := s.clock, process := s.process, text }
      { s with streams := s.streams.setIfInBounds id (.kept (print :: prints)) }
  | .file file position mode =>
      if mode = .read then s
      else
        let old := ((s.files.contents[file]?).getD (.text "")).bytes
        let bytes := ByteText.toBytes text
        let position := if mode = .append then old.length else position
        { s with
          files := s.files.setContent file (.ofBytes (overwrite old position bytes))
          streams := s.streams.setIfInBounds id (.file file (position + bytes.length) mode) }
  | _ => s

/-- Prints a text on a channel. -/
def print (s : Shell) (channel : Nat) (text : String) : Shell :=
  if text.isEmpty then s
  else
    match s.stream? channel with
    | none | some (_, .file _ _ .read) => { s with hasLostText := s.hasLostText || channel == 1 }
    | some (id, stream) => s.printOn id stream text

/-- What is still to be read on a channel. -/
def pending (s : Shell) (channel : Nat) : List Char :=
  match s.stream? channel with
  | some (_, .source rest _) => rest
  | some (_, .file id position _) =>
      (ByteText.ofBytes ((((s.files.contents[id]?).getD (.text "")).bytes).drop position)).toList
  | _ => []

/-- Leaves only `rest` to be read on a channel. Who sees the end has waited for it. -/
def leave (s : Shell) (channel : Nat) (rest : List Char) : Shell :=
  match s.stream? channel with
  | some (id, .source _ ready) =>
      { s with
        streams := s.streams.setIfInBounds id (.source rest ready)
        clock := if rest.isEmpty then max s.clock ready else s.clock }
  | some (id, .file file _ mode) =>
      let size := (((s.files.contents[file]?).getD (.text "")).bytes).length
      { s with streams := s.streams.setIfInBounds id (.file file (size - rest.length) mode) }
  | _ => s

/-- What was printed on a stream, in the order of time. -/
def printed (s : Shell) (id : Nat) : String :=
  match s.streams[id]? with
  | some (.kept prints) =>
      String.join ((prints.reverse.mergeSort fun a b => a.time ≤ b.time).map Print.text)
  | _ => ""

/-- The words before a complaint: who complains, where, and in which command. -/
def complaint (s : Shell) (message : String) : String :=
  let place := match s.command with
    | some command => s!"{s.name}: {s.line}: {command}: "
    | none => s!"{s.name}: {s.line}: "
  place ++ message ++ "\n"

end Shell

namespace Act

def say (text : String) : Act Unit :=
  modify fun s => s.print 1 text

/-- Complains and goes on. -/
def warn (message : String) : Act Unit :=
  modify fun s => s.print 2 (s.complaint message)

/-- Complains and gives up. -/
def fail {α : Type} (message : String) : Act α := do
  warn message
  throw .failed

/-- Gives a variable a value, unless it may only be read. -/
def setVariable (name value : String) : Act Unit := do
  let s ← get
  let old := (s.lookup? name).getD {}
  if old.isReadOnly then fail s!"{name}: is read only"
  else
    let s := if name == "OPTIND" then { s with optionOffset := 0 } else s
    set (s.putVariable name (some { old with
      value := some value
      isExported := old.isExported || s.hasOption 'a' }))

/-- Does something, and says what stopped it. -/
def attempt (act : Act Unit) : Act (Option Stop) := fun s =>
  match act s with
  | .ok _ s => .ok none s
  | .error stop s => .ok (some stop) s

/-- Goes on with what stopped something. -/
def resume : Option Stop → Act Unit
  | none => pure ()
  | some stop => throw stop

/-- The status of a command that is to have one. -/
def finish (status : Nat) : Act Unit :=
  modify fun s => { s with last := status }

end Act

end SourceReducer
