import SourceReducer.Command.Shell.Redirect

/-! Processes: scripts that a shell reads, shells beside and inside of it, and signals. -/
namespace SourceReducer

/-- Runs a command. A tested one may fail without ending the shell. -/
abbrev Evaluator := Command → Bool → Act Unit

/-- The time at which what never ends would end. -/
def endOfTime : Nat := Nat.pow 10 15

namespace Act

/-- Reads and runs a script line by line. Whether there were commands in it is the result. -/
def runLines (run : Evaluator) (tested : Bool) : Nat → Bool → Reading → Act Bool
  | 0, hasRun, _ => return hasRun
  | fuel + 1, hasRun, reading =>
      match ScriptReader.readLine.run reading with
      | .ok .ended _ => return hasRun
      | .ok (.command command) reading => do
          if !(← get).hasOption 'n' then command.forM (run · tested)
          runLines run tested fuel (hasRun || command.isSome) reading
      | .error fault reading => do
          modify fun s => { s with line := reading.line }
          fail s!"Syntax error: {fault.message}"

/-- Runs a script. One without commands succeeds. -/
def runText (run : Evaluator) (tested : Bool) (text : String) : Act Unit := do
  if !(← runLines run tested (text.length + 1) false { rest := text.toList }) then finish 0

/-- How a shell ends that something stopped, or that came to the end of its script. -/
def endingOf (s : Shell) : Option Stop → Ending
  | some (.exit code) => .exited code
  | some .failed => .exited 2
  | some (.killed signal) => .signalled signal
  | _ => .exited s.last

/-- The text of what a shell does on a signal. -/
def trapFor? (s : Shell) (signal : Nat) : Option String :=
  if Signal.isStrict signal then none else s.traps.lookup signal

/-- Goes back to the time at which a signal ended the shell. What it was waiting for goes on
alone. -/
def dieAt (time : Nat) (s : Shell) : Shell :=
  if time < s.clock then { s with clock := time, writers := (s.nextProcess, s.clock) :: s.writers }
  else s

/-- The signal that ends a shell which would go on for ever. -/
def deadlySignal? (s : Shell) : Option Sent :=
  let deadly := s.signals.filter fun sent =>
    sent.process == s.process && (Signal.effect sent.signal matches .ends) &&
      (trapFor? s sent.signal).isNone
  (deadly.mergeSort fun a b => a.time ≤ b.time).head?

/-- Runs a shell to its end and then does what is to be done there, unless it was killed. -/
def finishShell (run : Evaluator) (act : Act Unit) : Act Ending := do
  match ← attempt act with
  | some .endless =>
      match deadlySignal? (← get) with
      | some sent =>
          modify fun s => { s with clock := sent.time }
          return .signalled sent.signal
      | none => throw .endless
  | some (.killed signal) => return .signalled signal
  | stop =>
      let s ← get
      let ending := endingOf s stop
      match s.traps.lookup 0 with
      | some text =>
          set { s with
            traps := s.traps.filter (·.1 != 0)
            last := ending.status
            scopes := []
            loops := 0 }
          match ← attempt (runText run false text) with
          | some .endless => throw .endless
          | some (.exit code) => return .exited code
          | some (.killed signal) => return .signalled signal
          | some .failed => return .exited 2
          | _ => return ending
      | none => return ending

/-- Does what a signal asks for. -/
def receive (run : Evaluator) (sent : Sent) : Act Unit := do
  let s ← get
  match trapFor? s sent.signal with
  | some "" => pure ()
  | some text =>
      runText run false text
      finish s.last
  | none =>
      match Signal.effect sent.signal with
      | .ends =>
          modify (dieAt sent.time)
          throw (.killed sent.signal)
      | .stops => throw .endless
      | .nothing => pure ()

/-- Receives the signals that have come for the shell, `count` of them at most. -/
def receiveAll (run : Evaluator) : Nat → Act Unit
  | 0 => pure ()
  | count + 1 => do
      let s ← get
      match s.signals.find? fun sent => sent.process == s.process && sent.time ≤ s.clock with
      | none => pure ()
      | some sent =>
          set { s with signals := s.signals.erase sent }
          receive run sent
          receiveAll run count

/-- A shell after a child of it has gone: what the two share is as the child left it. -/
def afterChild (s child : Shell) : Shell :=
  { s with
    files := { child.files with here := s.files.here }
    streams := child.streams
    nextProcess := child.nextProcess
    signals := child.signals.filter (·.process != child.process)
    clock := child.clock
    writers := child.writers }

/-- Does something in a process of its own that starts as a copy of the shell. There is no ending if
it goes on for ever. -/
def startChild (run : Evaluator) (prepare : Shell → Shell) (act : Act Unit) :
    Act (Option Ending) := fun s =>
  let child := prepare { s with
    process := s.nextProcess
    nextProcess := s.nextProcess + 1
    around := s.process :: s.around
    traps := s.traps.filter (·.2.isEmpty)
    jobs := [] }
  match finishShell run act child with
  | .ok ending child => .ok (some ending) (afterChild s child)
  | .error _ child => .ok none (afterChild s child)

/-- Does something in a process of its own and waits for its end. -/
def inChild (run : Evaluator) (prepare : Shell → Shell) (act : Act Unit) : Act Ending := do
  match ← startChild run prepare act with
  | some ending => return ending
  | none => throw .endless

/-- Says which signal ended a process that was waited for. -/
def report : Ending → Act Unit
  | .exited _ => pure ()
  | .signalled signal =>
      if Signal.isSilent signal then pure ()
      else modify fun s => s.print 2 (Signal.description signal ++ "\n")

/-- When the last of some processes is gone that may print. -/
def closedAt (writers : List (Nat × Nat)) : Nat :=
  writers.foldl (fun time w => max time w.2) 0

/-- Ends the shell if a signal has come that ends it. -/
def checkAlive : Act Unit := do
  let s ← get
  match deadlySignal? s with
  | some sent =>
      if sent.time ≤ s.clock then
        set (dieAt sent.time s)
        throw (.killed sent.signal)
  | none => pure ()

/-- Runs a script and takes what it prints, without the line ends at the end. -/
def capture (run : Evaluator) : Capture := fun script => do
  let (id, s) := (← get).addStream (.kept [])
  set s
  let ending ← inChild run (·.connect 1 (some id)) (script.forM (run · false))
  checkAlive
  report ending
  modify fun after =>
    let inside := after.writers.filter fun w => s.nextProcess ≤ w.1
    { after with clock := max after.clock (closedAt inside), lastOutput := ending.status }
  let text := (← get).printed id
  let kept := text.toList.filter (· != '\x00')
  return String.ofList ((kept.reverse.dropWhile (· == '\n')).reverse)

/-- Whether a channel leads to where the shell was started. -/
def leadsOutside (s : Shell) (channel : Nat) : Bool :=
  match s.stream? channel with
  | some (_, .kept _) => true
  | _ => false

/-- The channels that still lead outside after a redirection. -/
def outsideAfter (outside : List Nat) (r : Redirection) : List Nat :=
  match r with
  | .file channel .. | .here channel _ | .hereLater channel _ => outside.filter (· != channel)
  | .duplicate channel target =>
      let others := outside.filter (· != channel)
      match (ScriptWord.plain? target).bind String.toNat? with
      | some n => if outside.contains n then channel :: others else others
      | none => others

/-- The redirections of a command as a whole. -/
def redirectionsOf : Command → List Redirection
  | .simple _ _ _ redirections | .subshell _ _ redirections | .redirected _ _ redirections =>
      redirections
  | _ => []

/-- A command without the process of its own that it asks for. -/
def withoutProcess : Command → Command
  | .subshell line body redirections => .redirected line body redirections
  | command => command

/-- Runs a command beside the shell. -/
def background (run : Evaluator) (command : Command) : Act Unit := do
  let s ← get
  let process := s.nextProcess
  let (nothing, started) := s.addStream .nothing
  set started
  let ending ← startChild run (·.connect 0 (some nothing)) (run (withoutProcess command) false)
  let now := (← get).clock
  let finish := if ending.isSome then now else endOfTime
  let outside := (redirectionsOf command).foldl outsideAfter ([1, 2].filter (leadsOutside s))
  modify fun after => { after with
    clock := s.clock
    jobs := s.jobs ++ [{ process, finish, ending := ending.getD (.exited 0) }]
    writers := if outside.isEmpty then after.writers else (process, finish) :: after.writers
    lastJob := some process
    last := 0 }

/-- A part of a pipeline that has run. -/
structure Part where
  finish : Nat
  ending : Ending
  /-- It would go on as long as somebody reads what it prints. -/
  isEndless : Bool
  /-- The stream that takes what it prints to the next part. -/
  output : Nat

/-- Runs the parts of a pipeline, each with what the one before it printed as its input. -/
def runParts (run : Evaluator) (tested : Bool) (start : Nat) :
    List Command → Option Nat → List Part → Act (List Part)
  | [], _, done => return done.reverse
  | part :: rest, input, done => do
      let s ← get
      let (kept, s) := s.addStream (.kept [])
      set { s with clock := start }
      let prepare := fun (child : Shell) =>
        let child := match input with
          | some id => child.connect 0 (some id)
          | none => child
        if rest.isEmpty then child else child.connect 1 (some kept)
      let ending ← startChild run prepare (run part tested)
      if rest.isEmpty && ending.isNone then throw .endless
      let after ← get
      let inside := after.writers.filter fun w => s.nextProcess ≤ w.1
      let ready := if ending.isSome then max after.clock (closedAt inside) else endOfTime
      let (source, next) := after.addStream (.source (after.printed kept).toList ready)
      set next
      let ran : Part :=
        { finish := if ending.isSome then after.clock else start
          ending := ending.getD (.signalled 13)
          isEndless := ending.isNone
          output := source }
      runParts run tested start rest (some source) (ran :: done)

/-- Runs a pipeline. Who prints without end is stopped when nobody reads any more. -/
def pipeline (run : Evaluator) (tested : Bool) (parts : List Command) : Act Unit := do
  let start := (← get).clock
  let ran ← runParts run tested start parts none []
  let s ← get
  let isOpen := fun (p : Part) => p.isEndless && match s.streams[p.output]? with
    | some (.source rest _) => rest.isEmpty
    | _ => true
  if ran.any isOpen then throw .endless
  set { s with clock := ran.foldl (fun time (p : Part) => max time p.finish) start }
  ran.forM fun p => report p.ending
  finish ((ran.getLast?.map fun p => p.ending.status).getD 0)

end Act

end SourceReducer
