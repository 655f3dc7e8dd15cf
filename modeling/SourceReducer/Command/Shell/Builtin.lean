import SourceReducer.Command.Shell.Process
import SourceReducer.Command.Tool

/-! The commands of the shell itself that run no other commands. A command that gives up with a
complaint has status 2. -/
namespace SourceReducer.Builtin

/-- Options at the start of arguments, each a letter that may need a value, and what follows
them. -/
def readOptions (letters needing : List Char) :
    List String → Act (List (Char × String) × List String)
  | [] => return ([], [])
  | arg :: rest =>
      match arg.toList with
      | ['-', '-'] => return ([], rest)
      | '-' :: c :: cs => do
          let (found, isWaiting) ← readCluster (c :: cs)
          match isWaiting, rest with
          | none, rest =>
              let (more, operands) ← readOptions letters needing rest
              return (found ++ more, operands)
          | some letter, value :: rest =>
              let (more, operands) ← readOptions letters needing rest
              return (found ++ (letter, value) :: more, operands)
          | some letter, [] => Act.fail s!"No arg for -{letter} option"
      | _ => return ([], arg :: rest)
where
  /-- Letters behind one dash. The last one may wait for its value. -/
  readCluster : List Char → Act (List (Char × String) × Option Char)
    | [] => return ([], none)
    | c :: rest => do
        if needing.contains c then
          if rest.isEmpty then return ([], some c)
          else return ([(c, String.ofList rest)], none)
        else if letters.contains c then
          let (more, isWaiting) ← readCluster rest
          return ((c, "") :: more, isWaiting)
        else Act.fail s!"Illegal option -{c}"

/-- A whole number that is not negative. -/
def number (text : String) : Act Nat :=
  match wholeNumber? false text with
  | some (.ofNat n) => if n < Nat.pow 2 31 then return n else Act.fail s!"Illegal number: {text}"
  | _ => Act.fail s!"Illegal number: {text}"

def echo (args : List String) : Act Unit := do
  Act.say (Format.echo args)
  Act.finish 0

def printFormat (args : List String) : Act Unit := do
  let (_, operands) ← readOptions [] [] args
  match operands with
  | [] => Act.fail "usage: printf format [arg ...]"
  | format :: args =>
      let p := Format.print format args
      p.complaints.forM Act.warn
      Act.say p.text
      Act.finish p.code

def test (find : Files → List String → Except WordTest.Fault Bool) (args : List String) :
    Act Unit := do
  match find (← get).files args with
  | .ok b => Act.finish (if b then 0 else 1)
  | .error fault => Act.fail fault.message

def exit (args : List String) : Act Unit := do
  match args with
  | [] => throw (.exit (← get).last)
  | text :: _ => throw (.exit ((← number text) % 256))

def leaveFunction (args : List String) : Act Unit := do
  if let text :: _ := args then Act.finish (← number text)
  throw .leaveFunction

/-- Leaves loops or goes on with their next round. Outside of loops nothing happens. -/
def leaveLoops (stop : Nat → Stop) (args : List String) : Act Unit := do
  let text := args.headD "1"
  let count ← number text
  if count = 0 then Act.fail s!"Illegal number: {text}"
  Act.finish 0
  let depth := min count (← get).loops
  if 0 < depth then throw (stop depth)

def shift (args : List String) : Act Unit := do
  let count ← match args with
    | [] => pure 1
    | text :: _ => number text
  let s ← get
  if s.arguments.length < count then Act.fail "can't shift that many"
  set { s with arguments := s.arguments.drop count, optionOffset := 0, last := 0 }

/-- Goes to another directory. -/
def changeDirectory (args : List String) : Act Unit := do
  let (_, operands) ← readOptions ['L', 'P'] [] args
  let s ← get
  let target := match operands with
    | [] => (s.value? "HOME").getD ""
    | "-" :: _ => (s.value? "OLDPWD").getD ""
    | target :: _ => target
  match s.files.find (ByteText.toText target) with
  | .ok (.directory loc) =>
      let old := ByteText.ofText (Files.pathOf s.files.here)
      let new := ByteText.ofText (Files.pathOf loc)
      set { s with files := { s.files with here := loc } }
      Act.setVariable "OLDPWD" old
      Act.setVariable "PWD" new
      if operands.head? = some "-" then Act.say (new ++ "\n")
      Act.finish 0
  | _ =>
      if target.isEmpty then Act.finish 0 else Act.fail s!"can't cd to {target}"

def printDirectory (args : List String) : Act Unit := do
  let _ ← readOptions ['L', 'P'] [] args
  Act.say (ByteText.ofText (Files.pathOf (← get).files.here) ++ "\n")
  Act.finish 0

/-- A text between quotes. -/
def quoteText (text : String) : String :=
  String.ofList (go (text.length + 1) text.toList)
where
  go : Nat → List Char → List Char
    | 0, _ => []
    | fuel + 1, cs =>
        let (plain, rest) := cs.span (· != '\'')
        let (quotes, rest) := rest.span (· == '\'')
        let marked := if quotes.isEmpty then [] else '"' :: quotes ++ ['"']
        '\'' :: plain ++ ['\''] ++ marked ++ (if rest.isEmpty then [] else go fuel rest)

/-- The names and letters of the options of a shell. -/
def optionNames : List (String × Option Char) :=
  [("errexit", some 'e'), ("noglob", some 'f'), ("ignoreeof", some 'I'), ("interactive", some 'i'),
    ("monitor", some 'm'), ("noexec", some 'n'), ("stdin", some 's'), ("xtrace", some 'x'),
    ("verbose", some 'v'), ("vi", some 'V'), ("emacs", some 'E'), ("noclobber", some 'C'),
    ("allexport", some 'a'), ("notify", some 'b'), ("nounset", some 'u'), ("nolog", none),
    ("debug", none)]

def setOption (letter : Char) (isOn : Bool) : Act Unit :=
  modify fun s =>
    let others := s.options.filter (· != letter)
    { s with options := if isOn then letter :: others else others }

/-- Shows the options as they are, for a reader or as commands. -/
def showOptions (asCommands : Bool) : Act Unit := do
  let s ← get
  let isOn := fun (letter : Option Char) => letter.any s.hasOption
  let line := fun (o : String × Option Char) =>
    if asCommands then (if isOn o.2 then "set -o " else "set +o ") ++ o.1 ++ "\n"
    else
      let gap := String.ofList (List.replicate (16 - o.1.length) ' ')
      o.1 ++ gap ++ (if isOn o.2 then "on" else "off") ++ "\n"
  let head := if asCommands then "" else "Current option settings\n"
  Act.say (head ++ String.join (optionNames.map line))

/-- Sets options from letters behind a sign. Whether a name has to follow is the result. -/
def setLetters (isOn : Bool) : List Char → Act Bool
  | [] => return false
  | 'o' :: rest => do
      let _ ← setLetters isOn rest
      return true
  | c :: rest => do
      let sign := if isOn then "-" else "+"
      if Shell.optionLetters.contains c then
        setOption c isOn
        setLetters isOn rest
      else Act.fail s!"Illegal option {sign}{c}"

/-- Reads the options in front of arguments. What follows them is there only if something does. -/
def setOptions : List String → Act (Option (List String))
  | [] => return none
  | arg :: rest =>
      match arg.toList with
      | ['-', '-'] => return some rest
      | ['-'] => do
          setOption 'x' false
          setOption 'v' false
          return if rest.isEmpty then none else some rest
      | sign :: letters =>
          if sign == '-' || (sign == '+' && !letters.isEmpty) then do
            let isOn := sign == '-'
            if ← setLetters isOn letters then
              match rest with
              | [] =>
                  showOptions (!isOn)
                  return none
              | name :: rest =>
                  match optionNames.lookup name with
                  | some letter =>
                      letter.forM (setOption · isOn)
                      setOptions rest
                  | none => Act.fail s!"Illegal option {sign}o {name}"
            else setOptions rest
          else return some (arg :: rest)
      | [] => return some (arg :: rest)

/-- Variables as commands that set them. -/
def showVariables (command : String) (shown : Variable → Bool) (s : Shell) : String :=
  let lines := (s.bindings.filter fun v => shown v.2).map fun (name, v) =>
    command ++ name ++ (match v.value with
      | some value => "=" ++ quoteText value
      | none => "") ++ "\n"
  String.join (lines.mergeSort fun a b => a ≤ b)

def setCommand (args : List String) : Act Unit := do
  if args.isEmpty then
    Act.say (showVariables "" (fun v => v.value.isSome) (← get))
  else if let some arguments := ← setOptions args then
    modify fun s => { s with arguments, optionOffset := 0 }
  Act.finish 0

/-- A word as the name of a variable and the value behind it. -/
def splitAssignment (word : String) : Act (String × Option String) := do
  let (name, rest) := word.toList.span (· != '=')
  let name := String.ofList name
  if !isName name then Act.fail s!"{name}: bad variable name"
  return (name, match rest with
    | _ :: value => some (String.ofList value)
    | [] => none)

/-- Marks variables, and gives them values. -/
def markVariables (command : String) (isMarked : Variable → Bool) (mark : Variable → Variable)
    (args : List String) : Act Unit := do
  let (options, words) ← readOptions ['p'] [] args
  if !options.isEmpty || words.isEmpty then
    Act.say (showVariables (command ++ " ") isMarked (← get))
  else
    for word in words do
      let (name, value) ← splitAssignment word
      value.forM (Act.setVariable name)
      modify fun s => s.putVariable name (some (mark ((s.lookup? name).getD {})))
  Act.finish 0

/-- Makes variables those of the function that is running. -/
def makeLocal (args : List String) : Act Unit := do
  for word in args do
    let s ← get
    match s.scopes with
    | [] => Act.fail "not in a function"
    | scope :: scopes =>
        if word != "-" then
          let (name, value) ← splitAssignment word
          let isNew := (scope.find? (·.1 == name)).isNone
          let scope := if isNew then (name, s.lookup? name) :: scope else scope
          set { s with scopes := scope :: scopes }
          value.forM (Act.setVariable name)
  if (← get).scopes.isEmpty then Act.fail "not in a function"
  Act.finish 0

def unset (args : List String) : Act Unit := do
  let (options, names) ← readOptions ['v', 'f'] [] args
  for name in names do
    let s ← get
    if (options.getLast?.map Prod.fst) = some 'f' then
      set { s with functions := s.functions.filter (·.1 != name) }
    else
      if !isName name then Act.fail s!"{name}: bad variable name"
      if ((s.lookup? name).getD {}).isReadOnly then Act.fail s!"{name}: is read only"
      set (s.putVariable name none)
  Act.finish 0

/-- The characters of a line, and whether each may be a gap. A backslash takes the meaning from the
character behind it, and joins two lines. Also the rest behind the line, and whether the line has an
end. -/
def readLine (raw : Bool) : List Char → List (Char × Bool) → List (Char × Bool) × List Char × Bool
  | [], soFar => (soFar.reverse, [], false)
  | '\n' :: rest, soFar => (soFar.reverse, rest, true)
  | '\\' :: '\n' :: rest, soFar =>
      if raw then ((('\\', true) :: soFar).reverse, rest, true) else readLine raw rest soFar
  | '\\' :: c :: rest, soFar =>
      if raw then
        readLine raw (c :: rest) (('\\', true) :: soFar)
      else readLine raw rest ((c, false) :: soFar)
  | '\\' :: [], soFar => if raw then ((('\\', true) :: soFar).reverse, [], false)
      else (soFar.reverse, [], false)
  | c :: rest, soFar =>
      readLine raw rest (if c == '\x00' then soFar else (c, true) :: soFar)
termination_by cs => cs.length

/-- Fields of a line on the way. -/
structure LineFields where
  /-- The fields that are complete, the last one first. -/
  done : List String := []
  /-- The current field, the last character first. -/
  current : List Char := []
  /-- How many more fields may be closed. The last field takes all that is left. -/
  left : Nat
  /-- The last character was a blank gap. -/
  isAfterBlank : Bool := false
  /-- How many characters of the last field stay if nothing but gaps and escaped characters
  follows. -/
  cut : Option Nat := none

def LineFields.take (gaps : String) (f : LineFields) (m : Char × Bool) : LineFields :=
  let c := m.1
  let isGap := m.2 && gaps.contains c
  let isBlank := isGap && Shell.defaultGaps.contains c
  if f.left = 0 then
    let grown := { f with current := c :: f.current }
    if !m.2 then { grown with isAfterBlank := false }
    else if isBlank then { grown with cut := f.cut.or (some f.current.length) }
    else
      { grown with
        cut := if isGap && f.isAfterBlank then f.cut else none
        isAfterBlank := false }
  else if f.isAfterBlank && isGap then { f with isAfterBlank := isBlank }
  else if isGap then
    if isBlank && f.current.isEmpty then f
    else if f.left = 1 then
      { f with
        current := c :: f.current
        left := 0
        cut := some f.current.length
        isAfterBlank := isBlank }
    else
      { f with
        done := String.ofList f.current.reverse :: f.done
        current := []
        left := f.left - 1
        isAfterBlank := isBlank }
  else { f with current := c :: f.current, isAfterBlank := false }

/-- The fields of a line, `count` of them at most. -/
def lineFields (gaps : String) (count : Nat) (line : List (Char × Bool)) : List String :=
  let f := line.foldl (LineFields.take gaps) { left := count }
  let last := match f.cut with
    | some n => f.current.reverse.take n
    | none => f.current.reverse
  if last.isEmpty then f.done.reverse else (String.ofList last :: f.done).reverse

/-- Reads a line and gives its fields to variables. -/
def read (args : List String) : Act Unit := do
  let (options, names) ← readOptions ['r'] ['p'] args
  if names.isEmpty then Act.fail "arg count"
  let s ← get
  let (line, rest, hasEnd) := readLine (options.any (·.1 == 'r')) (s.pending 0) []
  set (s.leave 0 rest)
  let fields := lineFields s.gaps names.length line
  for (name, i) in names.zipIdx do
    if !isName name then Act.fail s!"{name}: bad variable name"
    Act.setVariable name (fields[i]?.getD "")
  Act.finish (if hasEnd then 0 else 1)

/-- Whether a letter is an option of a list in which a colon follows those that need a value. -/
def optionNeed? (letter : Char) : List Char → Option Bool
  | [] => none
  | c :: rest =>
      if c == letter && c != ':' then some (rest.head? = some ':') else optionNeed? letter rest

/-- Takes the next option from arguments. -/
def getOption (args : List String) : Act Unit := do
  match args with
  | letters :: name :: given =>
      let s ← get
      let words := if given.isEmpty then s.arguments else given
      let index := (((s.value? "OPTIND").bind String.toNat?).getD 1) - 1
      let isQuiet := letters.startsWith ":"
      let inside := if 0 < s.optionOffset && 0 < index then
          (words[index - 1]?.map fun w => w.toList.drop s.optionOffset).getD []
        else []
      let finishWith := fun (letter : String) (value : Option String) (index offset : Nat)
          (status : Nat) => do
        match value with
        | some value => Act.setVariable "OPTARG" value
        | none => modify fun s => s.putVariable "OPTARG" none
        Act.setVariable "OPTIND" (toString (index + 1))
        modify fun s => { s with optionOffset := offset }
        if !isName name then Act.fail s!"{name}: bad variable name"
        Act.setVariable name letter
        Act.finish status
      let atEnd := fun (index : Nat) => do
        Act.setVariable "OPTIND" (toString (index + 1))
        Act.setVariable name "?"
        Act.finish 1
      let start := match inside with
        | c :: rest => some (c, rest, index, s.optionOffset)
        | [] =>
            match (words[index]?.map String.toList) with
            | some ('-' :: c :: rest) =>
                if c == '-' && rest.isEmpty then none else some (c, rest, index + 1, 1)
            | _ => none
      match start with
      | none =>
          let isDashes := words[index]? = some "--"
          atEnd (if isDashes && inside.isEmpty then index + 1 else index)
      | some (c, rest, index, offset) =>
          let letter := String.singleton c
          match optionNeed? c letters.toList with
          | none =>
              if !isQuiet then modify fun s => s.print 2 s!"Illegal option -{c}\n"
              finishWith "?" (if isQuiet then some letter else none) index (offset + 1) 0
          | some false => finishWith letter (some "") index (offset + 1) 0
          | some true =>
              if !rest.isEmpty then finishWith letter (some (String.ofList rest)) index 0 0
              else
                match words[index]? with
                | some value => finishWith letter (some value) (index + 1) 0 0
                | none =>
                    if isQuiet then finishWith ":" (some letter) index 0 0
                    else
                      modify fun s => s.print 2 s!"No arg for -{c} option\n"
                      finishWith "?" none index 0 0
  | _ => Act.fail "Usage: getopts optstring var [arg...]"

/-- Sets what is done on signals, or shows it. -/
def trap (args : List String) : Act Unit := do
  let (_, operands) ← readOptions [] [] args
  match operands with
  | [] =>
      let s ← get
      let sorted := s.traps.mergeSort fun a b => a.1 ≤ b.1
      let lines := sorted.map fun (signal, text) =>
        let name := Signal.name "EXIT" signal
        s!"trap -- {quoteText text} {name}\n"
      Act.say (String.join lines)
      Act.finish 0
  | first :: others =>
      let (action, names) := if others.isEmpty then (none, [first]) else
        (if first == "-" then none else some first, others)
      setAll action names
where
  setAll (action : Option String) : List String → Act Unit
    | [] => Act.finish 0
    | name :: rest => do
        match Signal.ofName? "EXIT" name with
        | none =>
            modify fun s => s.print 2 s!"trap: {name}: bad trap\n"
            Act.finish 1
        | some signal =>
            modify fun s =>
              let others := s.traps.filter (·.1 != signal)
              { s with traps := match action with
                  | some text => (signal, text) :: others
                  | none => others }
            setAll action rest

def killUsage : String :=
  "Usage: kill [-s sigspec | -signum | -sigspec] [pid | job]... or\nkill -l [exitstatus]"

/-- Ends a process beside the shell. What it would have printed later is not printed. -/
def killJob (s : Shell) (job : Job) (signal : Nat) : Shell :=
  let jobs := s.jobs.map fun j =>
    if j.process == job.process then
      { j with finish := s.clock, ending := .signalled signal }
    else j
  let writers := s.writers.map fun w => if w.1 == job.process then (w.1, s.clock) else w
  let streams := s.streams.map fun stream => match stream with
    | .kept prints => .kept (prints.filter fun p => !(p.process == job.process && s.clock < p.time))
    | stream => stream
  { s with jobs, writers, streams }

/-- Sends a signal to a process. Whether there is such a process is the result. -/
def sendSignal (signal process : Nat) : Act Bool := do
  let s ← get
  if process == s.process || s.around.contains process || process == s.number then
    let sent : Sent := { process, signal, time := s.clock }
    if signal != 0 then set { s with signals := s.signals ++ [sent] }
    return true
  else
    match s.jobs.find? fun j => j.process == process && s.clock ≤ j.finish && !j.isWaitedFor with
    | none => return false
    | some job =>
        match Signal.effect signal with
        | .ends => set (killJob s job signal)
        | _ => pure ()
        return true

/-- The process of a job that is named by a percent sign and its number. -/
def jobProcess (text : String) : Act Nat := do
  let jobs := (← get).jobs
  let name := String.ofList (text.toList.drop 1)
  if name.isEmpty || name == "%" || name == "+" || name == "-" then
    match jobs.getLast? with
    | some job => return job.process
    | none => Act.fail "No current job"
  else
    match name.toNat?.bind fun n => if n = 0 then none else jobs[n - 1]? with
    | some job => return job.process
    | none => Act.fail s!"No such job: {text}"

/-- Sends a signal to processes in turn. The jobs have no groups of their own, so that nothing is
sent to those of a job or of a negative number. -/
def sendAll (signal : Nat) : List String → Nat → Act Unit
  | [], status => Act.finish status
  | text :: rest, status => do
      let isSent ← match text.toList with
        | '%' :: _ => do
            let _ ← jobProcess text
            pure false
        | '-' :: digits => do
            let _ ← number (String.ofList digits)
            pure false
        | _ => do sendSignal signal (← number text)
      if isSent then sendAll signal rest status
      else
        Act.warn "No such process\n"
        sendAll signal rest 1

def showSignals : List String → Act Unit
  | [] => do
      Act.say (String.join ((List.range Signal.limit).map fun n => Signal.name "0" n ++ "\n"))
      Act.finish 0
  | text :: _ => do
      let n ← number text
      let signal := if 128 < n then n - 128 else n
      if 0 < signal && signal < Signal.limit then
        Act.say (Signal.name "0" signal ++ "\n")
        Act.finish 0
      else Act.fail s!"invalid signal number or exit status: {text}"

def kill (args : List String) : Act Unit := do
  match args with
  | [] => Act.fail killUsage
  | first :: rest =>
      let direct := match first.toList with
        | '-' :: name => (Signal.ofName? "0" (String.ofList name))
        | _ => none
      match direct, first.startsWith "-" with
      | some signal, _ => if rest.isEmpty then Act.fail killUsage else sendAll signal rest 0
      | none, false => sendAll 15 args 0
      | none, true =>
          let (options, operands) ← readOptions ['l'] ['s'] args
          let isList := options.any (·.1 == 'l')
          let mut signal : Option Nat := none
          for (letter, value) in options do
            if letter == 's' then
              match Signal.ofName? "0" value with
              | some n => signal := some n
              | none => Act.fail s!"invalid signal number or name: {value}"
          if isList then
            if signal.isSome then Act.fail killUsage else showSignals operands
          else if operands.isEmpty then Act.fail killUsage
          else sendAll (signal.getD 15) operands 0

/-- Waits for processes beside the shell in turn. Those that are not there are passed over. -/
def waitForAll : List String → Nat → Act Unit
  | [], status => Act.finish status
  | text :: rest, status => do
      let process ← if text.startsWith "%" then jobProcess text else number text
      let s ← get
      match s.jobs.find? (·.process == process) with
      | none => waitForAll rest status
      | some job =>
          let jobs := s.jobs.map fun j =>
            if j.process == process then { j with isWaitedFor := true } else j
          set { s with clock := max s.clock job.finish, jobs }
          if !job.isWaitedFor then Act.report job.ending
          waitForAll rest job.ending.status

def wait (args : List String) : Act Unit := do
  let (_, operands) ← readOptions [] [] args
  if operands.isEmpty then
    modify fun s => { s with
      clock := s.jobs.foldl (fun time j => max time j.finish) s.clock
      jobs := s.jobs.map fun j => { j with isWaitedFor := true }
      last := 0 }
  else waitForAll operands 127

def showMask (args : List String) : Act Unit := do
  let (options, operands) ← readOptions ['S'] [] args
  if operands.isEmpty then
    Act.say (if options.isEmpty then "0022\n" else "u=rwx,g=rx,o=rx\n")
  Act.finish 0

def showLimits (args : List String) : Act Unit := do
  Act.say (if args = ["-c"] then "0\n" else "unlimited\n")
  Act.finish 0

/-- The commands and what they do with their arguments. -/
def table : List (String × (List String → Act Unit)) :=
  [(":", fun _ => Act.finish 0), ("true", fun _ => Act.finish 0), ("false", fun _ => Act.finish 1),
    ("echo", echo), ("printf", printFormat), ("test", test WordTest.holds),
    ("[", test WordTest.holdsInBrackets), ("exit", exit), ("return", leaveFunction),
    ("break", leaveLoops .leaveLoops), ("continue", leaveLoops .nextRound), ("shift", shift),
    ("cd", changeDirectory), ("chdir", changeDirectory), ("pwd", printDirectory),
    ("set", setCommand),
    ("export", markVariables "export" (·.isExported) fun v => { v with isExported := true }),
    ("readonly", markVariables "readonly" (·.isReadOnly) fun v => { v with isReadOnly := true }),
    ("local", makeLocal), ("unset", unset), ("read", read), ("getopts", getOption), ("trap", trap),
    ("kill", kill), ("wait", wait), ("umask", showMask), ("ulimit", showLimits),
    ("times", fun _ => do
      Act.say "0m0.000000s 0m0.000000s\n0m0.000000s 0m0.000000s\n"
      Act.finish 0),
    ("hash", fun _ => Act.finish 0), ("alias", fun _ => Act.finish 0),
    ("unalias", fun _ => Act.finish 0), ("jobs", fun _ => Act.finish 0)]

/-- The commands that run others. -/
def runners : List String :=
  [".", "command", "eval", "exec", "type"]

/-- Whether a name is one of a command of the shell itself. -/
def isBuiltin (name : String) : Bool :=
  (table.lookup name).isSome || runners.contains name

/-- Whether a name is one of a command that ends the shell if it gives up. -/
def isSpecial (name : String) : Bool :=
  ScriptReader.specialCommands.contains name

end SourceReducer.Builtin
