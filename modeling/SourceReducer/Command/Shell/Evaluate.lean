import SourceReducer.Command.Shell.Builtin

/-! Running commands: what a name stands for, loops and choices, functions, programs and further
shells. -/
namespace SourceReducer.Evaluate

/-- A program that is there. -/
inductive Program
  | shell
  | tool (run : Call → CallResult)

/-- What is found where a program is looked for. -/
inductive Finding
  | found (program : Program)
  /-- Nothing that can be run; a status and what is said about it. -/
  | refused (status : Nat) (reason : String)

def program? (name : String) : Option Program :=
  if name == "sh" || name == "dash" then some .shell else (Tool.find? name).map .tool

/-- A path as a directory with programs and the name of one. -/
def programAt? (path : String) : Option Program :=
  Tool.directories.findSome? fun dir =>
    if (dir ++ "/").toList.isPrefixOf path.toList then
      program? (String.ofList (path.toList.drop (dir.length + 1)))
    else none

/-- What stands at a path that is to be run. -/
def lookAt (files : Files) (path : String) : Finding :=
  match programAt? path with
  | some program => .found program
  | none =>
      match files.find (ByteText.toText path) with
      | .ok (.file ..) | .ok (.directory _) => .refused 126 "Permission denied"
      | .error .nameTooLong => .refused 127 "File name too long"
      | .error .tooManyLinks => .refused 127 FileFault.tooManyLinks.reason
      | _ => .refused 127 "not found"

/-- The directories that are searched for programs. -/
def searchPath (s : Shell) : List String :=
  ((s.value? "PATH").getD "").splitOn ":"

/-- The path of a program in the directories that are searched. -/
def pathOf? (s : Shell) (name : String) : Option String :=
  ((searchPath s).map (· ++ "/" ++ name)).find? fun path => (programAt? path).isSome

/-- Looks for a program by its name. -/
def lookUp (s : Shell) (name : String) : Finding :=
  if name.contains '/' then lookAt s.files name
  else
    match pathOf? s name with
    | some path => lookAt s.files path
    | none =>
        let isHere := (searchPath s).any fun dir =>
          !name.isEmpty && s.files.pathExists
            (ByteText.toText (if dir.isEmpty then name else dir ++ "/" ++ name))
        if isHere then .refused 126 "Permission denied" else .refused 127 "not found"

/-- Runs a small program in the place of the shell. -/
def runTool (tool : Call → CallResult) (name : String) (args : List String) : Act Unit :=
  modify fun s =>
    let isSeekable := match s.stream? 0 with
      | some (_, .file ..) => true
      | _ => false
    let o := tool { name, args, input := s.pending 0, isSeekable, files := s.files }
    let s := match o.left with
      | some rest => s.leave 0 rest
      | none => s
    let s := o.said.foldl (fun s (channel, text) =>
      s.print (if channel = .out then 1 else 2) text) s
    { s with clock := s.clock + o.elapsed, last := o.code }

/-- The variables of a shell that starts. -/
def firstVariables (s : Shell) : List (String × Variable) :=
  let given := s.bindings.filter fun v => v.2.isExported && v.2.value.isSome
  let own :=
    [("IFS", Shell.defaultGaps), ("OPTIND", "1"), ("PS1", "# "), ("PS2", "> "), ("PS4", "+ "),
      ("PPID", toString (s.around.headD 1)), ("PWD", ByteText.ofText (Files.pathOf s.files.here))]
  given.map (fun (name, v) => (name, { v with isReadOnly := false })) ++
    (own.filter fun o => !(given.any (·.1 == o.1)) || o.1 == "IFS").map
      fun (name, value) => (name, { value := some value })

/-- A shell that starts in the place of another one. -/
def renew (name : String) (s : Shell) : Shell :=
  { files := s.files
    streams := s.streams
    channels := s.channels
    bindings := firstVariables s
    name
    line := 0
    traps := s.traps.filter (·.2.isEmpty)
    number := s.process
    process := s.process
    around := s.around
    nextProcess := s.nextProcess
    signals := s.signals
    clock := s.clock
    writers := s.writers }

/-- Reads the letters of an option of a shell. Whether a script and whether a name has to follow is
the result. -/
def startLetters (isOn : Bool) : List Char → Act (Bool × Bool)
  | [] => return (false, false)
  | c :: rest => do
      if c == 'c' || c == 'o' || c == 'l' then
        let (script, name) ← startLetters isOn rest
        return (script || c == 'c', name || c == 'o')
      else if Shell.optionLetters.contains c then
        Builtin.setOption c isOn
        startLetters isOn rest
      else
        let sign := if isOn then "-" else "+"
        Act.fail s!"Illegal option {sign}{c}"

/-- Reads the options of a shell: whether its script is the next argument, and what follows. -/
def startOptions : Bool → List String → Act (Bool × List String)
  | isScript, [] => return (isScript, [])
  | isScript, arg :: rest =>
      match arg.toList with
      | ['-'] | ['-', '-'] => return (isScript, rest)
      | sign :: letter :: letters =>
          if sign == '-' || sign == '+' then do
            let (script, name) ← startLetters (sign == '-') (letter :: letters)
            match name, rest with
            | true, text :: rest =>
                match Builtin.optionNames.lookup text with
                | some letter =>
                    letter.forM (Builtin.setOption · (sign == '-'))
                    startOptions (isScript || script) rest
                | none => Act.fail s!"Illegal option {sign}o {text}"
            | _, rest => startOptions (isScript || script) rest
          else return (isScript, arg :: rest)
      | _ => return (isScript, arg :: rest)

/-- Runs a shell with arguments in the place of the one that is running. -/
def runShell (run : Evaluator) (name : String) (args : List String) : Act Unit := do
  modify (renew name)
  let (isScript, operands) ← startOptions false args
  let s ← get
  match isScript, operands with
  | true, [] => Act.fail "-c requires an argument"
  | true, script :: rest =>
      set { s with name := rest.headD name, arguments := rest.drop 1, line := 1 }
      Act.runText run false script
  | false, operands =>
      match if s.hasOption 's' then none else operands.head? with
      | some file =>
          match s.files.readChars file with
          | .error fault => Act.fail s!"cannot open {file}: {Redirect.reason false fault}"
          | .ok text =>
              set { s with name := file, arguments := operands.drop 1, line := 1 }
              Act.runText run false (String.ofList text)
      | none =>
          let script := s.pending 0
          set { s.leave 0 [] with
            arguments := operands
            options := if s.hasOption 's' then s.options else 's' :: s.options
            line := 1 }
          Act.runText run false (String.ofList script)

/-- Runs a program in the place of the shell, which ends with it. -/
def replaceBy (run : Evaluator) (program : Program) (name : String) (args : List String) :
    Act Unit := do
  match program with
  | .tool tool =>
      runTool tool name args
      modify fun s => { s with traps := [] }
      throw (.exit (← get).last)
  | .shell =>
      let ending ← Act.finishShell run (runShell run name args)
      modify fun s => { s with traps := [] }
      match ending with
      | .exited code => throw (.exit code)
      | .signalled signal => throw (.killed signal)

/-- Runs a program beside the shell and waits for it. -/
def runProgram (run : Evaluator) (name : String) (args : List String) : Act Unit := do
  match lookUp (← get) name with
  | .refused status reason =>
      Act.warn s!"{name}: {reason}"
      Act.finish status
  | .found (.tool tool) =>
      runTool tool name args
      modify fun s => { s with nextProcess := s.nextProcess + 1 }
  | .found .shell =>
      let ending ← Act.inChild run id (runShell run name args)
      Act.report ending
      Act.finish ending.status

/-- Calls a function. What it made its own is as before afterwards. -/
def callFunction (run : Evaluator) (tested : Bool) (body : Command) (args : List String) :
    Act Unit := do
  let s ← get
  if 1000 ≤ s.scopes.length then
    Act.fail "Maximum function recursion depth (1000) reached"
  set { s with arguments := args, scopes := [] :: s.scopes, loops := 0, optionOffset := 0 }
  let stop ← Act.attempt (run body tested)
  modify fun after =>
    let restored :=
      (after.scopes.headD []).foldl (fun t (name, old) => t.putVariable name old) after
    { restored with
      arguments := s.arguments
      scopes := s.scopes
      loops := s.loops
      optionOffset := s.optionOffset }
  match stop with
  | some .leaveFunction => pure ()
  | stop => Act.resume stop

/-- What a name of a command stands for. -/
inductive Meaning
  | special
  | function (body : Command)
  | builtin
  | program

def meaningOf (s : Shell) (name : String) : Meaning :=
  if Builtin.isSpecial name then .special
  else
    match s.functions.lookup name with
    | some body => .function body
    | none => if Builtin.isBuiltin name then .builtin else .program

/-- Says what a name stands for, shortly or in words. -/
def describe (isShort : Bool) (name : String) : Act Unit := do
  let s ← get
  let say := fun (words : String) =>
    Act.say (if isShort then name ++ "\n" else name ++ " is " ++ words ++ "\n")
  Act.finish 0
  if Token.keywords.contains name then say "a shell keyword"
  else
    match meaningOf s name with
    | .special => say "a special shell builtin"
    | .function _ => say "a shell function"
    | .builtin => say "a shell builtin"
    | .program =>
        let path := if name.contains '/' then
            (match lookAt s.files name with
            | .found _ | .refused 126 _ => some name
            | .refused .. => none)
          else pathOf? s name
        match path with
        | some path => Act.say (if isShort then path ++ "\n" else name ++ " is " ++ path ++ "\n")
        | none =>
            if !isShort then Act.say s!"{name}: not found\n"
            Act.finish 127

/-- Describes names in turn. The status is that of a name that was not found. -/
def describeAll : List String → Nat → Act Unit
  | [], status => Act.finish status
  | name :: rest, status => do
      describe false name
      describeAll rest (max status (← get).last)

/-- Runs the script in a file in the shell itself. -/
def runFile (run : Evaluator) (tested : Bool) (args : List String) : Act Unit := do
  let (_, operands) ← Builtin.readOptions [] [] args
  match operands with
  | [] => Act.finish 0
  | name :: _ =>
      let s ← get
      if !name.contains '/' then Act.fail s!"{name}: not found"
      match s.files.readChars name with
      | .error fault => Act.fail s!"cannot open {name}: {Redirect.reason false fault}"
      | .ok text =>
          set { s with command := some name }
          match ← Act.attempt (Act.runText run tested (String.ofList text)) with
          | some .leaveFunction => pure ()
          | stop => Act.resume stop

/-- Puts a program in the place of the shell. -/
def execute (run : Evaluator) : List String → Act Unit
  | [] => Act.finish 0
  | name :: args => do
      match lookUp (← get) name with
      | .found program => replaceBy run program name args
      | .refused status reason =>
          Act.warn s!"{name}: {reason}"
          throw (.exit status)

/-- Does something as a command of the shell itself. -/
def asBuiltin (name : String) (act : Act Unit) : Act Unit := do
  let before := (← get).command
  modify fun s => { s with command := some name, hasLostText := false }
  let stop ← Act.attempt act
  if (← get).hasLostText then
    Act.warn s!"{name}: I/O error"
    Act.finish 1
  modify fun s => { s with command := before, hasLostText := false }
  Act.resume stop

/-- Gives a command that gave up its status and goes on. -/
def orElseFailed (act : Act Unit) : Act Unit := do
  match ← Act.attempt act with
  | some .failed => Act.finish 2
  | stop => Act.resume stop

/-- Runs a command of the shell itself. -/
def runBuiltin (run : Evaluator) (tested : Bool) (name : String) (args : List String) : Act Unit :=
  asBuiltin name (match name with
    | "eval" => Act.runText run tested (" ".intercalate args)
    | "." => runFile run tested args
    | "exec" => do
        let (_, operands) ← Builtin.readOptions [] [] args
        execute run operands
    | "type" => describeAll args 0
    | name =>
        match Builtin.table.lookup name with
        | some builtin => builtin args
        | none => pure ())

/-- Runs a command without regard to functions. Also a special command does not end the shell.
`around` is the command of the shell that this is a part of. -/
def runPlain (run : Evaluator) (tested : Bool) (around : Option String) (args : List String) :
    Act Unit := do
  let (options, operands) ← Builtin.readOptions ['p', 'v', 'V'] [] args
  match operands, options.find? fun o => o.1 == 'v' || o.1 == 'V' with
  | [], _ => Act.finish 0
  | name :: _, some (letter, _) => describe (letter == 'v') name
  | name :: args, none =>
      modify fun s => { s with command := around }
      if Builtin.isBuiltin name && name != "command" then
        orElseFailed (runBuiltin run tested name args)
      else runProgram run name args

/-- The channel of complaints before redirections, for what is shown of commands that run. -/
def trace (errors : Option Nat) (words : List String) : Act Unit := do
  let s ← get
  if s.hasOption 'x' && !words.isEmpty then
    if let some stream := errors.bind (s.streams[·]?) then
      let start := (s.value? "PS4").getD ""
      set (s.printOn (errors.getD 0) stream (start ++ " ".intercalate words ++ "\n"))

/-- Makes assignments in turn, and gives them as they are shown. -/
def assign (run : Evaluator) (isExported : Bool) :
    List (String × ScriptWord) → Act (List String)
  | [] => return []
  | (name, word) :: rest => do
      let value ← Expansion.single (Act.capture run) word
      Act.setVariable name value
      if isExported then
        modify fun s => s.putVariable name
          ((s.lookup? name).map fun v => { v with isExported := true })
      return (name ++ "=" ++ value) :: (← assign run isExported rest)

/-- Does something with variables that have their values only for it. -/
def withAssigned (names : List String) (act : Act Unit) : Act Unit := do
  let s ← get
  let before := names.map fun name => (name, s.lookup? name)
  let stop ← Act.attempt act
  modify fun s => before.foldl (fun s (name, old) => s.putVariable name old) s
  Act.resume stop

/-- Whether words start a command whose arguments may be assignments. -/
def takesAssignments : List ScriptWord → Bool
  | word :: rest =>
      match word.plain? with
      | some "command" => takesAssignments rest
      | some name => ["export", "readonly", "local"].contains name
      | none => false
  | [] => false

/-- Ends the shell after a command that failed, if that is asked for. -/
def checkStatus (tested : Bool) : Act Unit := do
  let s ← get
  if !tested && s.hasOption 'e' && s.last != 0 then throw (.exit s.last)

/-- Runs a command with its assignments and redirections. -/
def runSimple (run : Evaluator) (tested : Bool) (assignments : List (String × ScriptWord))
    (words : List ScriptWord) (redirections : List Redirection) : Act Unit := do
  let capture := Act.capture run
  modify fun s => { s with lastOutput := 0 }
  let fields ← Expansion.allFields capture (takesAssignments words) words
  let s ← get
  let errors := s.channels.lookup 2
  let names := assignments.map Prod.fst
  match fields with
  | [] =>
      let act := do
        trace errors (← assign run false assignments)
        Act.finish (← get).lastOutput
      if !(← Act.redirecting capture redirections act) then Act.finish 2
  | name :: args =>
      let temporary := fun (act : Act Unit) => withAssigned names (do
        let shown ← assign run true assignments
        trace errors (shown ++ fields)
        act)
      match meaningOf s name with
      | .special =>
          let act := do
            trace errors ((← assign run false assignments) ++ fields)
            runBuiltin run tested name args
          if name == "exec" && args.isEmpty then
            let openings ← redirections.mapM (Redirect.resolve capture)
            openings.forM Redirect.connect
            act
          else if !(← Act.redirecting capture redirections act) then throw .failed
      | .function body =>
          if !(← Act.redirecting capture redirections
            (temporary (callFunction run tested body args))) then
            Act.finish 2
      | .builtin =>
          if fields = ["command", "exec"] then
            let openings ← redirections.mapM (Redirect.resolve capture)
            openings.forM Redirect.connect
          let act := if name == "command" then
              asBuiltin name (runPlain run tested s.command args)
            else runBuiltin run tested name args
          if !(← Act.redirecting capture redirections (temporary (orElseFailed act))) then
            Act.finish 2
      | .program =>
          if !(← Act.redirecting capture redirections (temporary (runProgram run name args))) then
            Act.finish 2

/-- How many rounds of a loop are run before it counts as endless. -/
def maxRounds : Nat := 50000

/-- Runs a part of a loop. Whether the loop goes on behind it is the result; nothing if the next
round comes at once. -/
def loopPart (act : Act Unit) : Act (Option Bool) := do
  match ← Act.attempt act with
  | none => return some true
  | some (.leaveLoops 1) => return some false
  | some (.nextRound 1) => return none
  | some (.leaveLoops (n + 1)) => throw (.leaveLoops n)
  | some (.nextRound (n + 1)) => throw (.nextRound n)
  | some stop => throw stop

/-- Runs a loop while its test comes out as asked for. -/
def runLoop (run : Evaluator) (tested untilTrue : Bool) (test body : Command) : Nat → Nat → Act Unit
  | 0, _ => throw .endless
  | rounds + 1, status => do
      match ← loopPart (run test true) with
      | some false => Act.finish status
      | none => runLoop run tested untilTrue test body rounds status
      | some true =>
          if ((← get).last == 0) == untilTrue then Act.finish status
          else
            match ← loopPart (run body tested) with
            | some false => pure ()
            | _ => runLoop run tested untilTrue test body rounds (← get).last

/-- Runs a body once for each value of a variable. -/
def runEach (run : Evaluator) (tested : Bool) (name : String) (body : Command) :
    List String → Act Unit
  | [] => pure ()
  | value :: rest => do
      Act.setVariable name value
      match ← loopPart (run body tested) with
      | some false => pure ()
      | _ => runEach run tested name body rest

/-- Does something as a loop. -/
def inLoop (act : Act Unit) : Act Unit := do
  modify fun s => { s with loops := s.loops + 1 }
  let stop ← Act.attempt act
  modify fun s => { s with loops := s.loops - 1 }
  Act.resume stop

/-- Runs the first clause with a pattern that fits. -/
def selectClause (run : Evaluator) (tested : Bool) (subject : List Char) :
    List (List ScriptWord × Option Command) → Act Unit
  | [] => Act.finish 0
  | (patterns, body) :: rest => do
      if ← fitsAny patterns then
        match body with
        | some body => run body tested
        | none => Act.finish 0
      else selectClause run tested subject rest
where
  fitsAny : List ScriptWord → Act Bool
    | [] => return false
    | word :: rest => do
        let pattern ← Expansion.pattern (Act.capture run) word
        if Wildcard.fits pattern subject then return true else fitsAny rest

/-- Runs one command, where `run` runs those inside of it. -/
def step (run : Evaluator) (command : Command) (tested : Bool) : Act Unit := do
  let capture := Act.capture run
  match command with
  | .simple line assignments words redirections =>
      modify fun s => { s with line }
      runSimple run tested assignments words redirections
      checkStatus tested
  | .pipe parts =>
      Act.pipeline run tested parts
      checkStatus tested
  | .background command => Act.background run command
  | .both a b =>
      run a true
      if (← get).last == 0 then run b tested
  | .either a b =>
      run a true
      if (← get).last != 0 then run b tested
  | .sequence a b =>
      run a tested
      run b tested
  | .negate command =>
      run command true
      modify fun s => { s with last := if s.last == 0 then 1 else 0 }
  | .subshell line body redirections =>
      modify fun s => { s with line }
      let ending ← Act.inChild run id (do
        if !(← Act.redirecting capture redirections (run body tested)) then throw (.exit 2))
      Act.report ending
      Act.finish ending.status
      checkStatus tested
  | .redirected line body redirections =>
      modify fun s => { s with line }
      if !(← Act.redirecting capture redirections (run body tested)) then
        Act.finish 2
        checkStatus tested
  | .choice test yes no =>
      run test true
      if (← get).last == 0 then run yes tested
      else
        match no with
        | some no => run no tested
        | none => Act.finish 0
  | .loop untilTrue test body => inLoop (runLoop run tested untilTrue test body maxRounds 0)
  | .each line name words body =>
      modify fun s => { s with line }
      let values ← match words with
        | some words => Expansion.allFields capture false words
        | none => pure (← get).arguments
      Act.finish 0
      inLoop (runEach run tested name body values)
  | .select line subject clauses =>
      modify fun s => { s with line }
      let text ← Expansion.single capture subject
      selectClause run tested text.toList clauses
  | .define line name body =>
      modify fun s => { s with
        line
        functions := (name, body) :: s.functions.filter (·.1 != name)
        last := 0 }

/-- How deep commands may stand inside each other. -/
def maxDepth : Nat := 20000

/-- Runs a command, and receives the signals that came meanwhile. A shell that goes too deep is
ended by a signal. -/
def eval : Nat → Evaluator
  | 0 => fun _ _ => throw (.killed 11)
  | depth + 1 => fun command tested => do
      step (eval depth) command tested
      let s ← get
      if !s.signals.isEmpty then Act.receiveAll (eval depth) s.signals.length

end SourceReducer.Evaluate
