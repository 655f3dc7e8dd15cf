import SourceReducer.Command.Grep.Request
import SourceReducer.Command.Wildcard

/-! Searching files: which lines are selected and what is printed for them. -/
namespace SourceReducer.Grep

structure Line where
  number : Nat
  offset : Nat
  text : List Char

/-- The lines of a text. The end of the last one may be missing. -/
def linesOf (mark : Char) (cs : List Char) : List Line :=
  let texts := splitAt mark cs
  let texts := if texts.getLast? = some [] then texts.dropLast else texts
  let step := fun (state : List Line × Nat × Nat) (text : List Char) =>
    let (lines, number, offset) := state
    ({ number, offset, text } :: lines, number + 1, offset + text.length + 1)
  (texts.foldl step ([], 1, 0)).1.reverse

/-- A file as it is searched. -/
structure Source where
  name : String
  content : List Char
  showsName : Bool
  /-- The width of numbers, if they are aligned. -/
  width : Nat

/-- How far a search in a file is. -/
structure Progress where
  selected : Nat := 0
  /-- How many lines are still to be printed behind a selected one. -/
  pending : Nat := 0
  /-- The latest lines that were not printed, the last one first. -/
  recent : List Line := []
  /-- The number of the line after the last printed one. -/
  reached : Option Nat := none
  /-- Whether anything was printed, also for earlier files. -/
  hasPrinted : Bool
  said : List String := []
  /-- How many characters were looked at when the last line was selected. -/
  consumed : Nat := 0

namespace Request

/-- Whether only the count or the name of a file is wanted, or nothing at all. -/
def isMute (r : Request) : Bool :=
  r.quiet || r.naming.isSome || r.counts

/-- The greatest number of lines that are selected. -/
def limit (r : Request) : Option Nat :=
  if r.quiet || r.naming.isSome then some 1 else r.most

def linesBefore (r : Request) : Option Nat :=
  r.before.or r.around

def linesAfter (r : Request) : Option Nat :=
  r.after.or r.around

def lineEnd (r : Request) : Char :=
  if r.zeroLines then '\x00' else '\n'

/-- What stands before a line: the name of the file, the number of the line and its place. -/
def head (r : Request) (source : Source) (mark : Char) (number offset : Nat) (isEmpty : Bool) :
    String :=
  let shown := fun (n : Nat) =>
    let digits := toString n
    String.ofList (List.replicate (source.width - digits.length) ' ') ++ digits ++
      String.singleton mark
  let name := if source.showsName then
      source.name ++ String.singleton (if r.zeroNames then '\x00' else mark)
    else ""
  let number := if r.numbers then shown number else ""
  let place := if r.offsets then shown offset else ""
  let all := name ++ number ++ place
  if r.aligned && !all.isEmpty && !isEmpty then all ++ "\t" else all

def showLine (r : Request) (source : Source) (mark : Char) (line : Line) : String :=
  r.head source mark line.number line.offset line.text.isEmpty ++
    String.ofList (line.text ++ [r.lineEnd])

/-- The matches in a line, one a line. -/
def showMatches (r : Request) (target : Target) (source : Source) (line : Line) : List String :=
  (target.matches line.text true).map fun (first, last) =>
    let text := (line.text.drop first).take (last - first)
    r.head source ':' line.number (line.offset + first) text.isEmpty ++
      String.ofList (text ++ [r.lineEnd])

/-- Prints a line that is not selected but stands near one. -/
def printNear (r : Request) (source : Source) (p : Progress) (line : Line) : Progress :=
  let said := if r.onlyMatches then [] else [r.showLine source '-' line]
  { p with said := said ++ p.said, reached := some (line.number + 1), hasPrinted := true }

/-- Prints a selected line with those before it. -/
def printSelected (r : Request) (target : Target) (source : Source) (p : Progress) (line : Line) :
    Progress :=
  if r.onlyMatches && r.inverted then p
  else
    let near := (p.recent.take (r.linesBefore.getD 0)).reverse
    let first := (near.head?.map Line.number).getD line.number
    let isGap := (r.linesBefore.isSome || r.linesAfter.isSome) && p.hasPrinted &&
      p.reached ≠ some first
    let gap := match isGap, r.separator with
      | true, some text => [text ++ "\n"]
      | _, _ => []
    let p := near.foldl (r.printNear source) { p with said := gap ++ p.said }
    let shown := if r.onlyMatches then r.showMatches target source line
      else [r.showLine source ':' line]
    { p with
      said := shown.reverse ++ p.said
      reached := some (line.number + 1)
      hasPrinted := true
      pending := r.linesAfter.getD 0
      recent := [] }

/-- Goes through the lines of a file. -/
def searchLines (r : Request) (target : Target) (source : Source) (mute : Bool)
    (limit : Option Nat) : List Line → Progress → Progress
  | [], p => p
  | line :: rest, p =>
      let isOver := limit.any (· ≤ p.selected)
      if isOver && (mute || p.pending = 0) then p
      else if !isOver && target.occursIn line.text != r.inverted then
        let p := { p with
          selected := p.selected + 1
          consumed := line.offset + line.text.length + 1 }
        r.searchLines target source mute limit rest
          (if mute then p else r.printSelected target source p line)
      else if mute then r.searchLines target source mute limit rest p
      else if 0 < p.pending then
        r.searchLines target source mute limit rest
          (r.printNear source { p with pending := p.pending - 1, recent := [] } line)
      else
        r.searchLines target source mute limit rest
          { p with recent := line :: p.recent.take (r.linesBefore.getD 0) }

/-- The lines of a file that are looked at. In a file with zero bytes these end lines as well. -/
def searchSource (r : Request) (target : Target) (source : Source) (hasPrinted : Bool) : Progress :=
  let isBinary := !r.zeroLines && r.binary ≠ .asText && source.content.contains '\x00'
  if isBinary && r.binary = .skip then { hasPrinted }
  else
    let content := if isBinary then
        source.content.map fun c => if c == '\x00' then '\n' else c
      else source.content
    let mute := r.isMute || isBinary
    let limit := if isBinary && !r.counts then some 1 else r.limit
    r.searchLines target source mute limit (linesOf r.lineEnd content) { hasPrinted }

/-- Whether a file with zero bytes was found to have selected lines that are not printed. -/
def tellsBinary (r : Request) (source : Source) (p : Progress) : Bool :=
  !r.zeroLines && r.binary = .tell && !r.isMute && 0 < p.selected && source.content.contains '\x00'

end Request

/-- How many bytes are read at once. -/
def blockSize : Nat := 32768

/-- What a search has found so far. -/
structure Findings where
  isSelected : Bool := false
  hasFailed : Bool := false
  hasPrinted : Bool := false
  said : List (Channel × String) := []
  left : Option (List Char) := none

namespace Findings

def complain (f : Findings) (r : Request) (message : String) : Findings :=
  { f with
    hasFailed := true
    said := if r.silent then f.said else f.said ++ [(.err, message)] }

/-- Searches one file. -/
def searchFile (call : Call) (r : Request) (target : Target) (f : Findings) (isInput : Bool)
    (name : String) (content : List Char) (showsName : Bool) : Findings :=
  let width := if !r.aligned then 0
    else if isInput && !call.isSeekable then 19
    else (toString content.length).length
  let source : Source := { name, content, showsName, width }
  let p := r.searchSource target source f.hasPrinted
  let named := name ++ (if r.zeroNames then "\x00" else "\n")
  let said := if r.quiet then []
    else match r.naming with
      | some .selected => if 0 < p.selected then [named] else []
      | some .unselected => if p.selected = 0 then [named] else []
      | none =>
          if r.counts then
            let mark := if r.zeroNames then "\x00" else ":"
            [(if showsName then name ++ mark else "") ++ toString p.selected ++ "\n"]
          else p.said.reverse
  let told := if r.tellsBinary source p then
      [(Channel.err, s!"{call.name}: {name}: binary file matches\n")]
    else []
  let left := if !r.limit.any (· ≤ p.selected) then []
    else if call.isSeekable && r.most.any (· ≤ p.selected) && !r.quiet && r.naming.isNone then
      content.drop p.consumed
    else content.drop ((p.consumed + blockSize - 1) / blockSize * blockSize)
  { f with
    isSelected := f.isSelected || 0 < p.selected
    hasPrinted := p.hasPrinted
    said := f.said ++ said.map (Channel.out, ·) ++ told
    left := if isInput then some left else f.left }

/-- Whether the options name or leave out a file. -/
def isLeftOut (r : Request) (name : String) : Bool :=
  let base := (name.splitOn "/").getLastD name
  let fits := fun (pattern : String) => Wildcard.fits pattern.toList base.toList
  (!r.included.isEmpty && !r.included.any fits) || r.excluded.any fits

/-- Searches what stands at a path: a file, or what a directory holds if that is asked for. -/
def searchPath (call : Call) (r : Request) (target : Target) (showsName : Bool) :
    Nat → Bool → Findings → String → Findings
  | 0, _, f, _ => f
  | fuel + 1, isGiven, f, path =>
      if r.quiet && f.isSelected then f
      else
        match call.files.find (ByteText.toText path) with
        | .ok (.directory loc) =>
            match r.directories with
            | .skip => f
            | .read =>
                let f := f.complain r s!"{call.name}: {path}: Is a directory\n"
                if isLeftOut r path then f
                else searchFile call r target f false path [] showsName
            | .recurse =>
                let base := (path.splitOn "/").getLastD path
                let isOut := !isGiven && r.excludedDirectories.any fun pattern =>
                  Wildcard.fits pattern.toList base.toList
                if isOut then f
                else
                  let names :=
                    (Wildcard.namesIn call.files loc).filter fun n => n != "." && n != ".."
                  let within := if path.endsWith "/" then path else path ++ "/"
                  names.foldl (fun f n =>
                    searchPath call r target (r.withNames.getD true) fuel false f (within ++ n)) f
        | _ =>
            if isLeftOut r path then f
            else
              match call.files.readChars path with
              | .error fault => f.complain r s!"{call.name}: {path}: {fault.reason}\n"
              | .ok content => searchFile call r target f false path content showsName

/-- Searches operands in turn. -/
def searchAll (call : Call) (r : Request) (target : Target) (names : List String) : Findings :=
  let showsName := r.withNames.getD (1 < names.length)
  let step := fun (f : Findings) (name : String) =>
    if r.quiet && f.isSelected then f
    else if name == "-" then
      searchFile call r target f true r.label (f.left.getD call.input) showsName
    else searchPath call r target showsName (call.files.entries.length + 2) true f name
  names.foldl step {}

end Findings

/-- The names of what a directory holds, without the directory before them. -/
def namesHere (call : Call) (r : Request) : List String :=
  match call.files.find "." with
  | .ok (.directory loc) =>
      (Wildcard.namesIn call.files loc).filter fun n =>
        n != "." && n != ".." &&
          !r.excludedDirectories.any fun pattern => Wildcard.fits pattern.toList n.toList
  | _ => []

def usage (call : Call) : String :=
  let name := (call.name.splitOn "/").getLastD call.name
  s!"Usage: {name} [OPTION]... PATTERNS [FILE]...\nTry '{name} --help' for more information.\n"

/-- Searches for lines and prints them. The exit code is 0 if a line was selected, 1 if none was,
and 2 if something went wrong. -/
def run (call : Call) : CallResult :=
  match Request.ofCall call with
  | .error fault =>
      let message := match fault with
        | .usage => ""
        | fault => s!"{call.name}: {fault.message}\n"
      { code := 2, said := [(.err, message ++ if fault.showsUsage then usage call else "")] }
  | .ok (r, operands) =>
      let warned := r.warnings.map fun text => (Channel.err, s!"{call.name}: warning: {text}\n")
      if r.isVain && r.naming ≠ some .unselected then { code := 1, said := warned }
      else
        match r.target with
        | .error fault =>
            { code := 2
              said := warned ++ fault.messages.map fun text => (.err, s!"{call.name}: {text}\n") }
        | .ok (target, signs) =>
            let warned := warned ++ signs.map fun sign =>
              (Channel.err, s!"{call.name}: warning: {sign} at start of expression\n")
            let f := match operands, r.directories with
              | [], .recurse =>
                  let shown := { r with withNames := some (r.withNames.getD true) }
                  Findings.searchAll call shown target (namesHere call r)
              | [], _ => Findings.searchAll call r target ["-"]
              | names, _ => Findings.searchAll call r target names
            { code := if f.hasFailed && !(r.quiet && f.isSelected) then 2
                else if f.isSelected then 0 else 1
              said := warned ++ f.said
              left := f.left }

end SourceReducer.Grep
