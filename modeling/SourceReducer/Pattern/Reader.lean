import SourceReducer.Pattern.Bracket
import SourceReducer.Text.Printable

/-! Reading the written form of a pattern from its text. -/
namespace SourceReducer.Pattern

/-- A number in decimal digits with blanks around it. -/
def readCount (verbose : Bool) (cs : List Char) : Option Nat × List Char :=
  let cs := cs.dropWhile isBlank
  let (digits, rest) := readWhile verbose Char.isDigit cs.length cs
  let n := digits.foldl (fun n d => n * 10 + (d.toNat - 48)) 0
  let (_, rest) := readWhile verbose isBlank rest.length rest
  (if digits.isEmpty || Nat.pow 2 32 ≤ n then none else some n, rest)

/-- Reads a counted repetition after its opening brace. -/
def readCounts (verbose : Bool) (cs : List Char) :
    Except Fault ((Nat × Option Nat) × List Char) :=
  match readCount verbose (skip verbose cs) with
  | (some low, '\x7d' :: rest) => .ok ((low, some low), rest)
  | (some low, ',' :: rest) =>
      match skip verbose rest with
      | '\x7d' :: rest => .ok ((low, none), rest)
      | rest =>
          match readCount verbose rest with
          | (some high, '\x7d' :: rest) =>
              if low ≤ high then .ok ((low, some high), rest) else .error .repetitionCount
          | _ => .error .repetitionCount
  | _ => .error .repetitionCount

/-- Sets or clears a flag. The one that makes repetitions prefer fewer matches changes nothing in
what matches. -/
def setFlag (change : FlagChange) (value : Bool) : Char → Option FlagChange
  | 'i' => some { change with anyCase := some value }
  | 'm' => some { change with multiLine := some value }
  | 's' => some { change with dotAll := some value }
  | 'R' => some { change with crlf := some value }
  | 'x' => some { change with verbose := some value }
  | 'u' => some { change with unicode := some value }
  | 'U' => some change
  | _ => none

/-- Reads flags up to a colon or a closing parenthesis, and tells whether it was a colon. No flag
comes twice, and after a minus comes at least one. -/
def readFlags (change : FlagChange) (value : Bool) (seen : List Char) :
    List Char → Except Fault (FlagChange × Bool × List Char)
  | [] => .error .flag
  | ':' :: rest => if seen.head? = some '-' then .error .flag else .ok (change, true, rest)
  | ')' :: rest =>
      if seen.head? = some '-' then .error .flag
      else if seen.isEmpty then .error .repetition
      else .ok (change, false, rest)
  | '-' :: rest =>
      if value then readFlags change false ('-' :: seen) rest else .error .flag
  | c :: rest =>
      if seen.contains c then .error .flag
      else
        match setFlag change value c with
        | some change => readFlags change value (c :: seen) rest
        | none => .error .flag

def isNameStart (c : Char) : Bool :=
  c == '_' || isAlphabetic c

def isNameChar (c : Char) : Bool :=
  c == '_' || c == '.' || c == '[' || c == ']' || isAlphanumeric c

/-- Reads the name of a group and its closing angle bracket. -/
def readName (names : List String) (cs : List Char) : Except Fault (String × List Char) :=
  match cs.span (· != '>') with
  | (first :: others, _ :: rest) =>
      let name := String.ofList (first :: others)
      if isNameStart first && others.all isNameChar && !names.contains name then .ok (name, rest)
      else .error .groupName
  | _ => .error .groupName

/-- The parts of a group so far, the newest first, and its alternatives before them. -/
structure GroupSoFar where
  alternatives : List Form := []
  parts : List Form := []

def joinParts : List Form → Form
  | [] => .empty
  | last :: before => before.foldl (fun after part => .both part after) last

def GroupSoFar.close (g : GroupSoFar) : Form :=
  g.alternatives.foldl (fun after form => .either form after) (joinParts g.parts)

/-- A group that is not closed yet, and what stands before it. -/
structure OpenGroup where
  before : GroupSoFar
  keeps : Bool
  change : FlagChange
  verbose : Bool

/-- What is left to read, and what is read. -/
structure Reading where
  rest : List Char
  verbose : Bool := false
  names : List String := []
  group : GroupSoFar := {}
  opened : List OpenGroup := []

/-- Adds a part, and goes on behind it. -/
def Reading.add (r : Reading) (part : Form) (rest : List Char) : Reading :=
  { r with rest, group := { r.group with parts := part :: r.group.parts } }

/-- Opens a group, and goes on inside it. -/
def Reading.openGroup (r : Reading) (keeps : Bool) (change : FlagChange) (rest : List Char) :
    Reading :=
  { r with
    rest
    verbose := change.verbose.getD r.verbose
    group := {}
    opened := { before := r.group, keeps, change, verbose := r.verbose } :: r.opened }

/-- Reads what follows an opening parenthesis. -/
def Reading.readOpening (r : Reading) (rest : List Char) : Except Fault Reading :=
  match skip r.verbose rest with
  | '?' :: rest =>
      match rest with
      | '=' :: _ | '!' :: _ | '<' :: '=' :: _ | '<' :: '!' :: _ => .error .unsupported
      | 'P' :: '<' :: rest | '<' :: rest =>
          (readName r.names rest).map fun (name, rest) =>
            { r with names := name :: r.names }.openGroup true {} rest
      | rest =>
          (readFlags {} true [] rest).map fun (change, opens, rest) =>
            if opens then r.openGroup false change rest
            else { r.add (.flags change) rest with verbose := change.verbose.getD r.verbose }
  | rest => .ok (r.openGroup true {} rest)

/-- Closes the innermost group. -/
def Reading.closeGroup (r : Reading) (rest : List Char) : Except Fault Reading :=
  match r.opened with
  | [] => .error .unopenedGroup
  | o :: opened =>
      let closed := .group o.keeps o.change r.group.close
      .ok ({ r with verbose := o.verbose, group := o.before, opened }.add closed rest)

/-- Repeats the newest part. Flags are no part that can be repeated. -/
def Reading.repeatLast (r : Reading) (low : Nat) (high : Option Nat) (rest : List Char) :
    Except Fault Reading :=
  match r.group.parts with
  | [] | .flags _ :: _ => .error .repetition
  | part :: before =>
      .ok { r with rest, group := { r.group with parts := .repeated low high part :: before } }

/-- A question mark after a sign of repetition only changes which match is preferred. -/
def dropLazy : List Char → List Char
  | '?' :: rest => rest
  | rest => rest

/-- Reads one part, or one sign that joins or repeats parts. -/
def Reading.step (r : Reading) : Char → List Char → Except Fault Reading
  | '(', rest => r.readOpening rest
  | ')', rest => r.closeGroup rest
  | '|', rest =>
      .ok { r with
        rest
        group := { alternatives := joinParts r.group.parts :: r.group.alternatives } }
  | '[', rest => (readBracket r.verbose rest).map fun (form, rest) => r.add form rest
  | '*', rest => r.repeatLast 0 none (dropLazy rest)
  | '+', rest => r.repeatLast 1 none (dropLazy rest)
  | '?', rest => r.repeatLast 0 (some 1) (dropLazy rest)
  | '\x7b', rest =>
      match r.group.parts with
      | [] | .flags _ :: _ => .error .repetition
      | _ =>
          match readCounts r.verbose rest with
          | .error fault => .error fault
          | .ok ((low, high), rest) => r.repeatLast low high (dropLazy (skip r.verbose rest))
  | '.', rest => .ok (r.add .dot rest)
  | '^', rest => .ok (r.add .lineStart rest)
  | '$', rest => .ok (r.add .lineEnd rest)
  | '\\', rest => (readEscape r.verbose rest).map fun (form, rest) => r.add form rest
  | c, rest => .ok (r.add (.sign { char := c }) rest)

/-- Reads up to the end of the text. Each step takes at least one character. -/
def Reading.finish : Nat → Reading → Except Fault Form
  | 0, _ => .error .unclosedGroup
  | fuel + 1, r =>
      match skip r.verbose r.rest with
      | [] => if r.opened.isEmpty then .ok r.group.close else .error .unclosedGroup
      | c :: rest =>
          match r.step c rest with
          | .error fault => .error fault
          | .ok r => r.finish fuel

/-- How deep a form may be nested. -/
def maxDepth : Nat := 250

/-- The written form of a text. -/
def readForm (text : String) : Except Fault Form := do
  let form ← Reading.finish (text.length + 1) { rest := text.toList }
  if form.depth .none ≤ maxDepth then return form else throw .tooDeep

end SourceReducer.Pattern
