import SourceReducer.Pattern.Form
import SourceReducer.Text.Blank

/-! Reading what follows a backslash in a pattern. Where a pattern is verbose, blanks and comments
may stand between any two characters of what is read here. -/
namespace SourceReducer.Pattern

/-- Drops a comment up to the end of its line. -/
def dropComment : List Char → List Char
  | [] => []
  | c :: rest => if c = '\n' then rest else dropComment rest

/-- Drops blanks and comments, `fuel` of them at most. -/
def dropBlanks : Nat → List Char → List Char
  | 0, cs => cs
  | _ + 1, [] => []
  | fuel + 1, c :: rest =>
      if isBlank c then dropBlanks fuel rest
      else if c = '#' then dropBlanks fuel (dropComment rest)
      else c :: rest

def skip (verbose : Bool) (cs : List Char) : List Char :=
  if verbose then dropBlanks cs.length cs else cs

/-- What stands before a closing brace, and what follows the brace. -/
def readBraced (verbose : Bool) : Nat → List Char → Except Fault (List Char × List Char)
  | 0, _ => .error .escape
  | fuel + 1, cs =>
      match skip verbose cs with
      | [] => .error .escape
      | '\x7d' :: rest => .ok ([], rest)
      | c :: rest => (readBraced verbose fuel rest).map fun (inside, rest) => (c :: inside, rest)

/-- A given number of characters, and what follows them. -/
def readExactly (verbose : Bool) : Nat → List Char → Except Fault (List Char × List Char)
  | 0, cs => .ok ([], cs)
  | n + 1, cs =>
      match skip verbose cs with
      | [] => .error .escape
      | c :: rest => (readExactly verbose n rest).map fun (more, rest) => (c :: more, rest)

/-- The characters at the start of a text that satisfy a test, and what follows them. -/
def readWhile (verbose : Bool) (test : Char → Bool) :
    Nat → List Char → List Char × List Char
  | 0, cs => ([], cs)
  | _ + 1, [] => ([], [])
  | fuel + 1, c :: rest =>
      if test c then
        let (more, rest) := readWhile verbose test fuel (skip verbose rest)
        (c :: more, rest)
      else ([], c :: rest)

/-- The character with a number written in hexadecimal digits. -/
def hexChar (digits : List Char) : Except Fault Char :=
  match digits.mapM hexValue? with
  | none | some [] => .error .escape
  | some values =>
      let n := values.foldl (fun n d => n * 16 + d) 0
      if n.isValidChar then .ok (Char.ofNat n) else .error .escape

/-- A character by its number: in braces, or in exactly `width` digits. -/
def readHex (verbose : Bool) (width : Nat) (cs : List Char) : Except Fault (Sign × List Char) := do
  match skip verbose cs with
  | '\x7b' :: rest =>
      let (digits, rest) ← readBraced verbose (rest.length + 1) rest
      return ({ char := ← hexChar digits }, rest)
  | cs =>
      let (digits, rest) ← readExactly verbose width cs
      return ({ char := ← hexChar digits, isByte := width == 2 }, rest)

/-- Cuts a text before the first occurrence of a mark, and drops the mark. -/
def cutAtMark (mark : List Char) : List Char → Option (List Char × List Char)
  | [] => none
  | c :: rest =>
      if mark.isPrefixOf (c :: rest) then some ([], (c :: rest).drop mark.length)
      else (cutAtMark mark rest).map fun (before, after) => (c :: before, after)

/-- A property, with its value behind a mark if it has one. All three marks mean the same. -/
def propertyName (name : List Char) : PropertyName :=
  match (cutAtMark ['!', '='] name).or ((cutAtMark [':'] name).or (cutAtMark ['='] name)) with
  | some (property, value) => .valued (String.ofList property) (String.ofList value)
  | none => .alone (String.ofList name)

/-- A property: in braces, or by one letter. -/
def readProperty (verbose : Bool) (cs : List Char) : Except Fault (PropertyName × List Char) := do
  match skip verbose cs with
  | [] => throw .escape
  | '\\' :: _ => throw .property
  | '\x7b' :: rest =>
      let (name, rest) ← readBraced verbose (rest.length + 1) rest
      return (propertyName name, rest)
  | c :: rest => return (.alone (String.singleton c), rest)

/-- A word edge, or the special one that is named in braces after it. Braces with something else
inside are a count of repetitions. -/
def readEdge (verbose : Bool) (cs : List Char) : Except Fault (Edge × List Char) :=
  match cs with
  | '\x7b' :: rest =>
      match skip verbose rest with
      | [] => .error .escape
      | first :: more =>
          let isNameChar := fun c : Char => c.isAlpha || c == '-'
          if !isNameChar first then .ok (.any, cs)
          else
            match readWhile verbose isNameChar (more.length + 2) (first :: more) with
            | (name, '\x7d' :: after) =>
                match String.ofList name with
                | "start" => .ok (.start, after)
                | "end" => .ok (.finish, after)
                | "start-half" => .ok (.startHalf, after)
                | "end-half" => .ok (.finishHalf, after)
                | _ => .error .escape
            | _ => .error .escape
  | _ => .ok (.any, cs)

/-- Characters that stand for themselves after a backslash. -/
def isEscapable (c : Char) : Bool :=
  c.toNat < 128 && !c.isAlphanum && c != '<' && c != '>'

/-- Reads what follows a backslash. -/
def readEscape (verbose : Bool) : List Char → Except Fault (Form × List Char)
  | [] => .error .escape
  | c :: rest =>
      let sign := fun c : Char => .ok (Form.sign { char := c }, rest)
      match c with
      | 'd' => .ok (.shorthand .digit false, rest)
      | 'D' => .ok (.shorthand .digit true, rest)
      | 's' => .ok (.shorthand .space false, rest)
      | 'S' => .ok (.shorthand .space true, rest)
      | 'w' => .ok (.shorthand .word false, rest)
      | 'W' => .ok (.shorthand .word true, rest)
      | 'p' => (readProperty verbose rest).map fun (name, rest) => (.property name false, rest)
      | 'P' => (readProperty verbose rest).map fun (name, rest) => (.property name true, rest)
      | 'x' => (readHex verbose 2 rest).map fun (sign, rest) => (.sign sign, rest)
      | 'u' => (readHex verbose 4 rest).map fun (sign, rest) => (.sign sign, rest)
      | 'U' => (readHex verbose 8 rest).map fun (sign, rest) => (.sign sign, rest)
      | 'a' => sign '\x07'
      | 'f' => sign '\x0c'
      | 't' => sign '\t'
      | 'n' => sign '\n'
      | 'r' => sign '\r'
      | 'v' => sign '\x0b'
      | 'A' => .ok (.textStart, rest)
      | 'z' => .ok (.textEnd, rest)
      | 'b' => (readEdge verbose rest).map fun (kind, rest) => (.edge kind, rest)
      | 'B' => .ok (.edge .none, rest)
      | '<' => .ok (.edge .start, rest)
      | '>' => .ok (.edge .finish, rest)
      | c =>
          if c.isDigit then .error .unsupported
          else if isEscapable c then sign c
          else .error .escape

end SourceReducer.Pattern
