import SourceReducer.Pattern.Escape

/-! Reading classes of characters between brackets. -/
namespace SourceReducer.Pattern

/-- The sets of ASCII characters that have names. -/
def asciiSet? (name : String) : Option CharSet :=
  let ranges := fun rs : List (Char × Char) =>
    some (CharSet.ofRanges (rs.map fun (a, b) => (a.toNat, b.toNat)))
  match name with
  | "alnum" => ranges [('0', '9'), ('A', 'Z'), ('a', 'z')]
  | "alpha" => ranges [('A', 'Z'), ('a', 'z')]
  | "ascii" => ranges [('\x00', '\x7f')]
  | "blank" => ranges [('\t', '\t'), (' ', ' ')]
  | "cntrl" => ranges [('\x00', '\x1f'), ('\x7f', '\x7f')]
  | "digit" => ranges [('0', '9')]
  | "graph" => ranges [('!', '~')]
  | "lower" => ranges [('a', 'z')]
  | "print" => ranges [(' ', '~')]
  | "punct" => ranges [('!', '/'), (':', '@'), ('[', '\x60'), ('\x7b', '~')]
  | "space" => ranges [('\t', '\r'), (' ', ' ')]
  | "upper" => ranges [('A', 'Z')]
  | "word" => ranges [('0', '9'), ('A', 'Z'), ('_', '_'), ('a', 'z')]
  | "xdigit" => ranges [('0', '9'), ('A', 'F'), ('a', 'f')]
  | _ => none

def asciiSet (name : String) : CharSet :=
  (asciiSet? name).getD .empty

/-- A named set between colons, if there is one. The opening bracket is read already. -/
def readNamed? (cs : List Char) : Option (ClassForm × List Char) :=
  match cs with
  | ':' :: rest =>
      let (negated, rest) := match rest with
        | '^' :: rest => (true, rest)
        | _ => (false, rest)
      match rest.span (· != ':') with
      | (name, ':' :: ']' :: after) =>
          (asciiSet? (String.ofList name)).map fun set => (.named set negated, after)
      | _ => none
  | _ => none

/-- One character of a class, or a set that a backslash introduces. -/
def readClassItem (verbose : Bool) : List Char → Except Fault (ClassForm × List Char)
  | [] => .error .unclosedClass
  | '\\' :: rest =>
      match readEscape verbose rest with
      | .error fault => .error fault
      | .ok (.sign sign, rest) => .ok (.sign sign, rest)
      | .ok (.shorthand kind negated, rest) => .ok (.shorthand kind negated, rest)
      | .ok (.property name negated, rest) => .ok (.property name negated, rest)
      | .ok _ => .error .escape
  | c :: rest => .ok (.sign { char := c }, rest)

/-- The character behind a dash that tells whether the dash is one of a range. In a verbose pattern
blanks do not count, and neither does the sign that starts a comment. -/
def charBehindDash? (verbose : Bool) (cs : List Char) : Option Char :=
  if verbose then
    let found := match cs.dropWhile isBlank with
      | '#' :: rest => (rest.dropWhile isBlank).head?
      | rest => rest.head?
    found.or cs.head?
  else cs.head?

/-- One character or set of a class, or the range that starts with it. -/
def readClassRange (verbose : Bool) (cs : List Char) : Except Fault (ClassForm × List Char) := do
  let (first, rest) ← readClassItem verbose cs
  match skip verbose rest with
  | [] => throw .unclosedClass
  | '-' :: after =>
      match charBehindDash? verbose after with
      | some ']' | some '-' => return (first, '-' :: after)
      | _ =>
          match skip verbose after with
          | [] => throw .unclosedClass
          | after =>
              let (last, rest) ← readClassItem verbose after
              match first, last with
              | .sign low, .sign high =>
                  if low.char ≤ high.char then return (.range low high, rest)
                  else throw .classRange
              | _, _ => throw .classRange
  | rest => return (first, rest)

/-- What a class holds so far: the parts before the last operation, and those after it, the newest
first. -/
structure ClassSoFar where
  earlier : Option (ClassForm × SetOperation) := none
  items : List ClassForm := []

def ClassSoFar.add (c : ClassSoFar) (item : ClassForm) : ClassSoFar :=
  { c with items := item :: c.items }

def ClassSoFar.close (c : ClassSoFar) : ClassForm :=
  let union := match c.items with
    | [] => .nothing
    | last :: before => before.foldl (fun after item => .union item after) last
  match c.earlier with
  | none => union
  | some (before, kind) => .operation kind before union

def ClassSoFar.next (c : ClassSoFar) (kind : SetOperation) : ClassSoFar :=
  { earlier := some (c.close, kind) }

/-- Dashes at the start of a class stand for themselves. -/
def readDashes (verbose : Bool) : Nat → ClassSoFar → List Char → ClassSoFar × List Char
  | 0, soFar, cs => (soFar, cs)
  | fuel + 1, soFar, cs =>
      match cs with
      | '-' :: rest =>
          readDashes verbose fuel (soFar.add (.sign { char := '-' })) (skip verbose rest)
      | _ => (soFar, cs)

/-- Reads the start of a class behind its opening bracket: whether it is negated, and the signs that
stand for themselves there. -/
def readClassStart (verbose : Bool) (cs : List Char) : Bool × ClassSoFar × List Char :=
  let cs := skip verbose cs
  let (negated, cs) := match cs with
    | '^' :: rest => (true, skip verbose rest)
    | _ => (false, cs)
  let (soFar, cs) := readDashes verbose cs.length {} cs
  match soFar.items, cs with
  | [], ']' :: rest => (negated, soFar.add (.sign { char := ']' }), skip verbose rest)
  | _, _ => (negated, soFar, cs)

/-- Reads a class up to its closing bracket. -/
def readClass (verbose : Bool) : Nat → ClassSoFar → List Char → Except Fault (ClassForm × List Char)
  | 0, _, _ => .error .unclosedClass
  | fuel + 1, soFar, cs =>
      match skip verbose cs with
      | [] => .error .unclosedClass
      | ']' :: rest => .ok (soFar.close, rest)
      | '[' :: rest =>
          match readNamed? rest with
          | some (item, rest) => readClass verbose fuel (soFar.add item) rest
          | none =>
              let (negated, start, after) := readClassStart verbose rest
              match readClass verbose fuel start after with
              | .error fault => .error fault
              | .ok (inner, rest) =>
                  readClass verbose fuel (soFar.add (.bracket negated inner)) rest
      | '&' :: '&' :: rest => readClass verbose fuel (soFar.next .both) rest
      | '-' :: '-' :: rest => readClass verbose fuel (soFar.next .without) rest
      | '~' :: '~' :: rest => readClass verbose fuel (soFar.next .either) rest
      | cs =>
          match readClassRange verbose cs with
          | .error fault => .error fault
          | .ok (item, rest) => readClass verbose fuel (soFar.add item) rest

/-- Reads a class behind its opening bracket. -/
def readBracket (verbose : Bool) (cs : List Char) : Except Fault (Form × List Char) :=
  let (negated, start, rest) := readClassStart verbose cs
  (readClass verbose (rest.length + 1) start rest).map fun (inner, rest) =>
    (.bracket negated inner, rest)

end SourceReducer.Pattern
