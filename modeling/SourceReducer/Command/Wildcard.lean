import SourceReducer.Files.Operation
import SourceReducer.Text.ByteText

/-! Wildcards: a star stands for any characters, a question mark for one and a bracket for one of a
set. A backslash takes the meaning from the character behind it. -/
namespace SourceReducer.Wildcard

/-- A character of a word, and whether it may be a wildcard. -/
abbrev Mark := Char × Bool

/-- The pattern of a word: what may be no wildcard gets a backslash. -/
def ofMarks (marks : List Mark) : List Char :=
  marks.flatMap fun (c, active) => if active then [c] else ['\\', c]

/-- The named sets of characters. -/
def namedSets : List (String × (Char → Bool)) :=
  [("alnum", Char.isAlphanum), ("alpha", Char.isAlpha),
    ("blank", fun c => c == ' ' || c == '\t'),
    ("cntrl", fun c => c.toNat < 32 || c.toNat == 127),
    ("digit", Char.isDigit),
    ("graph", fun c => 33 ≤ c.toNat && c.toNat ≤ 126),
    ("lower", Char.isLower),
    ("print", fun c => 32 ≤ c.toNat && c.toNat ≤ 126),
    ("punct", fun c => 33 ≤ c.toNat && c.toNat ≤ 126 && !c.isAlphanum),
    ("space", fun c => c == ' ' || ('\t' ≤ c && c ≤ '\r')),
    ("upper", Char.isUpper),
    ("xdigit", fun c => c.isDigit || ('a' ≤ c && c ≤ 'f') || ('A' ≤ c && c ≤ 'F'))]

/-- Whether a character is in the named set at the start of a pattern, and what follows the name. -/
def named? (c : Char) (pattern : List Char) : Option (Bool × List Char) :=
  namedSets.findSome? fun (name, has) =>
    let text := (":" ++ name ++ ":]").toList
    if text.isPrefixOf pattern then some (has c, pattern.drop text.length) else none

/-- Whether a character is in the set at the start of a pattern, whose opening bracket is read, and
what follows the set. There is no answer if the set is not closed. -/
def inBracket (c : Char) : Nat → Bool → Bool → List Char → Option (Bool × List Char)
  | 0, _, _, _ => none
  | fuel + 1, isFirst, found, pattern =>
      let single := fun (low : Char) (rest : List Char) =>
        match rest with
        | '-' :: '\\' :: high :: rest => (low ≤ c && c ≤ high, rest)
        | '-' :: high :: rest =>
            if high = ']' then (c == low, '-' :: high :: rest) else (low ≤ c && c ≤ high, rest)
        | rest => (c == low, rest)
      match pattern with
      | [] => none
      | ']' :: rest =>
          if isFirst then
            let (hit, rest) := single ']' rest
            inBracket c fuel false (found || hit) rest
          else some (found, rest)
      | '[' :: rest =>
          match named? c rest with
          | some (hit, rest) => inBracket c fuel false (found || hit) rest
          | none =>
              let (hit, rest) := single '[' rest
              inBracket c fuel false (found || hit) rest
      | '\\' :: d :: rest =>
          let (hit, rest) := single d rest
          inBracket c fuel false (found || hit) rest
      | d :: rest =>
          let (hit, rest) := single d rest
          inBracket c fuel false (found || hit) rest

/-- Whether a character fits the set at the start of a pattern, whose opening bracket is read. -/
def bracket (c : Char) (pattern : List Char) : Option (Bool × List Char) :=
  match pattern with
  | '!' :: rest =>
      (inBracket c (rest.length + 1) true false rest).map fun (hit, rest) => (!hit, rest)
  | _ => inBracket c (pattern.length + 1) true false pattern

def fitsWithin : Nat → List Char → List Char → Bool
  | 0, _, _ => false
  | _ + 1, [], text => text.isEmpty
  | fuel + 1, '*' :: rest, text =>
      fitsWithin fuel rest text ||
        (match text with
        | [] => false
        | _ :: text => fitsWithin fuel ('*' :: rest) text)
  | _ + 1, _ :: _, [] => false
  | fuel + 1, '?' :: rest, _ :: text => fitsWithin fuel rest text
  | fuel + 1, '[' :: rest, c :: text =>
      match bracket c rest with
      | some (hit, after) => hit && fitsWithin fuel after text
      | none => c == '[' && fitsWithin fuel rest text
  | fuel + 1, '\\' :: p :: rest, c :: text => p == c && fitsWithin fuel rest text
  | fuel + 1, p :: rest, c :: text => p == c && fitsWithin fuel rest text

/-- Whether a whole text fits a pattern. -/
def fits (pattern text : List Char) : Bool :=
  fitsWithin (pattern.length + text.length + 1) pattern text

/-- The pattern up to a slash, and what follows from the slash on. -/
def splitName : List Char → List Char × List Char
  | [] => ([], [])
  | '/' :: rest => ([], '/' :: rest)
  | '\\' :: '/' :: rest => ([], '/' :: rest)
  | '\\' :: c :: rest =>
      let (name, after) := splitName rest
      ('\\' :: c :: name, after)
  | c :: rest =>
      let (name, after) := splitName rest
      (c :: name, after)

/-- Whether a bracket that was opened is closed again. -/
def isClosed : List Char → Bool
  | [] => false
  | ']' :: _ => true
  | '\\' :: _ :: rest => isClosed rest
  | _ :: rest => isClosed rest

/-- Whether a pattern has a wildcard. -/
def isActive : List Char → Bool
  | [] => false
  | '*' :: _ | '?' :: _ => true
  | '[' :: rest => isClosed (match rest with
      | '!' :: _ :: more => more
      | _ :: more => more
      | [] => []) || isActive rest
  | '\\' :: _ :: rest => isActive rest
  | _ :: rest => isActive rest

/-- The text of a pattern without wildcards. -/
def unescape : List Char → List Char
  | [] => []
  | '\\' :: c :: rest => c :: unescape rest
  | c :: rest => c :: unescape rest

/-- The names of the entries of a directory in their order, those of the directory itself and of the
one around it included. -/
def namesIn (files : Files) (loc : Location) : List String :=
  let names := files.entries.filterMap fun (place, _) =>
    if place.length = loc.length + 1 && loc.isPrefixOf place then place.getLast? else none
  (["." , ".."] ++ names.map ByteText.ofText).mergeSort fun a b => a ≤ b

/-- The paths that fit a pattern. `before` is the path that leads to where the pattern starts. -/
def pathsFrom (files : Files) : Nat → String → List Char → List String
  | 0, _, _ => []
  | fuel + 1, before, pattern =>
      let (name, after) := splitName pattern
      if isActive name then
        let dir := if before.isEmpty then "." else ByteText.toText before
        match files.find dir with
        | .ok (.directory loc) =>
            let showsDots := name.head? = some '.' || ['\\', '.'].isPrefixOf name
            let names := (namesIn files loc).filter fun n =>
              (showsDots || !n.startsWith ".") && fits name n.toList
            names.flatMap fun n =>
              if after.isEmpty then [before ++ n]
              else pathsFrom files fuel (before ++ n ++ "/") (after.drop 1)
        | _ => []
      else
        let path := before ++ String.ofList (unescape name)
        if after.isEmpty then
          match files.resolve (ByteText.toText path) false with
          | .ok (.missing ..) | .error _ => []
          | .ok _ => [path]
        else pathsFrom files fuel (path ++ "/") (after.drop 1)

/-- The paths that fit a pattern, in their order. -/
def paths (files : Files) (pattern : List Char) : List String :=
  if isActive pattern then
    (pathsFrom files (pattern.length + 1) "" pattern).mergeSort fun a b => a ≤ b
  else []

end SourceReducer.Wildcard
