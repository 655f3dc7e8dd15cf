import SourceReducer.Command.Numeral
import SourceReducer.Command.Wildcard
import SourceReducer.Pattern.Basic
import SourceReducer.Text.Casing

/-! The expressions that lines are searched for, in the basic and in the extended way of writing
them. The two differ in which signs need a backslash to be special. -/
namespace SourceReducer.Grep

inductive Expression
  | empty
  | one (set : CharSet)
  | place (assertion : Assertion)
  | seq (a b : Expression)
  | alt (a b : Expression)
  | times (low : Nat) (high : Option Nat) (a : Expression)
  | group (number : Nat) (a : Expression)
  /-- What a group matched, once more. -/
  | again (number : Nat)

inductive Fault
  | openBracket
  | openGroup
  | closedGroup
  | openInterval
  | interval
  | tooBig
  | trailingBackslash
  | backReference
  | className
  | collation
  | rangeEnd
  | bareClass
  /-- A bracket with nothing behind it. -/
  | malformed

def Fault.message : Fault → String
  | .openBracket => "Unmatched [, [^, [:, [., or [="
  | .openGroup => "Unmatched ( or \\("
  | .closedGroup => "Unmatched ) or \\)"
  | .openInterval => "Unmatched \\\x7b"
  | .interval => "Invalid content of \\\x7b\\\x7d"
  | .tooBig => "Regular expression too big"
  | .trailingBackslash => "Trailing backslash"
  | .backReference => "Invalid back reference"
  | .className => "Invalid character class name"
  | .collation => "Invalid collation character"
  | .rangeEnd => "Invalid range end"
  | .bareClass => "character class syntax is [[:space:]], not [:space:]"
  | .malformed => "Invalid regular expression"

/-- The way in which an expression is written, and whether the case of letters counts. -/
structure Dialect where
  isExtended : Bool
  anyCase : Bool

structure Reading where
  rest : List Char
  /-- How many groups were opened. -/
  groups : Nat := 0
  /-- How many groups are open. -/
  depth : Nat := 0
  closed : List Nat := []
  /-- Signs of repetition with nothing before them. -/
  warnings : List String := []

abbrev Reader := EStateM Fault Reading

def wordSet : CharSet :=
  .ofRanges [(48, 57), (65, 90), (95, 95), (97, 122)]

/-- The characters below 256 with a property. -/
def setOf (has : Char → Bool) : CharSet :=
  .ofChars (((List.range 256).map Char.ofNat).filter has)

/-- All characters but those of a set. -/
def except (s : CharSet) : CharSet :=
  CharSet.without (.ofRanges [(0, 255)]) s

/-- The highest number of repetitions. -/
def maxTimes : Nat := 32767

inductive Sign
  | bar
  | opening
  | closing
  | times (text : String) (low : Nat) (high : Option Nat)
  /-- A sign that opens a number of repetitions and is not followed by one. -/
  | badInterval (fault : Fault)

/-- A number of repetitions as it is written. -/
inductive Bound
  | missing
  | number (n : Nat)
  | wrong

/-- The sign that ends a number of repetitions. -/
inductive BoundEnd
  | comma
  | closing
  | textEnd
  deriving DecidableEq

/-- A number of repetitions up to the sign that ends it, and what follows that sign. -/
def readBound (isExtended : Bool) : Bound → List Char → Bound × BoundEnd × List Char
  | _, [] => (.wrong, .textEnd, [])
  | bound, ',' :: rest => (bound, .comma, rest)
  | bound, '\x7d' :: rest =>
      if isExtended then (bound, .closing, rest) else readBound isExtended .wrong rest
  | bound, '\\' :: '\x7d' :: rest =>
      if isExtended then readBound isExtended .wrong rest else (bound, .closing, rest)
  | bound, c :: rest =>
      let next := match bound with
        | .wrong => .wrong
        | .missing => if c.isDigit then .number (c.toNat - 48) else .wrong
        | .number n => if c.isDigit then .number (10 * n + (c.toNat - 48)) else .wrong
      readBound isExtended next rest

/-- The numbers of repetitions behind the sign that opens them, and what follows. Nothing is there
if the sign stands for itself. -/
def readInterval (isExtended : Bool) (cs : List Char) :
    Option (Except Fault (Nat × Option Nat × List Char)) :=
  let wrong := fun (stop : BoundEnd) =>
    if isExtended then none
    else some (.error (if stop = .textEnd then Fault.openInterval else .interval))
  let finish := fun (low : Nat) (high : Option Nat) (stop : BoundEnd) (rest : List Char) =>
    if high.any (· < low) || stop ≠ .closing then some (.error .interval)
    else if maxTimes < high.getD low then some (.error .tooBig)
    else some (.ok (low, high, rest))
  let upTo := fun (low : Nat) (rest : List Char) =>
    match readBound isExtended .missing rest with
    | (.wrong, stop, _) => wrong stop
    | (.missing, stop, rest) => finish low none stop rest
    | (.number high, stop, rest) => finish low (some high) stop rest
  match readBound isExtended .missing cs with
  | (.wrong, stop, _) => wrong stop
  | (.missing, .comma, rest) => upTo 0 rest
  | (.missing, _, _) => some (.error .interval)
  | (.number low, .comma, rest) => upTo low rest
  | (.number low, stop, rest) => finish low (some low) stop rest

/-- The special sign at the start of a text, and what follows it. -/
def sign? (isExtended : Bool) (cs : List Char) : Option (Sign × List Char) :=
  let special := match isExtended, cs with
    | false, '\\' :: c :: rest => if c == '*' then none else some (c, rest)
    | false, '*' :: rest => some ('*', rest)
    | true, c :: rest => if c == '\\' then none else some (c, rest)
    | _, _ => none
  match special with
  | some ('|', rest) => some (.bar, rest)
  | some ('(', rest) => some (.opening, rest)
  | some (')', rest) => some (.closing, rest)
  | some ('*', rest) => some (.times "*" 0 none, rest)
  | some ('+', rest) => some (.times "+" 1 none, rest)
  | some ('?', rest) => some (.times "?" 0 (some 1), rest)
  | some ('\x7b', rest) =>
      match readInterval isExtended rest with
      | some (.ok (low, high, rest)) => some (.times "\x7b...\x7d" low high, rest)
      | some (.error fault) => some (.badInterval fault, rest)
      | none => none
  | _ => none

/-- A member of a bracket. -/
inductive Member
  | char (c : Char)
  | collected (c : Char)
  | named (set : CharSet)

/-- The text up to a mark and a bracket, and what follows. -/
def spanMark (mark : Char) : List Char → Option (List Char × List Char)
  | [] => none
  | c :: rest =>
      if c == mark && rest.head? = some ']' then some ([], rest.drop 1)
      else (spanMark mark rest).map fun (inside, after) => (c :: inside, after)

/-- Reads a member of a bracket. -/
def readMember : List Char → Except Fault (Member × List Char)
  | [] => .error .openBracket
  | '[' :: mark :: rest =>
      if mark == ':' then
        match spanMark ':' rest with
        | none => .error .openBracket
        | some (name, after) =>
            match Wildcard.namedSets.lookup (String.ofList name) with
            | some has => .ok (.named (setOf has), after)
            | none => .error .className
      else if mark == '.' || mark == '=' then
        match spanMark mark rest with
        | none => .error .openBracket
        | some ([c], after) => .ok (.collected c, after)
        | some _ => .error .collation
      else .ok (.char '[', mark :: rest)
  | c :: rest => .ok (.char c, rest)

def Member.char? : Member → Option Char
  | .char c | .collected c => some c
  | .named _ => none

/-- What a bracket holds: its characters, and those of them that stand there alone. -/
structure Bracket where
  set : CharSet := .empty
  plain : List Char := []
  isPlain : Bool := true

/-- Reads a member or a range of a bracket. A dash that is no range stands first or last. -/
def Bracket.readPart (b : Bracket) (isFirst : Bool) (cs : List Char) :
    Except Fault (Bracket × List Char) := do
  if !isFirst && cs.head? = some '-' && (cs.drop 1).head?.any (· != ']') then throw .rangeEnd
  let (member, rest) ← readMember cs
  let alone : Bracket := match member with
    | .char c => { b with set := b.set.union (.single c), plain := b.plain ++ [c] }
    | .collected c => { b with set := b.set.union (.single c), isPlain := false }
    | .named set => { b with set := b.set.union set, isPlain := false }
  match rest with
  | '-' :: next :: more =>
      if next == ']' then return (alone, rest)
      else
        let (last, after) ← readMember (next :: more)
        match member.char?, last.char? with
        | some low, some high =>
            if high < low then throw .rangeEnd
            else return ({ b with set := b.set.union (.range low high), isPlain := false }, after)
        | _, _ => throw .rangeEnd
  | _ => return (alone, rest)

/-- Reads a bracket up to its end. A closing bracket that stands first is a member. -/
def Bracket.read : Nat → Bool → List Char → Bracket → Except Fault (Bracket × List Char)
  | 0, _, _, _ => .error .openBracket
  | _ + 1, false, ']' :: rest, b => .ok (b, rest)
  | fuel + 1, isFirst, cs, b => do
      let (b, rest) ← b.readPart isFirst cs
      Bracket.read fuel false rest b

/-- Whether a bracket looks like a named set without the brackets around it. -/
def Bracket.isBareClass (b : Bracket) : Bool :=
  b.isPlain && b.plain.head? = some ':' && b.plain.getLast? = some ':' && b.plain.any (· != ':')

def readSet (dialect : Dialect) (cs : List Char) : Except Fault (CharSet × List Char) := do
  let (negated, members) := match cs with
    | '^' :: rest => (true, rest)
    | _ => (false, cs)
  if members.isEmpty then throw .malformed
  let (b, rest) ← Bracket.read (members.length + 1) true members {}
  if b.isBareClass then throw .bareClass
  let set := if dialect.anyCase then b.set.anyAsciiCase else b.set
  return (if negated then except set else set, rest)

namespace Reader

def lift {α : Type} (result : Except Fault α) : Reader α :=
  match result with
  | .ok a => return a
  | .error fault => throw fault

def literal (dialect : Dialect) (c : Char) : Expression :=
  .one (if dialect.anyCase then (CharSet.single c).anyAsciiCase else .single c)

/-- What a backslash before a character stands for, if it has a meaning of its own. -/
def escape? : Char → Option Expression
  | 'w' => some (.one wordSet)
  | 'W' => some (.one (except wordSet))
  | 's' => some (.one (setOf isAsciiSpace))
  | 'S' => some (.one (except (setOf isAsciiSpace)))
  | 'b' => some (.place (.edge wordSet .any))
  | 'B' => some (.place (.edge wordSet .none))
  | '<' => some (.place (.edge wordSet .start))
  | '>' => some (.place (.edge wordSet .finish))
  | '\x60' => some (.place .textStart)
  | '\'' => some (.place .textEnd)
  | _ => none

/-- Whether a dollar sign before a text stands for the end of a line. -/
def endsLine (isExtended : Bool) (rest : List Char) : Bool :=
  isExtended || rest.isEmpty || ['\\', ')'].isPrefixOf rest || ['\\', '|'].isPrefixOf rest

def skip (rest : List Char) : Reader Unit :=
  modify fun s => { s with rest }

/-- Signs of repetition behind an expression. `isStart` says that nothing but anchors stands before,
and `isBare` that nothing or an anchor stands right before; there a sign counts for little. -/
def readTimes (dialect : Dialect) : Nat → Bool → Bool → Expression → Reader Expression
  | 0, _, _, a => return a
  | fuel + 1, isStart, isBare, a => do
      let s ← get
      match sign? dialect.isExtended s.rest with
      | some (.times text low high, rest) =>
          let isInterval := text.length != 1
          if isStart && !dialect.isExtended then return a
          else if isBare && !isInterval && rest.head? = some ')' && rest.count ')' ≤ s.depth then
            throw .openGroup
          else
            let warnings := if isStart then s.warnings ++ [text] else s.warnings
            set { s with rest, warnings }
            readTimes dialect fuel (isStart && !isInterval) isBare (.times low high a)
      | some (.badInterval fault, _) =>
          if isStart && !dialect.isExtended then return a else throw fault
      | _ => return a

mutual

/-- Reads alternatives up to the end of a group or of the expression. None of them knows the groups
of another one. -/
def readAlternatives (dialect : Dialect) : Nat → Reader Expression
  | 0 => throw .tooBig
  | fuel + 1 => do
      let before := (← get).closed
      let first ← readBranch dialect fuel true true .empty
      match sign? dialect.isExtended (← get).rest with
      | some (.bar, rest) =>
          let closed := (← get).closed
          modify fun s => { s with rest, closed := before }
          let second ← readAlternatives dialect fuel
          modify fun s => { s with closed := s.closed ++ closed }
          return .alt first second
      | _ => return first

/-- Reads parts in turn. `isFirst` says that nothing stands before, and `isStart` that nothing but
anchors does. -/
def readBranch (dialect : Dialect) : Nat → Bool → Bool → Expression → Reader Expression
  | 0, _, _, _ => throw .tooBig
  | fuel + 1, isFirst, isStart, soFar => do
      let s ← get
      match sign? dialect.isExtended s.rest, s.rest with
      | _, [] => return soFar
      | some (.bar, _), _ => return soFar
      | some (.closing, rest), _ =>
          if 0 < s.depth then return soFar
          else if dialect.isExtended then
            skip rest
            readOn dialect fuel soFar (literal dialect ')')
          else throw .closedGroup
      | some (.opening, rest), _ =>
          let number := s.groups + 1
          set { s with rest, groups := number, depth := s.depth + 1 }
          let inner ← readAlternatives dialect fuel
          let after ← get
          match sign? dialect.isExtended after.rest with
          | some (.closing, rest) =>
              set { after with rest, depth := s.depth, closed := number :: after.closed }
              readOn dialect fuel soFar (.group number inner)
          | _ => throw .openGroup
      | some (.times .., _), c :: more =>
          if dialect.isExtended then
            let part ← readTimes dialect (s.rest.length + 1) isStart true .empty
            readBranch dialect fuel false isStart (.seq soFar part)
          else
            skip (if c == '\\' then more.drop 1 else more)
            readOn dialect fuel soFar (literal dialect (if c == '\\' then more.headD c else c))
      | some (.badInterval fault, rest), _ =>
          if dialect.isExtended then throw fault
          else
            skip rest
            readOn dialect fuel soFar (literal dialect '\x7b')
      | none, '\\' :: [] => throw .trailingBackslash
      | none, '\\' :: c :: rest =>
          skip rest
          if '1' ≤ c && c ≤ '9' then
            if s.closed.contains (c.toNat - 48) then
              readOn dialect fuel soFar (.again (c.toNat - 48))
            else throw .backReference
          else
            match (escape? c).getD (literal dialect c) with
            | .place assertion => readAnchor dialect fuel isStart soFar assertion
            | part => readOn dialect fuel soFar part
      | none, '[' :: rest =>
          let (set, rest) ← lift (readSet dialect rest)
          skip rest
          readOn dialect fuel soFar (.one set)
      | none, '.' :: rest =>
          skip rest
          readOn dialect fuel soFar (.one (except .empty))
      | none, '^' :: rest =>
          skip rest
          if dialect.isExtended || isFirst then readAnchor dialect fuel isStart soFar .textStart
          else readOn dialect fuel soFar (literal dialect '^')
      | none, '$' :: rest =>
          skip rest
          if endsLine dialect.isExtended rest then readAnchor dialect fuel isStart soFar .textEnd
          else readOn dialect fuel soFar (literal dialect '$')
      | none, c :: rest =>
          skip rest
          readOn dialect fuel soFar (literal dialect c)

/-- Goes on behind an anchor, which leaves a start a start. -/
def readAnchor (dialect : Dialect) :
    Nat → Bool → Expression → Assertion → Reader Expression
  | 0, _, _, _ => throw .tooBig
  | fuel + 1, isStart, soFar, assertion => do
      let part ← readTimes dialect ((← get).rest.length + 1) isStart true (.place assertion)
      readBranch dialect fuel false isStart (.seq soFar part)

/-- Goes on behind a part. -/
def readOn (dialect : Dialect) : Nat → Expression → Expression → Reader Expression
  | 0, _, _ => throw .tooBig
  | fuel + 1, soFar, part => do
      let part ← readTimes dialect ((← get).rest.length + 1) false false part
      readBranch dialect fuel false false (.seq soFar part)

end

end Reader

/-- Reads an expression. The signs of repetition that had nothing before them are told as well. -/
def Expression.ofChars (dialect : Dialect) (cs : List Char) :
    Except Fault (Expression × List String) :=
  match (Reader.readAlternatives dialect (4 * cs.length + 8)).run { rest := cs } with
  | .ok e s => .ok (e, s.warnings)
  | .error fault _ => .error fault

/-- The expression of a text that stands for itself. -/
def Expression.fixed (anyCase : Bool) (cs : List Char) : Expression :=
  (cs.map (Reader.literal { isExtended := false, anyCase })).foldr .seq .empty

end SourceReducer.Grep
