import SourceReducer.Text.Property

/-! Patterns: regular expressions over characters, with assertions about places in the text.
Matching works on sets of places, so the order in which alternatives are tried plays no part. -/
namespace SourceReducer

/-- The edges of words that a place can be at. -/
inductive Edge
  /-- Between a word and no word. -/
  | any
  | none
  | start
  | finish
  /-- No character of a word stands before the place. -/
  | startHalf
  /-- No character of a word stands after the place. -/
  | finishHalf
deriving BEq

/-- Something that a place in a text has to be. -/
inductive Assertion
  | textStart
  | textEnd
  /-- The start of a line. With `crlf` a carriage return ends lines as well. -/
  | lineStart (crlf : Bool)
  | lineEnd (crlf : Bool)
  /-- An edge of words that are made of the characters of a set. -/
  | edge (word : CharSet) (kind : Edge)

inductive Pattern
  | empty
  | one (set : CharSet)
  | place (assertion : Assertion)
  | seq (a b : Pattern)
  | alt (a b : Pattern)
  /-- At least `low` and at most `high` times. -/
  | times (low : Nat) (high : Option Nat) (a : Pattern)
  /-- A part whose match is kept apart. -/
  | group (a : Pattern)

def Edge.holds (before after : Bool) : Edge → Bool
  | .any => before != after
  | .none => before == after
  | .start => !before && after
  | .finish => before && !after
  | .startHalf => !before
  | .finishHalf => !after

/-- Whether a place lies between two given characters as asked for. -/
def Assertion.holds (before after : Option Char) : Assertion → Bool
  | .textStart => before.isNone
  | .textEnd => after.isNone
  | .lineStart false => before.isNone || before == some '\n'
  | .lineStart true =>
      before.isNone || before == some '\n' || before == some '\r' && after != some '\n'
  | .lineEnd false => after.isNone || after == some '\n'
  | .lineEnd true =>
      after.isNone || after == some '\r' || after == some '\n' && before != some '\r'
  | .edge word kind => kind.holds (before.any word.has) (after.any word.has)

/-- A set of places in a text, as the bits of a number. Place `i` is the one before character
`i`. -/
abbrev Places := Nat

/-- The places of a list that are marked, the first of which counts as `bit`, together with `taken`.
They are taken in portions of 32, so that most of the sums are of small numbers. -/
def Places.ofMarksFrom (taken bit : Nat) : List Bool → Places
  | [] => taken
  | mark :: rest =>
      let taken := if mark then taken + bit else taken
      if bit = Nat.pow 2 31 then taken + Nat.pow 2 32 * ofMarksFrom 0 1 rest
      else ofMarksFrom taken (2 * bit) rest

/-- The places of a list that are marked, the first of them being place 0. -/
def Places.ofMarks (marks : List Bool) : Places :=
  ofMarksFrom 0 1 marks

/-- The marks of the places between the characters of a text. -/
def placeMarks (f : Option Char → Option Char → Bool) : Option Char → List Char → List Bool
  | before, [] => [f before none]
  | before, c :: rest => f before (some c) :: placeMarks f (some c) rest

/-- A pattern prepared for one text: the places where a character of a set stands, and those where
an assertion holds. -/
inductive Plan
  | stay (at_ : Places)
  | step (at_ : Places)
  | seq (a b : Plan)
  | alt (a b : Plan)
  | times (low : Nat) (high : Option Nat) (a : Plan)

/-- Takes a step a number of times. -/
def repeatStep (step : Places → Places) : Nat → Places → Places
  | 0, places => places
  | n + 1, places => if places = 0 then 0 else repeatStep step n (step places)

/-- Takes a step up to a number of times and keeps all places on the way. It stops when a step finds
no new place. -/
def collectSteps (step : Places → Places) : Nat → Places → Places
  | 0, places => places
  | n + 1, places =>
      let more := places ||| step places
      if more = places then places else collectSteps step n more

/-- Takes up to `2 ^ n - 1` more steps of `width` characters, where `here` are the places that allow
one, and keeps all places on the way. Two steps are one of twice the width, so every round doubles
the reach. -/
def collectRun : Nat → Nat → Places → Places → Places
  | 0, _, _, places => places
  | n + 1, width, here, places =>
      collectRun n (2 * width) (here &&& (here >>> width))
        (places ||| ((places &&& here) <<< width))

/-- The places at which a match can end that starts at one of the given places, in a text of `size`
characters. -/
def Plan.ends (size : Nat) : Plan → Places → Places
  | .stay here, places => places &&& here
  | .step here, places => (places &&& here) <<< 1
  | .seq a b, places => b.ends size (a.ends size places)
  | .alt a b, places => a.ends size places ||| b.ends size places
  | .times low high a, places =>
      let least := repeatStep (a.ends size) low places
      match high, a with
      | none, .step here => collectRun (Nat.log2 (size + 1) + 1) 1 here least
      | none, _ => collectSteps (a.ends size) (size + 1) least
      | some most, _ => collectSteps (a.ends size) (most - low) least

namespace Pattern

def plan (text : List Char) : Pattern → Plan
  | .empty => .stay (Nat.pow 2 (text.length + 1) - 1)
  | .one set => .step (.ofMarks (text.map set.has))
  | .place assertion => .stay (.ofMarks (placeMarks assertion.holds none text))
  | .seq a b => .seq (a.plan text) (b.plan text)
  | .alt a b => .alt (a.plan text) (b.plan text)
  | .times low high a => .times low high (a.plan text)
  | .group a => a.plan text

/-- Whether a pattern matches somewhere in a text. -/
def occursIn (p : Pattern) (text : String) : Bool :=
  let chars := text.toList
  (p.plan chars).ends chars.length (Nat.pow 2 (chars.length + 1) - 1) != 0

/-- Two patterns in turn. -/
def andThen : Pattern → Pattern → Pattern
  | .empty, b => b
  | a, .empty => a
  | a, b => .seq a b

/-- The set of characters of a pattern that matches one of them. -/
def set? : Pattern → Option CharSet
  | .one set => some set
  | _ => none

/-- One of several patterns. Sets of characters alone are one set. -/
def oneOf (ps : List Pattern) : Pattern :=
  match ps with
  | [p] => p
  | ps =>
      match ps.mapM set? with
      | some sets => .one (.unions sets)
      | none =>
          match ps.reverse with
          | [] => .one .empty
          | last :: earlier => earlier.foldl (fun after p => .alt p after) last

/-- Whether only the text without characters can match. -/
def isWidthless : Pattern → Bool
  | .empty | .place _ => true
  | .one _ => false
  | .seq a b | .alt a b => a.isWidthless && b.isWidthless
  | .times _ high a => high == some 0 || a.isWidthless
  | .group a => a.isWidthless

/-- A pattern a number of times. What has no width matches as well once as many times. -/
def repeated (low : Nat) (high : Option Nat) (a : Pattern) : Pattern :=
  let (low, high) :=
    if a.isWidthless then (min low 1, some (min (high.getD 1) 1)) else (low, high)
  match low, high with
  | 0, some 0 => .empty
  | 1, some 1 => a
  | low, high => .times low high a

/-- A pattern for each of several characters in turn. -/
def ofChars (f : Char → Pattern) : List Char → Pattern
  | [] => .empty
  | [c] => f c
  | c :: rest => .seq (f c) (ofChars f rest)

end Pattern

end SourceReducer
