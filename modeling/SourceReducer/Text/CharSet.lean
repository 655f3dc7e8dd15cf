import SourceReducer.Text.Hex

/-! Sets of characters, as closed ranges of code points in increasing order that do not touch. -/
namespace SourceReducer

structure CharSet where
  ranges : Array (Nat × Nat)

namespace CharSet

def empty : CharSet :=
  ⟨#[]⟩

/-- Joins ranges that touch or overlap. They come in the order of their first code points. -/
def joinRanges : List (Nat × Nat) → List (Nat × Nat)
  | [] => []
  | [range] => [range]
  | (low, high) :: (next, last) :: rest =>
      if next ≤ high + 1 then joinRanges ((low, max high last) :: rest)
      else (low, high) :: joinRanges ((next, last) :: rest)
termination_by ranges => ranges.length

def ofRanges (ranges : List (Nat × Nat)) : CharSet :=
  ⟨(joinRanges (ranges.mergeSort fun a b => a.1 ≤ b.1)).toArray⟩

def range (low high : Char) : CharSet :=
  ⟨#[(low.toNat, high.toNat)]⟩

def single (c : Char) : CharSet :=
  range c c

def ofChars (cs : List Char) : CharSet :=
  ofRanges (cs.map fun c => (c.toNat, c.toNat))

/-- Looks for a number in the ranges from `low` up to, but without, `high`. -/
def search (ranges : Array (Nat × Nat)) (n low high : Nat) : Bool :=
  if low < high then
    let middle := (low + high) / 2
    match ranges[middle]? with
    | none => false
    | some (first, last) =>
        if n < first then search ranges n low middle
        else if last < n then search ranges n (middle + 1) high
        else true
  else false
termination_by high - low

def hasCode (s : CharSet) (n : Nat) : Bool :=
  search s.ranges n 0 s.ranges.size

def has (s : CharSet) (c : Char) : Bool :=
  s.hasCode c.toNat

def union (a b : CharSet) : CharSet :=
  if a.ranges.isEmpty then b
  else if b.ranges.isEmpty then a
  else ofRanges (a.ranges.toList ++ b.ranges.toList)

def unions (sets : List CharSet) : CharSet :=
  ofRanges (sets.flatMap fun s => s.ranges.toList)

/-- The part of a range on either side of the code points that are no characters. -/
def dropSurrogates (low high : Nat) : List (Nat × Nat) :=
  let below := if low < 0xD800 then [(low, min high 0xD7FF)] else []
  let above := if 0xDFFF < high then [(max low 0xE000, high)] else []
  below ++ above

/-- The ranges between those given, from `start` on. -/
def gaps : Nat → List (Nat × Nat) → List (Nat × Nat)
  | start, [] => if start ≤ 0x10FFFF then [(start, 0x10FFFF)] else []
  | start, (low, high) :: rest =>
      if start < low then (start, low - 1) :: gaps (high + 1) rest else gaps (high + 1) rest

/-- All other characters. -/
def complement (s : CharSet) : CharSet :=
  ⟨((gaps 0 s.ranges.toList).flatMap fun r => dropSurrogates r.1 r.2).toArray⟩

def any : CharSet :=
  empty.complement

def inter (a b : CharSet) : CharSet :=
  (a.complement.union b.complement).complement

def without (a b : CharSet) : CharSet :=
  a.inter b.complement

/-- What is in one of two sets, but not in both. -/
def either (a b : CharSet) : CharSet :=
  (a.union b).without (a.inter b)

/-- Whether all members are below U+0080. -/
def isAscii (s : CharSet) : Bool :=
  s.ranges.all fun r => r.2 < 0x80

/-- The one member of a set that has only one. -/
def single? (s : CharSet) : Option Char :=
  match s.ranges.toList with
  | [(low, high)] => if low = high then some (Char.ofNat low) else none
  | _ => none

end CharSet

/-- A number at the start of a text, in hexadecimal digits, and what follows it. -/
def readCode : Nat → List Char → Nat × List Char
  | n, [] => (n, [])
  | n, c :: rest =>
      match hexValue? c with
      | some d => readCode (16 * n + d) rest
      | none => (n, c :: rest)

/-- Code points from `first` to `last` in equal steps, and a target for the first of them. -/
structure CodeSpan where
  first : Nat
  last : Nat
  step : Nat
  target : Nat

/-- Reads a span: `41` for one code point, `41-5A` for all up to another, `100-12E/2` in steps of
two, each with `>61` behind it for a target. -/
def CodeSpan.ofWord (word : List Char) : CodeSpan :=
  let (first, rest) := readCode 0 word
  let (last, rest) := match rest with
    | '-' :: rest => readCode 0 rest
    | _ => (first, rest)
  let (step, rest) := match rest with
    | '/' :: rest => readCode 0 rest
    | _ => (1, rest)
  let (target, _) := match rest with
    | '>' :: rest => readCode 0 rest
    | _ => (0, rest)
  { first, last, step, target }

/-- The words of a line, which blanks separate. -/
def lineWords : List Char → List Char → List (List Char)
  | word, [] => if word.isEmpty then [] else [word.reverse]
  | word, c :: rest =>
      if c = ' ' then
        if word.isEmpty then lineWords [] rest else word.reverse :: lineWords [] rest
      else lineWords (c :: word) rest

def codeSpansOf (lines : List String) : List CodeSpan :=
  lines.flatMap fun line => (lineWords [] line.toList).map CodeSpan.ofWord

/-- The code points of a span, each or all together as a range. -/
def CodeSpan.ranges (s : CodeSpan) : List (Nat × Nat) :=
  if s.step ≤ 1 then [(s.first, s.last)]
  else (List.range ((s.last - s.first) / s.step + 1)).map fun i =>
    (s.first + i * s.step, s.first + i * s.step)

/-- The set that a table of spans lists. -/
def CharSet.ofTable (lines : List String) : CharSet :=
  .ofRanges ((codeSpansOf lines).flatMap CodeSpan.ranges)

end SourceReducer
