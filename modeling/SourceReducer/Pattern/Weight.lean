import SourceReducer.Pattern.Meaning
import Std.Data.HashMap

/-! The memory that patterns take. A pattern is made into an automaton over the bytes of a text,
once to be read forward and once backward. A state takes 32 bytes, a transition of a state that has
several takes 8, and a branch to another state without a byte takes 4. -/
namespace SourceReducer

inductive Direction
  | forward
  | backward

/-- The bytes in a row that a character can be encoded in, each as a range. -/
abbrev ByteRanges := List (Nat × Nat)

/-- The continuation bytes of code points from `low` to `high`, which have `k` of them behind a
first byte. `mark` is what the first byte adds to the leading digits of the code point. -/
def byteRangesOf (mark : Nat) : Nat → Nat → Nat → List ByteRanges
  | 0, low, high => [[(mark + low, mark + high)]]
  | k + 1, low, high =>
      let block := Nat.pow 64 (k + 1)
      let first := low / block
      let last := high / block
      let behind :=
        fun lead ranges => ranges.map fun r : ByteRanges => (mark + lead, mark + lead) :: r
      if first = last then behind first (byteRangesOf 0x80 k (low % block) (high % block))
      else
        let cutLow := low % block != 0
        let cutHigh := high % block != block - 1
        let lower :=
          if cutLow then behind first (byteRangesOf 0x80 k (low % block) (block - 1)) else []
        let upper := if cutHigh then behind last (byteRangesOf 0x80 k 0 (high % block)) else []
        let first := if cutLow then first + 1 else first
        let last := if cutHigh then last - 1 else last
        let middle :=
          if first ≤ last then
            [(mark + first, mark + last) :: List.replicate (k + 1) (0x80, 0xBF)]
          else []
        lower ++ middle ++ upper

/-- The part of a range between two bounds. -/
def clip (low high first last : Nat) : Option (Nat × Nat) :=
  if max low first ≤ min high last then some (max low first, min high last) else none

/-- How the characters of a range are encoded. -/
def encodings (low high : Nat) : List ByteRanges :=
  [(0, 0x7F, 0, 0), (0x80, 0x7FF, 0xC0, 1), (0x800, 0xFFFF, 0xE0, 2),
    (0x10000, 0x10FFFF, 0xF0, 3)].flatMap fun (first, last, mark, k) =>
      match clip low high first last with
      | some (low, high) => byteRangesOf mark k low high
      | none => []

def CharSet.encodings (s : CharSet) : List ByteRanges :=
  s.ranges.toList.flatMap fun (low, high) =>
    (dropSurrogates low high).flatMap fun (low, high) => SourceReducer.encodings low high

/-- Neighbours in a list that start alike, as one entry with what follows the start. -/
def groupStarts {α : Type} [BEq α] : List (List α) → List (α × List (List α))
  | [] => []
  | [] :: rest => groupStarts rest
  | (a :: tail) :: rest =>
      match groupStarts rest with
      | (b, tails) :: groups =>
          if a == b then (b, tail :: tails) :: groups else (a, [tail]) :: (b, tails) :: groups
      | [] => [(a, [tail])]

/-- The number of different starts of the words of a list, of `fuel` letters at most. Words that
start alike are neighbours. -/
def countStarts {α : Type} [BEq α] : Nat → List (List α) → Nat
  | 0, _ => 0
  | fuel + 1, words =>
      (groupStarts words).foldl (fun n group => n + 1 + countStarts fuel group.2) 0

/-- States that are told apart by where their transitions lead, and the bytes they take. -/
structure States where
  known : Std.HashMap (List (Nat × Nat × Nat)) Nat := {}
  bytes : Nat := 0

/-- The state that reads the given byte ranges, which is made if there is none yet. -/
def States.intern : Nat → List ByteRanges → States → Nat × States
  | 0, _, states => (0, states)
  | fuel + 1, words, states =>
      let (edges, states) := (groupStarts words).foldl (fun (edges, states) group =>
        let (target, states) :=
          if group.2.all List.isEmpty then (0, states) else intern fuel group.2 states
        ((group.1.1, group.1.2, target) :: edges, states)) ([], states)
      match states.known[edges]? with
      | some state => (state, states)
      | none =>
          let state := states.known.size + 1
          (state, { known := states.known.insert edges state,
                    bytes := states.bytes + 32 + 8 * edges.length })

/-- The memory for one character of a set. -/
def CharSet.weight (direction : Direction) (s : CharSet) : Nat :=
  match s.single? with
  | some c => 32 * c.utf8Size
  | none =>
      if s.isAscii then 64 + 8 * s.ranges.size
      else
        let words := s.encodings
        match direction with
        | .forward => 32 + (States.intern 4 words {}).2.bytes
        | .backward => 64 + 4 * words.length + 32 * countStarts 4 words

/-- The memory for one of several words. Their common starts are shared. -/
def wordsWeight : Nat → List (List Nat) → Nat
  | 0, _ => 0
  | fuel + 1, words =>
      let groups := groupStarts words
      let own := if groups.length ≤ 1 then 32 else 32 + 8 * groups.length
      groups.foldl (fun n group =>
        if group.2.all List.isEmpty then n else n + wordsWeight fuel group.2) own

/-- The order of words by their letters. -/
def wordLe : List Nat → List Nat → Bool
  | [], _ => true
  | _ :: _, [] => false
  | a :: as, b :: bs => a < b || a == b && wordLe as bs

/-- Alternatives: the memory for each of them alone, their number, and the words that they are, if
all of them are words. -/
structure Alternatives where
  bytes : Nat
  count : Nat
  words : Option (List (List Nat))

def Alternatives.weight (direction : Direction) (a : Alternatives) : Nat :=
  if a.count ≤ 1 then a.bytes
  else
    match a.words with
    | none => a.bytes + 64 + 4 * a.count
    | some words =>
        let words := match direction with
          | .forward => words
          | .backward => words.map List.reverse
        let longest := words.foldl (fun n word => max n word.length) 0
        32 + wordsWeight (longest + 1) (words.mergeSort wordLe)

namespace Pattern

/-- Whether the text without characters can match. -/
def matchesEmpty : Pattern → Bool
  | .empty | .place _ => true
  | .one set => set.ranges.isEmpty
  | .seq a b => a.matchesEmpty && b.matchesEmpty
  | .alt a b => a.matchesEmpty || b.matchesEmpty
  | .times low _ a => low == 0 || a.matchesEmpty
  | .group a => a.matchesEmpty

/-- The memory for a repetition of something that takes `bytes` each time. -/
def repetitionWeight (low : Nat) (high : Option Nat) (matchesEmpty : Bool) (bytes : Nat) : Nat :=
  match low, high with
  | 0, none => if matchesEmpty then bytes + 112 else bytes + 40
  | low, none => low * bytes + 40
  | 0, some 1 => bytes + 72
  | low, some high =>
      if low = high then low * bytes
      else (if low = 0 then 32 else low * bytes) + 32 + (high - low) * (bytes + 40)

/-- The alternatives of a pattern, with their memory. -/
def weighed (direction : Direction) : Pattern → Alternatives
  | .empty => { bytes := 32, count := 1, words := none }
  | .one set =>
      { bytes := set.weight direction
        count := 1
        words := set.single?.map fun c =>
          [(String.singleton c).toUTF8.toList.map UInt8.toNat] }
  | .place _ => { bytes := 32, count := 1, words := none }
  | .seq a b =>
      let a := a.weighed direction
      let b := b.weighed direction
      { bytes := a.weight direction + b.weight direction
        count := 1
        words :=
          match a.words, b.words with
          | some [v], some [w] => some [v ++ w]
          | _, _ => none }
  | .alt a b =>
      let a := a.weighed direction
      let b := b.weighed direction
      { bytes := a.bytes + b.bytes
        count := a.count + b.count
        words := do return (← a.words) ++ (← b.words) }
  | .times low high a =>
      { bytes := repetitionWeight low high a.matchesEmpty ((a.weighed direction).weight direction)
        count := 1
        words := none }
  | .group a =>
      let inner := (a.weighed direction).weight direction
      { bytes := match direction with
          | .forward => inner + 64
          | .backward => inner
        count := 1
        words := none }

/-- The memory for a whole pattern, with what leads to its start and tells its end. -/
def weight (p : Pattern) : Nat :=
  max (((p.weighed .forward).weight .forward) + 208)
    (((p.weighed .backward).weight .backward) + 144)

/-- The memory that a pattern may take. -/
def maxWeight : Nat := 10 * Nat.pow 2 20

/-- The pattern that a text stands for. -/
def ofString (text : String) : Except Fault Pattern := do
  let p ← ofForm (← readForm text)
  if p.weight ≤ maxWeight then return p else throw (.tooLarge maxWeight)

end Pattern

end SourceReducer
