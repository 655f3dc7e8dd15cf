import SourceReducer.Command.Grep.Expression

/-! Where expressions match in a line. Without references to groups all places are followed at once;
with them, every way to match is followed on its own. -/
namespace SourceReducer.Grep

/-- Whether an expression asks for what a group matched. -/
def Expression.recalls : Expression → Bool
  | .empty | .one _ | .place _ => false
  | .seq a b | .alt a b => a.recalls || b.recalls
  | .times _ _ a | .group _ a => a.recalls
  | .again _ => true

/-- The pattern of an expression without references to groups. -/
def Expression.toPattern : Expression → Pattern
  | .empty => .empty
  | .one set => .one set
  | .place assertion => .place assertion
  | .seq a b => .seq a.toPattern b.toPattern
  | .alt a b => .alt a.toPattern b.toPattern
  | .times low high a => .times low high a.toPattern
  | .group _ a => a.toPattern
  | .again _ => .one .empty

/-- A way to match: the place it has reached and the spans of the groups. -/
structure Way where
  place : Nat
  groups : List (Nat × Nat × Nat) := []
  deriving BEq

/-- Takes a step a number of times. -/
def repeatWays (step : Way → List Way) : Nat → List Way → List Way
  | 0, ways => ways
  | n + 1, ways => repeatWays step n (ways.flatMap step).eraseDups

/-- Takes a step up to a number of times, and keeps all ways that are found. -/
def collectWays (step : Way → List Way) : Nat → List Way → List Way → List Way
  | 0, _, found => found
  | n + 1, latest, found =>
      match (latest.flatMap step).eraseDups.filter (!found.contains ·) with
      | [] => found
      | more => collectWays step n more (found ++ more)

/-- The ways on which a match can go on from a place in a text. -/
def Expression.ways (text : Array Char) (sameCase : Char → Char → Bool) :
    Expression → Way → List Way
  | .empty, w => [w]
  | .one set, w => if text[w.place]?.any set.has then [{ w with place := w.place + 1 }] else []
  | .place assertion, w =>
      let before := if w.place = 0 then none else text[w.place - 1]?
      if assertion.holds before text[w.place]? then [w] else []
  | .seq a b, w => ((a.ways text sameCase w).eraseDups.flatMap (b.ways text sameCase)).eraseDups
  | .alt a b, w => a.ways text sameCase w ++ b.ways text sameCase w
  | .times low high a, w =>
      let least := repeatWays (a.ways text sameCase) low [w]
      collectWays (a.ways text sameCase) ((high.map (· - low)).getD (text.size + 1)) least least
  | .group number a, w =>
      (a.ways text sameCase w).map fun v =>
        { v with groups := (number, w.place, v.place) :: v.groups.filter (·.1 != number) }
  | .again number, w =>
      match w.groups.lookup number with
      | none => []
      | some (first, last) =>
          let kept := (text.extract first last).toList
          let here := (text.extract w.place (w.place + kept.length)).toList
          if here.length == kept.length && (here.zip kept).all fun (c, d) => sameCase c d then
            [{ w with place := w.place + kept.length }]
          else []

/-- An expression prepared for one line: the places at which a match can end that starts at a
place. -/
def Expression.ends (e : Expression) (anyCase : Bool) (text : List Char) : Nat → Places :=
  if e.recalls then
    let chars := text.toArray
    let sameCase := fun (c d : Char) => c == d || anyCase && c.toLower == d.toLower
    fun start =>
      (e.ways chars sameCase { place := start }).foldl (fun places w => places ||| 1 <<< w.place) 0
  else
    let plan := e.toPattern.plan text
    fun start => plan.ends text.length (1 <<< start)

/-- How much of a line has to match. -/
inductive Extent
  | part
  | word
  | line
  deriving DecidableEq

/-- What is searched for. -/
structure Target where
  expressions : List Expression
  anyCase : Bool
  extent : Extent

/-- The longest match that starts at a place and is as large as asked for: its end. -/
def Target.endFrom? (t : Target) (text : Array Char) (ends : List (Nat → Places)) (start : Nat) :
    Option Nat :=
  let places := ends.foldl (fun places f => places ||| f start) 0
  let isWord := fun (c : Option Char) => c.any wordSet.has
  let fits := fun (last : Nat) =>
    places.testBit last && match t.extent with
      | .part => true
      | .line => start == 0 && last == text.size
      | .word => !(0 < start && isWord text[start - 1]?) && !isWord text[last]?
  if places = 0 then none
  else ((List.range (text.size + 1 - start)).map (text.size - ·)).find? fits

/-- The matches in a line that do not overlap, as places of their starts and ends. -/
def Target.matches (t : Target) (text : List Char) (nonEmpty : Bool) : List (Nat × Nat) :=
  let chars := text.toArray
  let ends := t.expressions.map fun e => e.ends t.anyCase text
  let from_ := fun (found : List (Nat × Nat)) (start : Nat) =>
    if found.head?.any fun (_, last) => start < last then found
    else
      match t.endFrom? chars ends start with
      | some last => if nonEmpty && last == start then found else (start, last) :: found
      | none => found
  ((List.range (chars.size + 1)).foldl from_ []).reverse

/-- Whether a line matches. -/
def Target.occursIn (t : Target) (text : List Char) : Bool :=
  let chars := text.toArray
  let everywhere := fun (e : Expression) =>
    e.recalls || (e.toPattern.plan text).ends text.length (Nat.pow 2 (text.length + 1) - 1) != 0
  let candidates := t.expressions.filter everywhere
  let ends := candidates.map fun e => e.ends t.anyCase text
  if candidates.isEmpty then false
  else if t.extent == .part && candidates.any (!·.recalls) then true
  else (List.range (chars.size + 1)).any fun start => (t.endFrom? chars ends start).isSome

end SourceReducer.Grep
