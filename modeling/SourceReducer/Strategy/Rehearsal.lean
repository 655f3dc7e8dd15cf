import SourceReducer.Strategy.Basic

/-! Rehearsals of a strategy, where a rule takes the place of an engine. -/
namespace SourceReducer

/-- A rule that answers the removals which a strategy asks for. A node is its unit and its
position. -/
inductive Oracle
  /-- Each removal has a letter, of which the last one stays. -/
  | letters (text : String)
  /-- Some sets may be removed. -/
  | accept (sets : List (List (Nat × Nat)))
  /-- Sets of these nodes may be removed. -/
  | within (nodes : List (Nat × Nat))
  /-- Sets without these nodes may be removed. -/
  | avoid (nodes : List (Nat × Nat))
  | never

def RefSet.places (s : RefSet) : List (Nat × Nat) :=
  s.toList.map fun r => (r.unit, r.index)

def Oracle.ofLetter : Option Char → Except Failure Control
  | some 'C' => .ok .proceed
  | some 'S' => .ok .stop
  | some 'N' => .ok (.failed .nothingToRemove)
  | some 'E' => .error (.strategy "scripted")
  | _ => .ok (.failed .unsatisfied)

/-- The answer to a removal after some earlier ones. -/
def Oracle.decide (o : Oracle) (earlier : Nat) (nodes : RefSet) : Except Failure Control :=
  let allowIf := fun b => if b then Except.ok Control.proceed else .ok (.failed .unsatisfied)
  match o with
  | .letters text =>
      let letters := text.toList
      ofLetter letters[min earlier (letters.length - 1)]?
  | .accept sets => allowIf (sets.contains nodes.places)
  | .within allowed => allowIf (nodes.places.all allowed.contains)
  | .avoid refused => allowIf (!nodes.places.any refused.contains)
  | .never => allowIf false

/-- How a rehearsed pass ended, and the sets that it tried, the first one first. -/
structure Rehearsal (τ : Type) where
  outcome : Except Failure Control
  state : τ
  tried : List RefSet

/-- Plays a dialogue on a forest that does not change, after some earlier removals. -/
def Oracle.rehearse {τ : Type} (o : Oracle) (f : Forest) : Nat → Dialogue τ → Rehearsal τ
  | _, .done outcome state => { outcome, state, tried := [] }
  | earlier, .touch _ next => rehearse o f earlier next
  | earlier, .ask (.remove nodes) next =>
      let rest := rehearse o f (earlier + 1)
        (next { outcome := o.decide earlier nodes, forest := f })
      { rest with tried := nodes :: rest.tried }
  | earlier, .ask (.force _) next =>
      rehearse o f earlier (next { outcome := .ok .stop, forest := f })
  | earlier, .ask .cleanup next =>
      rehearse o f earlier (next { outcome := .ok (.failed .unsatisfied), forest := f })

/-- Rehearses `passes` passes in turn, each on the next forest, of which the last one stays. -/
def Oracle.rehearseAll {τ : Type} (o : Oracle) (strategy : Strategy τ) (language : Language) :
    Nat → List Forest → Nat → τ → List (Rehearsal τ) × τ
  | 0, _, _, state => ([], state)
  | _ + 1, [], _, state => ([], state)
  | passes + 1, f :: rest, earlier, state =>
      let first := o.rehearse f earlier (strategy.pass language f state)
      let (others, last) := o.rehearseAll strategy language passes
        (if rest.isEmpty then [f] else rest) (earlier + first.tried.length) first.state
      (first :: others, last)

end SourceReducer
