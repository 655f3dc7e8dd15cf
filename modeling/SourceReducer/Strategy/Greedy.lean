import SourceReducer.Strategy.Basic

/-! The greedy strategy offers one node after the other, each with its dependents, unit by unit and
every node before the nodes below it. -/
namespace SourceReducer.Greedy

structure State where
  passes : Nat := 0
  attempts : Nat := 0
  removals : Nat := 0
  deriving DecidableEq

/-- The sets of nodes that a pass offers. -/
def candidates (language : Language) (f : Forest) : List RefSet :=
  (f.refs.filter fun r => (f.parent? r).isSome).map fun r => withDependents language f [r]

/-- Offers sets until one of them is not refused. -/
def offer : List RefSet → State → Dialogue State
  | [], state => .done (.ok (.failed .exhausted)) state
  | nodes :: rest, state =>
      .ask (.remove nodes) fun answer =>
        let tried := { state with attempts := state.attempts + 1 }
        match answer.outcome with
        | .error failure => .done (.error failure) tried
        | .ok (.failed _) => offer rest tried
        | .ok .stop => .done (.ok .stop) tried
        | .ok .proceed => .done (.ok .proceed) { tried with removals := tried.removals + 1 }

def showState (s : State) : String :=
  s!"Strategy 'greedy': {s.passes} passes, {s.attempts} candidates tried, {s.removals} removed\n"

def strategy : Strategy State where
  name := "greedy"
  start := {}
  pass := fun language f state =>
    offer (candidates language f) { state with passes := state.passes + 1 }
  statistics := fun state => .ok (showState state)
  passBound := fun f => f.nodeCount + 1

end SourceReducer.Greedy
