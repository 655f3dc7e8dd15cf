import SourceReducer.Strategy.Basic
import SourceReducer.Strategy.Chunk

/-! Delta debugging by levels. The nodes of one depth are split into chunks. Each chunk is offered,
and of more than two chunks also all nodes but those of each chunk. When all are refused the chunks
get smaller, until each is a single node; then the next depth follows. How fine the chunks of a
depth are is remembered from pass to pass. -/
namespace SourceReducer.Ddmin

structure State where
  /-- The number of chunks to start with, by depth. -/
  granularity : List (Nat × Nat) := []
  passes : Nat := 0
  chunkAttempts : Nat := 0
  complementAttempts : Nat := 0
  removals : Nat := 0
  increases : Nat := 0
  finest : Nat := 0
  deriving DecidableEq

def State.granularityAt (s : State) (depth : Nat) : Nat :=
  (s.granularity.lookup depth).getD 2

def State.remember (s : State) (depth n : Nat) : State :=
  { s with granularity := (depth, n) :: s.granularity.filter (·.1 != depth) }

/-- Every node with its depth, unit by unit and from the root on. -/
def placed (f : Forest) : List (NodeRef × Option Nat) :=
  f.refs.map fun r => (r, f.depth? r)

/-- The nodes of one depth. -/
def level (nodes : List (NodeRef × Option Nat)) (depth : Nat) : List NodeRef :=
  (nodes.filter fun node => node.2 == some depth).map Prod.fst

/-- The depths below the root that have nodes, the least first. -/
def depths (nodes : List (NodeRef × Option Nat)) : List Nat :=
  let deepest := (nodes.filterMap Prod.snd).foldl max 0
  ((List.range deepest).map (· + 1)).filter fun depth => !(level nodes depth).isEmpty

/-- The numbers of chunks that are tried in turn for `size` nodes: each is twice the one before, and
the last gives single nodes. -/
def granularities (size : Nat) : Nat → Nat → List Nat
  | 0, n => [n]
  | fuel + 1, n => if size ≤ n then [n] else n :: granularities size fuel (min (n * 2) size)

/-- The numbers of chunks for `size` nodes where `n` is remembered. -/
def schedule (size n : Nat) : List Nat :=
  granularities size size (min (max n 1) size)

/-- What a pass does next while all it offers is refused. -/
inductive Step
  /-- Starts with a number of chunks. -/
  | enter (n : Nat)
  | offerChunk (depth n : Nat) (nodes : List NodeRef)
  | offerComplement (depth n : Nat) (parts : List (List NodeRef)) (i : Nat)
  /-- Goes over to a larger number of chunks. -/
  | refine (depth n : Nat)

/-- All steps with one number of chunks. -/
def round (depth : Nat) (nodes : List NodeRef) (n : Nat) : List Step :=
  let parts := chunks n nodes
  let complements :=
    if 2 < parts.length then (List.range parts.length).map (.offerComplement depth n parts) else []
  .enter n :: parts.map (.offerChunk depth n) ++ complements

/-- All steps with one number of chunks after the other. -/
def rounds (depth : Nat) (nodes : List NodeRef) : List Nat → List Step
  | [] => []
  | [n] => round depth nodes n
  | n :: m :: rest => round depth nodes n ++ .refine depth m :: rounds depth nodes (m :: rest)

/-- All steps of a pass, depth by depth. -/
def plan (f : Forest) (state : State) : List Step :=
  let all := placed f
  (depths all).flatMap fun depth =>
    let nodes := level all depth
    rounds depth nodes (schedule nodes.length (state.granularityAt depth))

/-- Ends a pass after an answer that is no refusal. After a removal the next pass takes chunks of
twice the size. -/
def conclude (depth n : Nat) (control : Control) (state : State) : Dialogue State :=
  match control with
  | .proceed =>
      .done (.ok .proceed)
        ({ state with removals := state.removals + 1 }.remember depth (max (n / 2) 2))
  | _ => .done (.ok control) state

/-- Plays the steps of a pass until something that is offered is not refused. -/
def play (language : Language) (f : Forest) : List Step → State → Dialogue State
  | [], state => .done (.ok (.failed .exhausted)) state
  | .enter n :: rest, state => play language f rest { state with finest := max state.finest n }
  | .refine depth n :: rest, state =>
      play language f rest ({ state with increases := state.increases + 1 }.remember depth n)
  | .offerChunk depth n nodes :: rest, state =>
      .ask (.remove (withDependents language f nodes)) fun answer =>
        let tried := { state with chunkAttempts := state.chunkAttempts + 1 }
        match answer.outcome with
        | .error failure => .done (.error failure) tried
        | .ok (.failed _) => play language f rest tried
        | .ok control => conclude depth n control tried
  | .offerComplement depth n parts i :: rest, state =>
      .ask (.remove (withDependents language f (complement parts i))) fun answer =>
        let tried := { state with complementAttempts := state.complementAttempts + 1 }
        match answer.outcome with
        | .error failure => .done (.error failure) tried
        | .ok (.failed _) => play language f rest tried
        | .ok control => conclude depth n control tried

def showState (s : State) : String :=
  s!"Strategy 'ddmin': {s.passes} passes, {s.chunkAttempts} chunk and " ++
    s!"{s.complementAttempts} complement attempts, {s.removals} removed, " ++
    s!"{s.increases} granularity increases (max {s.finest})\n"

def strategy : Strategy State where
  name := "ddmin"
  start := {}
  pass := fun language f state =>
    play language f (plan f state) { state with passes := state.passes + 1 }
  statistics := fun state => .ok (showState state)
  passBound := fun f => f.nodeCount + 1

end SourceReducer.Ddmin
