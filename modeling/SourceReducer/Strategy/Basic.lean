import SourceReducer.Failure
import SourceReducer.Forest
import SourceReducer.Language

/-! Strategies: which nodes to remove, and in what order. A pass of a strategy is a dialogue. It
makes requests, and what it does next may hang on the answer to each of them, until it ends with a
control. -/
namespace SourceReducer

inductive Request
  /-- Removes nodes if the invariant keeps holding. -/
  | remove (nodes : RefSet)
  /-- Removes nodes without any check and ends the run. -/
  | force (nodes : RefSet)
  /-- Lays all texts out anew if the invariant keeps holding. -/
  | cleanup

/-- What came of a request, and the forest after it. -/
structure Answer where
  outcome : Except Failure Control
  forest : Forest

/-- A dialogue that leaves a state of type `τ`. -/
inductive Dialogue (τ : Type)
  | done (outcome : Except Failure Control) (state : τ)
  | ask (request : Request) (next : Answer → Dialogue τ)
  /-- A change of the files that does not go through the engine. -/
  | touch (change : Files → Files) (next : Dialogue τ)

/-- A way to choose nodes that keeps a state of type `τ` from pass to pass. -/
structure Strategy (τ : Type) where
  name : String
  start : τ
  /-- Runs once, before the first pass. -/
  prepare : Language → Forest → τ → Dialogue τ :=
    fun _ _ state => .done (.ok (.failed .exhausted)) state
  pass : Language → Forest → τ → Dialogue τ
  statistics : τ → Except String String := fun _ => .ok ""
  /-- A number of passes of which not all remove something from this forest. -/
  passBound : Forest → Nat

/-- Positions of nodes are 32-bit numbers. -/
def indexLimit : Nat := Nat.pow 2 32

/-- The nodes of the same tree that directly depend on a node. -/
def dependentsOf (language : Language) (f : Forest) (r : NodeRef) : List NodeRef :=
  match f.tree? r.unit with
  | none => []
  | some tree =>
      ((language.dependents tree r.index).filter (· < indexLimit)).map (f.refTo r.unit)

/-- Adds pending nodes, and what depends on them, to a set that has room for `room` further ones. -/
def closeFrom (language : Language) (f : Forest) : Nat → RefSet → List NodeRef → RefSet
  | 0, closed, _ => closed
  | room + 1, closed, pending =>
      match pending.dropWhile (· ∈ closed) with
      | [] => closed
      | r :: rest => closeFrom language f room (closed.insert r) (dependentsOf language f r ++ rest)

/-- Nodes together with all that depend on them, directly or through others. A set of that many
nodes has no room for more: it has the given ones and every position of every tree. -/
def withDependents (language : Language) (f : Forest) (nodes : List NodeRef) : RefSet :=
  closeFrom language f (nodes.length + f.unitCount * indexLimit) .empty nodes

end SourceReducer
