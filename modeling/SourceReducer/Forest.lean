import SourceReducer.NodeRef
import SourceReducer.Tree.Basic

/-! Forests: the trees of all units at one moment. Every replacement of the forest raises its
generation, so a reference taken from an earlier one no longer resolves. -/
namespace SourceReducer

structure Forest where
  generation : Nat
  trees : List Tree

/-- References sorted by the unit that owns them. -/
structure Partition where
  /-- The node positions of every unit, in unit order. -/
  perUnit : List (List Nat)
  /-- The references that do not resolve. -/
  unknown : List NodeRef

def Partition.matched (p : Partition) : Nat :=
  (p.perUnit.map List.length).foldr (· + ·) 0

namespace Forest

def unitCount (f : Forest) : Nat :=
  f.trees.length

def tree? (f : Forest) (unit : Nat) : Option Tree :=
  f.trees[unit]?

def nodeCount (f : Forest) : Nat :=
  (f.trees.map Tree.size).foldr (· + ·) 0

/-- The reference to a node of this forest. -/
def refTo (f : Forest) (unit index : Nat) : NodeRef :=
  { generation := f.generation, unit, index }

/-- Every node, unit by unit, each tree from its root on. -/
def refs (f : Forest) : List NodeRef :=
  f.trees.zipIdx.flatMap fun (t, unit) => t.indices.map (f.refTo unit)

/-- The node that a reference names; none if it is stale or out of range. -/
def resolve? (f : Forest) (r : NodeRef) : Option Node :=
  if r.generation = f.generation then (f.tree? r.unit).bind fun t => t.node? r.index
  else none

def contains (f : Forest) (r : NodeRef) : Bool :=
  (f.resolve? r).isSome

def parent? (f : Forest) (r : NodeRef) : Option NodeRef :=
  ((f.resolve? r).bind Node.parent).map (f.refTo r.unit)

def children (f : Forest) (r : NodeRef) : List NodeRef :=
  (((f.resolve? r).map Node.children).getD []).map (f.refTo r.unit)

def depth? (f : Forest) (r : NodeRef) : Option Nat :=
  (f.resolve? r).bind fun _ => (f.tree? r.unit).map fun t => t.depth r.index

def partition (f : Forest) (s : RefSet) : Partition :=
  let known := s.toList.filter f.contains
  { perUnit := (List.range f.unitCount).map fun unit =>
      (known.filter fun r => r.unit == unit).map NodeRef.index
    unknown := s.toList.filter fun r => !f.contains r }

end Forest

end SourceReducer
