import SourceReducer.Text.Offset

/-! Syntax trees. The nodes of a tree stand in one array, a parent before its children, so that a
node is named by its position and the root is node 0. -/
namespace SourceReducer

/-- The bytes from `start` up to but not including `stop`. -/
structure Span where
  start : Nat
  stop : Nat
  start_le_stop : start ≤ stop
  deriving DecidableEq

/-- A span that is empty where the end would come before the start. -/
def Span.clamped (start stop : Nat) : Span :=
  ⟨start, max start stop, Nat.le_max_left ..⟩

def Span.size (s : Span) : Nat :=
  s.stop - s.start

structure Node where
  kind : String
  span : Span
  parent : Option Nat := none
  children : List Nat := []
  deriving DecidableEq

structure Tree where
  nodes : Array Node
  deriving DecidableEq

namespace Tree

def size (t : Tree) : Nat :=
  t.nodes.size

def node? (t : Tree) (i : Nat) : Option Node :=
  t.nodes[i]?

def parent? (t : Tree) (i : Nat) : Option Nat :=
  (t.node? i).bind Node.parent

def children (t : Tree) (i : Nat) : List Nat :=
  ((t.node? i).map Node.children).getD []

def indices (t : Tree) : List Nat :=
  List.range t.size

/-- The number of parent links from a node upwards, following at most `fuel` of them. -/
def ancestorCount (t : Tree) : Nat → Nat → Nat
  | 0, _ => 0
  | fuel + 1, i =>
      match t.parent? i with
      | none => 0
      | some p => ancestorCount t fuel p + 1

/-- The distance of a node from its root. No chain of parents is longer than the tree is large. -/
def depth (t : Tree) (i : Nat) : Nat :=
  t.ancestorCount t.size i

/-- The text that a node covers, where its span fits `source`. -/
def text? (t : Tree) (i : Nat) (source : String) : Option String := do
  let node ← t.node? i
  let cs ← slice? source.toList node.span.start node.span.stop
  return String.ofList cs

end Tree

/-- The name under which a node is shown. -/
def showIndex (i : Nat) : String :=
  s!"#{i}"

end SourceReducer
