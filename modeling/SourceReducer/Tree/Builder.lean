import SourceReducer.Tree.Basic
import SourceReducer.Tree.Fault

/-! Building a tree in the order of a left-to-right parse: a node is started, its descendants are
added, and it is finished. Nodes get their positions in the order in which they are started. -/
namespace SourceReducer

structure Builder where
  nodes : Array Node := #[]
  /-- The nodes that are not finished yet, innermost first. -/
  opened : List Nat := []

namespace Builder

/-- Starts a node below the innermost open one; without an open one it is a root. The node takes the
position `b.nodes.size`. -/
def start (b : Builder) (kind : String) (offset : Nat) : Builder :=
  let ⟨nodes, opened⟩ := b
  let i := nodes.size
  let parent := opened.head?
  let linked := match parent with
    | some p => nodes.modify p fun node => { node with children := node.children ++ [i] }
    | none => nodes
  { nodes := linked.push { kind, span := Span.clamped offset offset, parent }
    opened := i :: opened }

/-- Finishes the innermost open node, if there is one. -/
def finish (b : Builder) (offset : Nat) : Builder :=
  match b with
  | ⟨nodes, []⟩ => ⟨nodes, []⟩
  | ⟨nodes, i :: rest⟩ =>
      { nodes := nodes.modify i fun node =>
          { node with span := Span.clamped node.span.start offset }
        opened := rest }

/-- Adds a node without children. -/
def leaf (b : Builder) (kind : String) (start stop : Nat) : Builder :=
  (b.start kind start).finish stop

/-- The finished tree. It has at least one node and none is left open. -/
def build (b : Builder) : Except ParseError Tree :=
  if b.nodes.isEmpty then .error { fault := .noRoot }
  else if b.opened.isEmpty then .ok { nodes := b.nodes }
  else .error { fault := .leftOpen b.opened.length }

end Builder

end SourceReducer
