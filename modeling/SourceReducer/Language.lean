import SourceReducer.Text.Layout
import SourceReducer.Tree.Excision
import SourceReducer.Tree.Fault

/-! What the reduction needs to know about a language. -/
namespace SourceReducer

/-- A language reads texts into trees, cuts nodes out of texts and lays texts out. What it does not
say is done by spans and by lines; without further knowledge no node depends on another. -/
structure Language where
  name : String
  parse : String → Except ParseError Tree
  excise : String → Tree → List Nat → String := exciseSpans
  reformat : String → String := normalizeWhitespace
  stripBlank : String → String := stripBlankLines
  /-- The nodes that directly depend on a node. -/
  dependents : Tree → Nat → List Nat := fun _ _ => []
  /-- The nodes that a node directly depends on. -/
  dependencies : Tree → Nat → List Nat := fun _ _ => []

/-- A dependence between the nodes of a tree. -/
inductive Dependence
  /-- The next sibling depends on a node. -/
  | nextSibling
  /-- The parent depends on a node, unless it is the root. -/
  | parent
  /-- Rows of a node and its dependents, the same for every tree. -/
  | table (rows : List (Nat × List Nat))

/-- The element after the first occurrence of `x`. -/
def successor? (x : Nat) : List Nat → Option Nat
  | [] => none
  | y :: rest => if x = y then rest.head? else successor? x rest

def Dependence.dependents (d : Dependence) (t : Tree) (i : Nat) : List Nat :=
  match d with
  | .nextSibling =>
      match t.parent? i with
      | none => []
      | some p => (successor? i (t.children p)).toList
  | .parent => ((t.parent? i).filter fun p => p != 0).toList
  | .table rows => rows.flatMap fun (node, dependents) => if node = i then dependents else []

end SourceReducer
