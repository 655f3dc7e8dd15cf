import Mathlib.Tactic.Common
import SourceReducer.Tree.Basic

/-! A node and the nodes above it, and what stays of a tree when some nodes are removed together
with all below them. -/
namespace SourceReducer

namespace Tree

/-- A node and the nodes above it, following at most `fuel` parent links. -/
def lineageWithin (t : Tree) : Nat → Nat → List Nat
  | 0, i => [i]
  | fuel + 1, i =>
      match t.parent? i with
      | none => [i]
      | some p => i :: lineageWithin t fuel p

/-- A node and the nodes above it. No chain of parents is longer than the tree is large. -/
def lineage (t : Tree) (i : Nat) : List Nat :=
  t.lineageWithin t.size i

/-- Whether a node or one above it is among the chosen ones. -/
def isUnder (t : Tree) (chosen : List Nat) (i : Nat) : Bool :=
  (t.lineage i).any fun j => chosen.contains j

/-- Whether every parent stands before its children. -/
def ParentsFirst (t : Tree) : Prop :=
  ∀ i p, t.parent? i = some p → p < i

/-- As parents stand before their children, the bound on the links does not matter. -/
theorem lineageWithin_eq {t : Tree} (ht : t.ParentsFirst) {fuel fuel' i : Nat} (h : i ≤ fuel)
    (h' : i ≤ fuel') : t.lineageWithin fuel i = t.lineageWithin fuel' i := by
  induction fuel generalizing fuel' i with
  | zero =>
    obtain rfl : i = 0 := by omega
    have hnone : t.parent? 0 = none := by
      cases hp : t.parent? 0 with
      | none => rfl
      | some p => exact absurd (ht 0 p hp) (by omega)
    cases fuel' <;> simp [lineageWithin, hnone]
  | succ fuel ih =>
    cases hp : t.parent? i with
    | none => cases fuel' <;> simp [lineageWithin, hp]
    | some p =>
      have hlt := ht i p hp
      cases fuel' with
      | zero => omega
      | succ fuel' =>
        simp only [lineageWithin, hp]
        rw [ih (by omega : p ≤ fuel) (by omega : p ≤ fuel')]

theorem mem_lineage {t : Tree} (ht : t.ParentsFirst) {i j : Nat} :
    j ∈ t.lineage i ↔ j = i ∨ ∃ p, t.parent? i = some p ∧ j ∈ t.lineage p := by
  cases hp : t.parent? i with
  | none =>
    unfold lineage
    cases t.size <;> simp [lineageWithin, hp]
  | some p =>
    have hlt := ht i p hp
    have hsize : i < t.size := by
      by_contra hge
      have hnone : t.nodes[i]? = none := by
        simp only [Array.getElem?_eq_none_iff]
        unfold size at hge
        omega
      simp [parent?, node?, hnone] at hp
    obtain ⟨n, hn⟩ : ∃ n, t.size = n + 1 := ⟨t.size - 1, by omega⟩
    have hup : t.lineageWithin n p = t.lineageWithin (n + 1) p :=
      lineageWithin_eq ht (by omega) (by omega)
    simp [lineage, hn, lineageWithin, hp, hup]

end Tree

/-- What a node is apart from where it stands: its kind, its links and, for a word, its text. -/
structure NodeShape where
  kind : String
  parent : Option Nat
  children : List Nat
  word : Option String
  deriving DecidableEq

/-- The nodes of a tree apart from where they stand in the text. -/
def Tree.outline (t : Tree) (text : String) : List NodeShape :=
  t.indices.zipWith (fun i node =>
    { kind := node.kind, parent := node.parent, children := node.children
      word := if node.kind = "word" then t.text? i text else none }) t.nodes.toList

@[simp] theorem Tree.length_outline (t : Tree) (text : String) :
    (t.outline text).length = t.size := by
  simp [outline, indices, size]

theorem Tree.parent?_eq_outline (t : Tree) (text : String) (i : Nat) :
    t.parent? i = (t.outline text)[i]?.bind NodeShape.parent := by
  simp only [parent?, node?, outline, indices, size, List.getElem?_zipWith, Array.getElem?_toList]
  by_cases hi : i < t.nodes.size
  · simp [hi]
  · simp [hi]

/-- The position of a node among those that are not gone. -/
def renumber (gone : Nat → Bool) (i : Nat) : Nat :=
  (List.range i).countP fun j => !gone j

/-- A node without the children that are gone, its links to the new positions. -/
def NodeShape.prune (gone : Nat → Bool) (n : NodeShape) : NodeShape :=
  { n with
    parent := n.parent.map (renumber gone)
    children := (n.children.filter fun j => !gone j).map (renumber gone) }

/-- Nodes, the first at position `base`, without those that are gone. -/
def pruneFrom (gone : Nat → Bool) (base : Nat) (nodes : List NodeShape) : List NodeShape :=
  ((nodes.zipIdx base).filter fun node => !gone node.2).map fun node => node.1.prune gone

theorem renumber_succ (gone : Nat → Bool) (i : Nat) :
    renumber gone (i + 1) = renumber gone i + if gone i then 0 else 1 := by
  unfold renumber
  rw [List.range_succ, List.countP_append]
  cases h : gone i <;> simp [h]

theorem renumber_add_of_gone {gone : Nat → Bool} {base n : Nat}
    (h : ∀ i, base ≤ i → i < base + n → gone i = true) :
    renumber gone (base + n) = renumber gone base := by
  induction n with
  | zero => rfl
  | succ n ih =>
    rw [← Nat.add_assoc, renumber_succ, ih fun i hlo hhi => h i hlo (by omega),
      h (base + n) (by omega) (by omega)]
    rfl

theorem pruneFrom_append (gone : Nat → Bool) (base : Nat) (xs ys : List NodeShape) :
    pruneFrom gone base (xs ++ ys) =
      pruneFrom gone base xs ++ pruneFrom gone (base + xs.length) ys := by
  simp [pruneFrom, List.zipIdx_append]

theorem pruneFrom_cons (gone : Nat → Bool) (base : Nat) (x : NodeShape) (xs : List NodeShape) :
    pruneFrom gone base (x :: xs) =
      (if gone base then [] else [x.prune gone]) ++ pruneFrom gone (base + 1) xs := by
  cases h : gone base <;> simp [pruneFrom, List.zipIdx_cons, h]

theorem pruneFrom_eq_nil {gone : Nat → Bool} {base : Nat} {nodes : List NodeShape}
    (h : ∀ i, base ≤ i → i < base + nodes.length → gone i = true) :
    pruneFrom gone base nodes = [] := by
  simp only [pruneFrom, List.map_eq_nil_iff, List.filter_eq_nil_iff]
  rintro ⟨node, i⟩ hmem
  have hbounds := List.mk_mem_zipIdx_iff_le_and_getElem?_sub.1 hmem
  have hlt := (List.getElem?_eq_some_iff.1 hbounds.2).1
  simp [h i hbounds.1 (by omega)]

end SourceReducer
