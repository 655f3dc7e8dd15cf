import Mathlib.Data.List.Sort
import Mathlib.Logic.Relation
import SourceReducer.Tree.Builder

/-! The order of the nodes of a tree. However a tree is built, its nodes stand in pre-order: each
root is followed by the nodes below it, child by child. -/
namespace SourceReducer

namespace Tree

/-- Whether parent links lead from a node up to another one, which may be the same. -/
def Under (t : Tree) : Nat → Nat → Prop :=
  Relation.ReflTransGen fun c p => t.parent? c = some p

/-- A node with all nodes below it, child by child, down to `fuel` levels. -/
def subtree (t : Tree) : Nat → Nat → List Nat
  | 0, _ => []
  | fuel + 1, i => i :: (t.children i).flatMap (t.subtree fuel)

def roots (t : Tree) : List Nat :=
  t.indices.filter fun i => (t.parent? i).isNone

/-- All nodes in pre-order, by the links between them. No tree has more levels than nodes. -/
def preorder (t : Tree) : List Nat :=
  t.roots.flatMap (t.subtree t.size)

/-- Whether parents stand before their children, the children of a node are listed in the order in
which they stand, and every node stands next to the node before it or to one above that. -/
structure Preordered (t : Tree) : Prop where
  parent_lt : ∀ {i p}, t.parent? i = some p → p < i
  children_eq : ∀ i, t.children i = t.indices.filter fun j => t.parent? j == some i
  parent_under : ∀ {i p}, t.parent? (i + 1) = some p → t.Under i p

theorem parent?_eq_join (t : Tree) (i : Nat) :
    t.parent? i = ((t.node? i).map Node.parent).join := by
  unfold parent?
  cases t.node? i <;> rfl

theorem lt_size_of_parent? {t : Tree} {i p : Nat} (h : t.parent? i = some p) : i < t.size := by
  by_contra hge
  have hnone : t.nodes[i]? = none := Array.getElem?_eq_none (Nat.le_of_not_lt hge)
  simp [parent?, node?, hnone] at h

theorem under_iff {t : Tree} {j i : Nat} :
    t.Under j i ↔ i = j ∨ ∃ c, t.parent? c = some i ∧ t.Under j c := by
  constructor
  · intro h
    rcases Relation.ReflTransGen.cases_tail h with heq | ⟨c, hc, hparent⟩
    · exact .inl heq
    · exact .inr ⟨c, hparent, hc⟩
  · rintro (rfl | ⟨c, hparent, hc⟩)
    · exact .refl
    · exact .tail hc hparent

theorem lt_size_of_under {t : Tree} {i r : Nat} (hr : r < t.size) (h : t.Under i r) :
    i < t.size := by
  rcases Relation.ReflTransGen.cases_head h with rfl | ⟨p, hparent, -⟩
  · exact hr
  · exact lt_size_of_parent? hparent

theorem mem_indices {t : Tree} {i : Nat} : i ∈ t.indices ↔ i < t.size :=
  List.mem_range

theorem mem_roots {t : Tree} {i : Nat} : i ∈ t.roots ↔ i < t.size ∧ t.parent? i = none := by
  simp [roots, mem_indices]

namespace Preordered

variable {t : Tree} (ht : t.Preordered)
include ht

theorem mem_children {i c : Nat} : c ∈ t.children i ↔ t.parent? c = some i := by
  rw [ht.children_eq, List.mem_filter, beq_iff_eq]
  constructor
  · exact fun h => h.2
  · exact fun h => ⟨mem_indices.2 (lt_size_of_parent? h), h⟩

theorem le_of_under {j i : Nat} (h : t.Under j i) : i ≤ j := by
  induction h with
  | refl => exact Nat.le_refl j
  | tail _ hparent ih => exact Nat.le_trans (Nat.le_of_lt (ht.parent_lt hparent)) ih

/-- What stands below a node stands together, right after it. -/
theorem under_of_between {i j k : Nat} (h : t.Under k i) (hi : i ≤ j) (hj : j ≤ k) :
    t.Under j i := by
  -- one step down from the end of the range after the other
  induction k with
  | zero =>
    obtain rfl : j = 0 := by omega
    exact h
  | succ k ih =>
    by_cases hlast : j = k + 1
    · exact hlast ▸ h
    · refine ih ?_ (by omega)
      rcases Relation.ReflTransGen.cases_head h with heq | ⟨p, hparent, hp⟩
      · omega
      · exact (ht.parent_under hparent).trans hp

/-- Of two nodes neither of which is below the other, all below the first stand before all below the
second. -/
theorem lt_of_apart {a b x y : Nat} (hlt : a < b) (hapart : ¬ t.Under b a) (hx : t.Under x a)
    (hy : t.Under y b) : x < y := by
  by_contra hge
  have hb := ht.le_of_under hy
  exact hapart (ht.under_of_between hx (by omega) (by omega))

theorem not_under_of_siblings {i a b : Nat} (ha : t.parent? a = some i) (hb : t.parent? b = some i)
    (hlt : a < b) : ¬ t.Under b a := by
  intro h
  rcases Relation.ReflTransGen.cases_head h with heq | ⟨p, hparent, hp⟩
  · omega
  · have hle := ht.le_of_under hp
    have hup := ht.parent_lt ha
    rw [hb, Option.some.injEq] at hparent
    omega

theorem under_of_mem_subtree {fuel i j : Nat} (h : j ∈ t.subtree fuel i) : t.Under j i := by
  induction fuel generalizing i with
  | zero => cases h
  | succ fuel ih =>
    rcases List.mem_cons.1 h with rfl | h
    · exact .refl
    · obtain ⟨c, hc, hj⟩ := List.mem_flatMap.1 h
      exact .tail (ih hj) (ht.mem_children.1 hc)

theorem mem_subtree {fuel i j : Nat} (hi : i < t.size) (hfuel : t.size ≤ i + fuel) :
    j ∈ t.subtree fuel i ↔ t.Under j i := by
  refine ⟨ht.under_of_mem_subtree, fun h => ?_⟩
  induction fuel generalizing i with
  | zero => omega
  | succ fuel ih =>
    rcases under_iff.1 h with rfl | ⟨c, hparent, hc⟩
    · exact List.mem_cons_self
    · have hlt := ht.parent_lt hparent
      refine List.mem_cons_of_mem _ (List.mem_flatMap.2 ⟨c, ht.mem_children.2 hparent, ?_⟩)
      exact ih (lt_size_of_parent? hparent) (by omega) hc

theorem pairwise_children (i : Nat) : (t.children i).Pairwise (· < ·) := by
  rw [ht.children_eq]
  exact List.pairwise_lt_range.filter _

theorem pairwise_subtree (fuel i : Nat) : (t.subtree fuel i).Pairwise (· < ·) := by
  induction fuel generalizing i with
  | zero => exact .nil
  | succ fuel ih =>
    unfold subtree
    rw [List.pairwise_cons, List.pairwise_flatMap]
    refine ⟨?_, fun c _ => ih c, ?_⟩
    · intro j hj
      obtain ⟨c, hc, hj⟩ := List.mem_flatMap.1 hj
      have hlt := ht.parent_lt (ht.mem_children.1 hc)
      have hle := ht.le_of_under (ht.under_of_mem_subtree hj)
      omega
    · refine (ht.pairwise_children i).imp_of_mem fun {a b} ha hb hlt x hx y hy => ?_
      have hapart := ht.not_under_of_siblings (ht.mem_children.1 ha) (ht.mem_children.1 hb) hlt
      exact ht.lt_of_apart hlt hapart (ht.under_of_mem_subtree hx) (ht.under_of_mem_subtree hy)

theorem exists_root (i : Nat) (hi : i < t.size) : ∃ r ∈ t.roots, t.Under i r := by
  induction i using Nat.strongRecOn with
  | ind i ih =>
    cases hparent : t.parent? i with
    | none => exact ⟨i, mem_roots.2 ⟨hi, hparent⟩, .refl⟩
    | some p =>
      have hlt := ht.parent_lt hparent
      obtain ⟨r, hr, hup⟩ := ih p hlt (by omega)
      exact ⟨r, hr, .head hparent hup⟩

theorem pairwise_preorder : t.preorder.Pairwise (· < ·) := by
  unfold preorder
  rw [List.pairwise_flatMap]
  refine ⟨fun r _ => ht.pairwise_subtree _ r, ?_⟩
  refine (List.pairwise_lt_range.filter _).imp_of_mem fun {a b} _ hb hlt x hx y hy => ?_
  have hapart : ¬ t.Under b a := by
    intro h
    rcases Relation.ReflTransGen.cases_head h with heq | ⟨p, hparent, -⟩
    · omega
    · rw [(mem_roots.1 hb).2] at hparent
      cases hparent
  exact ht.lt_of_apart hlt hapart (ht.under_of_mem_subtree hx) (ht.under_of_mem_subtree hy)

/-- The order by the links is the order in which the nodes stand. -/
theorem preorder_eq : t.preorder = t.indices := by
  refine ht.pairwise_preorder.eq_of_mem_iff List.pairwise_lt_range fun i => ?_
  unfold preorder
  rw [List.mem_flatMap, mem_indices]
  constructor
  · rintro ⟨r, hr, hi⟩
    exact lt_size_of_under (mem_roots.1 hr).1 (ht.under_of_mem_subtree hi)
  · intro hi
    obtain ⟨r, hr, hup⟩ := ht.exists_root i hi
    exact ⟨r, hr, (ht.mem_subtree (mem_roots.1 hr).1 (by omega)).2 hup⟩

end Preordered

end Tree

/-! Building. -/

namespace Builder

/-- What can be done with a tree that is being built. -/
inductive Call
  | start (kind : String) (offset : Nat)
  | leaf (kind : String) (start stop : Nat)
  | finish (offset : Nat)

def call (b : Builder) : Call → Builder
  | .start kind offset => b.start kind offset
  | .leaf kind start stop => b.leaf kind start stop
  | .finish offset => b.finish offset

def callAll (b : Builder) (calls : List Call) : Builder :=
  calls.foldl call b

/-- The tree so far. -/
def tree (b : Builder) : Tree :=
  { nodes := b.nodes }

end Builder

/-- Whether a tree comes out of some calls. -/
def Tree.Built (t : Tree) : Prop :=
  ∃ calls, (Builder.callAll {} calls).build = .ok t

namespace Builder

/-- Whether the nodes so far stand in pre-order, and the open ones are the last node or above it,
each above those before. -/
structure Laid (b : Builder) : Prop where
  preordered : b.tree.Preordered
  opened_lt : ∀ i ∈ b.opened, i < b.nodes.size
  opened_last : ∀ i ∈ b.opened, b.tree.Under (b.nodes.size - 1) i
  nested : b.opened.Pairwise b.tree.Under

section Links

variable (b : Builder) (kind : String) (offset : Nat)

theorem size_start : (b.start kind offset).nodes.size = b.nodes.size + 1 := by
  unfold start
  cases hhead : b.opened.head? <;> simp [hhead]

/-- What does not hang on children is kept when a node is started. -/
theorem map_node?_start {β : Type} (view : Node → β)
    (hview : ∀ node c, view { node with children := node.children ++ [c] } = view node) (i : Nat) :
    ((b.start kind offset).tree.node? i).map view =
      if i = b.nodes.size then
        some (view { kind, span := Span.clamped offset offset, parent := b.opened.head? })
      else (b.tree.node? i).map view := by
  unfold start tree Tree.node?
  cases hhead : b.opened.head? with
  | none =>
    simp only [hhead, Array.getElem?_push]
    split <;> rfl
  | some p =>
    simp only [hhead, Array.getElem?_push, Array.size_modify, Array.getElem?_modify]
    split
    · rfl
    · split
      · rw [Option.map_map]
        exact Option.map_congr fun node _ => hview node _
      · rfl

theorem parent?_start (i : Nat) :
    (b.start kind offset).tree.parent? i =
      if i = b.nodes.size then b.opened.head? else b.tree.parent? i := by
  rw [Tree.parent?_eq_join, Tree.parent?_eq_join,
    b.map_node?_start kind offset Node.parent fun _ _ => rfl]
  split <;> rfl

theorem children_start (hopened : ∀ i ∈ b.opened, i < b.nodes.size) (i : Nat) :
    (b.start kind offset).tree.children i =
      if b.opened.head? = some i then b.tree.children i ++ [b.nodes.size]
      else b.tree.children i := by
  have hlast : b.nodes[b.nodes.size]? = none := Array.getElem?_eq_none (Nat.le_refl _)
  unfold start tree Tree.children Tree.node?
  cases hhead : b.opened.head? with
  | none =>
    simp only [hhead, Array.getElem?_push]
    split
    · next h => simp [h]
    · rfl
  | some p =>
    have hp : p < b.nodes.size := hopened p (List.mem_of_head? hhead)
    simp only [hhead, Array.getElem?_push, Array.size_modify, Array.getElem?_modify,
      Option.some.injEq]
    split
    · next h =>
      subst h
      rw [if_neg (Nat.ne_of_lt hp), hlast]
      rfl
    · split
      · next h =>
        subst h
        rw [Array.getElem?_eq_getElem hp]
        rfl
      · rfl

theorem size_finish : (b.finish offset).nodes.size = b.nodes.size := by
  unfold finish
  split <;> simp

theorem opened_finish : (b.finish offset).opened = b.opened.tail := by
  unfold finish
  split <;> rfl

/-- What does not hang on the span is kept when a node is finished. -/
theorem map_node?_finish {β : Type} (view : Node → β)
    (hview : ∀ node span, view { node with span } = view node) (i : Nat) :
    ((b.finish offset).tree.node? i).map view = (b.tree.node? i).map view := by
  unfold finish
  split
  · rfl
  · next nodes top rest =>
    simp only [tree, Tree.node?, Array.getElem?_modify]
    split
    · rw [Option.map_map]
      exact Option.map_congr fun node _ => hview node _
    · rfl

theorem parent?_finish : (b.finish offset).tree.parent? = b.tree.parent? := by
  funext i
  rw [Tree.parent?_eq_join, Tree.parent?_eq_join,
    b.map_node?_finish offset Node.parent fun _ _ => rfl]

theorem children_finish : (b.finish offset).tree.children = b.tree.children := by
  funext i
  unfold Tree.children
  rw [b.map_node?_finish offset Node.children fun _ _ => rfl]

end Links

/-! What every call keeps. -/

theorem laid_empty : Laid {} := by
  refine ⟨⟨?_, ?_, ?_⟩, by simp, by simp, .nil⟩
  · intro i p h
    simp [tree, Tree.parent?, Tree.node?] at h
  · intro i
    simp [tree, Tree.children, Tree.node?, Tree.indices, Tree.size]
  · intro i p h
    simp [tree, Tree.parent?, Tree.node?] at h

/-- Links that are there stay there. -/
theorem under_start {b : Builder} {kind : String} {offset i j : Nat} (h : b.tree.Under i j) :
    (b.start kind offset).tree.Under i j := by
  refine Relation.ReflTransGen.mono (fun c p hparent => ?_) i j h
  have hlt : c < b.nodes.size := Tree.lt_size_of_parent? hparent
  rw [parent?_start, if_neg (Nat.ne_of_lt hlt)]
  exact hparent

namespace Laid

variable {b : Builder} (hb : b.Laid)
include hb

/-- A node that is started stands next to the last node or to one above that. -/
theorem preordered_start (kind : String) (offset : Nat) :
    (b.start kind offset).tree.Preordered := by
  have hpre := hb.preordered
  have hhead {p : Nat} (h : b.opened.head? = some p) : p ∈ b.opened := List.mem_of_head? h
  refine ⟨?_, ?_, ?_⟩
  · intro i p h
    rw [parent?_start] at h
    split at h
    · next hi => exact hi ▸ hb.opened_lt p (hhead h)
    · exact hpre.parent_lt h
  · intro i
    have hrange : (b.start kind offset).tree.indices = b.tree.indices ++ [b.nodes.size] := by
      show List.range (b.start kind offset).nodes.size = List.range b.nodes.size ++ [b.nodes.size]
      rw [size_start, List.range_succ]
    have hold : b.tree.indices.filter (fun j => (b.start kind offset).tree.parent? j == some i) =
        b.tree.indices.filter fun j => b.tree.parent? j == some i := by
      refine List.filter_congr fun j hj => ?_
      have hlt : j < b.nodes.size := Tree.mem_indices.1 hj
      rw [parent?_start, if_neg (Nat.ne_of_lt hlt)]
    rw [children_start b kind offset hb.opened_lt, hrange, List.filter_append, hold,
      ← hpre.children_eq, List.filter_singleton, parent?_start, if_pos rfl]
    by_cases h : b.opened.head? = some i
    · simp [h]
    · rw [if_neg h, beq_eq_false_iff_ne.2 h]
      simp
  · intro i p h
    rw [parent?_start] at h
    split at h
    · next hi =>
      have hlast := hb.opened_last p (hhead h)
      rw [← hi, Nat.add_sub_cancel] at hlast
      exact under_start hlast
    · exact under_start (hpre.parent_under h)

theorem start (kind : String) (offset : Nat) : (b.start kind offset).Laid := by
  -- the new node is under the innermost open one, and so under all open ones
  have hnew : ∀ i ∈ b.opened, (b.start kind offset).tree.Under b.nodes.size i := by
    intro i hi
    cases hopened : b.opened with
    | nil => simp [hopened] at hi
    | cons p rest =>
      have hparent : (b.start kind offset).tree.parent? b.nodes.size = some p := by
        rw [parent?_start, if_pos rfl, hopened]
        rfl
      have hnested := hb.nested
      rw [hopened] at hi hnested
      rcases List.mem_cons.1 hi with rfl | hi
      · exact .single hparent
      · exact .head hparent (under_start ((List.pairwise_cons.1 hnested).1 i hi))
  have hopened : (b.start kind offset).opened = b.nodes.size :: b.opened := rfl
  refine ⟨hb.preordered_start kind offset, ?_, ?_, ?_⟩
  · intro i hi
    rw [size_start]
    rcases List.mem_cons.1 (hopened ▸ hi) with rfl | hi
    · omega
    · have hlt := hb.opened_lt i hi
      omega
  · intro i hi
    rw [size_start, Nat.add_sub_cancel]
    rcases List.mem_cons.1 (hopened ▸ hi) with rfl | hi
    · exact .refl
    · exact hnew i hi
  · rw [hopened, List.pairwise_cons]
    exact ⟨hnew, hb.nested.imp under_start⟩

theorem finish (offset : Nat) : (b.finish offset).Laid := by
  have hopened := opened_finish b offset
  have hunder : (b.finish offset).tree.Under = b.tree.Under := by
    unfold Tree.Under
    rw [parent?_finish]
  have hindices : (b.finish offset).tree.indices = b.tree.indices := by
    show List.range (b.finish offset).nodes.size = List.range b.nodes.size
    rw [size_finish]
  refine ⟨⟨?_, ?_, ?_⟩, ?_, ?_, ?_⟩
  · rw [parent?_finish]
    exact hb.preordered.parent_lt
  · rw [children_finish, parent?_finish, hindices]
    exact hb.preordered.children_eq
  · rw [parent?_finish, hunder]
    exact hb.preordered.parent_under
  · rw [hopened, size_finish]
    exact fun i hi => hb.opened_lt i (List.mem_of_mem_tail hi)
  · rw [hopened, size_finish, hunder]
    exact fun i hi => hb.opened_last i (List.mem_of_mem_tail hi)
  · rw [hopened, hunder]
    exact hb.nested.tail

theorem call (c : Call) : (b.call c).Laid := by
  cases c with
  | start kind offset => exact hb.start kind offset
  | leaf kind start stop => exact (hb.start kind start).finish stop
  | finish offset => exact hb.finish offset

theorem callAll (calls : List Call) : (b.callAll calls).Laid := by
  induction calls generalizing b with
  | nil => exact hb
  | cons c calls ih => exact ih (hb.call c)

end Laid

end Builder

theorem Builder.tree_of_build {b : Builder} {t : Tree} (h : b.build = .ok t) : t = b.tree := by
  unfold build at h
  split at h
  · cases h
  · split at h
    · cases h
      rfl
    · cases h

/-- The nodes of every tree that is built stand in pre-order. -/
theorem Tree.Built.preordered {t : Tree} (h : t.Built) : t.Preordered := by
  obtain ⟨calls, hbuild⟩ := h
  rw [Builder.tree_of_build hbuild]
  exact (Builder.laid_empty.callAll calls).preordered

end SourceReducer
