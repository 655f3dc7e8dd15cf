import Mathlib.Data.Nat.Find
import SourceReducer.Proofs.Tree.Arena

/-! Trees from calls. A tree comes out of calls that start and finish nodes exactly if there is a
node and each one is finished. The links of such a tree fit together: a node and all below it stand
next to each other, and the way from a node up to its root comes to an end. -/
namespace SourceReducer

namespace Tree

/-! Descendants and depths. -/

/-- Whether parent links lead from a node up to another one. -/
def Below (t : Tree) : Nat → Nat → Prop :=
  Relation.TransGen fun c p => t.parent? c = some p

/-- Whether the way up from a node takes a number of parent links and then comes to a node without a
parent. -/
inductive Climbs (t : Tree) : Nat → Nat → Prop
  | root {i : Nat} (h : t.parent? i = none) : Climbs t i 0
  | child {i p links : Nat} (h : t.parent? i = some p) (hp : Climbs t p links) :
      Climbs t i (links + 1)

theorem Climbs.unique {t : Tree} {i m n : Nat} (hm : t.Climbs i m) (hn : t.Climbs i n) : m = n := by
  induction hm generalizing n with
  | root hroot =>
    cases hn with
    | root => rfl
    | child hparent =>
      rw [hroot] at hparent
      cases hparent
  | child hparent _ ih =>
    cases hn with
    | root hroot =>
      rw [hroot] at hparent
      cases hparent
    | child hparent' hn =>
      rw [hparent] at hparent'
      cases hparent'
      rw [ih hn]

namespace Preordered

variable {t : Tree} (ht : t.Preordered)
include ht

theorem climbs_ancestorCount {fuel i : Nat} (h : i ≤ fuel) :
    t.Climbs i (t.ancestorCount fuel i) := by
  induction fuel generalizing i with
  | zero =>
    obtain rfl : i = 0 := by omega
    apply Climbs.root
    cases hparent : t.parent? 0 with
    | none => rfl
    | some p => exact absurd (ht.parent_lt hparent) (Nat.not_lt_zero p)
  | succ fuel ih =>
    unfold ancestorCount
    split
    · next hparent => exact .root hparent
    · next p hparent =>
      have hlt := ht.parent_lt hparent
      exact .child hparent (ih (by omega))

/-- Links lead up from every node to a root, as many of them as the depth says. -/
theorem climbs_depth (i : Nat) : t.Climbs i (t.depth i) := by
  by_cases hi : i < t.size
  · exact ht.climbs_ancestorCount (Nat.le_of_lt hi)
  · have hparent : t.parent? i = none := by
      cases hparent : t.parent? i with
      | none => rfl
      | some p => exact absurd (lt_size_of_parent? hparent) hi
    have hdepth : t.depth i = 0 := by
      unfold depth
      cases t.size with
      | zero => rfl
      | succ n => simp [ancestorCount, hparent]
    rw [hdepth]
    exact .root hparent

theorem depth_child {c p : Nat} (h : t.parent? c = some p) : t.depth c = t.depth p + 1 :=
  (ht.climbs_depth c).unique (.child h (ht.climbs_depth p))

theorem depth_root {c : Nat} (h : t.parent? c = none) : t.depth c = 0 :=
  (ht.climbs_depth c).unique (.root h)

theorem below_iff {j i : Nat} : t.Below j i ↔ t.Under j i ∧ i < j := by
  constructor
  · intro h
    obtain ⟨c, hc, hparent⟩ := Relation.TransGen.tail'_iff.1 h
    have hle := ht.le_of_under hc
    have hlt := ht.parent_lt hparent
    exact ⟨h.to_reflTransGen, by omega⟩
  · rintro ⟨h, hlt⟩
    rcases Relation.reflTransGen_iff_eq_or_transGen.1 h with heq | hbelow
    · omega
    · exact hbelow

/-- The nodes below a node are those from the next one up to some other. -/
theorem below_contiguous {i : Nat} (hi : i < t.size) :
    ∃ stop, i < stop ∧ stop ≤ t.size ∧ ∀ j, t.Below j i ↔ i + 1 ≤ j ∧ j < stop := by
  classical
  -- the last node under `i`
  have hself : t.Under i i := .refl
  have hlast : t.Under (Nat.findGreatest (t.Under · i) t.size) i :=
    Nat.findGreatest_spec (P := (t.Under · i)) (Nat.le_of_lt hi) hself
  have hmax {j : Nat} (hj : t.Under j i) : j ≤ Nat.findGreatest (t.Under · i) t.size :=
    Nat.le_findGreatest (Nat.le_of_lt (lt_size_of_under hi hj)) hj
  generalize Nat.findGreatest (t.Under · i) t.size = last at hlast hmax
  have hsize := lt_size_of_under hi hlast
  have hle := ht.le_of_under hlast
  refine ⟨last + 1, by omega, by omega, fun j => ?_⟩
  rw [ht.below_iff]
  constructor
  · rintro ⟨hj, hlt⟩
    have hle' := hmax hj
    omega
  · rintro ⟨hlt, hstop⟩
    exact ⟨ht.under_of_between hlast (by omega) (by omega), hlt⟩

theorem count_children (p c : Nat) :
    (t.children p).count c = if t.parent? c = some p then 1 else 0 := by
  have hnodup : (t.children p).Nodup := (ht.pairwise_children p).imp Nat.ne_of_lt
  split
  · next hparent => exact List.count_eq_one_of_mem hnodup (ht.mem_children.2 hparent)
  · next hparent => exact List.count_eq_zero.2 fun hmem => hparent (ht.mem_children.1 hmem)

end Preordered

end Tree

namespace Builder

/-! Calls that belong together. -/

def Call.starts : Call → Bool
  | .start _ _ | .leaf _ _ _ => true
  | .finish _ => false

/-- Calls that finish each node that they start, and no other. -/
inductive Balanced : List Call → Prop
  | nil : Balanced []
  | leaf (kind : String) (start stop : Nat) {rest : List Call} (hrest : Balanced rest) :
      Balanced (.leaf kind start stop :: rest)
  | node (kind : String) (start stop : Nat) {inner rest : List Call} (hinner : Balanced inner)
      (hrest : Balanced rest) : Balanced (.start kind start :: (inner ++ .finish stop :: rest))

/-- Whether each node that is started is finished. What finishes it is the first such call behind
all that belong to nodes started later. -/
def AllFinished (calls : List Call) : Prop :=
  ∀ before kind start after, calls = before ++ .start kind start :: after →
    ∃ inner stop rest, after = inner ++ .finish stop :: rest ∧ Balanced inner

/-- Whether calls start node number `i` at one offset and finish it at another. -/
inductive Makes (calls : List Call) : Nat → String → Nat → Nat → Prop
  | leaf {before rest : List Call} {kind : String} {start stop : Nat}
      (h : calls = before ++ .leaf kind start stop :: rest) :
      Makes calls (before.countP Call.starts) kind start stop
  | node {before inner rest : List Call} {kind : String} {start stop : Nat}
      (h : calls = before ++ .start kind start :: (inner ++ .finish stop :: rest))
      (hinner : Balanced inner) : Makes calls (before.countP Call.starts) kind start stop

/-! One call after the other. -/

variable (b : Builder)

theorem callAll_cons (c : Call) (calls : List Call) :
    b.callAll (c :: calls) = (b.call c).callAll calls :=
  rfl

theorem callAll_append (calls more : List Call) :
    b.callAll (calls ++ more) = (b.callAll calls).callAll more :=
  List.foldl_append

theorem opened_start (kind : String) (offset : Nat) :
    (b.start kind offset).opened = b.nodes.size :: b.opened := rfl

theorem size_call (c : Call) :
    (b.call c).nodes.size = b.nodes.size + [c].countP Call.starts := by
  cases c with
  | start kind offset => exact size_start b kind offset
  | leaf kind start stop => exact (size_finish _ stop).trans (size_start b kind start)
  | finish offset => exact size_finish b offset

theorem size_callAll (calls : List Call) :
    (b.callAll calls).nodes.size = b.nodes.size + calls.countP Call.starts := by
  induction calls generalizing b with
  | nil => rfl
  | cons c calls ih =>
    rw [callAll_cons, ih, size_call, Nat.add_assoc, ← List.countP_append]
    rfl

/-! Which nodes are open. -/

/-- Balanced calls leave open what was. -/
theorem opened_of_balanced {calls : List Call} (h : Balanced calls) :
    (b.callAll calls).opened = b.opened := by
  induction h generalizing b with
  | nil => rfl
  | leaf kind start stop _ ih =>
    rw [callAll_cons, ih]
    exact opened_finish _ stop
  | node kind start stop _ _ hinner hrest =>
    rw [callAll_cons, callAll_append, callAll_cons, hrest]
    show Builder.opened (Builder.finish _ stop) = _
    rw [opened_finish, hinner]
    rfl

theorem AllFinished.of_append (before : List Call) {after : List Call}
    (h : AllFinished (before ++ after)) : AllFinished after := by
  intro early kind start late hafter
  apply h (before ++ early) kind start late
  rw [hafter, List.append_assoc]

/-- Where all nodes are finished that are started no further ones are left open. -/
theorem opened_of_allFinished {calls : List Call} (h : AllFinished calls) (hb : b.opened = []) :
    (b.callAll calls).opened = [] := by
  -- a node goes together with all calls up to the one that finishes it
  induction hlength : calls.length using Nat.strong_induction_on generalizing calls b with
  | _ length ih =>
    cases calls with
    | nil => exact hb
    | cons c calls =>
      have hrest : AllFinished calls := AllFinished.of_append [c] h
      rw [List.length_cons] at hlength
      rw [callAll_cons]
      cases c with
      | start kind start =>
        obtain ⟨inner, stop, rest, rfl, hinner⟩ := h [] kind start calls rfl
        have hlater : AllFinished rest :=
          AllFinished.of_append (inner ++ [.finish stop]) (by simpa using hrest)
        rw [callAll_append, callAll_cons]
        refine ih rest.length ?_ _ hlater ?_ rfl
        · rw [List.length_append, List.length_cons] at hlength
          omega
        · show Builder.opened (Builder.finish _ stop) = _
          rw [opened_finish, opened_of_balanced _ hinner]
          exact hb
      | leaf kind start stop =>
        refine ih calls.length (by omega) _ hrest ?_ rfl
        exact (opened_finish _ stop).trans hb
      | finish stop =>
        refine ih calls.length (by omega) _ hrest ?_ rfl
        show (b.finish stop).opened = []
        rw [opened_finish, hb]
        rfl

/-- Where nothing is left open, a node that was open is finished behind balanced calls. -/
theorem exists_finish {calls : List Call} {i : Nat} {outer : List Nat} (hb : b.opened = i :: outer)
    (hend : (b.callAll calls).opened = []) :
    ∃ inner stop rest, calls = inner ++ .finish stop :: rest ∧ Balanced inner := by
  induction hlength : calls.length using Nat.strong_induction_on generalizing calls b i outer with
  | _ length ih =>
    cases calls with
    | nil =>
      rw [show b.opened = [] from hend] at hb
      cases hb
    | cons c calls =>
      rw [List.length_cons] at hlength
      rw [callAll_cons] at hend
      cases c with
      | start kind start =>
        -- the node that is started here comes to its end first
        obtain ⟨inner, stop, rest, rfl, hinner⟩ :=
          ih calls.length (by omega) (b.start kind start) (opened_start ..) hend rfl
        rw [callAll_append, callAll_cons] at hend
        have hback : (((b.start kind start).callAll inner).finish stop).opened = i :: outer := by
          rw [opened_finish, opened_of_balanced _ hinner, opened_start]
          exact hb
        rw [List.length_append, List.length_cons] at hlength
        obtain ⟨more, stop', rest', rfl, hmore⟩ := ih rest.length (by omega) _ hback hend rfl
        refine ⟨.start kind start :: (inner ++ .finish stop :: more), stop', rest', ?_, ?_⟩
        · simp
        · exact .node kind start stop hinner hmore
      | leaf kind start stop =>
        have hsame : (b.leaf kind start stop).opened = i :: outer := (opened_finish _ stop).trans hb
        obtain ⟨inner, stop', rest, rfl, hinner⟩ := ih calls.length (by omega) _ hsame hend rfl
        exact ⟨.leaf kind start stop :: inner, stop', rest, rfl, .leaf kind start stop hinner⟩
      | finish stop => exact ⟨[], stop, calls, rfl, .nil⟩

theorem opened_eq_nil_iff (calls : List Call) :
    (callAll {} calls).opened = [] ↔ AllFinished calls := by
  constructor
  · rintro hend before kind start after rfl
    rw [callAll_append, callAll_cons] at hend
    exact exists_finish _ (opened_start ..) hend
  · exact fun h => opened_of_allFinished {} h rfl

/-- A tree comes out exactly if a node was started and all were finished. -/
theorem build_eq_ok_iff (calls : List Call) :
    (∃ t, (callAll {} calls).build = .ok t) ↔
      (∃ c ∈ calls, c.starts = true) ∧ AllFinished calls := by
  have hsome : (callAll {} calls).nodes.isEmpty = false ↔ ∃ c ∈ calls, c.starts = true := by
    rw [← List.countP_pos_iff, Array.isEmpty_eq_false_iff, ← Array.size_pos_iff, size_callAll]
    simp
  rw [← hsome, ← opened_eq_nil_iff]
  unfold build
  cases hempty : (callAll {} calls).nodes.isEmpty with
  | true => simp
  | false =>
    cases hopened : (callAll {} calls).opened with
    | nil => simp
    | cons i outer => simp

end Builder

/-! What nodes cover. -/

/-- The kind and the span of a node. -/
def Tree.label? (t : Tree) (i : Nat) : Option (String × Span) :=
  (t.node? i).map fun node => (node.kind, node.span)

namespace Builder

variable (b : Builder)

theorem label?_start (kind : String) (offset i : Nat) :
    (b.start kind offset).tree.label? i =
      if i = b.nodes.size then some (kind, Span.clamped offset offset) else b.tree.label? i :=
  b.map_node?_start kind offset (fun node => (node.kind, node.span)) (fun _ _ => rfl) i

/-- Finishing a node moves the end of its span and changes nothing else. -/
theorem label?_finish (offset i : Nat) :
    (b.finish offset).tree.label? i =
      if b.opened.head? = some i then
        (b.tree.label? i).map fun label => (label.1, Span.clamped label.2.start offset)
      else b.tree.label? i := by
  unfold finish
  split
  · rfl
  · next nodes top rest =>
    simp only [tree, Tree.label?, Tree.node?, Array.getElem?_modify, List.head?_cons,
      Option.some.injEq]
    split
    · cases nodes[i]? <;> rfl
    · rfl

theorem label?_finish_of_ne {offset i : Nat} (h : b.opened.head? ≠ some i) :
    (b.finish offset).tree.label? i = b.tree.label? i := by
  rw [label?_finish, if_neg h]

theorem label?_start_of_lt {kind : String} {offset i : Nat} (h : i < b.nodes.size) :
    (b.start kind offset).tree.label? i = b.tree.label? i := by
  rw [label?_start, if_neg (Nat.ne_of_lt h)]

/-- Balanced calls change no node that was there. -/
theorem label?_of_balanced {calls : List Call} (h : Balanced calls) {i : Nat}
    (hi : i < b.nodes.size) :
    (b.callAll calls).tree.label? i = b.tree.label? i := by
  induction h generalizing b with
  | nil => rfl
  | leaf kind start stop _ ih =>
    have hsize : i < (b.leaf kind start stop).nodes.size := by
      rw [leaf, size_finish, size_start]
      omega
    have hopen : (b.start kind start).opened.head? ≠ some i := by
      rw [opened_start]
      simp
      omega
    rw [callAll_cons]
    exact (ih _ hsize).trans ((label?_finish_of_ne _ hopen).trans (label?_start_of_lt b hi))
  | @node kind start stop inner rest hinner _ ihinner ihrest =>
    have hstart : i < (b.start kind start).nodes.size := by
      rw [size_start]
      omega
    have hsize : i < (((b.start kind start).callAll inner).finish stop).nodes.size := by
      rw [size_finish, size_callAll]
      omega
    have hopen : ((b.start kind start).callAll inner).opened.head? ≠ some i := by
      rw [opened_of_balanced _ hinner, opened_start]
      simp
      omega
    rw [callAll_cons, callAll_append, callAll_cons]
    apply (ihrest _ hsize).trans
    apply (label?_finish_of_ne _ hopen).trans
    exact (ihinner _ hstart).trans (label?_start_of_lt b hi)

/-- A node that is not open stays as it is. -/
theorem label?_of_closed {i : Nat} (hi : i < b.nodes.size) (hclosed : i ∉ b.opened)
    (calls : List Call) :
    (b.callAll calls).tree.label? i = b.tree.label? i := by
  induction calls generalizing b with
  | nil => rfl
  | cons c calls ih =>
    have hstart (kind : String) (offset : Nat) : i ∉ (b.start kind offset).opened := by
      rw [opened_start, List.mem_cons, not_or]
      exact ⟨Nat.ne_of_lt hi, hclosed⟩
    have hfinish (b : Builder) (offset : Nat) (h : i ∉ b.opened) :
        i ∉ (b.finish offset).opened ∧ (b.finish offset).tree.label? i = b.tree.label? i := by
      rw [opened_finish]
      exact ⟨fun hmem => h (List.mem_of_mem_tail hmem),
        label?_finish_of_ne b fun hhead => h (List.mem_of_head? hhead)⟩
    have hsize : i < (b.call c).nodes.size := by
      rw [size_call]
      omega
    rw [callAll_cons]
    cases c with
    | start kind offset => exact (ih _ hsize (hstart kind offset)).trans (label?_start_of_lt b hi)
    | leaf kind start stop =>
      obtain ⟨hopened, hlabel⟩ := hfinish _ stop (hstart kind start)
      exact (ih _ hsize hopened).trans (hlabel.trans (label?_start_of_lt b hi))
    | finish offset =>
      obtain ⟨hopened, hlabel⟩ := hfinish b offset hclosed
      exact (ih _ hsize hopened).trans hlabel

/-- A node covers what lies between the calls that start and finish it. -/
theorem label?_of_node {before inner rest : List Call} {kind : String} {start stop : Nat}
    (hinner : Balanced inner) :
    (callAll {} (before ++ .start kind start :: (inner ++ .finish stop :: rest))).tree.label?
      (before.countP Call.starts) = some (kind, Span.clamped start stop) := by
  have hlaid : (callAll {} before).Laid := laid_empty.callAll before
  have hsize : (callAll {} before).nodes.size = before.countP Call.starts := by
    rw [size_callAll]
    exact Nat.zero_add _
  rw [callAll_append, callAll_cons, callAll_append, callAll_cons, ← hsize]
  generalize callAll {} before = b at hlaid
  show ((((b.start kind start).callAll inner).finish stop).callAll rest).tree.label?
    b.nodes.size = _
  have hnew : b.nodes.size < (b.start kind start).nodes.size := by
    rw [size_start]
    omega
  have hopened : ((b.start kind start).callAll inner).opened = b.nodes.size :: b.opened :=
    opened_of_balanced _ hinner
  -- the node is open up to here and closed from here on
  have hclosed : b.nodes.size ∉ (((b.start kind start).callAll inner).finish stop).opened := by
    rw [opened_finish, hopened]
    exact fun hmem => Nat.lt_irrefl _ (hlaid.opened_lt _ hmem)
  have hthere : b.nodes.size < (((b.start kind start).callAll inner).finish stop).nodes.size := by
    rw [size_finish, size_callAll]
    omega
  rw [label?_of_closed _ hthere hclosed, label?_finish, hopened, List.head?_cons, if_pos rfl,
    label?_of_balanced _ hinner hnew, label?_start, if_pos rfl]
  rfl

/-- The element before which a number of elements are counted. -/
theorem exists_split_of_lt_countP {α : Type} {p : α → Bool} {xs : List α} {i : Nat}
    (h : i < xs.countP p) :
    ∃ before x after, xs = before ++ x :: after ∧ p x = true ∧ before.countP p = i := by
  induction xs generalizing i with
  | nil => cases h
  | cons x xs ih =>
    by_cases hx : p x = true
    · cases i with
      | zero => exact ⟨[], x, xs, rfl, hx, rfl⟩
      | succ i =>
        rw [List.countP_cons_of_pos hx] at h
        obtain ⟨before, y, after, rfl, hy, hcount⟩ := ih (Nat.lt_of_succ_lt_succ h)
        refine ⟨x :: before, y, after, rfl, hy, ?_⟩
        rw [List.countP_cons_of_pos hx, hcount]
    · rw [List.countP_cons_of_neg hx] at h
      obtain ⟨before, y, after, rfl, hy, hcount⟩ := ih h
      refine ⟨x :: before, y, after, rfl, hy, ?_⟩
      rw [List.countP_cons_of_neg hx, hcount]

/-- Every node is made by calls that start and finish it. -/
theorem exists_makes {calls : List Call} (h : AllFinished calls) {i : Nat} {node : Node}
    (hnode : (callAll {} calls).tree.node? i = some node) :
    ∃ start stop, Makes calls i node.kind start stop ∧ node.span = Span.clamped start stop := by
  have hlabel : (callAll {} calls).tree.label? i = some (node.kind, node.span) := by
    rw [Tree.label?, hnode]
    rfl
  have hlt : i < calls.countP Call.starts := by
    obtain ⟨hlt, -⟩ := Array.getElem?_eq_some_iff.1 hnode
    have hsize : (callAll {} calls).tree.nodes.size = 0 + calls.countP Call.starts :=
      size_callAll {} calls
    omega
  obtain ⟨before, c, after, rfl, hc, rfl⟩ := exists_split_of_lt_countP hlt
  cases c with
  | finish stop => cases hc
  | start kind start =>
    obtain ⟨inner, stop, rest, rfl, hinner⟩ := h before kind start after rfl
    rw [label?_of_node hinner] at hlabel
    obtain ⟨hkind, hspan⟩ := Prod.mk.inj (Option.some.inj hlabel)
    exact ⟨start, stop, hkind ▸ .node rfl hinner, hspan.symm⟩
  | leaf kind start stop =>
    have hleaf : callAll {} (before ++ .leaf kind start stop :: after) =
        callAll {} (before ++ .start kind start :: ([] ++ .finish stop :: after)) := by
      rw [callAll_append, callAll_append]
      rfl
    rw [hleaf, label?_of_node .nil] at hlabel
    obtain ⟨hkind, hspan⟩ := Prod.mk.inj (Option.some.inj hlabel)
    exact ⟨start, stop, hkind ▸ .leaf rfl, hspan.symm⟩

end Builder

/-- Whether the links of a tree fit together: parents stand before their children, a node is listed
once by its parent and by no other node, children are listed in order, the nodes below a node are
those from the next one up to some other, and the way up from a node ends after as many links as its
depth says. -/
structure Tree.Linked (t : Tree) : Prop where
  parent_lt : ∀ c p, t.parent? c = some p → p < c ∧ c < t.size
  count_children : ∀ p c, (t.children p).count c = if t.parent? c = some p then 1 else 0
  children_increase : ∀ p, (t.children p).Pairwise (· < ·)
  below_contiguous : ∀ i < t.size, ∃ stop, i < stop ∧ stop ≤ t.size ∧
    ∀ j, t.Below j i ↔ i + 1 ≤ j ∧ j < stop
  climbs_depth : ∀ c, t.Climbs c (t.depth c)
  depth_child : ∀ c p, t.parent? c = some p → t.depth c = t.depth p + 1
  depth_root : ∀ c, t.parent? c = none → t.depth c = 0

theorem Tree.Preordered.linked {t : Tree} (ht : t.Preordered) : t.Linked where
  parent_lt _ _ h := ⟨ht.parent_lt h, lt_size_of_parent? h⟩
  count_children := ht.count_children
  children_increase := ht.pairwise_children
  below_contiguous _ hi := ht.below_contiguous hi
  climbs_depth := ht.climbs_depth
  depth_child _ _ h := ht.depth_child h
  depth_root _ h := ht.depth_root h

namespace Builder

/-- Whatever is called, a tree comes out exactly if a node was started and all were finished. Its
links fit together, and each node covers what lies between the calls that start and finish it, or
nothing where it is finished at an offset before its start. -/
theorem calls_build_linked_tree (calls : List Call) :
    ((∃ t, (callAll {} calls).build = .ok t) ↔
        (∃ c ∈ calls, c.starts = true) ∧ AllFinished calls) ∧
      ∀ t, (callAll {} calls).build = .ok t →
        t.Linked ∧
          ∀ i node, t.node? i = some node →
            node.span.start ≤ node.span.stop ∧
              ∃ start stop, Makes calls i node.kind start stop ∧
                node.span = Span.clamped start stop := by
  constructor
  · exact build_eq_ok_iff calls
  · intro t hbuild
    have hbuilt : t.Built := ⟨calls, hbuild⟩
    have hfinished : AllFinished calls := ((build_eq_ok_iff calls).1 ⟨t, hbuild⟩).2
    refine ⟨hbuilt.preordered.linked, fun i node hnode => ?_⟩
    rw [tree_of_build hbuild] at hnode
    exact ⟨node.span.start_le_stop, exists_makes hfinished hnode⟩

/-- Two roots, of which the second holds a node that is finished before its start, and calls that
find nothing open to finish. -/
def strayCalls : List Call :=
  [.finish 3, .leaf "word" 0 1, .finish 2, .start "block" 2, .start "statement" 5, .leaf "word" 5 6,
    .finish 4, .finish 9, .finish 9]

theorem calls_build_linked_strayCalls :
    ∃ t, (callAll {} strayCalls).build = .ok t ∧ t.Linked ∧ t.parent? 1 = none ∧
      t.Below 3 1 ∧ t.depth 3 = 2 ∧
      Tree.label? t 2 = some ("statement", ⟨5, 5, Nat.le_refl 5⟩) := by
  have hbuild : (callAll {} strayCalls).build = .ok (callAll {} strayCalls).tree := rfl
  obtain ⟨hlinked, -⟩ := (calls_build_linked_tree strayCalls).2 _ hbuild
  refine ⟨_, hbuild, hlinked, by decide, ?_, by decide, by decide⟩
  exact .head (show _ = some 2 by decide) (.single (by decide))

end Builder

end SourceReducer
