import Mathlib.Data.List.Sort
import Mathlib.Data.List.TakeWhile
import Mathlib.Logic.Relation
import SourceReducer.Strategy.Basic

/-! Closing nodes under what depends on them. However the nodes depend on one another, a worklist
comes to its end, and what it has taken then is the least set with the given nodes that has all
dependents of its members. -/
namespace SourceReducer

instance : Std.Irrefl fun a b : NodeRef => a > b :=
  ⟨fun _ => NodeRef.lt_irrefl⟩

instance : IsTrans NodeRef fun a b => a > b :=
  ⟨fun _ _ _ hab hbc => NodeRef.lt_trans hbc hab⟩

theorem RefSet.not_mem_empty (r : NodeRef) : r ∉ RefSet.empty :=
  fun h => by cases h

/-- Sets with the same members are the same. -/
theorem RefSet.eq_of_mem_iff {s s' : RefSet} (h : ∀ r, r ∈ s ↔ r ∈ s') : s = s' := by
  obtain ⟨xs, hxs⟩ := s
  obtain ⟨ys, hys⟩ := s'
  obtain rfl : xs = ys := hxs.eq_of_mem_iff hys h
  rfl

/-! Dependence. -/

/-- Whether a set has, with each of its nodes whose unit exists, all nodes that directly depend on
it. -/
def Forest.ClosedUnder (f : Forest) (language : Language) (S : NodeRef → Prop) : Prop :=
  ∀ r tree, S r → f.tree? r.unit = some tree →
    ∀ j ∈ language.dependents tree r.index, j < indexLimit → S (f.refTo r.unit j)

/-- Whether a node is one of the given ones or depends on one of them, directly or through
others. -/
def Forest.Dependent (f : Forest) (language : Language) (nodes : List NodeRef) (x : NodeRef) :
    Prop :=
  ∃ r ∈ nodes, Relation.ReflTransGen (fun a b => b ∈ dependentsOf language f a) r x

theorem mem_dependentsOf {language : Language} {f : Forest} {r d : NodeRef} :
    d ∈ dependentsOf language f r ↔ ∃ tree, f.tree? r.unit = some tree ∧
      ∃ j ∈ language.dependents tree r.index, j < indexLimit ∧ d = f.refTo r.unit j := by
  unfold dependentsOf
  cases f.tree? r.unit with
  | none => simp
  | some tree => simp [and_assoc, eq_comm]

theorem Forest.closedUnder_iff {f : Forest} {language : Language} {S : NodeRef → Prop} :
    f.ClosedUnder language S ↔ ∀ r, S r → ∀ d ∈ dependentsOf language f r, S d := by
  constructor
  · intro h r hr d hd
    obtain ⟨tree, htree, j, hj, hlt, rfl⟩ := mem_dependentsOf.1 hd
    exact h r tree hr htree j hj hlt
  · intro h r tree hr htree j hj hlt
    exact h r hr _ (mem_dependentsOf.2 ⟨tree, htree, j, hj, hlt, rfl⟩)

/-- A reference to every position that a tree of the forest can have. -/
def Forest.places (f : Forest) : List NodeRef :=
  (List.range f.unitCount).flatMap fun unit => (List.range indexLimit).map (f.refTo unit)

theorem Forest.length_places (f : Forest) : f.places.length = f.unitCount * indexLimit := by
  simp [places, List.length_flatMap]

theorem Forest.mem_places_of_mem_dependentsOf {language : Language} {f : Forest} {r d : NodeRef}
    (h : d ∈ dependentsOf language f r) : d ∈ f.places := by
  obtain ⟨tree, htree, j, -, hlt, rfl⟩ := mem_dependentsOf.1 h
  have hunit : r.unit < f.unitCount := (List.getElem?_eq_some_iff.1 htree).1
  exact List.mem_flatMap.2 ⟨r.unit, List.mem_range.2 hunit,
    List.mem_map.2 ⟨j, List.mem_range.2 hlt, rfl⟩⟩

/-! The worklist. -/

section Worklist

variable {language : Language} {f : Forest} {nodes : List NodeRef} {closed : RefSet}
  {pending : List NodeRef}

theorem Forest.Dependent.mem_places {x : NodeRef} (h : f.Dependent language nodes x) :
    x ∈ nodes ++ f.places := by
  obtain ⟨r, hr, hpath⟩ := h
  rcases Relation.ReflTransGen.cases_tail hpath with rfl | ⟨y, -, hdep⟩
  · exact List.mem_append_left _ hr
  · exact List.mem_append_right _ (Forest.mem_places_of_mem_dependentsOf hdep)

theorem Forest.Dependent.of_mem {x : NodeRef} (h : x ∈ nodes) : f.Dependent language nodes x :=
  ⟨x, h, .refl⟩

theorem Forest.Dependent.tail {x d : NodeRef} (h : f.Dependent language nodes x)
    (hd : d ∈ dependentsOf language f x) : f.Dependent language nodes d := by
  obtain ⟨r, hr, hpath⟩ := h
  exact ⟨r, hr, hpath.tail hd⟩

/-- What holds between the nodes that were taken and those that wait: all of them are given or
depend on given ones, and a given node or one that depends on a taken one was taken or waits. -/
structure Frontier (language : Language) (f : Forest) (nodes : List NodeRef) (closed : RefSet)
    (pending : List NodeRef) : Prop where
  closed_dependent : ∀ r ∈ closed, f.Dependent language nodes r
  pending_dependent : ∀ r ∈ pending, f.Dependent language nodes r
  given : ∀ r ∈ nodes, r ∈ closed ∨ r ∈ pending
  dependents : ∀ r ∈ closed, ∀ d ∈ dependentsOf language f r, d ∈ closed ∨ d ∈ pending

namespace Frontier

theorem start (language : Language) (f : Forest) (nodes : List NodeRef) :
    Frontier language f nodes .empty nodes where
  closed_dependent r hr := absurd hr (RefSet.not_mem_empty r)
  pending_dependent _ := Forest.Dependent.of_mem
  given _ := .inr
  dependents r hr := absurd hr (RefSet.not_mem_empty r)

/-- Nodes that were taken before need not wait. -/
theorem skip (h : Frontier language f nodes closed pending) {pending' : List NodeRef}
    (hsub : ∀ r ∈ pending', r ∈ pending) (hrest : ∀ r ∈ pending, r ∈ closed ∨ r ∈ pending') :
    Frontier language f nodes closed pending' where
  closed_dependent := h.closed_dependent
  pending_dependent r hr := h.pending_dependent r (hsub r hr)
  given r hr := (h.given r hr).elim .inl (hrest r)
  dependents r hr d hd := (h.dependents r hr d hd).elim .inl (hrest d)

/-- A node that waits is taken, and then its dependents were taken or wait. -/
theorem take (h : Frontier language f nodes closed pending) {r : NodeRef} (hr : r ∈ pending)
    {pending' : List NodeRef}
    (hsub : ∀ x ∈ pending', x ∈ pending ∨ x ∈ dependentsOf language f r)
    (hwait : ∀ x ∈ pending, x ∈ closed.insert r ∨ x ∈ pending')
    (hdep : ∀ x ∈ dependentsOf language f r, x ∈ closed.insert r ∨ x ∈ pending') :
    Frontier language f nodes (closed.insert r) pending' := by
  have hrest (x : NodeRef) (hx : x ∈ closed ∨ x ∈ pending) : x ∈ closed.insert r ∨ x ∈ pending' :=
    hx.elim (fun hx => .inl (RefSet.mem_insert.2 (.inr hx))) (hwait x)
  refine ⟨?_, ?_, fun x hx => hrest x (h.given x hx), ?_⟩
  · intro x hx
    rcases RefSet.mem_insert.1 hx with rfl | hx
    · exact h.pending_dependent x hr
    · exact h.closed_dependent x hx
  · intro x hx
    rcases hsub x hx with hx | hx
    · exact h.pending_dependent x hx
    · exact (h.pending_dependent r hr).tail hx
  · intro x hx d hd
    rcases RefSet.mem_insert.1 hx with rfl | hx
    · exact hdep d hd
    · exact hrest d (h.dependents x hx d hd)

/-- When nothing waits any more, the given nodes and all that depend on them were taken. -/
theorem mem_iff (h : Frontier language f nodes closed []) {x : NodeRef} :
    x ∈ closed ↔ f.Dependent language nodes x := by
  refine ⟨h.closed_dependent x, ?_⟩
  rintro ⟨r, hr, hpath⟩
  induction hpath with
  | refl => simpa using h.given r hr
  | tail _ hd ih => simpa using h.dependents _ ih _ hd

end Frontier

/-- The number of places that are not taken, of which one is used up whenever a node is taken. -/
def roomLeft (f : Forest) (nodes : List NodeRef) (closed : RefSet) : Nat :=
  ((nodes ++ f.places).filter (· ∉ closed)).length

theorem roomLeft_insert_lt {r : NodeRef} (hr : r ∈ nodes ++ f.places) (hnew : r ∉ closed) :
    roomLeft f nodes (closed.insert r) < roomLeft f nodes closed := by
  have hless : (nodes ++ f.places).filter (· ∉ closed.insert r) =
      ((nodes ++ f.places).filter (· ∉ closed)).filter (· ≠ r) := by
    rw [List.filter_filter]
    refine List.filter_congr fun x _ => ?_
    simp [not_or]
  rw [roomLeft, hless]
  exact List.length_filter_lt_length_iff_exists.2
    ⟨r, List.mem_filter.2 ⟨hr, by simpa using hnew⟩, by simp⟩

theorem roomLeft_empty_le (f : Forest) (nodes : List NodeRef) :
    roomLeft f nodes .empty ≤ nodes.length + f.unitCount * indexLimit := by
  refine (List.length_filter_le _ _).trans ?_
  rw [List.length_append, f.length_places]

/-- With room for all places the closing does not stop before nothing waits. -/
theorem mem_closeFrom_iff (h : Frontier language f nodes closed pending) {n : Nat}
    (hroom : roomLeft f nodes closed ≤ n) {x : NodeRef} :
    x ∈ closeFrom language f n closed pending ↔ f.Dependent language nodes x := by
  induction n generalizing closed pending with
  | zero =>
    refine (h.skip (by simp) fun r hr => .inl ?_).mem_iff
    by_contra hnew
    have hlt := roomLeft_insert_lt (h.pending_dependent r hr).mem_places hnew
    omega
  | succ n ih =>
    have hsplit (r : NodeRef) (hr : r ∈ pending) :
        r ∈ closed ∨ r ∈ pending.dropWhile (· ∈ closed) := by
      rw [← List.takeWhile_append_dropWhile (p := (· ∈ closed)) (l := pending)] at hr
      refine (List.mem_append.1 hr).imp_left fun hr => ?_
      simpa using List.mem_takeWhile_imp hr
    have hdrop (r : NodeRef) (hr : r ∈ pending.dropWhile (· ∈ closed)) : r ∈ pending :=
      List.dropWhile_subset _ hr
    unfold closeFrom
    cases hnext : pending.dropWhile (· ∈ closed) with
    | nil =>
      rw [hnext] at hsplit
      exact (h.skip (by simp) hsplit).mem_iff
    | cons r rest =>
      rw [hnext] at hsplit hdrop
      have hr : r ∈ pending := hdrop r List.mem_cons_self
      have hnew : r ∉ closed := by
        have := List.head?_dropWhile_not (· ∈ closed) pending
        simpa [hnext] using this
      have hlt := roomLeft_insert_lt (h.pending_dependent r hr).mem_places hnew
      refine ih (h.take hr ?_ ?_ ?_) (by omega)
      · intro x hx
        exact (List.mem_append.1 hx).symm.imp_left fun hx => hdrop x (List.mem_cons_of_mem _ hx)
      · intro x hx
        rcases hsplit x hx with hx | hx
        · exact .inl (RefSet.mem_insert.2 (.inr hx))
        · rcases List.mem_cons.1 hx with rfl | hx
          · exact .inl (RefSet.mem_insert.2 (.inl rfl))
          · exact .inr (List.mem_append_right _ hx)
      · exact fun x hx => .inr (List.mem_append_left _ hx)

/-- The set holds exactly the given nodes and what depends on them, directly or through others. -/
theorem mem_withDependents_iff {x : NodeRef} :
    x ∈ withDependents language f nodes ↔ f.Dependent language nodes x :=
  mem_closeFrom_iff (Frontier.start language f nodes) (roomLeft_empty_le f nodes)

/-! One round after the other. -/

/-- The nodes that were taken and those that wait, of which the last one is next. -/
structure Worklist where
  closed : RefSet
  pending : List NodeRef

namespace Worklist

/-- One round: the next node is taken unless it was before, and its dependents that were not taken
wait then. There is no further round when nothing waits. -/
def round? (language : Language) (f : Forest) (w : Worklist) : Option Worklist :=
  match w.pending.getLast? with
  | none => none
  | some r =>
      let rest := w.pending.dropLast
      if r ∈ w.closed then some { w with pending := rest }
      else
        let closed := w.closed.insert r
        some { closed, pending := rest ++ (dependentsOf language f r).filter (· ∉ closed) }

/-- Whether rounds lead from a worklist to another one. -/
def LeadsTo (language : Language) (f : Forest) : Worklist → Worklist → Prop :=
  Relation.ReflTransGen fun w w' => w.round? language f = some w'

/-- All that a round can do. -/
theorem round?_cases (language : Language) (f : Forest) (w : Worklist) :
    (w.pending = [] ∧ w.round? language f = none) ∨ ∃ rest r, w.pending = rest ++ [r] ∧
      ((r ∈ w.closed ∧ w.round? language f = some ⟨w.closed, rest⟩) ∨
        (r ∉ w.closed ∧ w.round? language f = some ⟨w.closed.insert r,
          rest ++ (dependentsOf language f r).filter (· ∉ w.closed.insert r)⟩)) := by
  rcases List.eq_nil_or_concat w.pending with hnil | ⟨rest, r, hlast⟩
  · exact .inl ⟨hnil, by simp [round?, hnil]⟩
  · refine .inr ⟨rest, r, by simpa using hlast, ?_⟩
    by_cases hr : r ∈ w.closed
    · exact .inl ⟨hr, by simp [round?, hlast, hr]⟩
    · exact .inr ⟨hr, by simp [round?, hlast, hr]⟩

/-- The rounds come to an end: each takes a node, for which there is room only so often, or leaves
one fewer waiting. -/
theorem comes_to_an_end (w : Worklist) (h : Frontier language f nodes w.closed w.pending) :
    ∃ closed, LeadsTo language f w ⟨closed, []⟩ ∧ Frontier language f nodes closed [] := by
  rcases round?_cases language f w with
    ⟨hnil, -⟩ | ⟨rest, r, hpending, ⟨hr, hround⟩ | ⟨hr, hround⟩⟩
  · refine ⟨w.closed, ?_, hnil ▸ h⟩
    rw [← hnil]
    exact .refl
  · have hnext : Frontier language f nodes w.closed rest := by
      refine h.skip (fun x hx => by simp [hpending, hx]) fun x hx => ?_
      rw [hpending, List.mem_append, List.mem_singleton] at hx
      rcases hx with hx | rfl
      · exact .inr hx
      · exact .inl hr
    obtain ⟨closed, hleads, hend⟩ := comes_to_an_end ⟨w.closed, rest⟩ hnext
    exact ⟨closed, .head hround hleads, hend⟩
  · have hmem : r ∈ w.pending := by simp [hpending]
    have hlt := roomLeft_insert_lt (h.pending_dependent r hmem).mem_places hr
    have hnext : Frontier language f nodes (w.closed.insert r)
        (rest ++ (dependentsOf language f r).filter (· ∉ w.closed.insert r)) := by
      refine h.take hmem ?_ ?_ ?_
      · intro x hx
        rcases List.mem_append.1 hx with hx | hx
        · exact .inl (by simp [hpending, hx])
        · exact .inr (List.mem_filter.1 hx).1
      · intro x hx
        rw [hpending, List.mem_append, List.mem_singleton] at hx
        rcases hx with hx | rfl
        · exact .inr (List.mem_append_left _ hx)
        · exact .inl (RefSet.mem_insert.2 (.inl rfl))
      · intro x hx
        by_cases hclosed : x ∈ w.closed.insert r
        · exact .inl hclosed
        · exact .inr (List.mem_append_right _ (List.mem_filter.2 ⟨hx, by simpa using hclosed⟩))
    obtain ⟨closed, hleads, hend⟩ := comes_to_an_end ⟨_, _⟩ hnext
    exact ⟨closed, .head hround hleads, hend⟩
termination_by (roomLeft f nodes w.closed, w.pending.length)
decreasing_by
  · simp [Prod.lex_def, hpending]
  · exact Prod.Lex.left _ _ hlt

end Worklist

end Worklist

/-- Closing nodes under dependents: from the given nodes the worklist comes to its end with the set,
which is the least one that has the given nodes and is closed under dependents. It does not change
with the order in which nodes and dependents are listed or how often, and it grows with the given
nodes. -/
theorem dependents_closure_is_least (language : Language) (f : Forest) (nodes : List NodeRef) :
    Worklist.LeadsTo language f ⟨.empty, nodes⟩ ⟨withDependents language f nodes, []⟩ ∧
      (∀ r ∈ nodes, r ∈ withDependents language f nodes) ∧
      f.ClosedUnder language (· ∈ withDependents language f nodes) ∧
      (∀ S : NodeRef → Prop, (∀ r ∈ nodes, S r) → f.ClosedUnder language S →
        ∀ r ∈ withDependents language f nodes, S r) ∧
      (∀ nodes' : List NodeRef, (∀ r, r ∈ nodes' ↔ r ∈ nodes) →
        withDependents language f nodes' = withDependents language f nodes) ∧
      (∀ language' : Language,
        (∀ tree i j, j ∈ language'.dependents tree i ↔ j ∈ language.dependents tree i) →
        withDependents language' f nodes = withDependents language f nodes) ∧
      ∀ nodes' : List NodeRef, (∀ r ∈ nodes, r ∈ nodes') →
        ∀ r ∈ withDependents language f nodes, r ∈ withDependents language f nodes' := by
  refine ⟨?_, ?_, ?_, ?_, ?_, ?_, ?_⟩
  · obtain ⟨closed, hleads, hend⟩ :=
      Worklist.comes_to_an_end ⟨.empty, nodes⟩ (Frontier.start language f nodes)
    obtain rfl : closed = withDependents language f nodes :=
      RefSet.eq_of_mem_iff fun r => hend.mem_iff.trans mem_withDependents_iff.symm
    exact hleads
  · exact fun r hr => mem_withDependents_iff.2 (.of_mem hr)
  · refine Forest.closedUnder_iff.2 fun r hr d hd => ?_
    exact mem_withDependents_iff.2 ((mem_withDependents_iff.1 hr).tail hd)
  · intro S hgiven hclosed r hr
    obtain ⟨x, hx, hpath⟩ := mem_withDependents_iff.1 hr
    induction hpath with
    | refl => exact hgiven x hx
    | tail hpath hd ih =>
      exact Forest.closedUnder_iff.1 hclosed _ (ih (mem_withDependents_iff.2 ⟨x, hx, hpath⟩)) _ hd
  · intro nodes' hsame
    refine RefSet.eq_of_mem_iff fun r => ?_
    simp only [mem_withDependents_iff, Forest.Dependent, hsame]
  · intro language' hsame
    have hdep (a b : NodeRef) : b ∈ dependentsOf language' f a ↔ b ∈ dependentsOf language f a := by
      simp only [mem_dependentsOf, hsame]
    refine RefSet.eq_of_mem_iff fun r => ?_
    simp only [mem_withDependents_iff, Forest.Dependent, hdep]
  · intro nodes' hsub r hr
    obtain ⟨x, hx, hpath⟩ := mem_withDependents_iff.1 hr
    exact mem_withDependents_iff.2 ⟨x, hsub x hx, hpath⟩

end SourceReducer
