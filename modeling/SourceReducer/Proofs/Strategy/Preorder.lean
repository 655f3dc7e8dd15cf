import SourceReducer.Proofs.Strategy.Hearing
import SourceReducer.Proofs.Tree.Arena

/-! A pass of the greedy strategy. It offers the nodes below roots one by one in pre-order, so that
every node comes before all nodes below it, and it counts what it offers and what is removed. -/
namespace SourceReducer

namespace Forest

/-- All nodes unit by unit, those of each unit in pre-order. -/
def preorder (f : Forest) : List NodeRef :=
  f.trees.zipIdx.flatMap fun (t, unit) => t.preorder.map (f.refTo unit)

/-- Whether parent links lead up from a node to another one. -/
def Above (f : Forest) : NodeRef → NodeRef → Prop :=
  Relation.TransGen fun p c => f.parent? c = some p

theorem preorder_eq_refs {f : Forest} (h : ∀ t ∈ f.trees, t.Built) : f.preorder = f.refs := by
  unfold preorder refs
  refine List.flatMap_congr fun ⟨t, unit⟩ hmem => ?_
  have ht : t ∈ f.trees := List.mem_of_getElem? (List.mem_zipIdx_iff_getElem?.1 hmem)
  show t.preorder.map (f.refTo unit) = t.indices.map (f.refTo unit)
  rw [(h t ht).preordered.preorder_eq]

/-- The nodes are listed in increasing order. -/
theorem pairwise_refs (f : Forest) : f.refs.Pairwise (· < ·) := by
  have hunits : f.trees.zipIdx.Pairwise fun a b => a.2 < b.2 := by
    rw [← List.pairwise_map, List.zipIdx_map_snd]
    exact List.pairwise_lt_range'
  unfold refs
  rw [List.pairwise_flatMap]
  constructor
  · intro ⟨t, unit⟩ _
    rw [List.pairwise_map]
    exact List.pairwise_lt_range.imp fun hlt => .inr ⟨rfl, .inr ⟨rfl, hlt⟩⟩
  · refine hunits.imp fun {a b} hlt x hx y hy => ?_
    obtain ⟨i, -, rfl⟩ := List.mem_map.1 hx
    obtain ⟨j, -, rfl⟩ := List.mem_map.1 hy
    exact .inr ⟨rfl, .inl hlt⟩

theorem parent_lt {f : Forest} (h : ∀ t ∈ f.trees, t.Built) {p c : NodeRef}
    (hparent : f.parent? c = some p) : p < c := by
  unfold parent? resolve? at hparent
  split at hparent
  · next hgeneration =>
    cases htree : f.tree? c.unit with
    | none => simp [htree] at hparent
    | some t =>
      rw [htree] at hparent
      obtain ⟨i, hi, rfl⟩ := Option.map_eq_some_iff.1 hparent
      have hlt := (h t (List.mem_of_getElem? htree)).preordered.parent_lt hi
      exact .inr ⟨hgeneration.symm, .inr ⟨rfl, hlt⟩⟩
  · simp at hparent

theorem lt_of_above {f : Forest} (h : ∀ t ∈ f.trees, t.Built) {r s : NodeRef} (hrs : f.Above r s) :
    r < s := by
  induction hrs with
  | single hparent => exact parent_lt h hparent
  | tail _ hparent ih => exact NodeRef.lt_trans ih (parent_lt h hparent)

end Forest

/-- In a list that increases, the lesser of two members stands first. -/
theorem position_lt {refs : List NodeRef} (h : refs.Pairwise (· < ·)) {i j : Nat} {r s : NodeRef}
    (hi : refs[i]? = some r) (hj : refs[j]? = some s) (hlt : r < s) : i < j := by
  obtain ⟨hi', rfl⟩ := List.getElem?_eq_some_iff.1 hi
  obtain ⟨hj', rfl⟩ := List.getElem?_eq_some_iff.1 hj
  rcases Nat.lt_trichotomy i j with hij | rfl | hji
  · exact hij
  · exact absurd hlt NodeRef.lt_irrefl
  · have hgt := List.pairwise_iff_getElem.1 h j i hj' hi' hji
    exact absurd (NodeRef.lt_trans hlt hgt) NodeRef.lt_irrefl

namespace Greedy

/-- The state after sets were offered: every one that was offered is counted, and so is every
removal. -/
theorem state_offer (sets : List RefSet) (state : State) (answers : Nat → Answer) :
    let hearing := (offer sets state).hold answers
    hearing.state =
      { state with
        attempts := state.attempts + hearing.exchanges.length
        removals := state.removals + hearing.exchanges.countP fun x => x.2.isRemoval } := by
  induction sets generalizing state answers with
  | nil => rfl
  | cons nodes rest ih =>
    simp only [offer, Dialogue.hold]
    rcases houtcome : (answers 0).outcome with failure | control
    · have hremoval : (answers 0).isRemoval = false := by simp [Answer.isRemoval, houtcome]
      simp [Dialogue.hold, hremoval]
    · cases control with
      | proceed =>
        have hremoval : (answers 0).isRemoval = true := by simp [Answer.isRemoval, houtcome]
        simp [Dialogue.hold, hremoval]
      | stop =>
        have hremoval : (answers 0).isRemoval = false := by simp [Answer.isRemoval, houtcome]
        simp [Dialogue.hold, hremoval]
      | failed reason =>
        have hremoval : (answers 0).isRemoval = false := by simp [Answer.isRemoval, houtcome]
        simp only
        rw [ih]
        simp only [List.length_cons, List.countP_cons, hremoval, Bool.false_eq_true, if_false,
          Nat.add_zero, Nat.add_assoc, Nat.add_comm 1]

/-- The state after passes counts all that was asked in them. -/
theorem state_hear (language : Language) (state : State) (rounds : List (Forest × (Nat → Answer))) :
    let hearings := (strategy.hear language state rounds).1
    (strategy.hear language state rounds).2 =
      { passes := state.passes + hearings.length
        attempts := state.attempts + (hearings.flatMap Hearing.exchanges).length
        removals := state.removals +
          (hearings.flatMap Hearing.exchanges).countP fun x => x.2.isRemoval } := by
  induction rounds generalizing state with
  | nil => rfl
  | cons round later ih =>
    obtain ⟨f, answers⟩ := round
    have hstate : ((strategy.pass language f state).hold answers).state = _ :=
      state_offer (candidates language f) { state with passes := state.passes + 1 } answers
    simp only [Strategy.hear, ih, hstate, List.length_cons, List.flatMap_cons, List.length_append,
      List.countP_append, State.mk.injEq]
    exact ⟨by omega, Nat.add_assoc .., Nat.add_assoc ..⟩

theorem follows_pass (language : Language) (f : Forest) (state : State) (answers : Nat → Answer) :
    ((strategy.pass language f state).hold answers).Follows answers
      ((f.refs.filter f.isInner).map fun r => withDependents language f [r]) :=
  (offers_offer (candidates language f) { state with passes := state.passes + 1 }).follows answers

/-- A pass offers the nodes below roots in pre-order, each with its dependents and before all nodes
below it, until one of them is not refused. The counts over all passes are those of the sets that
were offered and of the removals. -/
theorem pass_offers_in_preorder (language : Language) (f : Forest) (hbuilt : ∀ t ∈ f.trees, t.Built)
    (state : State) :
    let nodes := f.preorder.filter f.isInner
    (∀ answers, ((strategy.pass language f state).hold answers).Follows answers
        (nodes.map fun r => withDependents language f [r])) ∧
      (∀ r, r ∈ nodes ↔ (f.parent? r).isSome = true) ∧
      (∀ (i j : Nat) (r s : NodeRef), nodes[i]? = some r → nodes[j]? = some s →
        f.Above r s → i < j) ∧
      ∀ rounds,
        let hearings := (strategy.hear language strategy.start rounds).1
        let final := (strategy.hear language strategy.start rounds).2
        final.passes = rounds.length ∧
          final.attempts = (hearings.flatMap Hearing.exchanges).length ∧
          final.removals = (hearings.flatMap Hearing.exchanges).countP fun x => x.2.isRemoval := by
  rw [Forest.preorder_eq_refs hbuilt]
  intro nodes
  refine ⟨follows_pass language f state, ?_, ?_, ?_⟩
  · intro r
    constructor
    · exact fun hr => (List.mem_filter.1 hr).2
    · intro hr
      exact List.mem_filter.2 ⟨Forest.mem_refs.2 (Forest.contains_of_isInner hr), hr⟩
  · intro i j r s hi hj habove
    exact position_lt (f.pairwise_refs.filter _) hi hj (Forest.lt_of_above hbuilt habove)
  · intro rounds hearings final
    have hfinal : final = _ := state_hear language strategy.start rounds
    have hlength : hearings.length = rounds.length :=
      strategy.length_hear language strategy.start rounds
    rw [hfinal]
    refine ⟨?_, Nat.zero_add _, Nat.zero_add _⟩
    show 0 + hearings.length = rounds.length
    rw [Nat.zero_add, hlength]

/-- A tree of two roots, where the second one has two children and a node below the first of
them. -/
def rootedCalls : List Builder.Call :=
  [.leaf "word" 0 1, .start "block" 1, .start "statement" 2, .leaf "word" 2 3, .finish 4,
    .leaf "word" 5 6, .finish 7]

def rootedForest : Forest :=
  { generation := 3
    trees := [(Builder.callAll {} rootedCalls).tree, (Builder.callAll {} rootedCalls).tree] }

/-- The nodes below roots of two such trees, in the order in which they are offered. -/
theorem pass_offers_rootedForest :
    rootedForest.preorder.filter rootedForest.isInner =
        [⟨3, 0, 2⟩, ⟨3, 0, 3⟩, ⟨3, 0, 4⟩, ⟨3, 1, 2⟩, ⟨3, 1, 3⟩, ⟨3, 1, 4⟩] ∧
      ∀ (language : Language) (state : State) answers,
        ((strategy.pass language rootedForest state).hold answers).Follows answers
          ((rootedForest.preorder.filter rootedForest.isInner).map fun r =>
            withDependents language rootedForest [r]) := by
  have hbuilt : ∀ t ∈ rootedForest.trees, t.Built := by
    intro t ht
    have heq : t = (Builder.callAll {} rootedCalls).tree := by simpa [rootedForest] using ht
    exact ⟨rootedCalls, heq ▸ rfl⟩
  refine ⟨by decide, fun language state => ?_⟩
  exact (pass_offers_in_preorder language rootedForest hbuilt state).1

end Greedy

end SourceReducer
