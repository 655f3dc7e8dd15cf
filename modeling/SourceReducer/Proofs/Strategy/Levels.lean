import SourceReducer.Proofs.Strategy.Hearing

/-! A pass of delta debugging. It goes through the levels of a forest from the root on. Every set
that it offers is made from nodes of one level, and unless something else happens first it comes to
single nodes in each of them, however many chunks were remembered. -/
namespace SourceReducer

section Chunks

variable {α : Type}

theorem ne_nil_of_mem_slices {size fuel : Nat} {xs part : List α} (hsize : 1 ≤ size)
    (h : part ∈ slices size fuel xs) : part ≠ [] := by
  induction fuel generalizing xs with
  | zero => simp [slices] at h
  | succ fuel ih =>
    cases xs with
    | nil => simp [slices] at h
    | cons x xs =>
      rw [slices, List.mem_cons] at h
      rcases h with rfl | h
      · obtain ⟨m, rfl⟩ : ∃ m, size = m + 1 := ⟨size - 1, by omega⟩
        simp
      · exact ih h

theorem ne_nil_of_mem_chunks {n : Nat} {xs part : List α} (h : part ∈ chunks n xs) : part ≠ [] := by
  unfold chunks at h
  split at h
  · simp at h
  · next hn =>
    cases xs with
    | nil => simp [slices] at h
    | cons x xs =>
      refine ne_nil_of_mem_slices ?_ h
      rw [Nat.one_le_div_iff (by omega), List.length_cons]
      omega

/-- What is left without one of at least two parts is not empty. -/
theorem complement_ne_nil {parts : List (List α)} (h : ∀ part ∈ parts, part ≠ [])
    (hlength : 2 ≤ parts.length) (i : Nat) : complement parts i ≠ [] := by
  have hleft : parts.length - 1 ≤ (parts.eraseIdx i).length := by
    rw [List.length_eraseIdx]
    split <;> omega
  obtain ⟨part, hpart⟩ : ∃ part, part ∈ parts.eraseIdx i :=
    List.exists_mem_of_length_pos (by omega)
  obtain ⟨x, hx⟩ := List.exists_mem_of_ne_nil part (h part (List.mem_of_mem_eraseIdx hpart))
  exact List.ne_nil_of_mem (List.mem_flatten.2 ⟨part, hpart, hx⟩)

end Chunks

namespace Ddmin

/-! The numbers of chunks. -/

/-- Whether numbers of chunks start with `n` and are doubled until each of `size` nodes is a
chunk. -/
inductive Doubles (size : Nat) : Nat → List Nat → Prop
  | last {n : Nat} (h : size ≤ n) : Doubles size n [n]
  | next {n : Nat} {ns : List Nat} (h : n < size) (hrest : Doubles size (min (n * 2) size) ns) :
      Doubles size n (n :: ns)

theorem doubles_granularities {size fuel n : Nat} (hn : 1 ≤ n) (hfuel : size ≤ n + fuel) :
    Doubles size n (granularities size fuel n) := by
  induction fuel generalizing n with
  | zero => exact .last hfuel
  | succ fuel ih =>
    unfold granularities
    split
    · next h => exact .last h
    · next h =>
      apply Doubles.next (Nat.lt_of_not_le h)
      apply ih <;> omega

/-- The numbers of chunks are never cut short. -/
theorem doubles_schedule {size : Nat} (hsize : 1 ≤ size) (n : Nat) :
    Doubles size (min (max n 1) size) (schedule size n) :=
  doubles_granularities (by omega) (by omega)

/-! What a pass offers. -/

/-- The depth that a step belongs to and the nodes that it offers, dependents apart. -/
def Step.offer? : Step → Option (Nat × List NodeRef)
  | .offerChunk depth _ nodes => some (depth, nodes)
  | .offerComplement depth _ parts i => some (depth, complement parts i)
  | .enter _ | .refine _ _ => none

theorem flatMap_offered (language : Language) (f : Forest) (steps : List Step) :
    steps.flatMap (Step.offered language f) =
      (steps.filterMap Step.offer?).map fun o => withDependents language f o.2 := by
  induction steps with
  | nil => rfl
  | cons step rest ih =>
    rw [List.flatMap_cons, ih]
    cases step <;> rfl

/-- A round offers nodes of its level, and never none. -/
theorem offer_of_mem_round {depth n : Nat} {nodes : List NodeRef} {step : Step}
    {o : Nat × List NodeRef} (h : step ∈ round depth nodes n) (ho : step.offer? = some o) :
    o.1 = depth ∧ o.2 ≠ [] ∧ ∀ r ∈ o.2, r ∈ nodes := by
  have hwithin := within_of_mem_round h
  unfold round at h
  rcases List.mem_append.1 h with h | h
  · rcases List.mem_cons.1 h with rfl | h
    · cases ho
    · obtain ⟨part, hpart, rfl⟩ := List.mem_map.1 h
      cases ho
      exact ⟨rfl, ne_nil_of_mem_chunks hpart, hwithin⟩
  · split at h
    · next hmany =>
      obtain ⟨i, -, rfl⟩ := List.mem_map.1 h
      cases ho
      refine ⟨rfl, complement_ne_nil ?_ (by omega) i, hwithin⟩
      intro part hpart
      exact ne_nil_of_mem_chunks hpart
    · cases h

theorem offer_of_mem_rounds {depth : Nat} {nodes : List NodeRef} {ns : List Nat} {step : Step}
    {o : Nat × List NodeRef} (h : step ∈ rounds depth nodes ns) (ho : step.offer? = some o) :
    o.1 = depth ∧ o.2 ≠ [] ∧ ∀ r ∈ o.2, r ∈ nodes := by
  rcases mem_rounds_cases h with ⟨n, -, hstep⟩ | ⟨n, rfl⟩
  · exact offer_of_mem_round hstep ho
  · cases ho

/-- The depths and nodes that a pass offers while all is refused. -/
def offers (f : Forest) (state : State) : List (Nat × List NodeRef) :=
  (plan f state).filterMap Step.offer?

theorem pos_of_mem_depths {nodes : List (NodeRef × Option Nat)} {depth : Nat}
    (h : depth ∈ depths nodes) : 1 ≤ depth := by
  simp only [depths, List.mem_filter, List.mem_map] at h
  obtain ⟨⟨d, -, rfl⟩, -⟩ := h
  omega

theorem pairwise_depths (nodes : List (NodeRef × Option Nat)) :
    (depths nodes).Pairwise (· < ·) := by
  unfold depths
  apply List.Pairwise.filter
  rw [List.pairwise_map]
  exact List.pairwise_lt_range.imp fun h => Nat.succ_lt_succ h

/-- Every offer is made from nodes of one depth below the roots. -/
theorem offers_level {f : Forest} {state : State} {o : Nat × List NodeRef}
    (h : o ∈ offers f state) :
    1 ≤ o.1 ∧ o.2 ≠ [] ∧ ∀ r ∈ o.2, f.depth? r = some o.1 := by
  obtain ⟨step, hstep, ho⟩ := List.mem_filterMap.1 h
  obtain ⟨depth, hdepth, hstep⟩ := List.mem_flatMap.1 hstep
  obtain ⟨rfl, hne, hlevel⟩ := offer_of_mem_rounds hstep ho
  exact ⟨pos_of_mem_depths hdepth, hne, fun r hr => (mem_level.1 (hlevel r hr)).2⟩

/-- Depths never go back to a lesser one. -/
theorem pairwise_offers (f : Forest) (state : State) :
    ((offers f state).map Prod.fst).Pairwise (· ≤ ·) := by
  unfold offers plan
  rw [List.filterMap_flatMap, List.map_flatMap, List.pairwise_flatMap]
  have hdepth (depth : Nat) {x : Nat}
      (hx : x ∈ ((rounds depth (level (placed f) depth)
        (schedule (level (placed f) depth).length (state.granularityAt depth))).filterMap
          Step.offer?).map Prod.fst) : x = depth := by
    obtain ⟨o, ho, rfl⟩ := List.mem_map.1 hx
    obtain ⟨step, hstep, hoffer⟩ := List.mem_filterMap.1 ho
    exact (offer_of_mem_rounds hstep hoffer).1
  constructor
  · intro depth _
    apply List.pairwise_of_forall_mem_list
    intro x hx y hy
    rw [hdepth depth hx, hdepth depth hy]
  · refine (pairwise_depths _).imp fun {depth depth'} hlt x hx y hy => ?_
    rw [hdepth depth hx, hdepth depth' hy]
    exact Nat.le_of_lt hlt

/-- Every node below a root is offered by itself. -/
theorem single_mem_offers {f : Forest} {r : NodeRef} {depth : Nat}
    (hdepth : f.depth? r = some (depth + 1)) (state : State) : (depth + 1, [r]) ∈ offers f state :=
  List.mem_filterMap.2 ⟨_, chunk_mem_plan hdepth state, rfl⟩

theorem follows_pass (language : Language) (f : Forest) (state : State) (answers : Nat → Answer) :
    ((strategy.pass language f state).hold answers).Follows answers
      ((offers f state).map fun o => withDependents language f o.2) := by
  have hplay := offers_play language f (plan f state) { state with passes := state.passes + 1 }
  rw [flatMap_offered] at hplay
  exact hplay.follows answers

/-- A pass offers closed sets of nodes, level by level, until one of them is not refused, and if all
are refused every node below a root was offered by itself. The chunks of a level get smaller until
they are single nodes. -/
theorem pass_comes_to_single_nodes (language : Language) (f : Forest) (state : State) :
    (∃ given : List (Nat × List NodeRef),
      (given.map Prod.fst).Pairwise (· ≤ ·) ∧
      (∀ o ∈ given, 1 ≤ o.1 ∧ o.2 ≠ [] ∧ ∀ r ∈ o.2, f.depth? r = some o.1) ∧
      (∀ r depth, f.depth? r = some (depth + 1) → (depth + 1, [r]) ∈ given) ∧
      ∀ answers, ((strategy.pass language f state).hold answers).Follows answers
        (given.map fun o => withDependents language f o.2)) ∧
      (∀ answers, (∀ j, (answers j).isRefusal = true) →
        let hearing := (strategy.pass language f state).hold answers
        hearing.outcome = .ok (.failed .exhausted) ∧
          ∀ r depth, f.depth? r = some (depth + 1) →
            .remove (withDependents language f [r]) ∈ hearing.exchanges.map Prod.fst) ∧
      ∀ depth ∈ depths (placed f),
        let size := (level (placed f) depth).length
        let n := state.granularityAt depth
        Doubles size (min (max n 1) size) (schedule size n) := by
  refine ⟨⟨offers f state, pairwise_offers f state, fun o => offers_level,
    fun r depth hdepth => single_mem_offers hdepth state, follows_pass language f state⟩, ?_, ?_⟩
  · intro answers hrefused hearing
    obtain ⟨hrequests, houtcome⟩ := (follows_pass language f state answers).of_refused hrefused
    refine ⟨houtcome, fun r depth hdepth => ?_⟩
    rw [hrequests]
    exact List.mem_map_of_mem (List.mem_map_of_mem (single_mem_offers hdepth state))
  · intro depth hdepth
    apply doubles_schedule
    simp only [depths, List.mem_filter] at hdepth
    exact List.length_pos_iff.2 (by simpa using hdepth.2)

end Ddmin

end SourceReducer
