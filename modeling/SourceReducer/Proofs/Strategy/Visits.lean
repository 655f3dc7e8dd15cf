import SourceReducer.Proofs.Strategy.Notes
import SourceReducer.Proofs.Strategy.Partition

/-! The visit of a pass to a depth. It starts with the chunks that the remembered number gives.
Between two rounds the number grows, and each round offers something, so that what was offered of a
depth says which numbers were written for it. -/
namespace SourceReducer.Ddmin

/-! The steps of one level. -/

def visit (f : Forest) (state : State) (depth : Nat) : List Step :=
  let nodes := level (placed f) depth
  rounds depth nodes (schedule nodes.length (state.granularityAt depth))

theorem plan_eq (f : Forest) (state : State) :
    plan f state = (depths (placed f)).flatMap (visit f state) :=
  rfl

theorem level_ne_nil {f : Forest} {depth : Nat} (h : depth ∈ depths (placed f)) :
    level (placed f) depth ≠ [] := by
  simp only [depths, List.mem_filter] at h
  simpa using h.2

theorem mem_depths_of_level {f : Forest} {depth : Nat} (hpos : 1 ≤ depth)
    (h : level (placed f) depth ≠ []) : depth ∈ depths (placed f) := by
  obtain ⟨r, hr⟩ := List.exists_mem_of_ne_nil _ h
  obtain ⟨hrefs, hdepth⟩ := mem_level.1 hr
  obtain ⟨d, rfl⟩ := Nat.exists_eq_succ_of_ne_zero (Nat.ne_of_gt hpos)
  exact mem_depths hrefs hdepth

/-- The depth that a step belongs to. -/
def Step.depth? : Step → Option Nat
  | .offerChunk depth _ _ | .offerComplement depth _ _ _ | .refine depth _ => some depth
  | .enter _ => none

theorem depth?_of_trial? {step : Step} {t : Trial} (h : step.trial? = some t) :
    step.depth? = some t.depth := by
  cases step with
  | enter n => cases h
  | refine depth n => cases h
  | offerChunk depth n nodes =>
    cases h
    rfl
  | offerComplement depth n parts i =>
    cases h
    rfl

section Rounds

variable {depth : Nat} {nodes : List NodeRef}

theorem mem_round_cases {n : Nat} {step : Step} (h : step ∈ round depth nodes n) :
    step = .enter n ∨ ∃ t, step.trial? = some t ∧ t.depth = depth := by
  unfold round at h
  rcases List.mem_append.1 h with h | h
  · rcases List.mem_cons.1 h with rfl | h
    · exact .inl rfl
    · obtain ⟨part, -, rfl⟩ := List.mem_map.1 h
      exact .inr ⟨_, rfl, rfl⟩
  · split at h
    · obtain ⟨i, -, rfl⟩ := List.mem_map.1 h
      exact .inr ⟨_, rfl, rfl⟩
    · cases h

theorem refine_not_mem_round {n other m : Nat} : .refine other m ∉ round depth nodes n := by
  intro h
  rcases mem_round_cases h with heq | ⟨t, htrial, -⟩
  · cases heq
  · cases htrial

/-- All steps of a level belong to its depth. -/
theorem depth_of_mem_rounds {ns : List Nat} {step : Step} {other : Nat}
    (h : step ∈ rounds depth nodes ns) (hother : step.depth? = some other) : other = depth := by
  rcases mem_rounds_cases h with ⟨n, -, hstep⟩ | ⟨n, rfl⟩
  · rcases mem_round_cases hstep with rfl | ⟨t, htrial, hdepth⟩
    · cases hother
    · rw [depth?_of_trial? htrial] at hother
      cases hother
      exact hdepth
  · cases hother
    rfl

theorem refinements_rounds (ns : List Nat) :
    refinements depth (rounds depth nodes ns) = ns.tail := by
  have hround (n : Nat) : refinements depth (round depth nodes n) = [] :=
    List.eq_nil_iff_forall_not_mem.2 fun m hm => refine_not_mem_round (mem_refinements.1 hm)
  fun_induction rounds depth nodes ns with
  | case1 => rfl
  | case2 n => exact hround n
  | case3 n m rest ih =>
    rw [refinements_append, hround, List.nil_append, refinements_refine, ih]
    rfl

/-- A round starts with its chunks. -/
theorem chunks_of_round (n : Nat) :
    (chunks n nodes).map (Trial.mk depth n) <+: trialsOf (round depth nodes n) := by
  unfold round trialsOf
  have hchunk : Step.trial? ∘ Step.offerChunk depth n = some ∘ Trial.mk depth n := rfl
  rw [List.filterMap_append, List.filterMap_cons_none rfl, List.filterMap_map, hchunk,
    List.filterMap_eq_map]
  exact List.prefix_append ..

theorem chunks_of_rounds (n : Nat) (rest : List Nat) :
    (chunks n nodes).map (Trial.mk depth n) <+: trialsOf (rounds depth nodes (n :: rest)) := by
  cases rest with
  | nil => exact chunks_of_round n
  | cons m rest =>
    rw [rounds, trialsOf_append]
    exact (chunks_of_round n).trans (List.prefix_append ..)

theorem exists_trial_of_rounds (hnodes : nodes ≠ []) {n : Nat} (hn : 1 ≤ n) (rest : List Nat) :
    ∃ t ∈ trialsOf (rounds depth nodes (n :: rest)), t.depth = depth := by
  have hparts : chunks n nodes ≠ [] := by
    intro hnone
    have hflatten := flatten_chunks hn nodes
    rw [hnone] at hflatten
    exact hnodes hflatten.symm
  obtain ⟨part, hpart⟩ := List.exists_mem_of_ne_nil _ hparts
  have hmem : Trial.mk depth n part ∈ (chunks n nodes).map (Trial.mk depth n) :=
    List.mem_map_of_mem hpart
  exact ⟨_, (chunks_of_rounds n rest).subset hmem, rfl⟩

end Rounds

/-! Where the number of chunks grows. -/

/-- Whether something of the same depth is offered before and after each step to a larger number of
chunks. -/
def Flanked (steps : List Step) : Prop :=
  ∀ before depth n after, steps = before ++ .refine depth n :: after →
    (∃ t ∈ trialsOf before, t.depth = depth) ∧ ∃ t ∈ trialsOf after, t.depth = depth

theorem split_append {α : Type} {xs ys before after : List α} {x : α}
    (h : xs ++ ys = before ++ x :: after) :
    (∃ mid, xs = before ++ x :: mid ∧ after = mid ++ ys) ∨
      ∃ mid, before = xs ++ mid ∧ ys = mid ++ x :: after := by
  rcases List.append_eq_append_iff.1 h with ⟨mid, hbefore, hys⟩ | ⟨mid, hxs, hafter⟩
  · exact .inr ⟨mid, hbefore, hys⟩
  · rcases List.append_eq_cons_iff.1 hafter.symm with ⟨rfl, hys⟩ | ⟨mid', rfl, hafter'⟩
    · exact .inr ⟨[], by simpa using hxs.symm, hys⟩
    · exact .inl ⟨mid', hxs, hafter'⟩

theorem Flanked.append {steps more : List Step} (hsteps : Flanked steps) (hmore : Flanked more) :
    Flanked (steps ++ more) := by
  intro before depth n after hsplit
  rcases split_append hsplit with ⟨mid, hfirst, rfl⟩ | ⟨mid, rfl, hsecond⟩
  · obtain ⟨hbefore, t, ht, hdepth⟩ := hsteps before depth n mid hfirst
    rw [trialsOf_append]
    exact ⟨hbefore, t, List.mem_append_left _ ht, hdepth⟩
  · obtain ⟨⟨t, ht, hdepth⟩, hafter⟩ := hmore mid depth n after hsecond
    rw [trialsOf_append]
    exact ⟨⟨t, List.mem_append_right _ ht, hdepth⟩, hafter⟩

theorem flanked_rounds {depth : Nat} {nodes : List NodeRef} (hnodes : nodes ≠ []) {ns : List Nat}
    (hns : ∀ n ∈ ns, 1 ≤ n) : Flanked (rounds depth nodes ns) := by
  fun_induction rounds depth nodes ns with
  | case1 =>
    intro before other n after hsplit
    simp at hsplit
  | case2 n =>
    intro before other m after hsplit
    exact absurd (hsplit ▸ List.mem_append_right _ List.mem_cons_self) refine_not_mem_round
  | case3 n m rest ih =>
    have hn : 1 ≤ n := hns n List.mem_cons_self
    have hm : 1 ≤ m := hns m (List.mem_cons_of_mem _ List.mem_cons_self)
    intro before other k after hsplit
    rcases split_append hsplit with ⟨mid, hfirst, -⟩ | ⟨mid, rfl, hsecond⟩
    · exact absurd (hfirst ▸ List.mem_append_right _ List.mem_cons_self) refine_not_mem_round
    · rw [trialsOf_append]
      rcases List.cons_eq_append_iff.1 hsecond with ⟨rfl, hhere⟩ | ⟨mid', rfl, hlater⟩
      · -- the step between the two rounds
        obtain ⟨hstep, rfl⟩ := List.cons.inj hhere
        cases hstep
        obtain ⟨t, ht, hdepth⟩ : ∃ t ∈ trialsOf (round depth nodes n), t.depth = depth :=
          exists_trial_of_rounds hnodes hn []
        exact ⟨⟨t, List.mem_append_left _ ht, hdepth⟩, exists_trial_of_rounds hnodes hm rest⟩
      · obtain ⟨⟨t, ht, hdepth⟩, hafter⟩ :=
          ih (fun n hn => hns n (List.mem_cons_of_mem _ hn)) mid' other k after hlater
        exact ⟨⟨t, List.mem_append_right _ ht, hdepth⟩, hafter⟩

theorem Doubles.eq_cons {size n : Nat} {ns : List Nat} (h : Doubles size n ns) :
    ∃ rest, ns = n :: rest := by
  cases h with
  | last => exact ⟨[], rfl⟩
  | next => exact ⟨_, rfl⟩

/-- All numbers of chunks but the first are larger than that, and there are any only if it is too
small. -/
theorem Doubles.lt_of_mem_tail {size n m : Nat} {ns : List Nat} (h : Doubles size n ns) (hn : 1 ≤ n)
    (hm : m ∈ ns.tail) : n < size ∧ n < m := by
  induction h with
  | last => cases hm
  | @next n ns hlt hrest ih =>
    obtain ⟨rest, rfl⟩ := hrest.eq_cons
    rcases List.mem_cons.1 hm with rfl | hm
    · omega
    · have hlater := (ih (by omega) hm).2
      omega

theorem Doubles.le_of_mem {size n m : Nat} {ns : List Nat} (h : Doubles size n ns) (hn : 1 ≤ n)
    (hm : m ∈ ns) : n ≤ m := by
  obtain ⟨rest, rfl⟩ := h.eq_cons
  rcases List.mem_cons.1 hm with rfl | hm
  · exact Nat.le_refl m
  · exact Nat.le_of_lt (h.lt_of_mem_tail hn hm).2

theorem Doubles.le_last {size n : Nat} {ns : List Nat} (h : Doubles size n ns) :
    ∃ last, ns.getLast? = some last ∧ size ≤ last := by
  induction h with
  | @last n h => exact ⟨n, rfl, h⟩
  | next hlt hrest ih =>
    obtain ⟨last, hlast, hle⟩ := ih
    refine ⟨last, ?_, hle⟩
    rw [List.getLast?_cons, hlast]
    rfl

/-- In the end there are at least as many chunks as nodes. -/
theorem le_getLast_schedule {size n : Nat} (hsize : 1 ≤ size) (hn : 2 ≤ n) :
    size ≤ (schedule size n).tail.getLast?.getD n := by
  have hdoubles := doubles_schedule hsize n
  generalize schedule size n = ns at hdoubles
  cases hdoubles with
  | last h =>
    show size ≤ n
    omega
  | next hlt hrest =>
    obtain ⟨last, hlast, hle⟩ := hrest.le_last
    rw [List.tail_cons, hlast]
    exact hle

/-! The steps of a pass. -/

section Plan

variable {f : Forest} {state : State} {depth : Nat}

/-- What is picked from the steps of one depth only is picked from the visit to that depth. -/
theorem filterMap_plan {β : Type} {pick : Step → Option β}
    (hpick : ∀ step x, pick step = some x → step.depth? = some depth)
    (hdepth : depth ∈ depths (placed f)) :
    (plan f state).filterMap pick = (visit f state depth).filterMap pick := by
  obtain ⟨before, after, hsplit⟩ := List.append_of_mem hdepth
  have hnodup : (depths (placed f)).Nodup := (pairwise_depths _).imp Nat.ne_of_lt
  rw [hsplit, List.nodup_middle, List.nodup_cons, List.mem_append, not_or] at hnodup
  have hother (others : List Nat) (hothers : depth ∉ others) :
      (others.flatMap (visit f state)).filterMap pick = [] := by
    apply List.eq_nil_iff_forall_not_mem.2
    intro x hx
    obtain ⟨step, hstep, hx⟩ := List.mem_filterMap.1 hx
    obtain ⟨other, hmem, hstep⟩ := List.mem_flatMap.1 hstep
    obtain rfl := depth_of_mem_rounds hstep (hpick step x hx)
    exact hothers hmem
  rw [plan_eq, hsplit, List.flatMap_append, List.flatMap_cons, List.filterMap_append,
    List.filterMap_append, hother before hnodup.1.1, hother after hnodup.1.2, List.append_nil,
    List.nil_append]

theorem depth?_of_refined? {step : Step} {n : Nat} (h : step.refined? depth = some n) :
    step.depth? = some depth := by
  cases step with
  | refine d m =>
    obtain ⟨rfl, -⟩ : d = depth ∧ m = n := by simpa [Step.refined?] using h
    rfl
  | enter m => cases h
  | offerChunk d m nodes => cases h
  | offerComplement d m parts i => cases h

theorem refinements_plan (hdepth : depth ∈ depths (placed f)) :
    refinements depth (plan f state) =
      (schedule (level (placed f) depth).length (state.granularityAt depth)).tail := by
  unfold refinements
  rw [filterMap_plan (fun step n => depth?_of_refined?) hdepth]
  exact refinements_rounds _

theorem trialsOf_plan (hdepth : depth ∈ depths (placed f)) :
    (trialsOf (plan f state)).filter (·.depth == depth) = trialsOf (visit f state depth) := by
  have hpick (step : Step) (t : Trial) (h : step.trial?.filter (·.depth == depth) = some t) :
      step.depth? = some depth := by
    obtain ⟨htrial, hsame⟩ := Option.filter_eq_some_iff.1 h
    rw [depth?_of_trial? htrial, eq_of_beq hsame]
  have hkeep :
      (trialsOf (visit f state depth)).filter (·.depth == depth) =
        trialsOf (visit f state depth) := by
    apply List.filter_eq_self.2
    intro t ht
    obtain ⟨step, hstep, htrial⟩ := List.mem_filterMap.1 ht
    exact beq_iff_eq.2 (depth_of_mem_rounds hstep (depth?_of_trial? htrial))
  rw [← hkeep]
  unfold trialsOf
  rw [List.filter_filterMap, List.filter_filterMap]
  exact filterMap_plan hpick hdepth

theorem doubles_of_mem_depths (state : State) (hdepth : depth ∈ depths (placed f)) :
    let size := (level (placed f) depth).length
    let n := state.granularityAt depth
    Doubles size (min (max n 1) size) (schedule size n) :=
  doubles_schedule (List.length_pos_iff.2 (level_ne_nil hdepth)) _

theorem mem_depths_of_refine {n : Nat} (h : .refine depth n ∈ plan f state) :
    depth ∈ depths (placed f) := by
  rw [plan_eq] at h
  obtain ⟨other, hother, hstep⟩ := List.mem_flatMap.1 h
  obtain rfl := depth_of_mem_rounds hstep rfl
  exact hother

/-- The number of chunks of a depth only grows. -/
theorem lt_of_refine {n : Nat} (h : .refine depth n ∈ plan f state) :
    max (state.granularityAt depth) 1 < n := by
  have hdepth := mem_depths_of_refine h
  have hpos := List.length_pos_iff.2 (level_ne_nil hdepth)
  rw [← mem_refinements, refinements_plan hdepth] at h
  have hlt := (doubles_of_mem_depths state hdepth).lt_of_mem_tail (by omega) h
  omega

theorem flanked_plan (f : Forest) (state : State) : Flanked (plan f state) := by
  have hvisits (ds : List Nat) (hds : ∀ depth ∈ ds, depth ∈ depths (placed f)) :
      Flanked (ds.flatMap (visit f state)) := by
    induction ds with
    | nil =>
      intro before depth n after hsplit
      simp at hsplit
    | cons depth ds ih =>
      obtain ⟨hdepth, hrest⟩ := List.forall_mem_cons.1 hds
      have hpos := List.length_pos_iff.2 (level_ne_nil hdepth)
      rw [List.flatMap_cons]
      apply Flanked.append _ (ih hrest)
      apply flanked_rounds (level_ne_nil hdepth)
      intro n hn
      have hle := (doubles_of_mem_depths state hdepth).le_of_mem (by omega) hn
      omega
  exact hvisits _ fun _ h => h

end Plan

end SourceReducer.Ddmin
