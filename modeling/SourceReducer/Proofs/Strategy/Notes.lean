import SourceReducer.Proofs.Strategy.Hearing

/-! What steps of delta debugging write. Only a step to a larger number of chunks changes what is
remembered of its depth, and only the answer that ends a pass can add one further entry. -/
namespace SourceReducer.Ddmin

/-! Entries. -/

theorem lookup_filter_ne {depth other : Nat} (h : other ≠ depth) (entries : List (Nat × Nat)) :
    (entries.filter (·.1 != depth)).lookup other = entries.lookup other := by
  induction entries with
  | nil => rfl
  | cons entry entries ih =>
    obtain ⟨key, n⟩ := entry
    by_cases hkey : key = depth
    · rw [List.filter_cons_of_neg (by simp [hkey]), ih, List.lookup_cons, hkey, beq_false_of_ne h]
    · rw [List.filter_cons_of_pos (by simp [hkey]), List.lookup_cons, List.lookup_cons, ih]

theorem granularityAt_remember (state : State) (depth n other : Nat) :
    (state.remember depth n).granularityAt other =
      if other = depth then n else state.granularityAt other := by
  unfold State.granularityAt State.remember
  split
  · next h => simp [h]
  · next h => rw [List.lookup_cons, beq_false_of_ne h, lookup_filter_ne h]

theorem granularityAt_congr {state other : State} (h : state.granularity = other.granularity)
    (depth : Nat) :
    state.granularityAt depth = other.granularityAt depth := by
  rw [State.granularityAt, h, State.granularityAt]

/-- Whether no number of chunks that is remembered is less than two. -/
def State.Sound (state : State) : Prop :=
  ∀ entry ∈ state.granularity, 2 ≤ entry.2

theorem State.Sound.remember {state : State} (h : state.Sound) {depth n : Nat} (hn : 2 ≤ n) :
    (state.remember depth n).Sound := by
  intro entry hentry
  rcases List.mem_cons.1 hentry with rfl | hentry
  · exact hn
  · exact h entry (List.mem_filter.1 hentry).1

theorem State.Sound.two_le {state : State} (h : state.Sound) (depth : Nat) :
    2 ≤ state.granularityAt depth := by
  unfold granularityAt
  cases hlookup : state.granularity.lookup depth with
  | none => exact Nat.le_refl 2
  | some n =>
    obtain ⟨front, back, hsplit, -⟩ := List.lookup_eq_some_iff.1 hlookup
    exact h (depth, n) (by rw [hsplit]; simp)

/-! Trials. -/

/-- Nodes of one depth that are offered, and the number of chunks with which they are. -/
structure Trial where
  depth : Nat
  granularity : Nat
  nodes : List NodeRef

def Step.trial? : Step → Option Trial
  | .offerChunk depth n nodes => some ⟨depth, n, nodes⟩
  | .offerComplement depth n parts i => some ⟨depth, n, complement parts i⟩
  | .enter _ | .refine _ _ => none

def trialsOf (steps : List Step) : List Trial :=
  steps.filterMap Step.trial?

theorem trialsOf_append (steps more : List Step) :
    trialsOf (steps ++ more) = trialsOf steps ++ trialsOf more :=
  List.filterMap_append

theorem trialsOf_cons {step : Step} {t : Trial} (h : step.trial? = some t) (rest : List Step) :
    trialsOf (step :: rest) = t :: trialsOf rest :=
  List.filterMap_cons_some h

/-! What steps write while they are refused. -/

def note (state : State) : Step → State
  | .refine depth n => state.remember depth n
  | .enter _ | .offerChunk _ _ _ | .offerComplement _ _ _ _ => state

def noted (state : State) (steps : List Step) : State :=
  steps.foldl note state

/-- The numbers of chunks that steps go over to at one depth. -/
def Step.refined? (depth : Nat) : Step → Option Nat
  | .refine d n => if d = depth then some n else none
  | .enter _ | .offerChunk _ _ _ | .offerComplement _ _ _ _ => none

def refinements (depth : Nat) (steps : List Step) : List Nat :=
  steps.filterMap (Step.refined? depth)

theorem mem_refinements {depth n : Nat} {steps : List Step} :
    n ∈ refinements depth steps ↔ .refine depth n ∈ steps := by
  unfold refinements
  rw [List.mem_filterMap]
  constructor
  · rintro ⟨step, hstep, hn⟩
    cases step with
    | refine d m =>
      obtain ⟨rfl, rfl⟩ : d = depth ∧ m = n := by simpa [Step.refined?] using hn
      exact hstep
    | enter m => cases hn
    | offerChunk d m nodes => cases hn
    | offerComplement d m parts i => cases hn
  · intro h
    exact ⟨_, h, if_pos rfl⟩

theorem refinements_append (depth : Nat) (steps more : List Step) :
    refinements depth (steps ++ more) = refinements depth steps ++ refinements depth more :=
  List.filterMap_append

theorem refinements_refine (depth n : Nat) (rest : List Step) :
    refinements depth (.refine depth n :: rest) = n :: refinements depth rest :=
  List.filterMap_cons_some (if_pos rfl)

/-- Only the numbers of chunks count for what is written. -/
theorem noted_congr {state other : State} (h : state.granularity = other.granularity)
    (steps : List Step) :
    (noted state steps).granularity = (noted other steps).granularity := by
  induction steps generalizing state other with
  | nil => exact h
  | cons step rest ih =>
    apply ih
    cases step with
    | refine depth n => simp [note, State.remember, h]
    | enter n => exact h
    | offerChunk depth n nodes => exact h
    | offerComplement depth n parts i => exact h

/-- What is remembered of a depth is the last number that was written there. -/
theorem granularityAt_noted (state : State) (depth : Nat) (steps : List Step) :
    (noted state steps).granularityAt depth =
      (refinements depth steps).getLast?.getD (state.granularityAt depth) := by
  induction steps generalizing state with
  | nil => rfl
  | cons step rest ih =>
    show (noted (note state step) rest).granularityAt depth = _
    rw [ih]
    cases step with
    | refine d n =>
      rw [note, granularityAt_remember]
      by_cases hd : depth = d
      · subst hd
        rw [refinements_refine, if_pos rfl, List.getLast?_cons]
        rfl
      · have hnone : refinements depth (.refine d n :: rest) = refinements depth rest :=
          List.filterMap_cons_none (if_neg (Ne.symm hd))
        rw [hnone, if_neg hd]
    | enter n => rfl
    | offerChunk d n nodes => rfl
    | offerComplement d n parts i => rfl

theorem State.Sound.noted {state : State} (h : state.Sound) {steps : List Step}
    (hsteps : ∀ depth n, .refine depth n ∈ steps → 2 ≤ n) : (noted state steps).Sound := by
  induction steps generalizing state with
  | nil => exact h
  | cons step rest ih =>
    have hrest : ∀ depth n, .refine depth n ∈ rest → 2 ≤ n :=
      fun depth n hmem => hsteps depth n (List.mem_cons_of_mem _ hmem)
    cases step with
    | refine depth n => exact ih (h.remember (hsteps depth n List.mem_cons_self)) hrest
    | enter n => exact ih h hrest
    | offerChunk depth n nodes => exact ih h hrest
    | offerComplement depth n parts i => exact ih h hrest

/-! How steps are played. -/

/-- Whether steps were played to their end, where all was refused, or up to an answer that is no
refusal, and what is remembered then. -/
inductive Played (answers : Nat → Answer) (state : State) (steps : List Step) (h : Hearing State) :
    Prop
  | exhausted (hcount : h.exchanges.length = (trialsOf steps).length)
      (hrefused : ∀ j < (trialsOf steps).length, (answers j).isRefusal = true)
      (hnoted : h.state.granularity = (noted state steps).granularity)
  | heeded (done : List Step) (step : Step) (rest : List Step) (t : Trial)
      (hsteps : steps = done ++ step :: rest) (htrial : step.trial? = some t)
      (hcount : h.exchanges.length = (trialsOf done).length + 1)
      (hrefused : ∀ j < (trialsOf done).length, (answers j).isRefusal = true)
      (hheeded : (answers (trialsOf done).length).isRefusal = false)
      (hnoted : h.state.granularity =
        (if (answers (trialsOf done).length).isRemoval = true then
          (noted state done).remember t.depth (max (t.granularity / 2) 2)
        else noted state done).granularity)

section Play

variable {answers : Nat → Answer} {state other : State} {rest : List Step}

/-- A step that offers nothing is played before the others. -/
theorem Played.cons_silent {h : Hearing State} {step : Step} (hstep : step.trial? = none)
    (hstate : other.granularity = (note state step).granularity)
    (hrest : Played answers other rest h) :
    Played answers state (step :: rest) h := by
  have hnone (steps : List Step) : trialsOf (step :: steps) = trialsOf steps :=
    List.filterMap_cons_none hstep
  have hnoted (steps : List Step) :
      (noted other steps).granularity = (noted state (step :: steps)).granularity :=
    noted_congr hstate steps
  cases hrest with
  | exhausted hcount hrefused hleft =>
    refine .exhausted ?_ ?_ ?_
    · rw [hnone, hcount]
    · rwa [hnone]
    · rw [hleft, hnoted]
  | heeded done last behind t hsteps htrial hcount hrefused hheeded hleft =>
    refine .heeded (step :: done) last behind t (by rw [hsteps]; rfl) htrial ?_ ?_ ?_ ?_
    · rw [hnone, hcount]
    · rwa [hnone]
    · rwa [hnone]
    · rw [hleft, hnone]
      split
      · simp only [State.remember, hnoted]
      · exact hnoted done

theorem note_of_trial {step : Step} {t : Trial} (h : step.trial? = some t) :
    note state step = state := by
  cases step with
  | refine depth n => cases h
  | enter n => cases h
  | offerChunk depth n nodes => rfl
  | offerComplement depth n parts i => rfl

/-- An answer that is no refusal ends it all. -/
theorem Played.heeded_first {h : Hearing State} {step : Step} {t : Trial}
    (hstep : step.trial? = some t) (hcount : h.exchanges.length = 1)
    (hheeded : (answers 0).isRefusal = false)
    (hnoted : h.state.granularity =
      (if (answers 0).isRemoval = true then state.remember t.depth (max (t.granularity / 2) 2)
        else state).granularity) :
    Played answers state (step :: rest) h :=
  .heeded [] step rest t rfl hstep hcount (fun _ hj => absurd hj (Nat.not_lt_zero _)) hheeded hnoted

/-- After a refusal all other steps are played. -/
theorem Played.cons_refused {h : Hearing State} {step : Step} {t : Trial}
    (hstep : step.trial? = some t) (hsame : other.granularity = state.granularity)
    (hfirst : (answers 0).isRefusal = true) (exchange : Request × Answer)
    (hrest : Played (fun k => answers (k + 1)) other rest h) :
    Played answers state (step :: rest) { h with exchanges := exchange :: h.exchanges } := by
  have hlength (steps : List Step) :
      (trialsOf (step :: steps)).length = (trialsOf steps).length + 1 := by
    rw [trialsOf_cons hstep, List.length_cons]
  have hnoted (steps : List Step) :
      (noted other steps).granularity = (noted state (step :: steps)).granularity :=
    noted_congr (hsame.trans (congrArg State.granularity (note_of_trial hstep)).symm) steps
  cases hrest with
  | exhausted hcount hrefused hleft =>
    refine .exhausted ?_ ?_ (hleft.trans (hnoted rest))
    · rw [hlength, List.length_cons, hcount]
    · rw [hlength]
      exact Nat.forall_lt_succ_left.2 ⟨hfirst, hrefused⟩
  | heeded done last behind t' hsteps htrial hcount hrefused hheeded hleft =>
    refine .heeded (step :: done) last behind t' (by rw [hsteps]; rfl) htrial ?_ ?_ ?_
      (hleft.trans ?_)
    · rw [hlength, List.length_cons, hcount]
    · rw [hlength]
      exact Nat.forall_lt_succ_left.2 ⟨hfirst, hrefused⟩
    · rwa [hlength]
    · rw [hlength]
      split
      · simp only [State.remember, hnoted]
      · exact hnoted done

theorem played_ask (step : Step) (t : Trial) (hstep : step.trial? = some t) (nodes : RefSet)
    (hsame : other.granularity = state.granularity) {onward : Dialogue State}
    (hrest : ∀ answers, Played answers other rest (onward.hold answers)) :
    Played answers state (step :: rest)
      (Dialogue.hold (.ask (.remove nodes) fun answer =>
        match answer.outcome with
        | .error failure => .done (.error failure) other
        | .ok (.failed _) => onward
        | .ok control => conclude t.depth t.granularity control other) answers) := by
  cases houtcome : (answers 0).outcome with
  | error failure =>
    simp only [Dialogue.hold, houtcome]
    apply Played.heeded_first hstep rfl
    · simp [Answer.isRefusal, houtcome]
    · simpa [Answer.isRemoval, houtcome] using hsame
  | ok control =>
    cases control with
    | proceed =>
      simp only [Dialogue.hold, houtcome, conclude]
      apply Played.heeded_first hstep rfl
      · simp [Answer.isRefusal, houtcome]
      · simp [Answer.isRemoval, houtcome, State.remember, hsame]
    | stop =>
      simp only [Dialogue.hold, houtcome, conclude]
      apply Played.heeded_first hstep rfl
      · simp [Answer.isRefusal, houtcome]
      · simpa [Answer.isRemoval, houtcome] using hsame
    | failed reason =>
      simp only [Dialogue.hold, houtcome]
      apply Played.cons_refused hstep hsame
      · exact Answer.isRefusal_iff.2 ⟨reason, houtcome⟩
      · exact hrest _

theorem played_play (language : Language) (f : Forest) (steps : List Step) (state : State)
    (answers : Nat → Answer) :
    Played answers state steps ((play language f steps state).hold answers) := by
  induction steps generalizing state answers with
  | nil => exact .exhausted rfl (by simp [trialsOf]) rfl
  | cons step rest ih =>
    cases step with
    | enter n => exact .cons_silent rfl (by rfl) (ih _ answers)
    | refine depth n => exact .cons_silent rfl (by rfl) (ih _ answers)
    | offerChunk depth n nodes =>
      exact played_ask (.offerChunk depth n nodes) ⟨depth, n, nodes⟩ rfl _ (by rfl) (ih _)
    | offerComplement depth n parts i =>
      exact played_ask (.offerComplement depth n parts i) ⟨depth, n, complement parts i⟩ rfl _
        (by rfl) (ih _)

end Play

end SourceReducer.Ddmin
