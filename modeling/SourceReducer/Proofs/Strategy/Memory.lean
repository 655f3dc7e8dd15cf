import SourceReducer.Proofs.Strategy.Visits
import SourceReducer.Statement.Language

/-! What delta debugging remembers from pass to pass. While all of a depth is refused its number of
chunks only grows, up to the number of nodes, so that a level in which nothing could be removed is
taken node by node from then on. After a removal the number is halved. -/
namespace SourceReducer.Ddmin

/-! Passes. -/

/-- A pass over a forest, with what is remembered before it and what is answered in it. -/
structure Pass where
  forest : Forest
  state : State
  answers : Nat → Answer

namespace Pass

section Defs

variable (language : Language) (p : Pass)

/-- What the pass offers in turn while all is refused. -/
def trials : List Trial :=
  trialsOf (plan p.forest p.state)

def hearing : Hearing State :=
  (strategy.pass language p.forest p.state).hold p.answers

/-- The number of nodes of a depth. -/
def size (depth : Nat) : Nat :=
  (level (placed p.forest) depth).length

/-- Whether a trial, by its number, was made and answered. -/
def Answered (k : Nat) (t : Trial) (answer : Answer) : Prop :=
  p.trials[k]? = some t ∧
    (p.hearing language).exchanges[k]? =
      some (.remove (withDependents language p.forest t.nodes), answer)

/-- Whether something of a depth was offered. -/
def Visits (depth : Nat) : Prop :=
  ∃ k t answer, p.Answered language k t answer ∧ t.depth = depth

/-- Whether all that there is to offer of a depth was offered and refused. -/
def Refuses (depth : Nat) : Prop :=
  ∀ k t, p.trials[k]? = some t → t.depth = depth →
    ∃ answer, p.Answered language k t answer ∧ answer.isRefusal = true

/-- Whether nodes of a depth were removed with a number of chunks. -/
def Removes (depth n : Nat) : Prop :=
  ∃ k t answer, p.Answered language k t answer ∧ t.depth = depth ∧ t.granularity = n ∧
    answer.isRemoval = true

/-- Whether what is offered of a depth starts with the chunks that a number of them gives. -/
def StartsWith (depth n : Nat) : Prop :=
  (chunks n (level (placed p.forest) depth)).map (Trial.mk depth n) <+:
    p.trials.filter (·.depth == depth)

end Defs

variable {language : Language} {p : Pass} {depth : Nat}

theorem follows (language : Language) (p : Pass) :
    (p.hearing language).Follows p.answers
      (p.trials.map fun t => withDependents language p.forest t.nodes) := by
  have hoffers : offers p.forest p.state = p.trials.map fun t => (t.depth, t.nodes) := by
    unfold offers trials trialsOf
    rw [List.map_filterMap]
    apply List.filterMap_congr
    intro step _
    cases step <;> rfl
  have hfollows := follows_pass language p.forest p.state p.answers
  rw [hoffers, List.map_map] at hfollows
  exact hfollows

/-- Trials are answered in their order, as far as the pass goes. -/
theorem answered_iff {k : Nat} {t : Trial} {answer : Answer} :
    p.Answered language k t answer ↔
      p.trials[k]? = some t ∧ k < (p.hearing language).exchanges.length ∧ p.answers k = answer := by
  unfold Answered
  apply and_congr_right
  intro htrial
  have hnodes : (p.trials.map fun t => withDependents language p.forest t.nodes)[k]? =
      some (withDependents language p.forest t.nodes) := by
    rw [List.getElem?_map, htrial]
    rfl
  constructor
  · intro hexchange
    obtain ⟨hk, -⟩ := List.getElem?_eq_some_iff.1 hexchange
    rw [(p.follows language).getElem? hk hnodes] at hexchange
    exact ⟨hk, (Prod.mk.inj (Option.some.inj hexchange)).2⟩
  · rintro ⟨hk, rfl⟩
    exact (p.follows language).getElem? hk hnodes

/-- A trial is made if all before it were refused. -/
theorem answered_of_refused {k : Nat} {t : Trial} (htrial : p.trials[k]? = some t)
    (hrefused : ∀ j < k, (p.answers j).isRefusal = true) :
    p.Answered language k t (p.answers k) := by
  rw [answered_iff]
  refine ⟨htrial, ?_, rfl⟩
  cases (p.follows language).ends with
  | heeded m hcount _ _ hheeded _ =>
    by_contra hge
    rw [hrefused m (by omega)] at hheeded
    cases hheeded
  | exhausted hcount _ _ =>
    obtain ⟨hk, -⟩ := List.getElem?_eq_some_iff.1 htrial
    rwa [hcount, List.length_map]

theorem played (language : Language) (p : Pass) :
    Played p.answers { p.state with passes := p.state.passes + 1 } (plan p.forest p.state)
      (p.hearing language) :=
  played_play language p.forest (plan p.forest p.state) _ p.answers

/-- The trial of a step is numbered by those before it. -/
theorem getElem?_trials_of_step {done rest : List Step} {step : Step} {t : Trial}
    (hsteps : plan p.forest p.state = done ++ step :: rest) (htrial : step.trial? = some t) :
    p.trials[(trialsOf done).length]? = some t := by
  rw [trials, hsteps, trialsOf_append, trialsOf_cons htrial]
  simp

/-- A pass that does not remove anything of a depth remembers for it the last number of chunks that
it came to. It makes the trials of the steps before some point, all of which are refused, and at
most one further one. -/
theorem exists_done (language : Language) (p : Pass) :
    ∃ done rest, plan p.forest p.state = done ++ rest ∧
      (trialsOf done).length ≤ (p.hearing language).exchanges.length ∧
      (∀ k, (trialsOf done).length ≤ k → k < (p.hearing language).exchanges.length →
        (p.answers k).isRefusal = false) ∧
      ∀ depth, (∀ n, ¬ p.Removes language depth n) →
        (p.hearing language).state.granularityAt depth =
          (refinements depth done).getLast?.getD (p.state.granularityAt depth) := by
  cases p.played language with
  | exhausted hcount hrefused hnoted =>
    refine ⟨plan p.forest p.state, [], by simp, by omega, fun k hle hlt => by omega, ?_⟩
    intro depth _
    rw [granularityAt_congr hnoted, granularityAt_noted]
    rfl
  | heeded done step rest t hsteps htrial hcount hrefused hheeded hnoted =>
    refine ⟨done, step :: rest, hsteps, by omega, ?_, ?_⟩
    · intro k hle hlt
      obtain rfl : k = (trialsOf done).length := by omega
      exact hheeded
    · intro depth hnone
      rw [granularityAt_congr hnoted]
      split
      · next hremoval =>
        -- what is removed is of another depth
        have hat := getElem?_trials_of_step hsteps htrial
        have hne : depth ≠ t.depth := by
          intro heq
          exact hnone t.granularity
            ⟨_, t, _, answered_iff.2 ⟨hat, by omega, rfl⟩, heq.symm, rfl, hremoval⟩
        rw [granularityAt_remember, if_neg hne, granularityAt_noted]
        rfl
      · rw [granularityAt_noted]
        rfl

/-- The trials of a part of the steps are numbered from those before it on. -/
theorem getElem?_trials (before : List Step) {steps after : List Step}
    (hsplit : plan p.forest p.state = before ++ steps ++ after) {t : Trial}
    (ht : t ∈ trialsOf steps) :
    ∃ k, (trialsOf before).length ≤ k ∧ k < (trialsOf before).length + (trialsOf steps).length ∧
      p.trials[k]? = some t := by
  obtain ⟨j, hj⟩ := List.mem_iff_getElem?.1 ht
  obtain ⟨hlt, -⟩ := List.getElem?_eq_some_iff.1 hj
  refine ⟨(trialsOf before).length + j, by omega, by omega, ?_⟩
  rw [trials, hsplit, trialsOf_append, trialsOf_append, List.append_assoc,
    List.getElem?_append_right (by omega), Nat.add_sub_cancel_left,
    List.getElem?_append_left hlt, hj]

theorem sound_final (h : p.state.Sound) : (p.hearing language).state.Sound := by
  have hstart : State.Sound { p.state with passes := p.state.passes + 1 } := h
  have hrefine (done rest : List Step) (hsplit : plan p.forest p.state = done ++ rest) :
      ∀ depth n, .refine depth n ∈ done → 2 ≤ n := by
    intro depth n hmem
    have hlt := lt_of_refine (hsplit ▸ List.mem_append_left rest hmem)
    omega
  unfold State.Sound
  cases p.played language with
  | exhausted hcount hrefused hnoted =>
    rw [hnoted]
    exact hstart.noted (hrefine _ [] (List.append_nil _).symm)
  | heeded done step rest t hsteps htrial hcount hrefused hheeded hnoted =>
    have hdone := hstart.noted (hrefine done _ hsteps)
    rw [hnoted]
    split
    · exact hdone.remember (Nat.le_max_right _ 2)
    · exact hdone

theorem granularityAt_final_of_removes {n : Nat} (h : p.Removes language depth n) :
    (p.hearing language).state.granularityAt depth = max (n / 2) 2 := by
  obtain ⟨k, t, answer, hanswered, rfl, rfl, hremoval⟩ := h
  obtain ⟨htrial, hk, rfl⟩ := answered_iff.1 hanswered
  have hnot : (p.answers k).isRefusal = false := by
    unfold Answer.isRemoval at hremoval
    unfold Answer.isRefusal
    split at hremoval
    · next hproceed => rw [hproceed]
    · cases hremoval
  cases p.played language with
  | exhausted hcount hrefused hnoted =>
    rw [hrefused k (by omega)] at hnot
    cases hnot
  | heeded done step rest last hsteps hlast hcount hrefused hheeded hnoted =>
    -- the removal is the answer that ended the pass
    obtain rfl : k = (trialsOf done).length := by
      by_contra hne
      rw [hrefused k (by omega)] at hnot
      cases hnot
    rw [getElem?_trials_of_step hsteps hlast] at htrial
    cases htrial
    rw [granularityAt_congr hnoted, if_pos hremoval, granularityAt_remember, if_pos rfl]

theorem le_final (h : ∀ n, ¬ p.Removes language depth n) :
    p.state.granularityAt depth ≤ (p.hearing language).state.granularityAt depth := by
  obtain ⟨done, rest, hsplit, -, -, hfinal⟩ := p.exists_done language
  rw [hfinal depth h]
  cases hlast : (refinements depth done).getLast? with
  | none => exact Nat.le_refl _
  | some n =>
    have hmem : .refine depth n ∈ done := mem_refinements.1 (List.mem_of_getLast? hlast)
    have hlt := lt_of_refine (hsplit ▸ List.mem_append_left rest hmem)
    show _ ≤ n
    omega

theorem granularityAt_final_of_not_visits (h : ¬ p.Visits language depth) :
    (p.hearing language).state.granularityAt depth = p.state.granularityAt depth := by
  obtain ⟨done, rest, hsplit, hmade, -, hfinal⟩ := p.exists_done language
  have hnone : ∀ n, ¬ p.Removes language depth n := by
    rintro n ⟨k, t, answer, hanswered, hdepth, -⟩
    exact h ⟨k, t, answer, hanswered, hdepth⟩
  -- before each step to more chunks something of the depth is offered
  have hempty : refinements depth done = [] := by
    apply List.eq_nil_iff_forall_not_mem.2
    intro n hn
    obtain ⟨before, after, hdone⟩ := List.append_of_mem (mem_refinements.1 hn)
    have hplan : plan p.forest p.state = before ++ .refine depth n :: (after ++ rest) := by
      rw [hsplit, hdone, List.append_assoc, List.cons_append]
    obtain ⟨⟨t, ht, hdepth⟩, -⟩ := flanked_plan p.forest p.state _ _ _ _ hplan
    obtain ⟨k, -, hk, htrial⟩ := getElem?_trials [] hplan ht
    have hle : (trialsOf before).length ≤ (trialsOf done).length := by
      rw [hdone, trialsOf_append, List.length_append]
      omega
    have hlt : k < (p.hearing language).exchanges.length := by
      have hzero : (trialsOf []).length = 0 := rfl
      omega
    exact h ⟨k, t, _, answered_iff.2 ⟨htrial, hlt, rfl⟩, hdepth⟩
  rw [hfinal depth hnone, hempty]
  rfl

/-- Where all of a depth is refused, there are as many chunks as nodes in the end. -/
theorem size_le_final (hstate : p.state.Sound) (hpos : 1 ≤ depth) (h : p.Refuses language depth) :
    p.size depth ≤ (p.hearing language).state.granularityAt depth := by
  by_cases hdepth : depth ∈ depths (placed p.forest)
  · obtain ⟨done, rest, hsplit, -, hheeded, hfinal⟩ := p.exists_done language
    have hrefused {k : Nat} {t : Trial} (htrial : p.trials[k]? = some t) (ht : t.depth = depth) :
        k < (p.hearing language).exchanges.length ∧ (p.answers k).isRefusal = true := by
      obtain ⟨answer, hanswered, hrefusal⟩ := h k t htrial ht
      obtain ⟨-, hk, rfl⟩ := answered_iff.1 hanswered
      exact ⟨hk, hrefusal⟩
    have hnone : ∀ n, ¬ p.Removes language depth n := by
      rintro n ⟨k, t, answer, hanswered, ht, -, hremoval⟩
      obtain ⟨htrial, -, rfl⟩ := answered_iff.1 hanswered
      obtain ⟨reason, hreason⟩ := Answer.isRefusal_iff.1 (hrefused htrial ht).2
      simp [Answer.isRemoval, hreason] at hremoval
    -- behind each step to more chunks something of the depth is offered
    have hempty : refinements depth rest = [] := by
      apply List.eq_nil_iff_forall_not_mem.2
      intro n hn
      obtain ⟨before, after, hrest⟩ := List.append_of_mem (mem_refinements.1 hn)
      have hplan : plan p.forest p.state = (done ++ before) ++ .refine depth n :: after := by
        rw [hsplit, hrest, List.append_assoc]
      obtain ⟨-, t, ht, hd⟩ := flanked_plan p.forest p.state _ _ _ _ hplan
      have hmem : t ∈ trialsOf rest := by
        rw [hrest, trialsOf_append]
        exact List.mem_append_right _ ht
      have hwhole : plan p.forest p.state = done ++ rest ++ [] := by rw [hsplit, List.append_nil]
      obtain ⟨k, hk, -, htrial⟩ := getElem?_trials done hwhole hmem
      obtain ⟨hlt, hrefusal⟩ := hrefused htrial hd
      rw [hheeded k hk hlt] at hrefusal
      cases hrefusal
    have hall : refinements depth done =
        (schedule (p.size depth) (p.state.granularityAt depth)).tail := by
      have hplan : refinements depth (plan p.forest p.state) = _ := refinements_plan hdepth
      rwa [hsplit, refinements_append, hempty, List.append_nil] at hplan
    rw [hfinal depth hnone, hall]
    exact le_getLast_schedule (List.length_pos_iff.2 (level_ne_nil hdepth)) (hstate.two_le depth)
  · have hlevel : level (placed p.forest) depth = [] := by
      by_contra hne
      exact hdepth (mem_depths_of_level hpos hne)
    simp [size, hlevel]

/-- What is offered of a depth starts with as many chunks as are remembered, or as there are
nodes. -/
theorem startsWith_granularity (h : depth ∈ depths (placed p.forest)) :
    p.StartsWith depth (min (max (p.state.granularityAt depth) 1) (p.size depth)) := by
  obtain ⟨rest, hns⟩ := (doubles_of_mem_depths p.state h).eq_cons
  unfold StartsWith trials
  rw [trialsOf_plan h, visit, hns]
  exact chunks_of_rounds _ rest

end Pass

/-- Passes one after the other, each over a forest of its own and with answers of its own. -/
def course (language : Language) (forest : Nat → Forest) (answers : Nat → Nat → Answer) : Nat → Pass
  | 0 => ⟨forest 0, strategy.start, answers 0⟩
  | k + 1 =>
      ⟨forest (k + 1), ((course language forest answers k).hearing language).state,
        answers (k + 1)⟩

section Course

variable (language : Language) (forest : Nat → Forest) (answers : Nat → Nat → Answer)

theorem course_forest (k : Nat) : (course language forest answers k).forest = forest k := by
  cases k <;> rfl

theorem course_answers (k : Nat) : (course language forest answers k).answers = answers k := by
  cases k <;> rfl

theorem course_state (k : Nat) :
    (course language forest answers (k + 1)).state =
      ((course language forest answers k).hearing language).state := by
  rw [course]

theorem sound_course (k : Nat) : (course language forest answers k).state.Sound := by
  induction k with
  | zero =>
    intro entry hentry
    cases hentry
  | succ k ih =>
    rw [course_state]
    exact Pass.sound_final ih

variable {language forest answers} {depth i j : Nat}

theorem le_course (hij : i < j)
    (h : ∀ k, i < k → k < j → ∀ n, ¬ (course language forest answers k).Removes language depth n) :
    ((course language forest answers i).hearing language).state.granularityAt depth ≤
      (course language forest answers j).state.granularityAt depth := by
  induction j, hij using Nat.le_induction with
  | base => rw [course_state]
  | succ j hij ih =>
    have hbefore := ih fun k hik hkj => h k hik (by omega)
    rw [course_state]
    exact Nat.le_trans hbefore (Pass.le_final (h j hij (by omega)))

theorem eq_course (hij : i < j)
    (h : ∀ k, i < k → k < j → ¬ (course language forest answers k).Visits language depth) :
    (course language forest answers j).state.granularityAt depth =
      ((course language forest answers i).hearing language).state.granularityAt depth := by
  induction j, hij using Nat.le_induction with
  | base => rw [course_state]
  | succ j hij ih =>
    have hbefore := ih fun k hik hkj => h k hik (by omega)
    rw [course_state]
    exact (Pass.granularityAt_final_of_not_visits (h j hij (by omega))).trans hbefore

end Course

/-- Whatever the forests and the answers are, each pass offers its trials in turn, and no number of
chunks that is remembered is less than two. A depth of which all was refused is taken node by node
in each later pass in which it has no more nodes, as long as nothing of it is removed. After a
removal at a depth the next pass that comes to it starts with half as many chunks, but with two at
least and with no more than there are nodes. -/
theorem granularity_is_remembered (language : Language) (forest : Nat → Forest)
    (answers : Nat → Nat → Answer) :
    let pass := course language forest answers
    (∀ k, ((pass k).hearing language).Follows (answers k)
        ((pass k).trials.map fun t => withDependents language (forest k) t.nodes)) ∧
      (∀ k, ∀ entry ∈ (pass k).state.granularity, 2 ≤ entry.2) ∧
      (∀ i j depth, i < j → (pass i).Refuses language depth →
        (∀ k, i < k → k < j → ∀ n, ¬ (pass k).Removes language depth n) →
        depth ∈ depths (placed (forest j)) → (pass j).size depth ≤ (pass i).size depth →
          (pass j).StartsWith depth ((pass j).size depth) ∧
            chunks ((pass j).size depth) (level (placed (forest j)) depth) =
              (level (placed (forest j)) depth).map fun r => [r]) ∧
      ∀ i j depth n, i < j → (pass i).Removes language depth n →
        (∀ k, i < k → k < j → ¬ (pass k).Visits language depth) →
        depth ∈ depths (placed (forest j)) →
          (pass j).StartsWith depth (min (max (n / 2) 2) ((pass j).size depth)) := by
  intro pass
  have hforest (k : Nat) : (pass k).forest = forest k := course_forest language forest answers k
  refine ⟨?_, sound_course language forest answers, ?_, ?_⟩
  · intro k
    have hfollows := (pass k).follows language
    rwa [hforest, course_answers] at hfollows
  · intro i j depth hij hrefuses hnone hdepth hsize
    rw [← hforest j] at hdepth ⊢
    have hpos : 1 ≤ (pass j).size depth := List.length_pos_iff.2 (level_ne_nil hdepth)
    have hfinal : (pass i).size depth ≤ ((pass i).hearing language).state.granularityAt depth :=
      Pass.size_le_final (sound_course language forest answers i) (pos_of_mem_depths hdepth)
        hrefuses
    have hlater : ((pass i).hearing language).state.granularityAt depth ≤
        (pass j).state.granularityAt depth :=
      le_course hij hnone
    have hstart := Pass.startsWith_granularity hdepth
    have hall :
        min (max ((pass j).state.granularityAt depth) 1) ((pass j).size depth) =
          (pass j).size depth := by
      omega
    rw [hall] at hstart
    exact ⟨hstart, chunks_of_length_le hpos (Nat.le_refl _)⟩
  · intro i j depth n hij hremoves hnone hdepth
    rw [← hforest j] at hdepth
    have hstart := Pass.startsWith_granularity hdepth
    have hsame : (pass j).state.granularityAt depth = max (n / 2) 2 :=
      (eq_course hij hnone).trans (Pass.granularityAt_final_of_removes hremoves)
    have htwo : max (max (n / 2) 2) 1 = max (n / 2) 2 := by omega
    rwa [hsame, htwo] at hstart

/-- A root with five words below it. -/
def fiveWords : Forest :=
  let leaves := (List.range 5).map fun i => Node.mk "word" (Span.clamped i i) (some 0) []
  { generation := 0
    trees := [⟨(Node.mk "program" (Span.clamped 0 5) none [1, 2, 3, 4, 5] :: leaves).toArray⟩] }

/-- Refuses everything in the first pass and nothing after it. -/
def reluctant (k _ : Nat) : Answer :=
  { outcome := .ok (if k = 0 then .failed .unsatisfied else .proceed), forest := fiveWords }

/-- Five words that are all refused in the first pass are offered one by one in the second. As the
first of them is removed then, the third pass starts with two chunks. -/
theorem granularity_is_remembered_fiveWords :
    let pass := course Statement.language (fun _ => fiveWords) reluctant
    (pass 0).Refuses Statement.language 1 ∧ (pass 1).StartsWith 1 5 ∧
      (pass 1).Removes Statement.language 1 5 ∧ (pass 2).StartsWith 1 2 := by
  intro pass
  obtain ⟨-, -, hrefused, hremoved⟩ :=
    granularity_is_remembered Statement.language (fun _ => fiveWords) reluctant
  have hdepth : 1 ∈ depths (placed fiveWords) := by decide +kernel
  have hsize (k : Nat) : (pass k).size 1 = 5 := by
    rw [Pass.size, course_forest]
    decide +kernel
  have hrefuses : (pass 0).Refuses Statement.language 1 := by
    have hrefusal (j : Nat) : ((pass 0).answers j).isRefusal = true := by
      rw [course_answers]
      rfl
    intro k t htrial _
    exact ⟨_, Pass.answered_of_refused htrial fun j _ => hrefusal j, hrefusal k⟩
  have hremoves : (pass 1).Removes Statement.language 1 5 := by
    have hfirst : (pass 1).trials[0]?.map (fun t => (t.depth, t.granularity)) = some (1, 5) := by
      decide +kernel
    have hremoval : ((pass 1).answers 0).isRemoval = true := by
      rw [course_answers]
      rfl
    obtain ⟨t, htrial, ht⟩ := Option.map_eq_some_iff.1 hfirst
    obtain ⟨hd, hn⟩ := Prod.mk.inj ht
    exact ⟨0, t, _, Pass.answered_of_refused htrial (by omega), hd, hn, hremoval⟩
  have hsecond := (hrefused 0 1 1 Nat.one_pos hrefuses (by omega) hdepth (by rw [hsize, hsize])).1
  have hthird := hremoved 1 2 1 5 (by omega) hremoves (by omega) hdepth
  rw [hsize] at hsecond hthird
  exact ⟨hrefuses, hsecond, hremoves, hthird⟩

end SourceReducer.Ddmin
