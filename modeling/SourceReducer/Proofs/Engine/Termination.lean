import SourceReducer.Engine.Run
import SourceReducer.Proofs.Engine.Cuts
import SourceReducer.Proofs.Engine.Loading
import SourceReducer.Proofs.Engine.Refusal

/-! Passes come to an end, whatever the invariant says and whatever depends on what. A pass of a
strategy that goes on has removed something, a pass that lays the texts out leaves as many nodes,
and no two passes of the second kind follow each other. -/
namespace SourceReducer

open Files

variable {σ τ : Type}

/-- Whether a strategy makes no request before the first pass, offers no set in a pass that holds
roots only, and has a bound on passes that is enough. -/
structure Strategy.Shrinking (strategy : Strategy τ) (language : Language) : Prop where
  prepare : ∀ f state, ∃ control, strategy.prepare language f state = .done (.ok control) state
  pass : ∀ f state, ∃ sets, (strategy.pass language f state).Offers sets ∧ f.Reached sets
  bound : ∀ f, f.nodeCount ≤ strategy.passBound f

theorem Greedy.shrinking (language : Language) : Greedy.strategy.Shrinking language where
  prepare _ _ := ⟨_, rfl⟩
  pass f _ := ⟨_, Greedy.offers_offer _ _, (Greedy.grounded_candidates language f).reached⟩
  bound _ := Nat.le_succ _

theorem Ddmin.shrinking (language : Language) : Ddmin.strategy.Shrinking language where
  prepare _ _ := ⟨_, rfl⟩
  pass f state := ⟨_, Ddmin.offers_play _ _ _ _, (Ddmin.grounded_plan language f state).reached⟩
  bound _ := Nat.le_succ _

/-- A dialogue that offers sets of nodes is exhausted when all of them were refused, and otherwise
ends with what came of the first that was not. A property of the session that refusals keep holds
until then, and what is known of a set that was refused is known of all of them at the end. -/
theorem Engine.converse_of_offers (e : Engine σ) {d : Dialogue τ} {sets : List RefSet}
    (hd : d.Offers sets) {kept : Session σ → Prop} {known : RefSet → Prop}
    (hrefused : ∀ nodes ∈ sets, ∀ s reason, kept s →
      (e.attempt (.remove nodes) s).1 = .ok (.failed reason) →
        known nodes ∧ ∀ event, kept ((e.attempt (.remove nodes) s).2.note event))
    {s : Session σ} (hs : kept s) :
    let after := e.converse d s
    (after.1 = .ok (.failed .exhausted) ∧ kept after.2.2 ∧ ∀ nodes ∈ sets, known nodes) ∨
      ∃ nodes ∈ sets, ∃ t event, kept t ∧
        (∀ reason, (e.attempt (.remove nodes) t).1 ≠ .ok (.failed reason)) ∧
        after.1 = (e.attempt (.remove nodes) t).1 ∧
        after.2.2 = (e.attempt (.remove nodes) t).2.note event := by
  induction hd generalizing s with
  | done state => exact .inl ⟨rfl, hs, by simp⟩
  | ask nodes rest next herror hnext haccepted ih =>
    intro after
    rcases hattempt : e.attempt (.remove nodes) s with ⟨outcome, removed⟩
    have hperform : e.perform (.remove nodes) s = (outcome, removed) := hattempt
    let answer : Answer := { outcome, forest := removed.forest }
    let event : Event :=
      .requested (.remove nodes) outcome removed.forest.generation removed.forest.nodeCount
    have hafter : after = e.converse (next answer) (removed.note event) := by
      simp only [after, Engine.converse, hperform]
      rfl
    have hends (hnot : ∀ reason, outcome ≠ .ok (.failed reason)) (state : τ)
        (hdone : next answer = .done outcome state) :
        ∃ nodes' ∈ nodes :: rest, ∃ t event, kept t ∧
          (∀ reason, (e.attempt (.remove nodes') t).1 ≠ .ok (.failed reason)) ∧
          after.1 = (e.attempt (.remove nodes') t).1 ∧
          after.2.2 = (e.attempt (.remove nodes') t).2.note event := by
      refine ⟨nodes, List.mem_cons_self, s, event, hs, ?_, ?_, ?_⟩
      · rwa [hattempt]
      · rw [hafter, hdone, hattempt]
        rfl
      · rw [hafter, hdone, hattempt]
        rfl
    cases outcome with
    | error failure =>
      obtain ⟨state, hdone⟩ := herror answer failure rfl
      exact .inr (hends (by simp) state hdone)
    | ok control =>
      by_cases hfailed : ∃ reason, control = .failed reason
      · obtain ⟨reason, rfl⟩ := hfailed
        obtain ⟨hknown, hkept⟩ := hrefused nodes List.mem_cons_self s reason hs (by rw [hattempt])
        rw [hattempt] at hkept
        rw [hafter]
        rcases ih answer reason rfl
            (fun nodes' hmem => hrefused nodes' (List.mem_cons_of_mem _ hmem))
            (hkept event) with ⟨hexhausted, hend, hall⟩ | ⟨nodes', hmem, hrest⟩
        · exact .inl ⟨hexhausted, hend, by simpa using ⟨hknown, hall⟩⟩
        · exact .inr ⟨nodes', List.mem_cons_of_mem _ hmem, hrest⟩
      · have hnot : ∀ reason, control ≠ .failed reason := fun reason h => hfailed ⟨reason, h⟩
        obtain ⟨state, hdone⟩ := haccepted answer control rfl hnot
        exact .inr (hends (by simpa using hnot) state hdone)

/-- Whether a session comes from another one without more nodes: its forest has the trees of its
texts, and there are as many units. -/
structure Session.Shrinks (s t : Session σ) : Prop where
  tracked : t.Tracked
  units : t.forest.unitCount = s.forest.unitCount
  nodes : t.forest.nodeCount ≤ s.forest.nodeCount

namespace Session.Shrinks

variable {s t u : Session σ}

theorem of_sameCommitted (hs : s.Tracked) (h : s.SameCommitted t) : s.Shrinks t :=
  ⟨hs.of_sameCommitted h, by rw [h.forest], by rw [h.forest]⟩

theorem trans (h : s.Shrinks t) (h' : t.Shrinks u) : s.Shrinks u :=
  ⟨h'.tracked, h'.units.trans h.units, h'.nodes.trans h.nodes⟩

end Session.Shrinks

section Attempts

variable {e : Engine σ} {s : Session σ}

theorem Engine.unitCount_committed (hs : s.Tracked) {a : Attempt} {t : Session σ} (ht : t.Tracked)
    (htexts : t.committed = (e.proposal a s).texts) : t.forest.unitCount = s.forest.unitCount := by
  have hlength := congrArg List.length htexts
  rw [List.length_map, Session.texts, List.length_map, e.length_proposal a hs.unitCount] at hlength
  rw [hs.unitCount, ht.unitCount, hlength]

/-- Laying texts out anew leaves as many nodes, whatever comes of it. -/
theorem Engine.cleanup_shrinks (hlang : e.language.OfStatements) (hs : s.Tracked) :
    (e.cleanup s).2.forest.nodeCount = s.forest.nodeCount ∧
      ∀ control, (e.cleanup s).1 = .ok control → s.Shrinks (e.cleanup s).2 := by
  rcases e.attempt_tracked (a := .cleanup) hlang hs rfl with ⟨failure, hfailed, hforest⟩ |
      ⟨reason, -, hsame⟩ | ⟨-, htracked, htexts⟩
  · refine ⟨congrArg Forest.nodeCount hforest, fun control hcontrol => ?_⟩
    have hcontrol' : (e.attempt .cleanup s).1 = .ok control := hcontrol
    rw [hfailed] at hcontrol'
    cases hcontrol'
  · exact ⟨congrArg Forest.nodeCount hsame.forest, fun _ _ => .of_sameCommitted hs hsame⟩
  · have hnodes := hs.nodeCount_layout htracked (htexts.trans (e.texts_proposal_cleanup hlang s))
    exact ⟨hnodes, fun _ _ => ⟨htracked, e.unitCount_committed hs htracked htexts, hnodes.le⟩⟩

/-- A dialogue that offers no set of roots only removes something if another pass follows. -/
theorem Engine.converse_shrinks (hlang : e.language.OfStatements) {d : Dialogue τ}
    {sets : List RefSet} (hd : d.Offers sets) (hs : s.Tracked)
    (hreached : s.forest.Reached sets) :
    let after := e.converse d s
    (∃ failure, after.1 = .error failure) ∨ after.1 = .ok (.failed .exhausted) ∨
      after.1 = .ok .proceed ∧ s.Shrinks after.2.2 ∧
        after.2.2.forest.nodeCount < s.forest.nodeCount := by
  intro after
  have hrefused : ∀ nodes ∈ sets, ∀ t reason, s.SameCommitted t →
      (e.attempt (.remove nodes) t).1 = .ok (.failed reason) →
        True ∧ ∀ event, s.SameCommitted ((e.attempt (.remove nodes) t).2.note event) := by
    intro nodes _ t reason hst hreason
    refine ⟨trivial, fun event => ?_⟩
    have ht := hs.of_sameCommitted hst
    rcases e.attempt_tracked (a := .remove nodes) hlang ht rfl with ⟨failure, hfailed, -⟩ |
        ⟨reason', -, hsame⟩ | ⟨hproceed, -⟩
    · simp [hfailed] at hreason
    · exact (hst.trans hsame).trans (Session.sameCommitted_note _ event)
    · simp [hproceed] at hreason
  rcases e.converse_of_offers hd hrefused (⟨rfl, rfl, rfl, rfl⟩ : s.SameCommitted s) with
    ⟨hexhausted, -⟩ | ⟨nodes, hnodes, t, event, hst, hnot, houtcome, hafter⟩
  · exact .inr (.inl hexhausted)
  · have ht := hs.of_sameCommitted hst
    rcases e.attempt_tracked (a := .remove nodes) hlang ht rfl with ⟨failure, hfailed, -⟩ |
        ⟨reason, hfailed, -⟩ | ⟨hproceed, htracked, htexts⟩
    · exact .inl ⟨failure, houtcome.trans hfailed⟩
    · exact absurd hfailed (hnot reason)
    · have hnoted := Session.sameCommitted_note (e.attempt (.remove nodes) t).2 event
      have hmatched : (t.forest.partition nodes).matched ≠ 0 := by
        intro hzero
        simp [Engine.attempt, Engine.tryRemove, hzero] at hproceed
      obtain ⟨k, indices, i, hk, hi⟩ := Forest.matched_ne_zero.1 hmatched
      obtain ⟨r, hr, hinner⟩ := hreached nodes hnodes _ ((Forest.mem_perUnit hk).1 hi).1
      have hless : (e.attempt (.remove nodes) t).2.forest.nodeCount < t.forest.nodeCount :=
        ht.nodeCount_lt hlang htracked hr (by rw [hst.forest]; exact hinner)
          (htexts.trans (e.texts_proposal_remove nodes t))
      have hshrinks : t.Shrinks (e.attempt (.remove nodes) t).2 :=
        ⟨htracked, e.unitCount_committed ht htracked htexts, hless.le⟩
      refine .inr (.inr ⟨houtcome.trans hproceed, ?_, ?_⟩)
      · have hfinal := hshrinks.trans (.of_sameCommitted htracked hnoted)
        rw [← hafter] at hfinal
        exact (Session.Shrinks.of_sameCommitted hs hst).trans hfinal
      · rw [hafter, hnoted.forest, ← hst.forest]
        exact hless

end Attempts

namespace Run

variable {e : Engine σ} {strategy : Strategy τ} {r : Run σ τ}

/-- A pass of a strategy removes something if another pass follows. -/
theorem strategyPass_shrinks (hlang : e.language.OfStatements)
    (hstrategy : strategy.Shrinking e.language) (hr : r.session.Tracked) :
    let after := r.strategyPass e strategy
    after.2.passes = r.passes ∧ after.2.cleanupPasses = r.cleanupPasses ∧
      ((∃ failure, after.1 = .error failure) ∨ after.1 = .ok (.failed .exhausted) ∨
        after.1 = .ok .proceed ∧ r.session.Shrinks after.2.session ∧
          after.2.session.forest.nodeCount < r.session.forest.nodeCount) := by
  intro after
  have hback := r.session.sameCommitted_rollback
  have hfresh := hr.of_sameCommitted hback
  obtain ⟨sets, hoffers, hreached⟩ := hstrategy.pass r.session.rollback.forest r.state
  have hcases := e.converse_shrinks hlang hoffers hfresh hreached
  rcases hconverse : e.converse (strategy.pass e.language r.session.rollback.forest r.state)
    r.session.rollback with ⟨outcome, state, session⟩
  rw [hconverse] at hcases
  rcases hcases with ⟨failure, hfailed⟩ | hexhausted | ⟨hproceed, hshrinks, hfewer⟩
  · simp only at hfailed
    subst hfailed
    have hafter : after = (.error failure, { r with session, state }) := by
      simp only [after, strategyPass, hconverse]
    rw [hafter]
    exact ⟨rfl, rfl, .inl ⟨failure, rfl⟩⟩
  · simp only at hexhausted
    subst hexhausted
    have hafter : after = (.ok (.failed .exhausted),
        { r with session := session.note (.passed (.failed .exhausted)), state }) := by
      simp only [after, strategyPass, hconverse]
    rw [hafter]
    exact ⟨rfl, rfl, .inr (.inl rfl)⟩
  · simp only at hproceed hshrinks hfewer
    subst hproceed
    have hafter :
        after = (.ok .proceed, { r with session := session.note (.passed .proceed), state }) := by
      simp only [after, strategyPass, hconverse]
    have hnoted := session.sameCommitted_note (.passed .proceed)
    rw [hafter]
    refine ⟨rfl, rfl, .inr (.inr ⟨rfl, ?_, hfewer⟩)⟩
    exact ((Session.Shrinks.of_sameCommitted hr hback).trans hshrinks).trans
      (.of_sameCommitted hshrinks.tracked hnoted)

theorem pass_of_cleanup (e : Engine σ) (strategy : Strategy τ) {interval : Nat}
    (h : (r.passes + 1) % interval = 0) :
    r.pass e strategy interval =
      match { r with passes := r.passes + 1 }.cleanupPass e with
      | (.error failure, r) => (.error failure, r)
      | (.ok control, after) =>
          (.ok (goesOn true control), after.record (.pass (r.passes + 1) true)) := by
  have htrue : ((r.passes + 1) % interval == 0) = true := by simpa using h
  rcases hpass : { r with passes := r.passes + 1 }.cleanupPass e with ⟨failure | control, after⟩
  · simp only [pass, htrue, if_true, hpass]
  · simp only [pass, htrue, if_true, hpass]

theorem pass_of_strategy (e : Engine σ) (strategy : Strategy τ) {interval : Nat}
    (h : (r.passes + 1) % interval ≠ 0) :
    r.pass e strategy interval =
      match { r with passes := r.passes + 1 }.strategyPass e strategy with
      | (.error failure, r) => (.error failure, r)
      | (.ok control, after) =>
          (.ok (goesOn false control), after.record (.pass (r.passes + 1) false)) := by
  have hfalse : ((r.passes + 1) % interval == 0) = false := by simpa using h
  rcases hpass : { r with passes := r.passes + 1 }.strategyPass e strategy with
    ⟨failure | control, after⟩
  · simp only [pass, hfalse, Bool.false_eq_true, if_false, hpass]
  · simp only [pass, hfalse, Bool.false_eq_true, if_false, hpass]

/-- What one pass does if another one follows: it lays the texts out, or it removes something. -/
theorem pass_shrinks (hlang : e.language.OfStatements) (hstrategy : strategy.Shrinking e.language)
    (hr : r.session.Tracked) (interval : Nat) :
    let after := r.pass e strategy interval
    after.2.passes = r.passes + 1 ∧ r.cleanupPasses ≤ after.2.cleanupPasses ∧
      after.2.cleanupPasses ≤ r.cleanupPasses + 1 ∧
      (after.1 = .ok true → r.session.Shrinks after.2.session ∧
        ((r.passes + 1) % interval = 0 ∧ after.2.cleanupPasses = r.cleanupPasses + 1 ∨
          (r.passes + 1) % interval ≠ 0 ∧
            after.2.session.forest.nodeCount < r.session.forest.nodeCount)) := by
  intro after
  by_cases hcleanup : (r.passes + 1) % interval = 0
  · have hafter := pass_of_cleanup e strategy hcleanup
    have hshrinks := (e.cleanup_shrinks hlang hr).2
    rcases hclean : e.cleanup r.session with ⟨failure | control, cleaned⟩
    · simp only [cleanupPass, hclean] at hafter
      simp only [after, hafter]
      exact ⟨trivial, Nat.le_succ _, Nat.le_refl _, fun h => by cases h⟩
    · simp only [cleanupPass, hclean] at hafter
      rw [hclean] at hshrinks
      simp only [after, hafter]
      exact ⟨rfl, Nat.le_succ _, Nat.le_refl _,
        fun _ => ⟨hshrinks control rfl, .inl ⟨hcleanup, rfl⟩⟩⟩
  · have hafter := pass_of_strategy e strategy hcleanup
    obtain ⟨hpasses, hcleanups, hcases⟩ :=
      strategyPass_shrinks hlang hstrategy (r := { r with passes := r.passes + 1 }) hr
    rcases hpass : { r with passes := r.passes + 1 }.strategyPass e strategy with ⟨outcome, passed⟩
    rw [hpass] at hpasses hcleanups hcases
    simp only [hpass] at hafter
    rcases hcases with ⟨failure, hfailed⟩ | hexhausted | ⟨hproceed, hshrinks, hfewer⟩
    · simp only at hfailed
      subst hfailed
      simp only [after, hafter]
      exact ⟨hpasses, hcleanups.ge, hcleanups.le.trans (Nat.le_succ _), fun h => by cases h⟩
    · simp only at hexhausted
      subst hexhausted
      simp only [after, hafter]
      exact ⟨hpasses, hcleanups.ge, hcleanups.le.trans (Nat.le_succ _),
        fun h => by simp [goesOn] at h⟩
    · simp only at hproceed
      subst hproceed
      simp only [after, hafter]
      exact ⟨hpasses, hcleanups.ge, hcleanups.le.trans (Nat.le_succ _),
        fun _ => ⟨hshrinks, .inr ⟨hcleanup, hfewer⟩⟩⟩

/-- A bound on the passes that are left: all but the last either remove something or lay the texts
out, and no two passes of the second kind follow each other. -/
def passesLeft (settings : Settings) (r : Run σ τ) : Nat :=
  2 * r.session.forest.nodeCount + if (r.passes + 1) % settings.cleanupInterval = 0 then 1 else 0

theorem passesLeft_lt {settings : Settings} (hinterval : 2 ≤ settings.cleanupInterval)
    {after : Run σ τ} (hpasses : after.passes = r.passes + 1)
    (hnodes : after.session.forest.nodeCount ≤ r.session.forest.nodeCount)
    (hprogress : (r.passes + 1) % settings.cleanupInterval = 0 ∨
      after.session.forest.nodeCount < r.session.forest.nodeCount) :
    after.passesLeft settings < r.passesLeft settings := by
  unfold passesLeft
  rw [hpasses]
  by_cases hcleanup : (r.passes + 1) % settings.cleanupInterval = 0
  · have hnext : (r.passes + 1 + 1) % settings.cleanupInterval ≠ 0 := by
      rw [Nat.add_mod, hcleanup, Nat.zero_add, Nat.mod_mod, Nat.mod_eq_of_lt hinterval]
      omega
    rw [if_neg hnext, if_pos hcleanup]
    omega
  · have hfewer := hprogress.resolve_left hcleanup
    rw [if_neg hcleanup]
    split <;> omega

/-- Passes come to an end, and those of the strategy are no more than the nodes below the roots and
one. -/
theorem loop_ends (hlang : e.language.OfStatements) (hstrategy : strategy.Shrinking e.language)
    {settings : Settings} (hinterval : 2 ≤ settings.cleanupInterval) {fuel : Nat}
    (hr : r.session.Tracked) (hfuel : r.passesLeft settings < fuel) :
    ∃ outcome after, loop e strategy settings fuel r = some (outcome, after) ∧
      after.cleanupPasses + r.passes ≤ after.passes + r.cleanupPasses ∧
      after.passes + r.cleanupPasses + r.session.forest.unitCount ≤
        after.cleanupPasses + r.passes + r.session.forest.nodeCount + 1 := by
  induction fuel generalizing r with
  | zero => omega
  | succ fuel ih =>
    have hroots := hr.unitCount_le_nodeCount
    unfold loop
    by_cases hlimit : r.atLimit settings = true
    · rw [if_pos hlimit]
      exact ⟨_, _, rfl, by simp only [endEarly]; omega⟩
    · rw [if_neg hlimit]
      obtain ⟨hpasses, hcleanups, hmost, honward⟩ :=
        pass_shrinks hlang hstrategy hr settings.cleanupInterval
      rcases hpass : r.pass e strategy settings.cleanupInterval with ⟨failure | _ | _, after⟩
      · simp only [hpass] at hpasses hcleanups hmost
        exact ⟨_, after, rfl, by omega⟩
      · simp only [hpass] at hpasses hcleanups hmost
        exact ⟨_, after, rfl, by omega⟩
      · rw [hpass] at honward
        simp only [hpass] at hpasses hcleanups hmost
        obtain ⟨hshrinks, hprogress⟩ := honward rfl
        simp only at hshrinks hprogress
        have hless : after.passesLeft settings < r.passesLeft settings :=
          passesLeft_lt hinterval hpasses hshrinks.nodes (hprogress.imp And.left And.right)
        obtain ⟨outcome, final, hloop, hcount, hbound⟩ := ih hshrinks.tracked (by omega)
        have hunits := hshrinks.units
        have hnodes := hshrinks.nodes
        refine ⟨outcome, final, hloop, by omega, ?_⟩
        rcases hprogress with ⟨-, hcleanup⟩ | ⟨-, hfewer⟩ <;> omega

/-- More fuel changes nothing. -/
theorem loop_mono {settings : Settings} {fuel fuel' : Nat} {result : Except Failure Unit × Run σ τ}
    (h : loop e strategy settings fuel r = some result) (hle : fuel ≤ fuel') :
    loop e strategy settings fuel' r = some result := by
  induction fuel generalizing r fuel' with
  | zero => cases h
  | succ fuel ih =>
    obtain ⟨rest, rfl⟩ := Nat.exists_eq_add_of_le' (Nat.le_trans (Nat.succ_pos fuel) hle)
    unfold loop at h ⊢
    split at h
    · next hlimit => rwa [if_pos hlimit]
    · next hlimit =>
      rw [if_neg hlimit]
      rcases hpass : r.pass e strategy settings.cleanupInterval with ⟨failure | _ | _, after⟩
      · simpa only [hpass] using h
      · simpa only [hpass] using h
      · simp only [hpass] at h ⊢
        exact ih h (by omega)

/-- Preparing a strategy that makes no request then changes no text. -/
theorem prepare_shrinks (hstrategy : strategy.Shrinking e.language) (r : Run σ τ) :
    let after := r.prepare e strategy
    after.2.passes = r.passes ∧ after.2.cleanupPasses = r.cleanupPasses ∧
      r.session.SameCommitted after.2.session := by
  obtain ⟨control, hprepare⟩ := hstrategy.prepare r.session.forest r.state
  simp only [prepare, hprepare, Engine.converse]
  split
  · exact ⟨rfl, rfl, r.session.sameCommitted_note _⟩
  · exact ⟨rfl, rfl, ⟨rfl, rfl, rfl, rfl⟩⟩

/-- A layout outside of the passes leaves as many nodes. -/
theorem cleanup_shrinks (hlang : e.language.OfStatements) (hr : r.session.Tracked)
    (checkpoint : Checkpoint) :
    let after := r.cleanup e checkpoint
    after.2.passes = r.passes ∧ after.2.cleanupPasses = r.cleanupPasses ∧
      (after.1 = .ok () → r.session.Shrinks after.2.session) := by
  have hshrinks := (e.cleanup_shrinks hlang hr).2
  rcases hclean : e.cleanup r.session with ⟨failure | control, cleaned⟩
  · simp only [cleanup, hclean]
    exact ⟨trivial, trivial, fun h => by cases h⟩
  · rw [hclean] at hshrinks
    simp only [cleanup, hclean]
    exact ⟨rfl, rfl, fun _ => hshrinks control rfl⟩

theorem passes_finish (e : Engine σ) (strategy : Strategy τ) (initial : Metrics) (r : Run σ τ) :
    (r.finish e strategy initial).2.passes = r.passes ∧
      (r.finish e strategy initial).2.cleanupPasses = r.cleanupPasses := by
  rcases hclean : e.cleanup r.session with ⟨failure | control, cleaned⟩
  · simp [finish, cleanup, hclean]
  · simp only [finish, cleanup, hclean]
    split <;> exact ⟨rfl, rfl⟩

/-- A run of a strategy that shrinks comes to an end, and the strategy makes no more passes than
there are nodes below the roots and one. -/
theorem runWithin_ends (hlang : e.language.OfStatements) (hstrategy : strategy.Shrinking e.language)
    {settings : Settings} (hinterval : 2 ≤ settings.cleanupInterval) {s : Session σ}
    (hs : s.Tracked) :
    ∃ outcome after,
      (∀ fuel, fuelFor strategy s ≤ fuel →
        runWithin e strategy settings fuel { session := s, state := strategy.start } =
          some (outcome, after)) ∧
      after.cleanupPasses ≤ after.passes ∧
      after.passes + s.forest.unitCount ≤ after.cleanupPasses + s.forest.nodeCount + 1 := by
  have hroots := hs.unitCount_le_nodeCount
  obtain ⟨hpasses, hcleanups, hsame⟩ :=
    prepare_shrinks hstrategy ({ session := s, state := strategy.start } : Run σ τ)
  rcases hprepare : ({ session := s, state := strategy.start } : Run σ τ).prepare e strategy with
    ⟨failure | _, prepared⟩
  · simp only [hprepare] at hpasses hcleanups
    exact ⟨.error failure, prepared, fun fuel _ => by simp only [runWithin, hprepare], by omega⟩
  · simp only [hprepare] at hpasses hcleanups hsame
    obtain ⟨hpasses', hcleanups', hshrinks⟩ := cleanup_shrinks (r := prepared.record .start) hlang
      (hs.of_sameCommitted hsame) .initialCleanup
    simp only [record] at hpasses' hcleanups'
    rcases hclean : (prepared.record .start).cleanup e .initialCleanup with ⟨failure | _, cleaned⟩
    · simp only [record] at hclean
      simp only [hclean] at hpasses' hcleanups'
      exact ⟨.error failure, cleaned,
        fun fuel _ => by simp only [runWithin, hprepare, record, hclean], by omega⟩
    · rw [hclean] at hshrinks
      simp only [record] at hclean
      simp only [hclean] at hpasses' hcleanups'
      have hcleaned : s.Shrinks cleaned.session :=
        (Session.Shrinks.of_sameCommitted hs hsame).trans (hshrinks rfl)
      have hunits := hcleaned.units
      have hnodes := hcleaned.nodes
      have hfuel : cleaned.passesLeft settings < fuelFor strategy s := by
        have hbound := hstrategy.bound s.forest
        unfold passesLeft fuelFor
        split <;> omega
      obtain ⟨outcome, final, hloop, hcount, hbound⟩ :=
        loop_ends hlang hstrategy hinterval hcleaned.tracked hfuel
      rcases outcome with failure | _
      · exact ⟨.error failure, final, fun fuel hle => by
          simp only [runWithin, hprepare, record, hclean, loop_mono hloop hle], by omega⟩
      · have hfinish := passes_finish e strategy prepared.session.metrics final
        exact ⟨(final.finish e strategy prepared.session.metrics).1,
          (final.finish e strategy prepared.session.metrics).2, fun fuel hle => by
            simp only [runWithin, hprepare, record, hclean, loop_mono hloop hle], by omega⟩

/-- The runs between two passes, from the first layout on. -/
inductive Between (e : Engine σ) (strategy : Strategy τ) (settings : Settings) (s : Session σ) :
    Run σ τ → Prop
  | first {prepared cleaned : Run σ τ} :
      ({ session := s, state := strategy.start } : Run σ τ).prepare e strategy =
        (.ok (), prepared) →
      (prepared.record .start).cleanup e .initialCleanup = (.ok (), cleaned) →
      Between e strategy settings s cleaned
  | next {r after : Run σ τ} :
      Between e strategy settings s r →
      r.pass e strategy settings.cleanupInterval = (.ok true, after) →
      Between e strategy settings s after

theorem Between.tracked (hlang : e.language.OfStatements)
    (hstrategy : strategy.Shrinking e.language) {settings : Settings} {s : Session σ}
    (hs : s.Tracked) (h : Between e strategy settings s r) :
    r.session.Tracked := by
  induction h with
  | @first prepared cleaned hprepare hclean =>
    have hsame :=
      (prepare_shrinks hstrategy ({ session := s, state := strategy.start } : Run σ τ)).2.2
    rw [hprepare] at hsame
    have hshrinks := (cleanup_shrinks (r := prepared.record .start) hlang
      (hs.of_sameCommitted hsame) .initialCleanup).2.2 (congrArg Prod.fst hclean)
    rw [hclean] at hshrinks
    exact hshrinks.tracked
  | next _ hpass ih =>
    have hshrinks := ((pass_shrinks hlang hstrategy ih settings.cleanupInterval).2.2.2
      (congrArg Prod.fst hpass)).1
    rw [hpass] at hshrinks
    exact hshrinks.tracked

/-- Whether the passes of every run of a loaded session come to an end: no fuel beyond some amount
makes a difference, the passes that are not for layout are no more than the nodes below the roots
and one, each of them that another pass follows removes nodes, and those for layout bring none. -/
structure PassesEnd (e : Engine σ) (strategy : Strategy τ) (settings : Settings) (s : Session σ) :
    Prop where
  ends : ∃ outcome after,
    (∀ fuel, fuelFor strategy s ≤ fuel →
      runWithin e strategy settings fuel { session := s, state := strategy.start } =
        some (outcome, after)) ∧
    after.cleanupPasses ≤ after.passes ∧
    after.passes + s.forest.unitCount ≤ after.cleanupPasses + s.forest.nodeCount + 1
  removes : ∀ r after, Between e strategy settings s r →
    (r.passes + 1) % settings.cleanupInterval ≠ 0 →
    r.pass e strategy settings.cleanupInterval = (.ok true, after) →
    after.session.forest.nodeCount < r.session.forest.nodeCount
  lays : ∀ r after outcome, Between e strategy settings s r →
    (r.passes + 1) % settings.cleanupInterval = 0 →
    r.pass e strategy settings.cleanupInterval = (outcome, after) →
    after.session.forest.nodeCount ≤ r.session.forest.nodeCount

theorem passesEnd_of_shrinking (hlang : e.language.OfStatements)
    (hstrategy : strategy.Shrinking e.language) {settings : Settings}
    (hinterval : 2 ≤ settings.cleanupInterval) {s : Session σ} (hs : s.Tracked) :
    PassesEnd e strategy settings s where
  ends := runWithin_ends hlang hstrategy hinterval hs
  removes r after hr hstrategyPass hpass := by
    have hprogress := ((pass_shrinks hlang hstrategy (hr.tracked hlang hstrategy hs)
      settings.cleanupInterval).2.2.2 (congrArg Prod.fst hpass)).2
    rw [hpass] at hprogress
    exact (hprogress.resolve_left fun h => hstrategyPass h.1).2
  lays r after outcome hr hcleanup hpass := by
    have hnodes := (e.cleanup_shrinks hlang (hr.tracked hlang hstrategy hs)).1
    rw [pass_of_cleanup e strategy hcleanup] at hpass
    rcases hclean : e.cleanup r.session with ⟨failure | control, cleaned⟩
    all_goals
      simp only [cleanupPass, hclean, Prod.mk.injEq] at hpass
      rw [hclean] at hnodes
      rw [← hpass.2]
      exact hnodes.le

end Run

theorem Session.Tracked.of_load {e : Engine σ} {settings : Settings} {mappings : List FileMapping}
    {files loaded : Files} {s : Session σ} (hlang : e.language.OfStatements)
    (h : e.load settings mappings files = (.ok s, loaded)) : s.Tracked := by
  obtain ⟨-, -, hcopies, hforest⟩ := Engine.load_eq_ok h
  refine ⟨hforest, fun c hc => ?_⟩
  have hparse := (loadFrom_copies hcopies).2 c hc
  rwa [hlang.parse] at hparse

/-- The passes of both strategies come to an end, with any invariant and any dependence between
nodes. -/
theorem passes_come_to_an_end (e : Engine σ) (settings : Settings) (mappings : List FileMapping)
    (files loaded : Files) (s : Session σ) (hlang : e.language.OfStatements)
    (hload : e.load settings mappings files = (.ok s, loaded)) :
    Run.PassesEnd e Greedy.strategy settings s ∧ Run.PassesEnd e Ddmin.strategy settings s := by
  have hinterval := (checkSetup_eq_ok (Engine.load_eq_ok hload).1).1
  have hs : s.Tracked := .of_load hlang hload
  exact ⟨Run.passesEnd_of_shrinking hlang (Greedy.shrinking e.language) hinterval hs,
    Run.passesEnd_of_shrinking hlang (Ddmin.shrinking e.language) hinterval hs⟩

/-- An engine of statements in which each node depends on the one before it. -/
def chained : Engine Tally :=
  { lenient with language := { Statement.language with dependents := fun _ i => [i + 1] } }

/-- The passes over two texts come to an end though removing a node takes others with it. -/
theorem passes_chained :
    Run.PassesEnd chained Greedy.strategy {} (twoUnits []) ∧
      Run.PassesEnd chained Ddmin.strategy {} (twoUnits []) :=
  passes_come_to_an_end chained {} [⟨"a", "a.min"⟩, ⟨"b", "b.min"⟩] (twoTexts [])
    (twoUnits []).files (twoUnits []) ⟨rfl, rfl, rfl⟩ rfl

end SourceReducer
