import SourceReducer.Proofs.Engine.Stages
import SourceReducer.Proofs.Engine.Termination

/-! Histories of a session. Whatever a strategy does in a run, and whether or not the run comes to
an end, a session is only changed by attempts, and between them by steps that change no committed
text. -/
namespace SourceReducer

variable {σ τ : Type}

/-- How a session came from another one. The log holds the attempts, the newest first, each with the
session in which it was made. Steps aside change no committed text, and files only in a way that is
allowed. -/
inductive Engine.History (e : Engine σ) (allowed : Files → Files → Prop) (start : Session σ) :
    List (Attempt × Session σ) → Session σ → Prop
  | start : History e allowed start [] start
  | attempt {log : List (Attempt × Session σ)} {s : Session σ} (h : History e allowed start log s)
      (a : Attempt) : History e allowed start ((a, s) :: log) (e.attempt a s).2
  | aside {log : List (Attempt × Session σ)} {s t : Session σ} (h : History e allowed start log s)
      (hsame : s.SameCommitted t) (hfiles : t.files = s.files ∨ allowed s.files t.files) :
      History e allowed start log t

/-- Whether a session came from another one. -/
def Engine.Reaches (e : Engine σ) (allowed : Files → Files → Prop) (start t : Session σ) : Prop :=
  ∃ log, e.History allowed start log t

/-- Whether a dialogue changes files by itself only in a way that is allowed, whatever it is
answered. -/
def Dialogue.Touches (allowed : Files → Files → Prop) : Dialogue τ → Prop
  | .done _ _ => True
  | .ask _ next => ∀ answer, (next answer).Touches allowed
  | .touch change next => (∀ files, allowed files (change files)) ∧ next.Touches allowed

/-- Whether a strategy changes files by itself only in a way that is allowed. -/
structure Strategy.Touches (strategy : Strategy τ) (language : Language)
    (allowed : Files → Files → Prop) : Prop where
  prepare : ∀ f state, (strategy.prepare language f state).Touches allowed
  pass : ∀ f state, (strategy.pass language f state).Touches allowed

/-- A dialogue that offers sets of nodes changes no file by itself. -/
theorem Dialogue.Offers.touches {d : Dialogue τ} {sets : List RefSet} (h : d.Offers sets)
    (allowed : Files → Files → Prop) : d.Touches allowed := by
  induction h with
  | done state => trivial
  | ask nodes rest next herror _ haccepted ih =>
    intro answer
    rcases houtcome : answer.outcome with failure | control
    · obtain ⟨state, hdone⟩ := herror answer failure houtcome
      rw [hdone]
      trivial
    · by_cases hfailed : ∃ reason, control = .failed reason
      · obtain ⟨reason, rfl⟩ := hfailed
        exact ih answer reason houtcome
      · have hnot : ∀ reason, control ≠ .failed reason := fun reason h => hfailed ⟨reason, h⟩
        obtain ⟨state, hdone⟩ := haccepted answer control houtcome hnot
        rw [hdone]
        trivial

theorem Strategy.Shrinking.touches {strategy : Strategy τ} {language : Language}
    (h : strategy.Shrinking language) (allowed : Files → Files → Prop) :
    strategy.Touches language allowed where
  prepare f state := by
    obtain ⟨control, hprepare⟩ := h.prepare f state
    rw [hprepare]
    trivial
  pass f state := by
    obtain ⟨sets, hoffers, -⟩ := h.pass f state
    exact hoffers.touches allowed

namespace Engine

variable {e : Engine σ} {allowed : Files → Files → Prop} {start s t : Session σ}

/-- The units stay as many as the trees of the forest. -/
theorem unitCount_attempt (a : Attempt) (hunits : s.forest.unitCount = s.copies.length) :
    (e.attempt a s).2.forest.unitCount = (e.attempt a s).2.copies.length := by
  cases e.attempt_leaves a hunits with
  | refused _ _ hsame => rw [hsame.forest, hsame.length, hunits]
  | committed _ _ _ hforest _ => simp [Forest.unitCount, hforest]
  | failed _ count _ _ hcopies hforest _ =>
    rw [hforest, hcopies, length_promotedUpTo, e.length_proposal a hunits, hunits]

theorem History.unitCount {log : List (Attempt × Session σ)} (h : e.History allowed start log t)
    (hstart : start.forest.unitCount = start.copies.length) :
    t.forest.unitCount = t.copies.length := by
  induction h with
  | start => exact hstart
  | attempt _ a ih => exact unitCount_attempt a ih
  | aside _ hsame _ ih => rw [hsame.forest, hsame.length, ih]

/-! Sessions that are reached. -/

theorem Reaches.attempt (h : e.Reaches allowed start s) (a : Attempt) :
    e.Reaches allowed start (e.attempt a s).2 := by
  obtain ⟨log, hlog⟩ := h
  exact ⟨_, hlog.attempt a⟩

theorem Reaches.aside (h : e.Reaches allowed start s) (hsame : s.SameCommitted t)
    (hfiles : t.files = s.files ∨ allowed s.files t.files) : e.Reaches allowed start t := by
  obtain ⟨log, hlog⟩ := h
  exact ⟨log, hlog.aside hsame hfiles⟩

theorem Reaches.note (h : e.Reaches allowed start s) (event : Event) :
    e.Reaches allowed start (s.note event) :=
  h.aside (s.sameCommitted_note event) (.inl rfl)

theorem Reaches.rollback (h : e.Reaches allowed start s) : e.Reaches allowed start s.rollback :=
  h.aside s.sameCommitted_rollback (.inl rfl)

theorem Reaches.converse (h : e.Reaches allowed start s) {d : Dialogue τ} (hd : d.Touches allowed) :
    e.Reaches allowed start (e.converse d s).2.2 := by
  induction d generalizing s with
  | done outcome state => exact h
  | touch change next ih => exact ih (h.aside ⟨rfl, rfl, rfl, rfl⟩ (.inr (hd.1 s.files))) hd.2
  | ask request next ih =>
    have hperform : ∃ a, e.perform request s = e.attempt a s := by
      cases request with
      | remove nodes => exact ⟨.remove nodes, rfl⟩
      | force nodes => exact ⟨.force nodes, rfl⟩
      | cleanup => exact ⟨.cleanup, rfl⟩
    obtain ⟨a, ha⟩ := hperform
    simp only [Engine.converse, ha]
    exact ih _ ((h.attempt a).note _) (hd _)

end Engine

/-! Runs. -/

namespace Run

variable {e : Engine σ} {allowed : Files → Files → Prop} {start : Session σ} {strategy : Strategy τ}
  {r : Run σ τ}

theorem reaches_prepare (hstrategy : strategy.Touches e.language allowed)
    (h : e.Reaches allowed start r.session) :
    e.Reaches allowed start (r.prepare e strategy).2.session := by
  have hconverse := h.converse (hstrategy.prepare r.session.forest r.state)
  unfold prepare
  rcases hasked : e.converse (strategy.prepare e.language r.session.forest r.state) r.session with
    ⟨failure | control, state, session⟩
  · rw [hasked] at hconverse
    simp only [hasked]
    exact hconverse
  · rw [hasked] at hconverse
    have hnoted := hconverse.note (.prepared session.copies.length session.forest.nodeCount)
    simp only [hasked]
    split
    · exact hnoted
    · exact hnoted.aside ⟨rfl, rfl, rfl, rfl⟩ (.inl rfl)

theorem reaches_cleanup (checkpoint : Checkpoint) (h : e.Reaches allowed start r.session) :
    e.Reaches allowed start (r.cleanup e checkpoint).2.session := by
  have hattempt : e.Reaches allowed start (e.cleanup r.session).2 := h.attempt .cleanup
  rcases hclean : e.cleanup r.session with ⟨failure | control, session⟩
  all_goals
    rw [hclean] at hattempt
    simp only [cleanup, hclean]
    exact hattempt

theorem reaches_strategyPass (hstrategy : strategy.Touches e.language allowed)
    (h : e.Reaches allowed start r.session) :
    e.Reaches allowed start (r.strategyPass e strategy).2.session := by
  have hconverse := h.rollback.converse (hstrategy.pass r.session.rollback.forest r.state)
  rcases hasked : e.converse (strategy.pass e.language r.session.rollback.forest r.state)
    r.session.rollback with ⟨failure | control, state, session⟩
  · rw [hasked] at hconverse
    simp only [strategyPass, hasked]
    exact hconverse
  · rw [hasked] at hconverse
    simp only [strategyPass, hasked]
    exact hconverse.note _

theorem reaches_pass (hstrategy : strategy.Touches e.language allowed) (interval : Nat)
    (h : e.Reaches allowed start r.session) :
    e.Reaches allowed start (r.pass e strategy interval).2.session := by
  by_cases hcleanup : (r.passes + 1) % interval = 0
  · have hattempt : e.Reaches allowed start (e.cleanup r.session).2 := h.attempt .cleanup
    rw [pass_of_cleanup e strategy hcleanup]
    rcases hclean : e.cleanup r.session with ⟨failure | control, session⟩
    all_goals
      rw [hclean] at hattempt
      simp only [cleanupPass, hclean]
      exact hattempt
  · have hpass := reaches_strategyPass (r := { r with passes := r.passes + 1 }) hstrategy h
    rw [pass_of_strategy e strategy hcleanup]
    rcases hpassed : { r with passes := r.passes + 1 }.strategyPass e strategy with
      ⟨failure | control, after⟩
    all_goals
      rw [hpassed] at hpass
      simp only [hpassed]
      exact hpass

theorem reaches_loop (hstrategy : strategy.Touches e.language allowed) {settings : Settings}
    {fuel : Nat} (h : e.Reaches allowed start r.session) {outcome : Except Failure Unit}
    {after : Run σ τ} (hloop : loop e strategy settings fuel r = some (outcome, after)) :
    e.Reaches allowed start after.session := by
  refine loop_preserves (motive := fun r => e.Reaches allowed start r.session) (fun r h => ?_)
    (fun r h => ?_) h hloop
  · exact reaches_pass hstrategy settings.cleanupInterval h
  · exact h.aside ⟨rfl, rfl, rfl, rfl⟩ (.inl rfl)

theorem reaches_stripAll (units : List Nat) {s : Session σ} (h : e.Reaches allowed start s) :
    e.Reaches allowed start (stripAll e units s).2 := by
  induction units generalizing s with
  | nil => exact h
  | cons unit units ih =>
    have hattempt : e.Reaches allowed start (e.stripUnit unit s).2 := h.attempt (.strip unit)
    rcases hstrip : e.stripUnit unit s with ⟨failure | control, session⟩
    all_goals
      rw [hstrip] at hattempt
      simp only [stripAll, hstrip]
    · exact hattempt
    · exact ih hattempt

theorem reaches_finish (strategy : Strategy τ) (initial : Metrics)
    (h : e.Reaches allowed start r.session) :
    e.Reaches allowed start (r.finish e strategy initial).2.session := by
  have hcleanup := reaches_cleanup .finalCleanup h
  rcases hclean : r.cleanup e .finalCleanup with ⟨failure | _, cleaned⟩
  · rw [hclean] at hcleanup
    simp only [finish, hclean]
    exact hcleanup
  · rw [hclean] at hcleanup
    have hstripped := reaches_stripAll (List.range cleaned.session.copies.length) hcleanup
    rcases hstrip : stripAll e (List.range cleaned.session.copies.length) cleaned.session with
      ⟨failure | _, session⟩
    · rw [hstrip] at hstripped
      simp only [finish, hclean, hstrip]
      exact hstripped
    · rw [hstrip] at hstripped
      simp only [finish, hclean, hstrip]
      exact hstripped.rollback

/-- What a run between two passes has come to. -/
theorem Between.reaches (hstrategy : strategy.Touches e.language allowed) {settings : Settings}
    (h : Between e strategy settings start r) : e.Reaches allowed start r.session := by
  induction h with
  | @first prepared cleaned hprepare hclean =>
    have hstart : e.Reaches allowed start start := ⟨[], .start⟩
    have hprepared := reaches_prepare (r := { session := start, state := strategy.start })
      hstrategy hstart
    rw [hprepare] at hprepared
    have hcleaned := reaches_cleanup (r := prepared.record .start) .initialCleanup hprepared
    rw [hclean] at hcleaned
    exact hcleaned
  | next _ hpass ih =>
    have hpassed := reaches_pass hstrategy settings.cleanupInterval ih
    rw [hpass] at hpassed
    exact hpassed

/-- What a run has come to at its end. -/
theorem reaches_runWithin (hstrategy : strategy.Touches e.language allowed) {settings : Settings}
    {fuel : Nat} {outcome : Except Failure Report}
    (h : runWithin e strategy settings fuel { session := start, state := strategy.start } =
      some (outcome, r)) : e.Reaches allowed start r.session := by
  have hstart : e.Reaches allowed start start := ⟨[], .start⟩
  have hprepared := reaches_prepare (r := { session := start, state := strategy.start })
    hstrategy hstart
  unfold runWithin at h
  rcases hprepare : prepare e strategy { session := start, state := strategy.start } with
    ⟨failure | _, prepared⟩
  · simp only [hprepare, Option.some.injEq, Prod.mk.injEq] at h
    rw [hprepare, h.2] at hprepared
    exact hprepared
  · rw [hprepare] at hprepared
    simp only [hprepare] at h
    have hcleaned := reaches_cleanup (r := prepared.record .start) .initialCleanup hprepared
    rcases hclean : (prepared.record .start).cleanup e .initialCleanup with ⟨failure | _, cleaned⟩
    · simp only [hclean, Option.some.injEq, Prod.mk.injEq] at h
      rw [hclean, h.2] at hcleaned
      exact hcleaned
    · rw [hclean] at hcleaned
      simp only [hclean] at h
      rcases hloop : loop e strategy settings fuel cleaned with _ | ⟨failure | _, final⟩
      · simp [hloop] at h
      · simp only [hloop, Option.some.injEq, Prod.mk.injEq] at h
        rw [← h.2]
        exact reaches_loop hstrategy hcleaned hloop
      · simp only [hloop, Option.some.injEq] at h
        have hfinish := reaches_finish strategy prepared.session.metrics
          (reaches_loop hstrategy hcleaned hloop)
        rw [h] at hfinish
        exact hfinish

end Run

end SourceReducer
