import SourceReducer.Proofs.Engine.Minimality
import SourceReducer.Proofs.Engine.Termination

/-! Passes of a run whose invariant is a predicate of the texts. A pass of a strategy that offers
every node goes on with texts that are still acceptable, or ends with texts from which no single
node can be removed. -/
namespace SourceReducer

open Files

variable {σ τ : Type}

/-- Whether a strategy offers every node of the statement language in each pass, nothing else that
it does fails, and its bound on passes is enough. -/
structure Strategy.Thorough (strategy : Strategy τ) : Prop where
  prepare : ∀ f state, ∃ control,
    strategy.prepare Statement.language f state = .done (.ok control) state
  pass : ∀ f state, ∃ sets, (strategy.pass Statement.language f state).Offers sets ∧ f.Covered sets
  statistics : ∀ state, ∃ text, strategy.statistics state = .ok text
  bound : ∀ f, f.nodeCount ≤ strategy.passBound f

theorem Greedy.thorough : Greedy.strategy.Thorough where
  prepare _ _ := ⟨_, rfl⟩
  pass f _ := ⟨_, Greedy.offers_offer _ _, Greedy.covered_candidates (fun _ _ => rfl) f⟩
  statistics _ := ⟨_, rfl⟩
  bound _ := Nat.le_succ _

theorem Ddmin.thorough : Ddmin.strategy.Thorough where
  prepare _ _ := ⟨_, rfl⟩
  pass f state := ⟨_, Ddmin.offers_play _ _ _ _, Ddmin.covered_plan (fun _ _ => rfl) f state⟩
  statistics _ := ⟨_, rfl⟩
  bound _ := Nat.le_succ _

theorem Strategy.Thorough.shrinking {strategy : Strategy τ} (h : strategy.Thorough) :
    strategy.Shrinking Statement.language where
  prepare := h.prepare
  pass f state := by
    obtain ⟨sets, hoffers, hcovered⟩ := h.pass f state
    exact ⟨sets, hoffers, hcovered.reached⟩
  bound := h.bound

section Dialogue

variable {base : Files} {sites : List (String × String)} {P : List String → Bool} {e : Engine σ}

/-- A dialogue that offers sets of nodes ends when one of them was removed, or with all of them
refused. -/
theorem Engine.converse_offers (he : e.Decided P) (hapart : SitesApart base sites) {d : Dialogue τ}
    {sets : List RefSet} (hd : d.Offers sets) {s : Session σ} (hs : Sound base sites P s) :
    let after := e.converse d s
    FileFailed after.1 ∨
      (after.1 = .ok (.failed .exhausted) ∧ s.SameCommitted after.2.2 ∧ after.2.2.files = s.files ∧
        ∀ nodes ∈ sets, (s.forest.partition nodes).matched = 0 ∨
          ¬Accepted Statement.language P (e.textsWithout nodes s)) ∨
      after.1 = .ok .proceed ∧ Sound base sites P after.2.2 ∧
        s.stats.commits ≤ after.2.2.stats.commits := by
  intro after
  have hrefused : ∀ nodes ∈ sets, ∀ t reason, s.SameCommitted t ∧ t.files = s.files →
      (e.attempt (.remove nodes) t).1 = .ok (.failed reason) →
        ((s.forest.partition nodes).matched = 0 ∨
          ¬Accepted Statement.language P (e.textsWithout nodes s)) ∧
        ∀ event, s.SameCommitted ((e.attempt (.remove nodes) t).2.note event) ∧
          ((e.attempt (.remove nodes) t).2.note event).files = s.files := by
    rintro nodes - t reason ⟨hst, hfiles⟩ hreason
    have ht := hs.of_sameCommitted hst hfiles
    rcases Engine.attempt_decided (a := .remove nodes) he hapart ht rfl with
      ⟨path, fault, hfault⟩ | ⟨reason', -, hsame, hfiles', hwhy⟩ | ⟨hproceed, -⟩
    · simp [hfault] at hreason
    · refine ⟨?_, fun event => ⟨?_, hfiles'.trans hfiles⟩⟩
      · rw [e.texts_proposal_remove, Engine.textsWithout_of_sameCommitted nodes hst,
          hst.forest] at hwhy
        rcases hwhy with ⟨nodes', heq, hzero⟩ | hnot
        · cases heq
          exact .inl hzero
        · exact .inr hnot
      · exact (hst.trans hsame).trans (Session.sameCommitted_note _ event)
    · simp [hproceed] at hreason
  rcases e.converse_of_offers hd hrefused (s := s) ⟨⟨rfl, rfl, rfl, rfl⟩, rfl⟩ with
    ⟨hexhausted, ⟨hsame, hfiles⟩, hall⟩ |
    ⟨nodes, -, t, event, ⟨hst, hfiles⟩, hnot, houtcome, hafter⟩
  · exact .inr (.inl ⟨hexhausted, hsame, hfiles, hall⟩)
  · have ht := hs.of_sameCommitted hst hfiles
    rcases Engine.attempt_decided (a := .remove nodes) he hapart ht rfl with
      ⟨path, fault, hfault⟩ | ⟨reason, hfailed, -⟩ | ⟨hproceed, hsound, -, -, hcommits⟩
    · exact .inl ⟨path, fault, houtcome.trans hfault⟩
    · exact absurd hfailed (hnot reason)
    · have hnoted := Session.sameCommitted_note (e.attempt (.remove nodes) t).2 event
      refine .inr (.inr ⟨houtcome.trans hproceed, ?_, ?_⟩)
      · rw [hafter]
        exact hsound.of_sameCommitted hnoted rfl
      · rw [hafter, hnoted.commits, hcommits, hst.commits]
        exact Nat.le_succ _

end Dialogue

namespace Run

variable {base : Files} {sites : List (String × String)} {P : List String → Bool} {e : Engine σ}
  {strategy : Strategy τ} {r : Run σ τ}

/-- The committed texts of a run. -/
def texts (r : Run σ τ) : List String :=
  r.session.copies.map WorkingCopy.committed

/-- A pass of a strategy goes on, or the texts are minimal. -/
theorem strategyPass_cases (he : e.Decided P) (hapart : SitesApart base sites)
    (hstrategy : strategy.Thorough) (hr : Sound base sites P r.session) :
    let after := r.strategyPass e strategy
    FileFailed after.1 ∨
      (after.1 = .ok (.failed .exhausted) ∧ Sound base sites P after.2.session ∧
        OneMinimal P after.2.texts ∧ r.session.stats.commits ≤ after.2.session.stats.commits) ∨
      after.1 = .ok .proceed ∧ Sound base sites P after.2.session ∧
        r.session.stats.commits ≤ after.2.session.stats.commits := by
  intro after
  have hfresh := hr.of_sameCommitted r.session.sameCommitted_rollback rfl
  obtain ⟨sets, hoffers, hcovered⟩ := hstrategy.pass r.session.rollback.forest r.state
  rcases hconverse : e.converse (strategy.pass e.language r.session.rollback.forest r.state)
    r.session.rollback with ⟨outcome, state, session⟩
  rw [← he.language] at hoffers
  have hcases := e.converse_offers he hapart hoffers hfresh
  rw [hconverse] at hcases
  rcases hcases with ⟨path, fault, hfault⟩ | ⟨hexhausted, hsame, hfiles, hrefused⟩ |
      ⟨hproceed, hsound, hcommits⟩
  · refine .inl ⟨path, fault, ?_⟩
    simp only at hfault
    subst hfault
    simp only [after, strategyPass, hconverse]
  · simp only at hexhausted
    subst hexhausted
    have hafter : after = (.ok (.failed .exhausted),
        { r with session := session.note (.passed (.failed .exhausted)), state }) := by
      simp only [after, strategyPass, hconverse]
    have hsame' := hsame.trans (session.sameCommitted_note (.passed (.failed .exhausted)))
    have hminimal := hfresh.oneMinimal he.language he.tokens hcovered hrefused
    rw [hafter]
    refine .inr (.inl ⟨rfl, hfresh.of_sameCommitted hsame' hfiles, ?_, ?_⟩)
    · rw [texts, committed_of_sameCommitted hsame']
      exact hminimal
    · exact Nat.le_of_eq hsame'.commits.symm
  · simp only at hproceed
    subst hproceed
    have hafter :
        after = (.ok .proceed, { r with session := session.note (.passed .proceed), state }) := by
      simp only [after, strategyPass, hconverse]
    rw [hafter]
    exact .inr (.inr ⟨rfl, hsound.of_sameCommitted (session.sameCommitted_note _) rfl, hcommits⟩)

/-- A pass that lays the texts out goes on. -/
theorem cleanupPass_cases (he : e.Decided P) (hapart : SitesApart base sites)
    (hr : Sound base sites P r.session) :
    let after := r.cleanupPass e
    FileFailed after.1 ∨
      after.1 = .ok .proceed ∧ Sound base sites P after.2.session ∧
        r.session.stats.commits ≤ after.2.session.stats.commits := by
  intro after
  rcases Engine.cleanup_decided he hapart hr with hfault | ⟨hproceed, hsound, -, hcommits⟩
  · exact .inl hfault
  · exact .inr ⟨hproceed, hsound, Nat.le_trans (Nat.le_succ _) (Nat.le_of_eq hcommits.symm)⟩

/-- What one pass does: it is the last one and the texts are minimal, or another one follows. -/
theorem pass_cases (he : e.Decided P) (hapart : SitesApart base sites)
    (hstrategy : strategy.Thorough) (hr : Sound base sites P r.session) (interval : Nat) :
    let after := r.pass e strategy interval
    FileFailed after.1 ∨
      ∃ goesOn, after.1 = .ok goesOn ∧ Sound base sites P after.2.session ∧
        r.session.stats.commits ≤ after.2.session.stats.commits ∧
        (goesOn = false → OneMinimal P after.2.texts) := by
  intro after
  by_cases hcleanup : (r.passes + 1) % interval = 0
  · have hafter := pass_of_cleanup e strategy hcleanup
    have hcases := cleanupPass_cases he hapart (r := { r with passes := r.passes + 1 }) hr
    rcases hpass : { r with passes := r.passes + 1 }.cleanupPass e with ⟨outcome, passed⟩
    rw [hpass] at hcases
    simp only [hpass] at hafter
    rcases hcases with ⟨path, fault, hfault⟩ | ⟨hproceed, hsound, hcommits⟩
    · simp only at hfault
      subst hfault
      exact .inl ⟨path, fault, by simp only [after, hafter]⟩
    · simp only at hproceed
      subst hproceed
      simp only [after, hafter]
      exact .inr ⟨true, rfl, hsound, hcommits, fun h => by cases h⟩
  · have hafter := pass_of_strategy e strategy hcleanup
    have hcases :=
      strategyPass_cases he hapart hstrategy (r := { r with passes := r.passes + 1 }) hr
    rcases hpass : { r with passes := r.passes + 1 }.strategyPass e strategy with ⟨outcome, passed⟩
    rw [hpass] at hcases
    simp only [hpass] at hafter
    rcases hcases with ⟨path, fault, hfault⟩ | ⟨hexhausted, hsound, hminimal, hcommits⟩ |
        ⟨hproceed, hsound, hcommits⟩
    · simp only at hfault
      subst hfault
      exact .inl ⟨path, fault, by simp only [after, hafter]⟩
    · simp only at hexhausted
      subst hexhausted
      simp only [after, hafter]
      exact .inr ⟨false, rfl, hsound, hcommits, fun _ => hminimal⟩
    · simp only at hproceed
      subst hproceed
      simp only [after, hafter]
      exact .inr ⟨true, rfl, hsound, hcommits, fun h => by cases h⟩

/-- Where passes have come to an end, the texts are minimal. -/
theorem loop_cases (he : e.Decided P) (hapart : SitesApart base sites)
    (hstrategy : strategy.Thorough) {settings : Settings} (hlimit : settings.maxPasses = none)
    {fuel : Nat} (hr : Sound base sites P r.session) {outcome : Except Failure Unit}
    {after : Run σ τ} (h : loop e strategy settings fuel r = some (outcome, after)) :
    FileFailed outcome ∨ outcome = .ok () ∧ Sound base sites P after.session ∧
      OneMinimal P after.texts ∧ r.session.stats.commits ≤ after.session.stats.commits := by
  induction fuel generalizing r with
  | zero => cases h
  | succ fuel ih =>
    have hgoes : r.atLimit settings = false := by simp [atLimit, hlimit]
    unfold loop at h
    rw [hgoes] at h
    rcases hpass : r.pass e strategy settings.cleanupInterval with ⟨result, next⟩
    have hcases := pass_cases he hapart hstrategy hr settings.cleanupInterval
    rw [hpass] at hcases
    rcases hcases with ⟨path, fault, hfault⟩ | ⟨goesOn, hgoesOn, hsound, hcommits, hminimal⟩
    · simp only at hfault
      subst hfault
      simp only [hpass, Bool.false_eq_true, if_false, Option.some.injEq, Prod.mk.injEq] at h
      exact .inl ⟨path, fault, h.1.symm⟩
    · simp only at hgoesOn hsound hcommits hminimal
      subst hgoesOn
      cases goesOn with
      | false =>
        simp only [hpass, Bool.false_eq_true, if_false, Option.some.injEq, Prod.mk.injEq] at h
        obtain ⟨rfl, rfl⟩ := h
        exact .inr ⟨rfl, hsound, hminimal rfl, hcommits⟩
      | true =>
        simp only [hpass, Bool.false_eq_true, if_false] at h
        rcases ih hsound h with hfault | ⟨hok, hsound', hminimal', hcommits'⟩
        · exact .inl hfault
        · exact .inr ⟨hok, hsound', hminimal', Nat.le_trans hcommits hcommits'⟩

end Run

end SourceReducer
