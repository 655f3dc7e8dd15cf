import SourceReducer.Proofs.Engine.Passes

/-! Whole runs: the first layout, the passes, the last layout and the report. What the passes have
left is minimal, and the last layout only changes how it is laid out. -/
namespace SourceReducer.Run

open Files

variable {σ τ : Type} {base : Files} {sites : List (String × String)} {P : List String → Bool}
  {e : Engine σ} {strategy : Strategy τ}

/-- Stripping blank lines unit by unit changes nothing where the texts are laid out. -/
theorem stripAll_cases (he : e.Decided P) (hapart : SitesApart base sites) {s : Session σ}
    (hs : Sound base sites P s)
    (hcanonical : ∀ text ∈ s.copies.map WorkingCopy.committed, Statement.reformat text = text)
    (units : List Nat) :
    let after := stripAll e units s
    FileFailed after.1 ∨
      after.1 = .ok () ∧ Sound base sites P after.2 ∧
        after.2.copies.map WorkingCopy.committed = s.copies.map WorkingCopy.committed ∧
        s.stats.commits ≤ after.2.stats.commits := by
  induction units generalizing s with
  | nil => exact .inr ⟨rfl, hs, rfl, Nat.le_refl _⟩
  | cons unit units ih =>
    intro after
    rcases hstrip : e.stripUnit unit s with ⟨outcome, stripped⟩
    have hcases := Engine.strip_decided he hapart hs
      (fun c hc => hcanonical c.committed (List.mem_map_of_mem hc)) unit
    rw [hstrip] at hcases
    rcases hcases with ⟨path, fault, hfault⟩ | ⟨hproceed, hsound, htexts, hcommits⟩
    · simp only at hfault
      subst hfault
      refine .inl ⟨path, fault, ?_⟩
      simp only [after, stripAll, hstrip]
    · simp only at hproceed hsound htexts hcommits
      subst hproceed
      have hafter : after = stripAll e units stripped := by
        simp only [after, stripAll, hstrip]
      rw [hafter]
      rcases ih hsound (htexts ▸ hcanonical) with hfault | ⟨hok, hfinal, htexts', hcommits'⟩
      · exact .inl hfault
      · exact .inr ⟨hok, hfinal, htexts'.trans htexts, by omega⟩

theorem report_eq_ok (he : e.Decided P) (hstrategy : strategy.Thorough) (initial : Metrics)
    (r : Run σ τ) : ∃ report, r.report e strategy initial = .ok report := by
  obtain ⟨text, htext⟩ := he.decides.statistics r.session.state
  obtain ⟨text', htext'⟩ := hstrategy.statistics r.state
  simp only [report, htext, htext']
  exact ⟨_, rfl⟩

/-- A layout outside of the passes. -/
theorem cleanup_cases (he : e.Decided P) (hapart : SitesApart base sites) (checkpoint : Checkpoint)
    {r : Run σ τ} (hr : Sound base sites P r.session) :
    let after := r.cleanup e checkpoint
    FileFailed after.1 ∨
      after.1 = .ok () ∧ Sound base sites P after.2.session ∧
        after.2.texts = r.texts.map Statement.reformat ∧
        after.2.session.stats.commits = r.session.stats.commits + 1 := by
  intro after
  rcases hclean : e.cleanup r.session with ⟨outcome, cleaned⟩
  have hcases := Engine.cleanup_decided he hapart hr
  rw [hclean] at hcases
  rcases hcases with ⟨path, fault, hfault⟩ | ⟨hproceed, hsound, htexts, hcommits⟩
  · simp only at hfault
    subst hfault
    refine .inl ⟨path, fault, ?_⟩
    simp only [after, cleanup, hclean]
  · simp only at hproceed
    subst hproceed
    have hafter : after = (.ok (), { r with session := cleaned }.record checkpoint) := by
      simp only [after, cleanup, hclean]
    rw [hafter]
    exact .inr ⟨rfl, hsound, htexts, hcommits⟩

theorem canonical_of_reformat {texts laid : List String} (h : laid = texts.map Statement.reformat) :
    ∀ text ∈ laid, Statement.reformat text = text := by
  intro text htext
  rw [h] at htext
  obtain ⟨before, -, rfl⟩ := List.mem_map.1 htext
  exact Statement.reformat_reformat before

/-- The end of a run lays the texts out and changes nothing else. -/
theorem finish_cases (he : e.Decided P) (hapart : SitesApart base sites)
    (hstrategy : strategy.Thorough) (initial : Metrics) {r : Run σ τ}
    (hr : Sound base sites P r.session) :
    let after := r.finish e strategy initial
    FileFailed after.1 ∨
      ∃ report, after.1 = .ok report ∧ Sound base sites P after.2.session ∧
        after.2.texts = r.texts.map Statement.reformat ∧
        r.session.stats.commits < after.2.session.stats.commits := by
  intro after
  rcases hclean : r.cleanup e .finalCleanup with ⟨outcome, cleaned⟩
  have hcases := cleanup_cases he hapart .finalCleanup hr
  rw [hclean] at hcases
  rcases hcases with ⟨path, fault, hfault⟩ | ⟨hdone, hsound, htexts, hcommits⟩
  · simp only at hfault
    subst hfault
    refine .inl ⟨path, fault, ?_⟩
    simp only [after, finish, hclean]
  · simp only at hdone hsound htexts hcommits
    subst hdone
    rcases hstrip : stripAll e (List.range cleaned.session.copies.length) cleaned.session with
      ⟨outcome, stripped⟩
    have hcases := stripAll_cases he hapart hsound (canonical_of_reformat htexts)
      (List.range cleaned.session.copies.length)
    rw [hstrip] at hcases
    rcases hcases with ⟨path, fault, hfault⟩ | ⟨hok, hfinal, hsame, hcommits'⟩
    · simp only at hfault
      subst hfault
      refine .inl ⟨path, fault, ?_⟩
      simp only [after, finish, hclean, hstrip]
    · simp only at hok hfinal hsame hcommits'
      subst hok
      have hback := stripped.sameCommitted_rollback
      have hafter : after.2.session = stripped.rollback := by
        simp only [after, finish, hclean, hstrip]
      obtain ⟨report, hreport⟩ := report_eq_ok he hstrategy initial after.2
      refine .inr ⟨report, ?_, ?_, ?_, ?_⟩
      · rw [← hreport]
        simp only [after, finish, hclean, hstrip]
      · rw [hafter]
        exact hfinal.of_sameCommitted hback rfl
      · rw [texts, hafter, committed_of_sameCommitted hback, hsame]
        exact htexts
      · rw [hafter, hback.commits]
        omega

/-- Preparing changes no text. -/
theorem prepare_eq_ok (he : e.Decided P) (hstrategy : strategy.Thorough) (r : Run σ τ) :
    ∃ prepared, r.prepare e strategy = (.ok (), prepared) ∧
      r.session.SameCommitted prepared.session ∧ prepared.session.files = r.session.files := by
  obtain ⟨control, hprepare⟩ := hstrategy.prepare r.session.forest r.state
  rw [← he.language] at hprepare
  obtain ⟨state, hstate⟩ := he.decides.prepare
    (e.candidate (r.session.note (.prepared r.session.copies.length r.session.forest.nodeCount)))
    (r.session.note (.prepared r.session.copies.length r.session.forest.nodeCount)).state
  refine ⟨{ r with session := { r.session.note (.prepared r.session.copies.length
    r.session.forest.nodeCount) with state } }, ?_, ⟨rfl, rfl, rfl, rfl⟩, rfl⟩
  simp only [prepare, hprepare, Engine.converse, hstate]

/-- Unless a file failed, a run of a sound session that has ended reports and leaves acceptable
texts that are laid out and minimal. -/
theorem runWithin_cases (he : e.Decided P) (hapart : SitesApart base sites)
    (hstrategy : strategy.Thorough) {settings : Settings} (hlimit : settings.maxPasses = none)
    {s : Session σ} (hs : Sound base sites P s) {fuel : Nat} {outcome : Except Failure Report}
    {after : Run σ τ}
    (h : runWithin e strategy settings fuel { session := s, state := strategy.start } =
      some (outcome, after)) :
    FileFailed outcome ∨ ∃ report, outcome = .ok report ∧ Sound base sites P after.session ∧
      1 < after.session.stats.commits ∧ OneMinimal P after.texts ∧
      ∀ text ∈ after.texts, Statement.reformat text = text := by
  obtain ⟨prepared, hprepare, hsame, hfiles⟩ :=
    prepare_eq_ok he hstrategy ({ session := s, state := strategy.start } : Run σ τ)
  have hprepared := hs.of_sameCommitted hsame hfiles
  unfold runWithin at h
  simp only [hprepare] at h
  rcases hclean : (prepared.record .start).cleanup e .initialCleanup with ⟨cleanOutcome, cleaned⟩
  have hcases := cleanup_cases (r := prepared.record .start) he hapart .initialCleanup hprepared
  rw [hclean] at hcases
  rcases hcases with ⟨path, fault, hfault⟩ | ⟨hdone, hsound, -, hcommits⟩
  · simp only at hfault
    subst hfault
    simp only [hclean, Option.some.injEq, Prod.mk.injEq] at h
    exact .inl ⟨path, fault, h.1.symm⟩
  · simp only at hdone hsound hcommits
    subst hdone
    simp only [hclean] at h
    rcases hloop : loop e strategy settings fuel cleaned with _ | ⟨passOutcome, final⟩
    · simp [hloop] at h
    · rcases loop_cases he hapart hstrategy hlimit hsound hloop with
        ⟨path, fault, rfl⟩ | ⟨rfl, hlast, hminimal, hmore⟩
      · simp only [hloop, Option.some.injEq, Prod.mk.injEq] at h
        exact .inl ⟨path, fault, h.1.symm⟩
      · simp only [hloop, Option.some.injEq] at h
        have hfinish := finish_cases he hapart hstrategy prepared.session.metrics hlast
        rw [h] at hfinish
        rcases hfinish with hfault | ⟨report, hreport, hend, htexts, hcommits'⟩
        · exact .inl hfault
        · simp only at hreport hend htexts hcommits'
          refine .inr ⟨report, hreport, hend, by omega, ?_, canonical_of_reformat htexts⟩
          refine hminimal.congr he.tokens ?_
          rw [htexts, List.map_map]
          exact List.map_congr_left fun text _ => (Statement.lexemes_reformat text).symm

/-- A run of a sound session ends, and unless a file failed it reports and leaves acceptable texts
that are laid out and minimal. -/
theorem start_cases (he : e.Decided P) (hapart : SitesApart base sites)
    (hstrategy : strategy.Thorough) {settings : Settings} (hinterval : 2 ≤ settings.cleanupInterval)
    (hlimit : settings.maxPasses = none) {s : Session σ} (hs : Sound base sites P s) :
    ∃ outcome after, start e strategy settings s = some (outcome, after) ∧
      (FileFailed outcome ∨ ∃ report, outcome = .ok report ∧ Sound base sites P after.session ∧
        1 < after.session.stats.commits ∧ OneMinimal P after.texts ∧
        ∀ text ∈ after.texts, Statement.reformat text = text) := by
  have hshrinking : strategy.Shrinking e.language := he.language ▸ hstrategy.shrinking
  obtain ⟨outcome, after, hends, -⟩ :=
    runWithin_ends he.ofStatements hshrinking hinterval hs.toTracked
  have hstart : start e strategy settings s = some (outcome, after) := hends _ (Nat.le_refl _)
  exact ⟨outcome, after, hstart, runWithin_cases he hapart hstrategy hlimit hs hstart⟩

end SourceReducer.Run
