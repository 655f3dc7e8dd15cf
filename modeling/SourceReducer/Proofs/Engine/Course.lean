import SourceReducer.Proofs.Engine.Accounting

/-! The course of a run. Sizes are noted at the start, after the first layout, after every pass and
after the two last layouts. Every pass whose number the interval divides lays the texts out and
never ends the run; any other one is a call of the strategy, and all calls but the last one go
on. -/
namespace SourceReducer

variable {σ τ : Type}

/-! Calls of the strategy are in the journal. -/

/-- How a pass of the strategy ended, if an event tells it. -/
def Event.passControl? : Event → Option Control
  | .passed control => some control
  | _ => none

/-- How the passes of the strategy ended, the oldest first. -/
def Session.passControls (s : Session σ) : List Control :=
  s.events.filterMap Event.passControl?

theorem Session.passControls_note (s : Session σ) (event : Event) :
    (s.note event).passControls = s.passControls ++ event.passControl?.toList := by
  simp only [passControls, events, note, List.reverse_cons, List.filterMap_append]
  cases h : event.passControl? <;> simp [h]

@[simp] theorem Session.metrics_rollback (s : Session σ) : s.rollback.metrics = s.metrics := by
  have hsizes : s.rollback.copies.map WorkingCopy.size = s.copies.map WorkingCopy.size := by
    simp [Session.rollback, WorkingCopy.size, Function.comp_def]
  simp only [metrics, hsizes]
  rfl

/-- Whether no pass of the strategy ended from one session to another, and no limit was met. -/
structure Session.Quiet (s t : Session σ) : Prop where
  controls : t.passControls = s.passControls
  early : t.stats.earlyTerminated = s.stats.earlyTerminated

namespace Session.Quiet

variable {s t u : Session σ}

theorem trans (h : s.Quiet t) (h' : t.Quiet u) : s.Quiet u :=
  ⟨h'.controls.trans h.controls, h'.early.trans h.early⟩

theorem note (h : s.Quiet t) {event : Event} (hevent : event.passControl? = none) :
    s.Quiet (t.note event) := by
  refine h.trans ⟨?_, rfl⟩
  rw [passControls_note, hevent]
  exact List.append_nil _

theorem of_journal (hjournal : t.journal = s.journal)
    (hearly : t.stats.earlyTerminated = s.stats.earlyTerminated) : s.Quiet t :=
  ⟨by rw [passControls, events, hjournal, passControls, events], hearly⟩

end Session.Quiet

namespace Engine

variable (e : Engine σ)

theorem earlyTerminated_attemptCommit (p : Session σ) :
    (e.attemptCommit p).2.stats.earlyTerminated = p.stats.earlyTerminated := by
  rcases e.attemptCommit_cases p with ⟨failure, -, hattempt⟩ | ⟨reason, -, hattempt⟩ |
      ⟨trees, -, -, hattempt⟩
  · rw [hattempt]
    rfl
  · rw [hattempt]
    cases reason <;> rfl
  · rw [hattempt]
    rcases install_eq (e.check p).2 (trees.map some) with
      ⟨failure, copies, files, hinstall⟩ | ⟨copies, files, hinstall⟩
    · rw [hinstall]
      rfl
    · rw [hinstall]
      rfl

theorem earlyTerminated_attempt (a : Attempt) (s : Session σ) :
    (e.attempt a s).2.stats.earlyTerminated = s.stats.earlyTerminated := by
  have hproposal : (e.proposal a s).stats.earlyTerminated = s.stats.earlyTerminated := by
    cases a <;> rfl
  rcases e.attempt_cases a s with ⟨nodes, -, -, hattempt⟩ | ⟨-, -, hattempt⟩ | ⟨nodes, -, hattempt⟩
  · rw [hattempt]
    rfl
  · rw [hattempt, earlyTerminated_attemptCommit, hproposal]
  · rw [hattempt, ← hproposal]
    rcases install_eq (e.proposal a s) ((e.proposal a s).copies.map
        fun copy => (copy.parseScratch e.language).toOption) with
      ⟨failure, copies, files, hinstall⟩ | ⟨copies, files, hinstall⟩
    · rw [hinstall]
    · rw [hinstall]
      rfl

theorem quiet_attempt (a : Attempt) (s : Session σ) : s.Quiet (e.attempt a s).2 := by
  obtain ⟨checks, hjournal, hchecks⟩ := e.journal_attempt a s
  have hnone : checks.reverse.filterMap Event.passControl? = [] := by
    rw [List.filterMap_eq_nil_iff]
    intro event hevent
    obtain ⟨verdict, texts, rfl⟩ := hchecks event (List.mem_reverse.1 hevent)
    rfl
  refine ⟨?_, e.earlyTerminated_attempt a s⟩
  simp only [Session.passControls, Session.events, hjournal, List.reverse_append,
    List.filterMap_append, hnone, List.append_nil]

/-- Whatever a strategy asks for, none of its passes ends before the dialogue does. -/
theorem quiet_converse (d : Dialogue τ) (s : Session σ) : s.Quiet (e.converse d s).2.2 := by
  induction d generalizing s with
  | done outcome state => exact ⟨rfl, rfl⟩
  | touch change next ih =>
    have htouched : s.Quiet { s with files := change s.files } := .of_journal rfl rfl
    exact htouched.trans (ih _)
  | ask request next ih =>
    simp only [converse]
    refine .trans (.note ?_ rfl) (ih _ _)
    rw [e.perform_eq]
    exact e.quiet_attempt _ s

/-- Laying texts out never asks for the end of the run. -/
theorem cleanup_ne_stop {s t : Session σ} {control : Control} (h : e.cleanup s = (.ok control, t)) :
    control ≠ .stop := by
  have hcontrol : (e.attemptCommit (e.proposal .cleanup s)).1 = .ok control := congrArg Prod.fst h
  rintro rfl
  rcases e.attemptCommit_cases (e.proposal .cleanup s) with ⟨failure, -, hattempt⟩ |
      ⟨reason, -, hattempt⟩ | ⟨trees, -, -, hattempt⟩
  · rw [hattempt] at hcontrol
    cases hcontrol
  · rw [hattempt] at hcontrol
    cases hcontrol
  · rw [hattempt] at hcontrol
    rcases hinstall : install (e.check (e.proposal .cleanup s)).2 (trees.map some) with
      ⟨failure | _, installed⟩
    · simp [hinstall, Except.map] at hcontrol
    · simp [hinstall, Except.map] at hcontrol

end Engine

/-! The stages of a run. -/

namespace Run

variable {e : Engine σ} {strategy : Strategy τ} {settings : Settings} {r after : Run σ τ}

theorem quiet_prepare (h : r.prepare e strategy = (.ok (), after)) :
    r.session.Quiet after.session ∧ after.passes = r.passes ∧
      after.cleanupPasses = r.cleanupPasses ∧ after.progress = r.progress := by
  unfold prepare at h
  have hquiet := e.quiet_converse (strategy.prepare e.language r.session.forest r.state) r.session
  rcases hasked : e.converse (strategy.prepare e.language r.session.forest r.state) r.session with
    ⟨failure | control, state, session⟩
  · simp [hasked] at h
  · rw [hasked] at hquiet
    simp only [hasked] at h
    split at h
    · simp at h
    · simp only [Prod.mk.injEq, true_and] at h
      rw [← h]
      have hnoted : r.session.Quiet
          (session.note (.prepared session.copies.length session.forest.nodeCount)) :=
        hquiet.note rfl
      exact ⟨⟨hnoted.controls, hnoted.early⟩, rfl, rfl, rfl⟩

theorem quiet_cleanup {checkpoint : Checkpoint} (h : r.cleanup e checkpoint = (.ok (), after)) :
    r.session.Quiet after.session ∧ after.passes = r.passes ∧
      after.cleanupPasses = r.cleanupPasses ∧
      after.progress = ⟨checkpoint, after.session.metrics⟩ :: r.progress := by
  unfold cleanup at h
  have hquiet := e.quiet_attempt .cleanup r.session
  rcases hattempt : e.cleanup r.session with ⟨failure | control, session⟩
  · simp [hattempt] at h
  · simp only [hattempt, Prod.mk.injEq, true_and] at h
    rw [Engine.attempt, hattempt] at hquiet
    rw [← h]
    exact ⟨hquiet, rfl, rfl, rfl⟩

theorem quiet_stripAll {units : List Nat} {s t : Session σ}
    (h : stripAll e units s = (.ok (), t)) : s.Quiet t := by
  induction units generalizing s with
  | nil =>
    simp only [stripAll, Prod.mk.injEq, true_and] at h
    exact h ▸ ⟨rfl, rfl⟩
  | cons unit units ih =>
    have hquiet := e.quiet_attempt (.strip unit) s
    unfold stripAll at h
    rcases hattempt : e.stripUnit unit s with ⟨failure | control, session⟩
    · simp [hattempt] at h
    · rw [Engine.attempt, hattempt] at hquiet
      simp only [hattempt] at h
      exact hquiet.trans (ih h)

/-- What a pass that lays texts out comes to. -/
theorem pass_cleanup_eq_ok {interval : Nat} {goes : Bool} (hcleanup : interval ∣ r.passes + 1)
    (h : r.pass e strategy interval = (.ok goes, after)) :
    goes = true ∧ after.passes = r.passes + 1 ∧ after.cleanupPasses = r.cleanupPasses + 1 ∧
      after.progress = ⟨.pass (r.passes + 1) true, after.session.metrics⟩ :: r.progress ∧
      r.session.Quiet after.session := by
  rw [pass_of_cleanup e strategy (Nat.mod_eq_zero_of_dvd hcleanup)] at h
  have hquiet := e.quiet_attempt .cleanup r.session
  rcases hattempt : e.cleanup r.session with ⟨failure | control, session⟩
  · simp [cleanupPass, hattempt] at h
  · have hstop := e.cleanup_ne_stop hattempt
    rw [Engine.attempt, hattempt] at hquiet
    simp only [cleanupPass, hattempt, Prod.mk.injEq, Except.ok.injEq] at h
    obtain ⟨rfl, rfl⟩ := h
    refine ⟨?_, rfl, rfl, rfl, hquiet⟩
    cases control with
    | stop => exact absurd rfl hstop
    | _ => rfl

/-- What a call of the strategy comes to. -/
theorem pass_strategy_eq_ok {interval : Nat} {goes : Bool} (hcall : ¬interval ∣ r.passes + 1)
    (h : r.pass e strategy interval = (.ok goes, after)) :
    after.passes = r.passes + 1 ∧ after.cleanupPasses = r.cleanupPasses ∧
      after.progress = ⟨.pass (r.passes + 1) false, after.session.metrics⟩ :: r.progress ∧
      after.session.stats.earlyTerminated = r.session.stats.earlyTerminated ∧
      ∃ control, (goes = true ↔ control = .proceed) ∧
        after.session.passControls = r.session.passControls ++ [control] := by
  rw [pass_of_strategy e strategy (fun hzero => hcall (Nat.dvd_of_mod_eq_zero hzero))] at h
  have hquiet := e.quiet_converse (strategy.pass e.language r.session.rollback.forest r.state)
    r.session.rollback
  rcases hasked : e.converse (strategy.pass e.language r.session.rollback.forest r.state)
    r.session.rollback with ⟨failure | control, state, session⟩
  · simp [strategyPass, hasked] at h
  · rw [hasked] at hquiet
    simp only [strategyPass, hasked, Prod.mk.injEq, Except.ok.injEq] at h
    obtain ⟨rfl, rfl⟩ := h
    refine ⟨rfl, rfl, rfl, hquiet.early, control, ?_, ?_⟩
    · cases control <;> simp [goesOn]
    · have hsame : session.passControls = r.session.passControls := hquiet.controls
      rw [← hsame]
      exact session.passControls_note _

/-! The passes. -/

/-- The checkpoints at which sizes are noted up to the end of some passes. -/
def checkpoints (interval passes : Nat) : List Checkpoint :=
  [.start, .initialCleanup] ++
    (List.range' 1 passes).map fun k => .pass k (decide (interval ∣ k))

theorem checkpoints_succ (interval passes : Nat) :
    checkpoints interval (passes + 1) =
      checkpoints interval passes ++ [.pass (passes + 1) (decide (interval ∣ passes + 1))] := by
  simp [checkpoints, List.range'_concat, Nat.add_comm]

/-- Whether the passes of a run, whose size was `initial` at the start, are counted and noted. -/
structure Counted (settings : Settings) (initial : Metrics) (r : Run σ τ) : Prop where
  noted : r.progress.reverse.map ProgressEntry.checkpoint =
    checkpoints settings.cleanupInterval r.passes
  first : r.progress.reverse.head? = some ⟨.start, initial⟩
  cleanups : r.cleanupPasses = r.passes / settings.cleanupInterval
  calls : r.session.passControls.length = r.passes - r.cleanupPasses
  allowed : ∀ most ∈ settings.maxPasses, r.passes ≤ most

theorem Counted.pass {initial : Metrics} {goes : Bool} (h : r.Counted settings initial)
    (hlimit : r.atLimit settings = false)
    (hpass : r.pass e strategy settings.cleanupInterval = (.ok goes, after)) :
    after.Counted settings initial := by
  have hallowed : ∀ most ∈ settings.maxPasses, r.passes + 1 ≤ most := by
    intro most hmost
    have hmost : settings.maxPasses = some most := hmost
    simpa [atLimit, hmost] using hlimit
  have hfirst (entry : ProgressEntry) :
      (entry :: r.progress).reverse.head? = some ⟨.start, initial⟩ := by
    rw [List.reverse_cons, List.head?_append, h.first, Option.some_or]
  have hle : r.cleanupPasses ≤ r.passes := h.cleanups ▸ Nat.div_le_self ..
  by_cases hcleanup : settings.cleanupInterval ∣ r.passes + 1
  · obtain ⟨-, hpasses, hcleanups, hprogress, hquiet⟩ := pass_cleanup_eq_ok hcleanup hpass
    refine ⟨?_, hprogress ▸ hfirst _, ?_, ?_, hpasses ▸ hallowed⟩
    · rw [hprogress, hpasses, checkpoints_succ, ← h.noted]
      simp [hcleanup]
    · rw [hcleanups, hpasses, h.cleanups, Nat.succ_div_of_dvd hcleanup]
    · rw [hquiet.controls, h.calls, hpasses, hcleanups, Nat.add_sub_add_right]
  · obtain ⟨hpasses, hcleanups, hprogress, -, control, -, hcontrols⟩ :=
      pass_strategy_eq_ok hcleanup hpass
    refine ⟨?_, hprogress ▸ hfirst _, ?_, ?_, hpasses ▸ hallowed⟩
    · rw [hprogress, hpasses, checkpoints_succ, ← h.noted]
      simp [hcleanup]
    · rw [hcleanups, hpasses, h.cleanups, Nat.succ_div_of_not_dvd hcleanup]
    · rw [hcontrols, List.length_append, h.calls, hpasses, hcleanups, Nat.succ_sub hle,
        List.length_singleton]

/-- Whether a run goes on: no call of the strategy ended it, and neither did a limit. -/
structure OnCourse (settings : Settings) (initial : Metrics) (r : Run σ τ) : Prop
    extends Counted settings initial r where
  goesOn : ∀ control ∈ r.session.passControls, control = .proceed
  inTime : r.session.stats.earlyTerminated = false

theorem OnCourse.pass {initial : Metrics} (h : r.OnCourse settings initial)
    (hlimit : r.atLimit settings = false)
    (hpass : r.pass e strategy settings.cleanupInterval = (.ok true, after)) :
    after.OnCourse settings initial := by
  refine ⟨h.toCounted.pass hlimit hpass, ?_, ?_⟩
  all_goals by_cases hcleanup : settings.cleanupInterval ∣ r.passes + 1
  · obtain ⟨-, -, -, -, hquiet⟩ := pass_cleanup_eq_ok hcleanup hpass
    exact hquiet.controls ▸ h.goesOn
  · obtain ⟨-, -, -, -, control, hgoes, hcontrols⟩ := pass_strategy_eq_ok hcleanup hpass
    rw [hcontrols]
    exact List.forall_mem_append.2 ⟨h.goesOn, List.forall_mem_singleton.2 (hgoes.1 rfl)⟩
  · obtain ⟨-, -, -, -, hquiet⟩ := pass_cleanup_eq_ok hcleanup hpass
    exact hquiet.early.trans h.inTime
  · obtain ⟨-, -, -, hearly, -⟩ := pass_strategy_eq_ok hcleanup hpass
    exact hearly.trans h.inTime

theorem OnCourse.onward {initial : Metrics} (h : r.OnCourse settings initial)
    (honward : Onward e strategy settings r after) : after.OnCourse settings initial := by
  induction honward with
  | here => exact h
  | pass _ hlimit hpass ih => exact ih.pass hlimit hpass

/-- Whether the passes of a run are over. All calls of the strategy but the last one went on, and
the end was early exactly if no pass was left and another one would have followed. -/
structure Over (settings : Settings) (initial : Metrics) (r : Run σ τ) : Prop
    extends Counted settings initial r where
  pass_made : 1 ≤ r.passes
  goesOn : ∀ control ∈ r.session.passControls.dropLast, control = .proceed
  early : r.session.stats.earlyTerminated = true ↔
    settings.maxPasses = some r.passes ∧
      (settings.cleanupInterval ∣ r.passes ∨ r.session.passControls.getLast? = some .proceed)

/-- A limit ends a run that would have gone on. -/
theorem OnCourse.over_endEarly {initial : Metrics} (h : r.OnCourse settings initial)
    (hinterval : 2 ≤ settings.cleanupInterval) (hmax : settings.maxPasses ≠ some 0)
    (hlimit : r.atLimit settings = true) : r.endEarly.Over settings initial := by
  have hlast : settings.maxPasses = some r.passes := by
    cases hmost : settings.maxPasses with
    | none => simp [atLimit, hmost] at hlimit
    | some most =>
      have hover : most ≤ r.passes := by simpa [atLimit, hmost] using hlimit
      rw [Nat.le_antisymm hover (h.allowed most hmost)]
  have hmade : 1 ≤ r.passes := by
    refine Nat.one_le_iff_ne_zero.2 fun hzero => hmax ?_
    rw [hlast, hzero]
  have hcalled : settings.cleanupInterval ∣ r.passes ∨
      r.session.passControls.getLast? = some .proceed := by
    -- less than half of the passes lay the texts out, so that the strategy was called
    have hpos : 0 < r.session.passControls.length := by
      have hhalf : r.passes / settings.cleanupInterval < r.passes := Nat.div_lt_self hmade hinterval
      have hcleanups := h.cleanups
      have hcalls := h.calls
      omega
    have hne : r.session.passControls ≠ [] := List.ne_nil_of_length_pos hpos
    refine .inr ?_
    rw [List.getLast?_eq_some_getLast hne, h.goesOn _ (List.getLast_mem hne)]
  exact {
    noted := h.noted
    first := h.first
    cleanups := h.cleanups
    calls := h.calls
    allowed := h.allowed
    pass_made := hmade
    goesOn := fun control hcontrol => h.goesOn control (List.mem_of_mem_dropLast hcontrol)
    early := ⟨fun _ => ⟨hlast, hcalled⟩, fun _ => rfl⟩ }

/-- A pass that is not followed by another one is a call of the strategy that did not go on. -/
theorem OnCourse.over_last {initial : Metrics} (h : r.OnCourse settings initial)
    (hlimit : r.atLimit settings = false)
    (hpass : r.pass e strategy settings.cleanupInterval = (.ok false, after)) :
    after.Over settings initial := by
  have hcall : ¬settings.cleanupInterval ∣ r.passes + 1 := by
    intro hcleanup
    cases (pass_cleanup_eq_ok hcleanup hpass).1
  obtain ⟨hpasses, -, -, hearly, control, hgoes, hcontrols⟩ := pass_strategy_eq_ok hcall hpass
  refine ⟨h.toCounted.pass hlimit hpass, ?_, ?_, ?_⟩
  · rw [hpasses]
    exact Nat.le_add_left ..
  · rw [hcontrols, List.dropLast_concat]
    exact h.goesOn
  · have hstopped : control ≠ .proceed := fun heq => by simpa using hgoes.2 heq
    rw [hearly, h.inTime, hpasses, hcontrols]
    simp [hcall, hstopped]

theorem OnCourse.over {initial : Metrics} (h : r.OnCourse settings initial)
    (hinterval : 2 ≤ settings.cleanupInterval) (hmax : settings.maxPasses ≠ some 0)
    (hends : Ends e strategy settings r after) : after.Over settings initial := by
  cases hends with
  | limit hlimit => exact h.over_endEarly hinterval hmax hlimit
  | last hlimit hpass => exact h.over_last hlimit hpass

/-- A run that was prepared and laid its texts out is ready for its first pass. -/
theorem onCourse_start {s : Session σ} {state : τ} {prepared : Run σ τ}
    (hcalls : s.passControls = []) (hearly : s.stats.earlyTerminated = false)
    (hprepare : ({ session := s, state } : Run σ τ).prepare e strategy = (.ok (), prepared))
    (hclean : (prepared.record .start).cleanup e .initialCleanup = (.ok (), after)) :
    after.OnCourse settings prepared.session.metrics := by
  obtain ⟨hprepared, hpasses, hcleanups, hprogress⟩ := quiet_prepare hprepare
  obtain ⟨hlaid, hpasses', hcleanups', hprogress'⟩ := quiet_cleanup hclean
  have hquiet : s.Quiet after.session := hprepared.trans ⟨hlaid.controls, hlaid.early⟩
  have hzero : after.passes = 0 := hpasses'.trans hpasses
  have hnone : after.cleanupPasses = 0 := hcleanups'.trans hcleanups
  have hentries : after.progress.reverse =
      [⟨.start, prepared.session.metrics⟩, ⟨.initialCleanup, after.session.metrics⟩] := by
    rw [hprogress', record, hprogress]
    rfl
  have hcalls' : after.session.passControls = [] := hquiet.controls.trans hcalls
  exact {
    noted := by rw [hentries, hzero]; rfl
    first := by rw [hentries]; rfl
    cleanups := by rw [hnone, hzero, Nat.zero_div]
    calls := by rw [hcalls', hzero, hnone]; rfl
    allowed := fun most _ => hzero ▸ Nat.zero_le most
    goesOn := by simp [hcalls']
    inTime := hquiet.early.trans hearly }

end Run

theorem Engine.load_valid {e : Engine σ} {settings : Settings} {mappings : List FileMapping}
    {files loaded : Files} {s : Session σ} (h : e.load settings mappings files = (.ok s, loaded)) :
    2 ≤ settings.cleanupInterval ∧ settings.maxPasses ≠ some 0 := by
  obtain ⟨hsetup, -⟩ := Engine.load_eq_ok h
  obtain ⟨hinterval, -⟩ := checkSetup_eq_ok hsetup
  refine ⟨hinterval, fun hmax => ?_⟩
  have hrefused : settings.validate = .error .noPasses := by
    simp [Settings.validate, hmax, Nat.not_lt.2 hinterval]
  simp [checkSetup, hrefused] at hsetup

/-- The course of a run that comes to a report: what is noted and in which order, how many passes
there are of either kind, which of them may end the run, and when its end is called early. -/
theorem run_follows_course (e : Engine σ) (strategy : Strategy τ) (settings : Settings)
    (mappings : List FileMapping) (files loaded : Files) (s : Session σ)
    (hload : e.load settings mappings files = (.ok s, loaded)) (fuel : Nat) (report : Report)
    (r : Run σ τ)
    (hrun : Run.runWithin e strategy settings fuel { session := s, state := strategy.start } =
      some (.ok report, r)) :
    let passes := report.stats.passes
    let interval := settings.cleanupInterval
    let calls := r.session.passControls
    report.progress.map ProgressEntry.checkpoint =
        [.start, .initialCleanup] ++
          (List.range' 1 passes).map (fun k => .pass k (decide (interval ∣ k))) ++
          [.finalCleanup, .blankLineCleanup] ∧
      report.stats.cleanupPasses = passes / interval ∧
      1 ≤ passes ∧ (∀ most ∈ settings.maxPasses, passes ≤ most) ∧
      calls.length = passes - report.stats.cleanupPasses ∧
      (∀ control ∈ calls.dropLast, control = .proceed) ∧
      (report.stats.earlyTerminated = true ↔
        settings.maxPasses = some passes ∧ (interval ∣ passes ∨ calls.getLast? = some .proceed)) ∧
      report.progress.head?.map ProgressEntry.metrics = some report.stats.initial ∧
      report.progress.getLast?.map ProgressEntry.metrics = some report.stats.minimized := by
  intro passes interval calls
  obtain ⟨hinterval, hmax⟩ := Engine.load_valid hload
  obtain ⟨hstats, hjournal, -⟩ := Engine.load_fresh hload
  have hcalls : s.passControls = [] := by rw [Session.passControls, Session.events, hjournal]; rfl
  have hearly : s.stats.earlyTerminated = false := by rw [hstats]
  obtain ⟨prepared, cleaned, last, final, laid, session, hprepare, hclean, honward, hends, hlaid,
    hstrip, hr, hreport⟩ := Run.runWithin_eq_ok hrun
  have hover : final.Over settings prepared.session.metrics :=
    ((Run.onCourse_start hcalls hearly hprepare hclean).onward honward).over hinterval hmax hends
  -- what follows the passes only adds two notes
  obtain ⟨hquiet, hpasses, hcleanups, hprogress⟩ := Run.quiet_cleanup hlaid
  have hquiet' : final.session.Quiet r.session :=
    (hquiet.trans (Run.quiet_stripAll hstrip)).trans (by rw [hr]; exact .of_journal rfl rfl)
  have hentries : report.progress = final.progress.reverse ++
      [⟨.finalCleanup, laid.session.metrics⟩, ⟨.blankLineCleanup, session.metrics⟩] := by
    rw [Run.progress_report hreport, hr, Run.record, hprogress]
    simp
  have hrpasses : r.passes = final.passes := by rw [hr]; exact hpasses
  have hrcleanups : r.cleanupPasses = final.cleanupPasses := by rw [hr]; exact hcleanups
  have hrmetrics : r.session.metrics = session.metrics := by rw [hr]; exact session.metrics_rollback
  simp only [passes, interval, calls, Run.stats_report hreport, hentries, hquiet'.controls,
    hquiet'.early, hrpasses, hrcleanups, hrmetrics]
  refine ⟨?_, hover.cleanups, hover.pass_made, hover.allowed, hover.calls, hover.goesOn,
    hover.early, ?_, ?_⟩
  · rw [List.map_append, hover.noted]
    rfl
  · rw [List.head?_append, hover.first]
    rfl
  · simp

/-- A strategy that goes on once and then has nothing to offer. -/
def onceOnward : Script :=
  { passes := [[⟨.finish .proceed, true⟩]] }

def twoPasses : Settings :=
  { cleanupInterval := 2, maxPasses := some 2 }

/-- The limit falls on a pass that lays the texts out, so that the end is early. -/
theorem run_follows_course_twoPasses :
    ∃ report r,
      Run.start clinging onceOnward.strategy twoPasses (twoUnits []) = some (.ok report, r) ∧
      report.stats.passes = 2 ∧ r.session.passControls = [.proceed] ∧
      report.stats.earlyTerminated = true ∧
      report.progress.map ProgressEntry.checkpoint =
        [.start, .initialCleanup, .pass 1 false, .pass 2 true, .finalCleanup,
          .blankLineCleanup] := by
  have hload : clinging.load twoPasses [⟨"a", "a.min"⟩, ⟨"b", "b.min"⟩] (twoTexts []) =
      (.ok (twoUnits []), (twoUnits []).files) := rfl
  have hends : ((Run.start clinging onceOnward.strategy twoPasses (twoUnits [])).map fun result =>
      (result.1.toOption.map fun report => report.stats.passes, result.2.session.passControls)) =
        some (some 2, [.proceed]) := by
    decide +kernel
  obtain ⟨⟨outcome, r⟩, hrun, hend⟩ := Option.map_eq_some_iff.1 hends
  obtain ⟨hreport, hcalls⟩ := Prod.mk.inj hend
  cases outcome with
  | error failure => cases hreport
  | ok report =>
    have hpasses : report.stats.passes = 2 := Option.some.inj hreport
    obtain ⟨hnoted, -, -, -, -, -, hearly, -⟩ :=
      run_follows_course clinging onceOnward.strategy twoPasses _ _ _ _ hload _ report r hrun
    rw [hpasses] at hnoted hearly
    exact ⟨report, r, hrun, hpasses, hcalls, hearly.2 ⟨rfl, .inl (by decide)⟩, hnoted⟩

end SourceReducer
