import SourceReducer.Proofs.Engine.Stages
import SourceReducer.Proofs.Engine.Trials
import SourceReducer.Strategy.Script

/-! Accounts. A session counts checks, commits and refusals in different places. As long as no
operation ends with an error, every check came to a commit or to a refusal that is counted, removals
by force are the commits without a check, and the generation of the forest is the number of
commits. -/
namespace SourceReducer

variable {σ τ : Type}

/-- Whether the counts of a session agree, where `forced` removals were made by force and
`undecided` checks came to neither a commit nor a refusal. -/
structure Session.Balanced (s : Session σ) (forced undecided : Nat) : Prop where
  checks : s.stats.checks + forced = s.stats.commits + s.stats.rejections + undecided
  forced_le : forced ≤ s.stats.commits
  generation : s.forest.generation = s.stats.commits
  forcedExit : s.stats.forcedExit = true ↔ 0 < forced

theorem Session.Balanced.checks_eq {s : Session σ} {forced : Nat} (h : s.Balanced forced 0) :
    s.stats.checks = (s.stats.commits - forced) + s.stats.invariantRejections +
      s.stats.parseRejections + s.stats.timeouts := by
  have hchecks := h.checks
  have hforced := h.forced_le
  unfold Stats.rejections at hchecks
  omega

/-! The places in which something is counted. -/

section Counting

variable {s : Session σ} {forced undecided : Nat}

theorem Engine.balanced_check (e : Engine σ) (h : s.Balanced forced undecided) :
    (e.check s).2.Balanced forced (undecided + 1) := by
  refine ⟨?_, h.forced_le, h.generation, h.forcedExit⟩
  have hchecks := h.checks
  show s.stats.checks + 1 + forced = s.stats.commits + s.stats.rejections + (undecided + 1)
  omega

theorem Session.balanced_reject (h : s.Balanced forced (undecided + 1)) {reason : Rejection}
    (hnothing : reason ≠ .nothingToRemove) (hexhausted : reason ≠ .exhausted) :
    (s.reject reason).2.Balanced forced undecided := by
  have hchecks := h.checks
  unfold Stats.rejections at hchecks
  cases reason with
  | nothingToRemove => exact absurd rfl hnothing
  | exhausted => exact absurd rfl hexhausted
  | _ =>
    refine ⟨?_, h.forced_le, h.generation, h.forcedExit⟩
    simp only [reject, Stats.recordRejection, Stats.rejections]
    omega

theorem Engine.checks_installed (h : s.Balanced forced undecided) (copies : List WorkingCopy)
    (files : Files) :
    (installed s copies files).stats.checks + (forced + 1) =
      (installed s copies files).stats.commits + (installed s copies files).stats.rejections +
        undecided := by
  have hchecks := h.checks
  show s.stats.checks + (forced + 1) = s.stats.commits + 1 + s.stats.rejections + undecided
  omega

theorem Engine.generation_installed (h : s.Balanced forced undecided) (copies : List WorkingCopy)
    (files : Files) :
    (installed s copies files).forest.generation = (installed s copies files).stats.commits :=
  congrArg (· + 1) h.generation

theorem Engine.forced_le_installed (h : s.Balanced forced undecided) (copies : List WorkingCopy)
    (files : Files) : forced + 1 ≤ (installed s copies files).stats.commits :=
  Nat.succ_le_succ h.forced_le

end Counting

/-! Attempts. -/

namespace Engine

variable {e : Engine σ} {s : Session σ} {forced undecided : Nat} {control : Control}

/-- A check that is followed by a commit or a refusal is decided. -/
theorem balanced_attemptCommit {p : Session σ} (h : p.Balanced forced undecided)
    (hok : (e.attemptCommit p).1 = .ok control) :
    (e.attemptCommit p).2.Balanced forced undecided := by
  have hchecked := e.balanced_check h
  unfold attemptCommit at hok ⊢
  generalize e.check p = result at hok hchecked ⊢
  rcases result with ⟨failure | verdict, checked⟩
  · cases hok
  · replace hchecked : checked.Balanced forced (undecided + 1) := hchecked
    cases verdict with
    | timedOut => exact Session.balanced_reject hchecked nofun nofun
    | refused => exact Session.balanced_reject hchecked nofun nofun
    | holds =>
      simp only at hok ⊢
      rcases hparse : parseAll e.language checked.copies with reason | trees
      · obtain ⟨c, -, error, -, rfl⟩ := parseAll_reason hparse
        exact Session.balanced_reject hchecked nofun nofun
      · simp only [hparse] at hok
        rcases install_eq checked (trees.map some) with
          ⟨failure, copies, files, hinstall⟩ | ⟨copies, files, hinstall⟩
        · simp only [hinstall] at hok
          cases hok
        · simp only [hinstall]
          have hchecks := checks_installed hchecked copies files
          have hforced := forced_le_installed hchecked copies files
          refine ⟨?_, Nat.le_of_succ_le hforced, generation_installed hchecked copies files,
            hchecked.forcedExit⟩
          omega

/-- An attempt that ends without an error leaves counts that agree, with one more removal by force
if it is one. -/
theorem balanced_attempt {a : Attempt} (h : s.Balanced forced undecided)
    (hok : (e.attempt a s).1 = .ok control) :
    (e.attempt a s).2.Balanced (forced + if a.isChecked then 0 else 1) undecided := by
  have hproposal : (e.proposal a s).Balanced forced undecided := by
    cases a <;> exact ⟨h.checks, h.forced_le, h.generation, h.forcedExit⟩
  rcases e.attempt_cases a s with ⟨nodes, rfl, -, hattempt⟩ | ⟨hchecked, -, hattempt⟩ |
      ⟨nodes, rfl, hattempt⟩
  · rw [hattempt]
    exact ⟨h.checks, h.forced_le, h.generation, h.forcedExit⟩
  · rw [hattempt] at hok ⊢
    rw [if_pos hchecked]
    exact balanced_attemptCommit hproposal hok
  · rw [hattempt] at hok ⊢
    rcases install_eq (e.proposal (.force nodes) s) ((e.proposal (.force nodes) s).copies.map
        fun copy => (copy.parseScratch e.language).toOption) with
      ⟨failure, copies, files, hinstall⟩ | ⟨copies, files, hinstall⟩
    · simp only [hinstall] at hok
      cases hok
    · simp only [hinstall]
      refine ⟨checks_installed hproposal copies files, forced_le_installed hproposal copies files,
        generation_installed hproposal copies files, ?_⟩
      simp [Attempt.isChecked]

end Engine

/-! Operations one after the other. -/

/-- Whether an operation is a removal by force. -/
def Operation.forces : Operation → Bool
  | .attempt a => !a.isChecked
  | .rollback => false

theorem Operation.forces_iff {op : Operation} :
    op.forces = true ↔ ∃ nodes, op = .attempt (.force nodes) := by
  cases op with
  | rollback => simp [Operation.forces]
  | attempt a => cases a <;> simp [Operation.forces, Attempt.isChecked]

namespace Engine

/-- Whether none of some operations, one after the other, ends with an error. -/
def succeeds (e : Engine σ) : Session σ → List Operation → Bool
  | _, [] => true
  | s, .attempt a :: ops => (e.attempt a s).1.isOk && e.succeeds (e.attempt a s).2 ops
  | s, .rollback :: ops => e.succeeds s.rollback ops

theorem balanced_operateAll {e : Engine σ} {s : Session σ} {forced undecided : Nat}
    {ops : List Operation} (h : s.Balanced forced undecided) (hops : e.succeeds s ops = true) :
    (e.operateAll s ops).Balanced (forced + ops.countP Operation.forces) undecided := by
  induction ops generalizing s forced with
  | nil => exact h
  | cons op ops ih =>
    cases op with
    | rollback =>
      have hback : s.rollback.Balanced forced undecided :=
        ⟨h.checks, h.forced_le, h.generation, h.forcedExit⟩
      exact ih hback hops
    | attempt a =>
      obtain ⟨hok, hrest⟩ := Bool.and_eq_true_iff.1 hops
      rcases hcontrol : (e.attempt a s).1 with failure | control
      · rw [hcontrol] at hok
        cases hok
      · have hall := ih (balanced_attempt h hcontrol) hrest
        have hcount : (Operation.attempt a :: ops).countP Operation.forces =
            (if a.isChecked then 0 else 1) + ops.countP Operation.forces := by
          rw [List.countP_cons, Nat.add_comm]
          cases hchecked : a.isChecked <;> simp [Operation.forces, hchecked]
        rw [hcount, ← Nat.add_assoc]
        exact hall

end Engine

/-! Runs. What a strategy asked for and what came of it is in the journal. -/

/-- Whether a request of a strategy ended with an error. -/
def Event.isFault : Event → Bool
  | .requested _ (.error _) _ _ => true
  | _ => false

/-- Whether a strategy removed nodes by force. -/
def Event.isForced : Event → Bool
  | .requested (.force _) (.ok _) _ _ => true
  | _ => false

/-- Whether the counts of a session agree with its journal, unless a request ended with an error. -/
def Session.Audited (s : Session σ) : Prop :=
  (∀ event ∈ s.journal, event.isFault = false) → s.Balanced (s.journal.countP Event.isForced) 0

/-- The attempt that a request asks for. -/
def Request.attempt : Request → Attempt
  | .remove nodes => .remove nodes
  | .force nodes => .force nodes
  | .cleanup => .cleanup

theorem Engine.perform_eq (e : Engine σ) (request : Request) (s : Session σ) :
    e.perform request s = e.attempt request.attempt s := by
  cases request <;> rfl

/-- An attempt notes checks only. -/
theorem Engine.journal_attempt (e : Engine σ) (a : Attempt) (s : Session σ) :
    ∃ checks : List Event, (e.attempt a s).2.journal = checks ++ s.journal ∧
      ∀ event ∈ checks, ∃ verdict texts, event = .checked verdict texts := by
  have hproposal : (e.proposal a s).journal = s.journal := by cases a <;> rfl
  rcases e.attempt_cases a s with ⟨nodes, -, -, hattempt⟩ | ⟨-, -, hattempt⟩ | ⟨nodes, -, hattempt⟩
  · rw [hattempt]
    exact ⟨[], rfl, by simp⟩
  · rw [hattempt, (e.attemptCommit_keeps _).1]
    refine ⟨[.checked _ _], congrArg (List.cons _) hproposal, ?_⟩
    intro event hevent
    exact ⟨_, _, List.mem_singleton.1 hevent⟩
  · refine ⟨[], ?_, by simp⟩
    have hkeeps := (install_keeps (e.proposal a s)
      ((e.proposal a s).copies.map fun copy => (copy.parseScratch e.language).toOption)).1
    rw [hattempt, List.nil_append, ← hproposal, ← hkeeps]
    split <;> next h => rw [h]

namespace Session.Audited

variable {e : Engine σ} {s t : Session σ}

/-- Checks that are noted make no difference. -/
theorem balanced (h : s.Audited) {checks : List Event}
    (hchecks : ∀ event ∈ checks, ∃ verdict texts, event = .checked verdict texts)
    (hclean : ∀ event ∈ checks ++ s.journal, event.isFault = false) :
    s.Balanced ((checks ++ s.journal).countP Event.isForced) 0 := by
  have hnone : checks.countP Event.isForced = 0 := by
    rw [List.countP_eq_zero]
    intro event hevent
    obtain ⟨verdict, texts, rfl⟩ := hchecks event hevent
    simp [Event.isForced]
  rw [List.countP_append, hnone, Nat.zero_add]
  exact h fun event hevent => hclean event (List.mem_append_right _ hevent)

/-- Whatever else changes, only the journal and the counts matter. -/
theorem of_counts (h : s.Audited) (hjournal : t.journal = s.journal)
    (hcounts : ∀ forced, s.Balanced forced 0 → t.Balanced forced 0) : t.Audited := by
  unfold Audited
  rw [hjournal]
  exact fun hclean => hcounts _ (h hclean)

/-- Notes that are no requests make no difference. -/
theorem note (h : s.Audited) {event : Event} (hforced : event.isForced = false) :
    (s.note event).Audited := by
  intro hclean
  have hcount : (s.note event).journal.countP Event.isForced = s.journal.countP Event.isForced := by
    simp [Session.note, hforced]
  rw [hcount]
  have hs := h fun event' hevent => hclean event' (List.mem_cons_of_mem _ hevent)
  exact ⟨hs.checks, hs.forced_le, hs.generation, hs.forcedExit⟩

/-- An attempt that no strategy asked for. -/
theorem attempt (h : s.Audited) {a : Attempt} (hchecked : a.isChecked = true) {control : Control}
    (hattempt : e.attempt a s = (.ok control, t)) : t.Audited := by
  intro hclean
  obtain ⟨checks, hjournal, hchecks⟩ := e.journal_attempt a s
  rw [hattempt] at hjournal
  rw [hjournal] at hclean ⊢
  have hbalanced := Engine.balanced_attempt (h.balanced hchecks hclean) (congrArg Prod.fst hattempt)
  rw [hattempt, if_pos hchecked] at hbalanced
  exact hbalanced

theorem rollback (h : s.Audited) : s.rollback.Audited :=
  h.of_counts rfl fun _ hs => ⟨hs.checks, hs.forced_le, hs.generation, hs.forcedExit⟩

/-- A request with the note of what came of it. -/
theorem request (h : s.Audited) (request : Request) (generation nodes : Nat) :
    ((e.perform request s).2.note
      (.requested request (e.perform request s).1 generation nodes)).Audited := by
  rw [e.perform_eq]
  intro hclean
  obtain ⟨checks, hjournal, hchecks⟩ := e.journal_attempt request.attempt s
  simp only [Session.note, List.forall_mem_cons, hjournal] at hclean ⊢
  obtain ⟨hfault, hclean⟩ := hclean
  rcases houtcome : (e.attempt request.attempt s).1 with failure | control
  · simp [houtcome, Event.isFault] at hfault
  · have hattempt := Engine.balanced_attempt (h.balanced hchecks hclean) houtcome
    rw [List.countP_cons]
    cases request <;>
      exact ⟨hattempt.checks, hattempt.forced_le, hattempt.generation, hattempt.forcedExit⟩

theorem converse (h : s.Audited) (d : Dialogue τ) : (e.converse d s).2.2.Audited := by
  induction d generalizing s with
  | done outcome state => exact h
  | touch change next ih =>
    exact ih (h.of_counts rfl fun _ hs => ⟨hs.checks, hs.forced_le, hs.generation, hs.forcedExit⟩)
  | ask request next ih =>
    simp only [Engine.converse]
    exact ih _ (h.request request _ _)

end Session.Audited

namespace Run

variable {e : Engine σ} {strategy : Strategy τ} {settings : Settings} {r after : Run σ τ}

theorem audited_prepare (h : r.session.Audited)
    (hprepare : r.prepare e strategy = (.ok (), after)) :
    after.session.Audited := by
  have hconverse := h.converse (e := e) (strategy.prepare e.language r.session.forest r.state)
  unfold prepare at hprepare
  rcases hasked : e.converse (strategy.prepare e.language r.session.forest r.state) r.session with
    ⟨failure | control, state, session⟩
  · simp [hasked] at hprepare
  · rw [hasked] at hconverse
    have hnoted :
        (session.note (.prepared session.copies.length session.forest.nodeCount)).Audited :=
      hconverse.note rfl
    simp only [hasked] at hprepare
    split at hprepare
    · simp at hprepare
    · simp only [Prod.mk.injEq, true_and] at hprepare
      rw [← hprepare]
      exact hnoted.of_counts rfl fun _ hs => ⟨hs.checks, hs.forced_le, hs.generation, hs.forcedExit⟩

theorem audited_cleanup (h : r.session.Audited) {checkpoint : Checkpoint}
    (hclean : r.cleanup e checkpoint = (.ok (), after)) : after.session.Audited := by
  unfold cleanup at hclean
  rcases hattempt : e.cleanup r.session with ⟨failure | control, session⟩
  · simp [hattempt] at hclean
  · simp only [hattempt, Prod.mk.injEq, true_and] at hclean
    have hlaid : session.Audited := h.attempt (a := .cleanup) rfl hattempt
    rw [← hclean]
    exact hlaid

theorem audited_pass (h : r.session.Audited) {interval : Nat} {goesOn : Bool}
    (hpass : r.pass e strategy interval = (.ok goesOn, after)) : after.session.Audited := by
  by_cases hcleanup : (r.passes + 1) % interval = 0
  · rw [pass_of_cleanup e strategy hcleanup] at hpass
    rcases hattempt : e.cleanup r.session with ⟨failure | control, session⟩
    · simp [cleanupPass, hattempt] at hpass
    · simp only [cleanupPass, hattempt, Prod.mk.injEq] at hpass
      have hlaid : session.Audited := h.attempt (a := .cleanup) rfl hattempt
      rw [← hpass.2]
      exact hlaid
  · rw [pass_of_strategy e strategy hcleanup] at hpass
    have hconverse := h.rollback.converse (e := e)
      (strategy.pass e.language r.session.rollback.forest r.state)
    rcases hasked : e.converse (strategy.pass e.language r.session.rollback.forest r.state)
      r.session.rollback with ⟨failure | control, state, session⟩
    · simp [strategyPass, hasked] at hpass
    · simp only [strategyPass, hasked, Prod.mk.injEq] at hpass
      rw [hasked] at hconverse
      rw [← hpass.2]
      exact hconverse.note rfl

theorem audited_onward (h : r.session.Audited) (honward : Onward e strategy settings r after) :
    after.session.Audited := by
  induction honward with
  | here => exact h
  | pass _ _ hpass ih => exact audited_pass ih hpass

theorem audited_ends (h : r.session.Audited) (hends : Ends e strategy settings r after) :
    after.session.Audited := by
  cases hends with
  | limit _ =>
    exact h.of_counts rfl fun _ hs => ⟨hs.checks, hs.forced_le, hs.generation, hs.forcedExit⟩
  | last _ hpass => exact audited_pass h hpass

theorem audited_stripAll {units : List Nat} {s t : Session σ} (h : s.Audited)
    (hstrip : stripAll e units s = (.ok (), t)) : t.Audited := by
  induction units generalizing s with
  | nil =>
    simp only [stripAll, Prod.mk.injEq, true_and] at hstrip
    exact hstrip ▸ h
  | cons unit units ih =>
    unfold stripAll at hstrip
    rcases hattempt : e.stripUnit unit s with ⟨failure | control, session⟩
    · simp [hattempt] at hstrip
    · simp only [hattempt] at hstrip
      have hstripped : session.Audited := h.attempt (a := .strip unit) rfl hattempt
      exact ih hstripped hstrip

theorem audited_runWithin (h : r.session.Audited) {fuel : Nat} {report : Report}
    (hrun : runWithin e strategy settings fuel r = some (.ok report, after)) :
    after.session.Audited := by
  obtain ⟨prepared, cleaned, last, final, laid, session, hprepare, hclean, honward, hends, hlaid,
    hstrip, rfl, -⟩ := runWithin_eq_ok hrun
  have hprepared := audited_prepare h hprepare
  have hcleaned := audited_cleanup (r := prepared.record .start) hprepared hclean
  have hfinal := audited_ends (audited_onward hcleaned honward) hends
  exact (audited_stripAll (audited_cleanup hfinal hlaid) hstrip).rollback

/-- A report has the counts of the session. -/
theorem stats_report {initial : Metrics} {report : Report}
    (h : r.report e strategy initial = .ok report) :
    report.stats = { r.session.stats with
      initial, minimized := r.session.metrics, passes := r.passes,
      cleanupPasses := r.cleanupPasses } := by
  unfold Run.report at h
  split at h
  · cases h
  · split at h
    · cases h
    · cases h
      rfl

end Run

/-- A session that is loaded has counted nothing. -/
theorem Engine.balanced_load {e : Engine σ} {settings : Settings} {mappings : List FileMapping}
    {files loaded : Files} {s : Session σ} (h : e.load settings mappings files = (.ok s, loaded)) :
    s.Balanced 0 0 ∧ s.journal = [] := by
  obtain ⟨hstats, hjournal, hgeneration⟩ := Engine.load_fresh h
  refine ⟨⟨?_, Nat.zero_le _, ?_, ?_⟩, hjournal⟩
  · rw [hstats]
    rfl
  · rw [hgeneration, hstats]
  · simp [hstats]

/-- Where no operation ended with an error, every check came to a commit or a refusal, and all
commits but those by force had a check. So the rate of success that a run without force reports is a
share of its checks. -/
theorem accounts_balance (e : Engine σ) (settings : Settings) (mappings : List FileMapping)
    (files loaded : Files) (s : Session σ)
    (hload : e.load settings mappings files = (.ok s, loaded)) :
    (∀ ops, e.succeeds s ops = true →
      let after := e.operateAll s ops
      let forced := ops.countP Operation.forces
      forced ≤ after.stats.commits ∧
        after.stats.checks = (after.stats.commits - forced) + after.stats.invariantRejections +
          after.stats.parseRejections + after.stats.timeouts ∧
        after.forest.generation = after.stats.commits ∧
        (after.stats.forcedExit = true ↔ ∃ nodes, .attempt (.force nodes) ∈ ops)) ∧
      ∀ (strategy : Strategy τ) fuel report r,
        Run.runWithin e strategy settings fuel { session := s, state := strategy.start } =
            some (.ok report, r) →
          (∀ event ∈ r.session.events, event.isFault = false) →
          let forced := r.session.events.countP Event.isForced
          forced ≤ report.stats.commits ∧
            report.stats.checks = (report.stats.commits - forced) +
              report.stats.invariantRejections + report.stats.parseRejections +
              report.stats.timeouts ∧
            r.session.forest.generation = report.stats.commits ∧
            (report.stats.forcedExit = true ↔ ∃ event ∈ r.session.events, event.isForced = true) ∧
            (report.stats.forcedExit = false →
              report.stats.successRate =
                if report.stats.checks = 0 then 0.0
                else Stats.toDouble report.stats.commits / Stats.toDouble report.stats.checks) := by
  obtain ⟨hbalanced, hjournal⟩ := Engine.balanced_load hload
  constructor
  · intro ops hops after forced
    have hafter : after.Balanced forced 0 := by
      have hall := Engine.balanced_operateAll hbalanced hops
      rw [Nat.zero_add] at hall
      exact hall
    refine ⟨hafter.forced_le, hafter.checks_eq, hafter.generation, hafter.forcedExit.trans ?_⟩
    rw [List.countP_pos_iff]
    constructor
    · rintro ⟨op, hop, hforces⟩
      obtain ⟨nodes, rfl⟩ := Operation.forces_iff.1 hforces
      exact ⟨nodes, hop⟩
    · rintro ⟨nodes, hop⟩
      exact ⟨_, hop, rfl⟩
  · intro strategy fuel report r hrun hclean forced
    have hstart : s.Audited := by
      intro _
      rw [hjournal]
      exact hbalanced
    have hsame : r.session.journal.countP Event.isForced = forced := by
      simp [forced, Session.events]
    have hfinal := Run.audited_runWithin hstart hrun fun event hevent =>
      hclean event (List.mem_reverse.2 hevent)
    rw [hsame] at hfinal
    obtain ⟨_, _, _, _, _, _, _, _, _, _, _, _, _, hreport⟩ := Run.runWithin_eq_ok hrun
    rw [Run.stats_report hreport]
    refine ⟨hfinal.forced_le, hfinal.checks_eq, hfinal.generation,
      hfinal.forcedExit.trans List.countP_pos_iff, ?_⟩
    intro hnone
    have hzero : forced = 0 := by
      by_contra hne
      exact absurd (hfinal.forcedExit.2 (Nat.pos_of_ne_zero hne)) (ne_true_of_eq_false hnone)
    have htotal :
        r.session.stats.commits + r.session.stats.rejections = r.session.stats.checks := by
      have hchecks := hfinal.checks
      omega
    exact congrArg (fun total => if total = 0 then 0.0 else
      Stats.toDouble r.session.stats.commits / Stats.toDouble total) htotal

/-- A removal that is refused, one that finds nothing, and one by force. -/
def mixedOperations : List Operation :=
  [.attempt (.remove (.ofList [⟨0, 0, 1⟩, ⟨0, 1, 1⟩])), .attempt (.remove (.ofList [⟨3, 0, 1⟩])),
    .rollback, .attempt (.force (.ofList [⟨0, 1, 1⟩]))]

/-- A strategy that tries to remove everything before its first pass and then stops. -/
def hasty : Script :=
  { prepare := [⟨.remove [⟨.current, 0, 1⟩, ⟨.current, 1, 1⟩], true⟩]
    passes := [[⟨.finish .stop, true⟩]] }

/-- The counts after the operations, and the rate of success of a run whose first removal is
refused. -/
theorem accounts_balance_clinging :
    let after := clinging.operateAll (twoUnits []) mixedOperations
    (after.stats.checks = (after.stats.commits - 1) + after.stats.invariantRejections +
        after.stats.parseRejections + after.stats.timeouts ∧ after.stats.forcedExit = true) ∧
      ∃ report r, Run.start clinging hasty.strategy {} (twoUnits []) = some (.ok report, r) ∧
        report.stats.successRate =
          if report.stats.checks = 0 then 0.0
          else Stats.toDouble report.stats.commits / Stats.toDouble report.stats.checks := by
  intro after
  have hload : clinging.load {} [⟨"a", "a.min"⟩, ⟨"b", "b.min"⟩] (twoTexts []) =
      (.ok (twoUnits []), (twoUnits []).files) := rfl
  obtain ⟨hoperations, hruns⟩ := accounts_balance clinging {} _ _ _ _ hload
  constructor
  · obtain ⟨-, hchecks, -, hforced⟩ := hoperations mixedOperations (by decide +kernel)
    exact ⟨hchecks, hforced.2 ⟨.ofList [⟨0, 1, 1⟩], by simp [mixedOperations]⟩⟩
  · have hends : ((Run.start clinging hasty.strategy {} (twoUnits [])).map fun result =>
        (result.1.toOption.map fun report => report.stats.forcedExit,
          result.2.session.events.all fun event => !event.isFault)) = some (some false, true) := by
      decide +kernel
    obtain ⟨⟨outcome, r⟩, hrun, hend⟩ := Option.map_eq_some_iff.1 hends
    obtain ⟨hreport, hclean⟩ := Prod.mk.inj hend
    cases outcome with
    | error failure => cases hreport
    | ok report =>
      refine ⟨report, r, hrun, ?_⟩
      obtain ⟨-, -, -, -, hrate⟩ := hruns hasty.strategy _ report r hrun (by simpa using hclean)
      exact hrate (Option.some.inj hreport)

end SourceReducer
