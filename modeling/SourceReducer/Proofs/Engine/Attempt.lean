import Mathlib.Tactic.Common
import SourceReducer.Engine.Session

/-! Attempts to change a session: removing nodes, laying the texts out anew, leaving blank lines
out, and removing nodes by force. Each of them proposes scratch texts; what can happen to a proposal
is said here once. -/
namespace SourceReducer

variable {σ : Type}

inductive Attempt
  | remove (nodes : RefSet)
  | cleanup
  /-- One unit without its blank lines. -/
  | strip (unit : Nat)
  | force (nodes : RefSet)

/-- Whether the invariant decides. -/
def Attempt.isChecked : Attempt → Bool
  | .force _ => false
  | _ => true

namespace WorkingCopy

/-- Giving a trial up makes the committed text the scratch text, which it is without a trial
already. -/
theorem rollback_eq (c : WorkingCopy) :
    c.rollback =
      { c with scratch := c.committed, onTrial := false, settled := fun _ => rfl } := by
  unfold rollback
  split
  · rfl
  · next htrial =>
    have hclean : c.onTrial = false := eq_false_of_ne_true htrial
    obtain ⟨unit, path, suffix, committed, tree, scratch, onTrial, settled⟩ := c
    obtain rfl : onTrial = false := hclean
    obtain rfl : scratch = committed := settled rfl
    rfl

@[simp] theorem unit_rollback (c : WorkingCopy) : c.rollback.unit = c.unit := by
  rw [rollback_eq]

@[simp] theorem path_rollback (c : WorkingCopy) : c.rollback.path = c.path := by
  rw [rollback_eq]

@[simp] theorem suffix_rollback (c : WorkingCopy) : c.rollback.suffix = c.suffix := by
  rw [rollback_eq]

@[simp] theorem committed_rollback (c : WorkingCopy) : c.rollback.committed = c.committed := by
  rw [rollback_eq]

@[simp] theorem tree_rollback (c : WorkingCopy) : c.rollback.tree = c.tree := by
  rw [rollback_eq]

@[simp] theorem scratch_rollback (c : WorkingCopy) : c.rollback.scratch = c.committed := by
  rw [rollback_eq]

@[simp] theorem onTrial_rollback (c : WorkingCopy) : c.rollback.onTrial = false := by
  rw [rollback_eq]

@[simp] theorem stagedPath_rollback (c : WorkingCopy) : c.rollback.stagedPath = c.stagedPath := by
  rw [rollback_eq]
  rfl

@[simp] theorem rollback_rollback (c : WorkingCopy) : c.rollback.rollback = c.rollback := by
  rw [c.rollback.rollback_eq, c.rollback_eq]

@[simp] theorem scratch_trying (c : WorkingCopy) (text : String) :
    (c.trying text).scratch = text := rfl

/-- What is tried does not outlast the trial. -/
@[simp] theorem rollback_trying (c : WorkingCopy) (text : String) :
    (c.trying text).rollback = c.rollback := by
  rw [rollback_eq, rollback_eq]
  rfl

end WorkingCopy

/-- Whether two sessions have the same committed texts and trees, the same forest and the same
number of commits. -/
structure Session.SameCommitted (s t : Session σ) : Prop where
  copies : t.copies.map WorkingCopy.rollback = s.copies.map WorkingCopy.rollback
  forest : t.forest = s.forest
  commits : t.stats.commits = s.stats.commits
  forcedExit : t.stats.forcedExit = s.stats.forcedExit

theorem Session.SameCommitted.trans {s t u : Session σ} (h : s.SameCommitted t)
    (h' : t.SameCommitted u) : s.SameCommitted u :=
  ⟨h'.copies.trans h.copies, h'.forest.trans h.forest, h'.commits.trans h.commits,
    h'.forcedExit.trans h.forcedExit⟩

theorem Session.sameCommitted_rollback (s : Session σ) : s.SameCommitted s.rollback :=
  ⟨by simp [Session.rollback, Function.comp_def], rfl, rfl, rfl⟩

theorem Session.sameCommitted_note (s : Session σ) (event : Event) :
    s.SameCommitted (s.note event) :=
  ⟨rfl, rfl, rfl, rfl⟩

theorem committed_of_sameCommitted {s t : Session σ} (h : s.SameCommitted t) :
    t.copies.map WorkingCopy.committed = s.copies.map WorkingCopy.committed := by
  have htexts := congrArg (List.map WorkingCopy.committed) h.copies
  simpa [Function.comp_def] using htexts

theorem Session.SameCommitted.length {s t : Session σ} (h : s.SameCommitted t) :
    t.copies.length = s.copies.length := by
  simpa using congrArg List.length h.copies

/-! Trees of scratch texts. -/

theorem parseAll_eq_ok {language : Language} {copies : List WorkingCopy} {trees : List Tree}
    (h : parseAll language copies = .ok trees) :
    trees.map some = copies.map (fun c => (c.parseScratch language).toOption) ∧
      ∀ c ∈ copies, (c.parseScratch language).isOk = true := by
  induction copies generalizing trees with
  | nil =>
    simp only [parseAll, Except.ok.injEq] at h
    subst h
    simp
  | cons c copies ih =>
    unfold parseAll at h
    cases hparse : c.parseScratch language with
    | error error => simp [hparse] at h
    | ok tree =>
      cases hrest : parseAll language copies with
      | error reason => simp [hparse, hrest, Except.map] at h
      | ok others =>
        simp only [hparse, hrest, Except.map, Except.ok.injEq] at h
        subst h
        obtain ⟨htrees, hok⟩ := ih hrest
        refine ⟨by simp [htrees, hparse, Except.toOption], ?_⟩
        simp only [List.forall_mem_cons, hparse]
        exact ⟨rfl, hok⟩

/-- The reason for which texts are refused names a unit whose text does not parse, and why it does
not. -/
theorem parseAll_reason {language : Language} {copies : List WorkingCopy} {reason : Rejection}
    (h : parseAll language copies = .error reason) :
    ∃ c ∈ copies, ∃ error, c.parseScratch language = .error error ∧
      reason = .unparseable c.unit error := by
  induction copies with
  | nil => simp [parseAll] at h
  | cons c copies ih =>
    unfold parseAll at h
    cases hparse : c.parseScratch language with
    | error error =>
      rw [hparse] at h
      cases h
      exact ⟨c, by simp, error, hparse, rfl⟩
    | ok tree =>
      cases hrest : parseAll language copies with
      | error reason' =>
        obtain ⟨d, hd, error, hfails, hreason⟩ := ih (by simpa [hparse, hrest, Except.map] using h)
        exact ⟨d, by simp [hd], error, hfails, hreason⟩
      | ok others => simp [hparse, hrest, Except.map] at h

theorem parseAll_eq_error {language : Language} {copies : List WorkingCopy} {reason : Rejection}
    (h : parseAll language copies = .error reason) :
    ∃ c ∈ copies, (c.parseScratch language).isOk = false := by
  obtain ⟨c, hc, error, hfails, -⟩ := parseAll_reason h
  exact ⟨c, hc, by rw [hfails]; rfl⟩

/-- Whether texts satisfy a predicate and all of them parse. -/
def Accepted (language : Language) (P : List String → Bool) (texts : List String) : Prop :=
  P texts = true ∧ ∀ text ∈ texts, (language.parse text).isOk = true

/-! Texts without some nodes. -/

/-- The committed text without some nodes; the text itself if there are none. -/
def WorkingCopy.cut (language : Language) (c : WorkingCopy) (indices : List Nat) : String :=
  if indices.isEmpty then c.committed else language.excise c.committed c.tree indices

/-- The committed texts from which nodes of each unit are cut out. -/
def cutTexts (language : Language) (copies : List WorkingCopy) (perUnit : List (List Nat)) :
    List String :=
  copies.zipWith (WorkingCopy.cut language) perUnit

theorem WorkingCopy.cut_rollback (language : Language) (c : WorkingCopy) (indices : List Nat) :
    c.rollback.cut language indices = c.cut language indices := by
  simp [cut]

theorem Session.SameCommitted.cutTexts_eq {s t : Session σ} (h : s.SameCommitted t)
    (language : Language) (perUnit : List (List Nat)) :
    cutTexts language t.copies perUnit = cutTexts language s.copies perUnit := by
  have hback (copies : List WorkingCopy) :
      cutTexts language (copies.map WorkingCopy.rollback) perUnit =
        cutTexts language copies perUnit := by
    simp only [cutTexts, List.zipWith_map_left, WorkingCopy.cut_rollback]
  rw [← hback, h.copies, hback]

namespace Engine

def attempt (e : Engine σ) : Attempt → Session σ → Outcome σ Control
  | .remove nodes, s => e.tryRemove nodes s
  | .cleanup, s => e.cleanup s
  | .strip unit, s => e.stripUnit unit s
  | .force nodes, s => e.forceRemove nodes s

/-- The session with the scratch texts that an attempt wants to commit. -/
def proposal (e : Engine σ) : Attempt → Session σ → Session σ
  | .remove nodes, s =>
      { countUnknown s.rollback nodes with
        copies := s.rollback.copies.zipWith
          (fun copy indices => if indices.isEmpty then copy else copy.excise e.language indices)
          (s.forest.partition nodes).perUnit }
  | .cleanup, s =>
      { s.rollback with copies := s.rollback.copies.map (WorkingCopy.reformat e.language) }
  | .strip unit, s =>
      { s.rollback with copies := s.rollback.copies.modify unit (WorkingCopy.strip e.language) }
  | .force nodes, s =>
      { countUnknown s.rollback nodes with
        copies := s.rollback.copies.zipWith (fun copy indices => copy.excise e.language indices)
          (s.forest.partition nodes).perUnit }

/-- The committed texts without the nodes of a set that are in the forest. -/
def textsWithout (e : Engine σ) (nodes : RefSet) (s : Session σ) : List String :=
  cutTexts e.language s.copies (s.forest.partition nodes).perUnit

theorem texts_proposal_remove (e : Engine σ) (nodes : RefSet) (s : Session σ) :
    (e.proposal (.remove nodes) s).texts = e.textsWithout nodes s := by
  simp only [Session.texts, proposal, Session.rollback, textsWithout, cutTexts, List.map_zipWith,
    List.zipWith_map_left]
  congr 1
  funext c indices
  unfold WorkingCopy.cut WorkingCopy.excise
  split
  · exact c.scratch_rollback
  · rw [WorkingCopy.scratch_trying, c.committed_rollback, c.tree_rollback]

theorem textsWithout_of_sameCommitted {e : Engine σ} {s t : Session σ} (nodes : RefSet)
    (h : s.SameCommitted t) : e.textsWithout nodes t = e.textsWithout nodes s := by
  rw [textsWithout, textsWithout, h.cutTexts_eq, h.forest]

theorem map_zipWith_of_left {α β γ : Type} {f : α → β → α} {g : α → γ}
    (hfg : ∀ a b, g (f a b) = g a) (as : List α) (bs : List β) (h : bs.length = as.length) :
    (as.zipWith f bs).map g = as.map g := by
  induction as generalizing bs with
  | nil => simp
  | cons a as ih =>
    cases bs with
    | nil => simp at h
    | cons b bs => simp [hfg, ih bs (by simpa using h)]

theorem length_perUnit (f : Forest) (nodes : RefSet) :
    (f.partition nodes).perUnit.length = f.unitCount := by
  simp [Forest.partition]

theorem map_modify_of_eq {α γ : Type} {f : α → α} {g : α → γ} (hfg : ∀ a, g (f a) = g a)
    (as : List α) (i : Nat) : (as.modify i f).map g = as.map g := by
  induction as generalizing i with
  | nil => simp
  | cons a as ih => cases i <;> simp [hfg, ih]

/-- A proposal changes no committed text. -/
theorem sameCommitted_proposal (e : Engine σ) (a : Attempt) {s : Session σ}
    (hunits : s.forest.unitCount = s.copies.length) : s.SameCommitted (e.proposal a s) := by
  have hback : s.rollback.copies.map WorkingCopy.rollback = s.copies.map WorkingCopy.rollback :=
    s.sameCommitted_rollback.copies
  have hlength (nodes : RefSet) :
      (s.forest.partition nodes).perUnit.length = s.rollback.copies.length := by
    simp [length_perUnit, hunits, Session.rollback]
  cases a with
  | remove nodes =>
    refine ⟨Eq.trans (map_zipWith_of_left ?_ _ _ (hlength nodes)) hback, rfl, rfl, rfl⟩
    intro copy indices
    split
    · rfl
    · exact copy.rollback_trying _
  | cleanup =>
    refine ⟨?_, rfl, rfl, rfl⟩
    rw [← hback, proposal, List.map_map]
    exact List.map_congr_left fun copy _ => copy.rollback_trying _
  | strip unit =>
    refine ⟨Eq.trans (map_modify_of_eq ?_ _ _) hback, rfl, rfl, rfl⟩
    intro copy
    exact copy.rollback_trying _
  | force nodes =>
    refine ⟨Eq.trans (map_zipWith_of_left ?_ _ _ (hlength nodes)) hback, rfl, rfl, rfl⟩
    intro copy indices
    exact copy.rollback_trying _

theorem length_proposal (e : Engine σ) (a : Attempt) {s : Session σ}
    (hunits : s.forest.unitCount = s.copies.length) :
    (e.proposal a s).copies.length = s.copies.length := by
  simpa using congrArg List.length (e.sameCommitted_proposal a hunits).copies

theorem files_proposal (e : Engine σ) (a : Attempt) (s : Session σ) :
    (e.proposal a s).files = s.files := by
  cases a <;> rfl

/-- The files that an attempt finds when it stages: those that the check left, where there is
one. -/
def filesSeen (e : Engine σ) (a : Attempt) (s : Session σ) : Files :=
  match a with
  | .force _ => s.files
  | .remove nodes =>
      if (s.forest.partition nodes).matched = 0 then s.files
      else (e.check (e.proposal a s)).2.files
  | _ => (e.check (e.proposal a s)).2.files

/-! What can happen to a proposal. -/

theorem sameCommitted_check (e : Engine σ) (s : Session σ) : s.SameCommitted (e.check s).2 :=
  ⟨rfl, rfl, rfl, rfl⟩

theorem sameCommitted_reject (s : Session σ) (reason : Rejection) :
    s.SameCommitted (s.reject reason).2 := by
  refine ⟨rfl, rfl, ?_, ?_⟩ <;> cases reason <;> rfl

/-- The session after the scratch texts were promoted. -/
def installed (s : Session σ) (copies : List WorkingCopy) (files : Files) : Session σ :=
  let replaced := { s with copies, files }.replaceForest
  { replaced with stats := { replaced.stats with commits := replaced.stats.commits + 1 } }

theorem install_of_error {s : Session σ} {trees : List (Option Tree)} {failure : Failure}
    {files : Files} (h : stageAll s.copies s.files = (.error failure, files)) :
    install s trees = (.error failure, { s with files }) := by
  simp only [install, h]

theorem install_of_ok {s : Session σ} {trees : List (Option Tree)} {staged : List Staged}
    {written files : Files} {copies : List WorkingCopy}
    (h : stageAll s.copies s.files = (.ok staged, written))
    (h' : promoteAll s.copies staged trees written = (.ok (), copies, files)) :
    install s trees = (.ok (), installed s copies files) := by
  simp only [install, h, h', installed]

/-- Installing changes only working copies and files, unless it goes through. -/
theorem install_eq (s : Session σ) (trees : List (Option Tree)) :
    (∃ failure copies files, install s trees = (.error failure, { s with copies, files })) ∨
      ∃ copies files, install s trees = (.ok (), installed s copies files) := by
  rcases hstage : stageAll s.copies s.files with ⟨failure | staged, written⟩
  · exact .inl ⟨failure, s.copies, written, install_of_error hstage⟩
  · rcases hpromote : promoteAll s.copies staged trees written with ⟨failure | _, copies, files⟩
    · refine .inl ⟨failure, copies, files, ?_⟩
      simp only [install, hstage, hpromote]
    · exact .inr ⟨copies, files, install_of_ok hstage hpromote⟩

/-- What a checked proposal comes to: the check fails, something is refused because it does not hold
or does not parse, or the texts, which hold and parse, are installed. -/
theorem attemptCommit_cases (e : Engine σ) (p : Session σ) :
    (∃ failure, (e.check p).1 = .error failure ∧
      e.attemptCommit p = (.error failure, (e.check p).2)) ∨
    (∃ reason, ((e.check p).1 = .ok .holds →
        ∃ c ∈ p.copies, (c.parseScratch e.language).isOk = false) ∧
      e.attemptCommit p = (e.check p).2.reject reason) ∨
    ∃ trees, (e.check p).1 = .ok .holds ∧ parseAll e.language p.copies = .ok trees ∧
      e.attemptCommit p =
        ((install (e.check p).2 (trees.map some)).1.map fun _ => .proceed,
          (install (e.check p).2 (trees.map some)).2) := by
  unfold attemptCommit
  have hsame : (e.check p).2.copies = p.copies := rfl
  rcases hcheck : e.check p with ⟨outcome, checked⟩
  have hcopies : checked.copies = p.copies := by simpa only [hcheck] using hsame
  cases outcome with
  | error failure => exact .inl ⟨failure, rfl, rfl⟩
  | ok verdict =>
    cases verdict with
    | timedOut => exact .inr (.inl ⟨_, by simp, rfl⟩)
    | refused => exact .inr (.inl ⟨_, by simp, rfl⟩)
    | holds =>
      cases hparse : parseAll e.language p.copies with
      | error reason =>
        refine .inr (.inl ⟨reason, fun _ => parseAll_eq_error hparse, ?_⟩)
        simp only [hcopies, hparse]
      | ok trees =>
        refine .inr (.inr ⟨trees, rfl, rfl, ?_⟩)
        simp only [hcopies, hparse]
        rcases install checked (trees.map some) with ⟨_ | _, installed⟩ <;> rfl

/-- What an attempt comes to. -/
theorem attempt_cases (e : Engine σ) (a : Attempt) (s : Session σ) :
    (∃ nodes, a = .remove nodes ∧ (s.forest.partition nodes).matched = 0 ∧
      e.attempt a s = (.ok (.failed .nothingToRemove), countUnknown s.rollback nodes)) ∨
    (a.isChecked = true ∧ e.filesSeen a s = (e.check (e.proposal a s)).2.files ∧
      e.attempt a s = e.attemptCommit (e.proposal a s)) ∨
    ∃ nodes, a = .force nodes ∧
      e.attempt a s =
        match install (e.proposal a s)
          ((e.proposal a s).copies.map fun copy => (copy.parseScratch e.language).toOption) with
        | (.error failure, failed) => (.error failure, failed)
        | (.ok _, installed) =>
            (.ok .stop,
              { installed with stats := { installed.stats with forcedExit := true } }) := by
  cases a with
  | remove nodes =>
    by_cases hmatched : (s.forest.partition nodes).matched = 0
    · refine .inl ⟨nodes, rfl, hmatched, ?_⟩
      simp only [attempt, tryRemove, hmatched, if_true]
    · refine .inr (.inl ⟨rfl, ?_, ?_⟩)
      · simp only [filesSeen, hmatched, if_false]
      · simp only [attempt, tryRemove, hmatched, if_false]
        rfl
  | cleanup => exact .inr (.inl ⟨rfl, rfl, rfl⟩)
  | strip unit => exact .inr (.inl ⟨rfl, rfl, rfl⟩)
  | force nodes => exact .inr (.inr ⟨nodes, rfl, rfl⟩)

end Engine

end SourceReducer
