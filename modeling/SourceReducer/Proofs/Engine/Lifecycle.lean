import Mathlib.Data.List.Induction
import SourceReducer.Proofs.Engine.Refusal

/-! The life of one working copy. Whatever is done with a working copy after it was loaded, and
whatever happens to the files meanwhile, its scratch text is the committed text or the last trial
made from it, and only a staged text that is moved into place changes what is committed. -/
namespace SourceReducer

/-- A text that is made from the committed one. -/
inductive Trial
  | excise (indices : List Nat)
  | reformat
  | strip

/-- The text to try instead of a committed one. -/
def Trial.text (language : Language) (committed : String) (tree : Tree) : Trial → String
  | .excise indices => language.excise committed tree indices
  | .reformat => language.reformat committed
  | .strip => language.stripBlank committed

def WorkingCopy.attempt (language : Language) (c : WorkingCopy) : Trial → WorkingCopy
  | .excise indices => c.excise language indices
  | .reformat => c.reformat language
  | .strip => c.strip language

/-- What can be done with a working copy. A staged text is named by its place among those that are
neither discarded nor promoted yet. -/
inductive Handling
  | attempt (trial : Trial)
  | rollback
  | parse
  | stage
  | discard (place : Nat)
  | promote (place : Nat) (tree? : Option Tree)
  | commit (tree : Tree)
  /-- Something else changes the files. -/
  | outside (change : Files → Files)

inductive Reply
  | done
  | parsed (result : Except ParseError Tree)
  | failed (failure : Failure)
  | nothingStaged

def Reply.isDone : Reply → Bool
  | .done => true
  | _ => false

/-- A working copy with the files and the texts that are staged. -/
structure Bench where
  copy : WorkingCopy
  files : Files
  staged : List Staged := []

namespace Handling

def trial? : Handling → Option Trial
  | .attempt trial => some trial
  | _ => none

/-- The tree that comes with a text which is to be committed. -/
def installs? : Handling → Option (Option Tree)
  | .promote _ tree? => some tree?
  | .commit tree => some (some tree)
  | _ => none

end Handling

namespace Bench

def stage (b : Bench) : Reply × Bench :=
  match b.copy.stage b.files with
  | .error failure => (.failed failure, { b with files := b.copy.unstaged b.files })
  | .ok (staged, files) => (.done, { b with files, staged := staged :: b.staged })

def discard (b : Bench) (place : Nat) : Reply × Bench :=
  match b.staged[place]? with
  | none => (.nothingStaged, b)
  | some staged =>
      (.done, { b with files := staged.discard b.files, staged := b.staged.eraseIdx place })

/-- A staged text is used up whether it can be promoted or not. -/
def promote (b : Bench) (place : Nat) (tree? : Option Tree) : Reply × Bench :=
  match b.staged[place]? with
  | none => (.nothingStaged, b)
  | some staged =>
      let rest := b.staged.eraseIdx place
      match b.copy.promote b.files staged tree? with
      | .error failure =>
          (.failed failure, { b with files := staged.unmoved b.files, staged := rest })
      | .ok (copy, files) => (.done, { copy, files, staged := rest })

def commit (b : Bench) (tree : Tree) : Reply × Bench :=
  match b.copy.commit b.files tree with
  | (.error failure, files) => (.failed failure, { b with files })
  | (.ok copy, files) => (.done, { b with copy, files })

def handle (language : Language) (b : Bench) : Handling → Reply × Bench
  | .attempt trial => (.done, { b with copy := b.copy.attempt language trial })
  | .rollback => (.done, { b with copy := b.copy.rollback })
  | .parse => (.parsed (b.copy.parseScratch language), b)
  | .stage => b.stage
  | .discard place => b.discard place
  | .promote place tree? => b.promote place tree?
  | .commit tree => b.commit tree
  | .outside change => (.done, { b with files := change b.files })

def handleAll (language : Language) (b : Bench) (handlings : List Handling) : Bench :=
  handlings.foldl (fun b h => (b.handle language h).2) b

/-- The text that a step is to commit, which is the scratch text at that time, and its tree. -/
def installed? (language : Language) (b : Bench) (h : Handling) : Option (String × Tree) :=
  if (b.handle language h).1.isDone then
    h.installs?.map fun tree? => (b.copy.scratch, tree?.getD b.copy.tree)
  else none

/-- The texts that are committed one after the other, with their trees. -/
def installs (language : Language) : Bench → List Handling → List (String × Tree)
  | _, [] => []
  | b, h :: handlings =>
      (b.installed? language h).toList ++ installs language (b.handle language h).2 handlings

end Bench

namespace WorkingCopy

variable {language : Language}

theorem attempt_eq (c : WorkingCopy) (trial : Trial) :
    c.attempt language trial = c.trying (trial.text language c.committed c.tree) := by
  cases trial <;> rfl

theorem promote_cases (c : WorkingCopy) (f : Files) (staged : Staged) (tree? : Option Tree) :
    (∃ failure, c.promote f staged tree? = .error failure) ∨
      ∃ g, c.promote f staged tree? = .ok (c.promoted tree?, g) := by
  rcases hrename : f.riskRename staged.path staged.target with ⟨fault | _, g⟩
  · exact .inl ⟨.file staged.target fault, (promote_eq_error c staged tree? hrename).1⟩
  · exact .inr ⟨g, promote_eq_ok tree? hrename⟩

theorem commit_cases (c : WorkingCopy) (f : Files) (tree : Tree) :
    (∃ failure g, c.commit f tree = (.error failure, g)) ∨
      ∃ g, c.commit f tree = (.ok (c.promoted (some tree)), g) := by
  unfold commit
  rcases c.stage f with failure | ⟨staged, written⟩
  · exact .inl ⟨_, _, rfl⟩
  · rcases c.promote_cases written staged (some tree) with ⟨failure, hpromote⟩ | ⟨g, hpromote⟩
    · exact .inl ⟨failure, staged.unmoved written, by simp [hpromote]⟩
    · exact .inr ⟨g, by simp [hpromote]⟩

end WorkingCopy

/-! What one step does. -/

namespace Bench

variable {language : Language}

theorem copy_stage (b : Bench) : b.stage.2.copy = b.copy := by
  unfold stage
  generalize b.copy.stage b.files = result
  rcases result with failure | ⟨staged, files⟩ <;> rfl

theorem copy_discard (b : Bench) (place : Nat) : (b.discard place).2.copy = b.copy := by
  unfold discard
  cases b.staged[place]? <;> rfl

/-- A promotion installs the scratch text or leaves the working copy as it is. -/
theorem promote_cases (b : Bench) (place : Nat) (tree? : Option Tree) :
    ((b.promote place tree?).1 = .done ∧ (b.promote place tree?).2.copy = b.copy.promoted tree?) ∨
      (b.promote place tree?).1.isDone = false ∧ (b.promote place tree?).2.copy = b.copy := by
  unfold promote
  cases b.staged[place]? with
  | none => exact .inr ⟨rfl, rfl⟩
  | some staged =>
    rcases b.copy.promote_cases b.files staged tree? with ⟨failure, hpromote⟩ | ⟨files, hpromote⟩
    · right
      simp [hpromote, Reply.isDone]
    · left
      simp [hpromote]

theorem commit_cases (b : Bench) (tree : Tree) :
    ((b.commit tree).1 = .done ∧ (b.commit tree).2.copy = b.copy.promoted (some tree)) ∨
      (b.commit tree).1.isDone = false ∧ (b.commit tree).2.copy = b.copy := by
  unfold commit
  rcases b.copy.commit_cases b.files tree with ⟨failure, files, hcommit⟩ | ⟨files, hcommit⟩
  · rw [hcommit]
    exact .inr ⟨rfl, rfl⟩
  · rw [hcommit]
    exact .inl ⟨rfl, rfl⟩

/-- The working copy after a step: a trial, a rollback, a text that is committed, or no change. -/
theorem handle_cases (language : Language) (b : Bench) (h : Handling) :
    (∃ trial, h = .attempt trial ∧
        (b.handle language h).2.copy = b.copy.attempt language trial) ∨
      (h = .rollback ∧ (b.handle language h).2.copy = b.copy.rollback) ∨
      (∃ tree?, h.installs? = some tree? ∧ (b.handle language h).1 = .done ∧
        (b.handle language h).2.copy = b.copy.promoted tree?) ∨
      h.trial? = none ∧ (h.installs? = none ∨ (b.handle language h).1.isDone = false) ∧
        (b.handle language h).2.copy = b.copy := by
  cases h with
  | attempt trial => exact .inl ⟨trial, rfl, rfl⟩
  | rollback => exact .inr (.inl ⟨rfl, rfl⟩)
  | parse => exact .inr (.inr (.inr ⟨rfl, .inl rfl, rfl⟩))
  | outside change => exact .inr (.inr (.inr ⟨rfl, .inl rfl, rfl⟩))
  | stage => exact .inr (.inr (.inr ⟨rfl, .inl rfl, b.copy_stage⟩))
  | discard place => exact .inr (.inr (.inr ⟨rfl, .inl rfl, b.copy_discard place⟩))
  | promote place tree? =>
    rcases b.promote_cases place tree? with ⟨hdone, hcopy⟩ | ⟨hfailed, hcopy⟩
    · exact .inr (.inr (.inl ⟨tree?, rfl, hdone, hcopy⟩))
    · exact .inr (.inr (.inr ⟨rfl, .inr hfailed, hcopy⟩))
  | commit tree =>
    rcases b.commit_cases tree with ⟨hdone, hcopy⟩ | ⟨hfailed, hcopy⟩
    · exact .inr (.inr (.inl ⟨some tree, rfl, hdone, hcopy⟩))
    · exact .inr (.inr (.inr ⟨rfl, .inr hfailed, hcopy⟩))

theorem copy_of_failed {b : Bench} {h : Handling} {failure : Failure}
    (hfailed : (b.handle language h).1 = .failed failure) :
    (b.handle language h).2.copy = b.copy := by
  rcases handle_cases language b h with ⟨trial, rfl, -⟩ | ⟨rfl, -⟩ | ⟨tree?, -, hdone, -⟩ |
    ⟨-, -, hcopy⟩
  · cases hfailed
  · cases hfailed
  · rw [hdone] at hfailed
    cases hfailed
  · exact hcopy

theorem copy_of_installs {b : Bench} {h : Handling} {tree? : Option Tree}
    (hinstalls : h.installs? = some tree?) (hdone : (b.handle language h).1.isDone = true) :
    (b.handle language h).2.copy = b.copy.promoted tree? := by
  rcases handle_cases language b h with ⟨trial, rfl, -⟩ | ⟨rfl, -⟩ | ⟨given?, hgiven, -, hcopy⟩ |
    ⟨-, hnone | hfailed, -⟩
  · cases hinstalls
  · cases hinstalls
  · rw [hgiven, Option.some.injEq] at hinstalls
    rw [← hinstalls]
    exact hcopy
  · rw [hnone] at hinstalls
    cases hinstalls
  · exact absurd hdone (ne_true_of_eq_false hfailed)

/-- Parsing, staging and discarding leave the working copy alone, and so does what happens
outside. -/
theorem copy_of_idle {b : Bench} {h : Handling} (htrial : h.trial? = none) (hback : h ≠ .rollback)
    (hinstalls : h.installs? = none) : (b.handle language h).2.copy = b.copy := by
  rcases handle_cases language b h with ⟨trial, rfl, -⟩ | ⟨hrollback, -⟩ | ⟨tree?, hgiven, -⟩ |
    ⟨-, -, hcopy⟩
  · cases htrial
  · exact absurd hrollback hback
  · rw [hinstalls] at hgiven
    cases hgiven
  · exact hcopy

/-- Only a text that is moved into place changes what is committed. -/
theorem committed_handle {b : Bench} {h : Handling}
    (hkeeps : h.installs? = none ∨ (b.handle language h).1.isDone = false) :
    (b.handle language h).2.copy.committed = b.copy.committed ∧
      (b.handle language h).2.copy.tree = b.copy.tree := by
  rcases handle_cases language b h with
    ⟨trial, -, hcopy⟩ | ⟨-, hcopy⟩ | ⟨tree?, hinstalls, hdone, -⟩ | ⟨-, -, hcopy⟩
  · rw [hcopy, WorkingCopy.attempt_eq]
    exact ⟨rfl, rfl⟩
  · rw [hcopy]
    exact ⟨b.copy.committed_rollback, b.copy.tree_rollback⟩
  · rcases hkeeps with hnone | hfailed
    · rw [hnone] at hinstalls
      cases hinstalls
    · rw [hdone] at hfailed
      cases hfailed
  · rw [hcopy]
    exact ⟨rfl, rfl⟩

/-- The place of a working copy never changes. -/
theorem place_handle (language : Language) (b : Bench) (h : Handling) :
    (b.handle language h).2.copy.unit = b.copy.unit ∧
      (b.handle language h).2.copy.path = b.copy.path ∧
      (b.handle language h).2.copy.suffix = b.copy.suffix := by
  rcases handle_cases language b h with ⟨trial, -, hcopy⟩ | ⟨-, hcopy⟩ | ⟨tree?, -, -, hcopy⟩ |
    ⟨-, -, hcopy⟩
  · rw [hcopy, WorkingCopy.attempt_eq]
    exact ⟨rfl, rfl, rfl⟩
  · rw [hcopy]
    exact ⟨b.copy.unit_rollback, b.copy.path_rollback, b.copy.suffix_rollback⟩
  · rw [hcopy]
    exact ⟨rfl, rfl, rfl⟩
  · rw [hcopy]
    exact ⟨rfl, rfl, rfl⟩

/-! What many steps do. -/

theorem handleAll_concat (b : Bench) (handlings : List Handling) (h : Handling) :
    b.handleAll language (handlings ++ [h]) =
      ((b.handleAll language handlings).handle language h).2 := by
  simp [handleAll]

/-- A trial that is pending was made from what is committed, by the last step that made one. -/
theorem trial_handleAll {b : Bench} (hclean : b.copy.onTrial = false) (handlings : List Handling)
    (hpending : (b.handleAll language handlings).copy.onTrial = true) :
    ∃ trial, (handlings.filterMap Handling.trial?).getLast? = some trial ∧
      (b.handleAll language handlings).copy.scratch =
        trial.text language (b.handleAll language handlings).copy.committed
          (b.handleAll language handlings).copy.tree := by
  -- the steps are added at the end, as it is the last trial that counts
  induction handlings using List.reverseRecOn with
  | nil =>
    rw [show (b.handleAll language []).copy.onTrial = false from hclean] at hpending
    cases hpending
  | append_singleton handlings h ih =>
    rw [handleAll_concat] at hpending ⊢
    rw [List.filterMap_append]
    generalize b.handleAll language handlings = before at ih hpending ⊢
    rcases handle_cases language before h with ⟨trial, rfl, hcopy⟩ | ⟨rfl, hcopy⟩ |
      ⟨tree?, -, -, hcopy⟩ | ⟨htrial, -, hcopy⟩
    · rw [hcopy, WorkingCopy.attempt_eq]
      exact ⟨trial, by simp [Handling.trial?], rfl⟩
    · rw [hcopy, WorkingCopy.onTrial_rollback] at hpending
      cases hpending
    · rw [hcopy] at hpending
      cases hpending
    · rw [hcopy] at hpending ⊢
      obtain ⟨trial, hlast, hmade⟩ := ih hpending
      exact ⟨trial, by simp [htrial, hlast], hmade⟩

/-- What is committed is the scratch text that was moved into place last. -/
theorem committed_handleAll (b : Bench) (handlings : List Handling) :
    ((b.handleAll language handlings).copy.committed, (b.handleAll language handlings).copy.tree) =
      (b.installs language handlings).getLastD (b.copy.committed, b.copy.tree) := by
  induction handlings generalizing b with
  | nil => rfl
  | cons h handlings ih =>
    have hrest := ih (b.handle language h).2
    show (((b.handle language h).2.handleAll language handlings).copy.committed,
      ((b.handle language h).2.handleAll language handlings).copy.tree) = _
    rw [hrest]
    cases hinstalled : b.installed? language h with
    | some installed =>
      rw [installs, hinstalled]
      unfold installed? at hinstalled
      split at hinstalled
      · next hdone =>
        obtain ⟨tree?, hinstalls, rfl⟩ := Option.map_eq_some_iff.1 hinstalled
        rw [copy_of_installs hinstalls hdone, Option.toList_some, List.singleton_append,
          List.getLastD_cons]
        rfl
      · cases hinstalled
    | none =>
      rw [installs, hinstalled]
      have hkeeps : h.installs? = none ∨ (b.handle language h).1.isDone = false := by
        unfold installed? at hinstalled
        split at hinstalled
        · exact .inl (Option.map_eq_none_iff.1 hinstalled)
        · next hfailed => exact .inr (eq_false_of_ne_true hfailed)
      rw [(committed_handle hkeeps).1, (committed_handle hkeeps).2]
      rfl

theorem place_handleAll (b : Bench) (handlings : List Handling) :
    (b.handleAll language handlings).copy.unit = b.copy.unit ∧
      (b.handleAll language handlings).copy.path = b.copy.path ∧
      (b.handleAll language handlings).copy.suffix = b.copy.suffix := by
  induction handlings generalizing b with
  | nil => exact ⟨rfl, rfl, rfl⟩
  | cons h handlings ih =>
    obtain ⟨hunit, hpath, hsuffix⟩ := ih (b.handle language h).2
    obtain ⟨hunit', hpath', hsuffix'⟩ := place_handle language b h
    exact ⟨hunit.trans hunit', hpath.trans hpath', hsuffix.trans hsuffix'⟩

end Bench

/-- Whatever is done with a working copy, its scratch text is the committed one or the last trial
made from it, and what is committed changes where a scratch text is moved into place and nowhere
else. -/
theorem working_copy_holds_last_trial (language : Language) (files : Files) (unit : Nat)
    (path suffix : String) (c : WorkingCopy)
    (hload : WorkingCopy.load language files unit path suffix = .ok c) (handlings : List Handling) :
    let b := Bench.handleAll language { copy := c, files } handlings
    (b.copy.onTrial = false → b.copy.scratch = b.copy.committed) ∧
      (b.copy.onTrial = true → ∃ trial,
        (handlings.filterMap Handling.trial?).getLast? = some trial ∧
          b.copy.scratch = trial.text language b.copy.committed b.copy.tree) ∧
      (b.copy.committed, b.copy.tree) =
        (Bench.installs language { copy := c, files } handlings).getLastD (c.committed, c.tree) ∧
      (b.copy.unit = c.unit ∧ b.copy.path = c.path ∧ b.copy.suffix = c.suffix) ∧
      ∀ h,
        let reply := (b.handle language h).1
        let after := (b.handle language h).2.copy
        (∀ trial, h = .attempt trial → after.onTrial = true ∧
          after.scratch = trial.text language b.copy.committed b.copy.tree) ∧
        (h = .rollback → after.onTrial = false ∧ after.scratch = b.copy.committed) ∧
        (after.committed ≠ b.copy.committed ∨ after.tree ≠ b.copy.tree →
          h.installs?.isSome = true ∧ reply.isDone = true) ∧
        (∀ tree?, h.installs? = some tree? → reply.isDone = true →
          after.committed = b.copy.scratch ∧ after.tree = tree?.getD b.copy.tree ∧
            after.onTrial = false ∧ after.scratch = b.copy.scratch) ∧
        (∀ failure, reply = .failed failure → after = b.copy) ∧
        (h.trial? = none → h ≠ .rollback → h.installs? = none → after = b.copy) := by
  obtain ⟨-, -, -, -, hclean⟩ := WorkingCopy.load_eq_ok hload
  intro b
  refine ⟨?_, ?_, Bench.committed_handleAll _ handlings, Bench.place_handleAll _ handlings, ?_⟩
  · exact b.copy.settled
  · exact Bench.trial_handleAll hclean handlings
  · intro h reply after
    refine ⟨?_, ?_, ?_, ?_, fun failure => Bench.copy_of_failed, Bench.copy_of_idle⟩
    · rintro trial rfl
      have hcopy : after = b.copy.attempt language trial := rfl
      rw [hcopy, WorkingCopy.attempt_eq]
      exact ⟨rfl, rfl⟩
    · rintro rfl
      exact ⟨b.copy.onTrial_rollback, b.copy.scratch_rollback⟩
    · intro hchanged
      by_contra hkept
      have hkeeps : h.installs? = none ∨ reply.isDone = false := by
        rcases hdone : reply.isDone with _ | _
        · exact .inr rfl
        · left
          apply Option.not_isSome_iff_eq_none.1
          exact fun hsome => hkept ⟨hsome, hdone⟩
      obtain ⟨hcommitted, htree⟩ := Bench.committed_handle hkeeps
      rcases hchanged with hne | hne
      · exact hne hcommitted
      · exact hne htree
    · intro tree? hinstalls hdone
      have hcopy : after = b.copy.promoted tree? := Bench.copy_of_installs hinstalls hdone
      rw [hcopy]
      exact ⟨rfl, rfl, rfl, rfl⟩

/-- A text is staged, and another one is tried before the staged file is moved into place. After
that a directory stands where the next text is to be staged. -/
def editing : List Handling :=
  [.attempt (.excise [1]), .stage, .attempt .strip, .promote 0 none, .attempt .reformat,
    .outside fun files =>
      { files with entries := files.entries ++ [(["w", "a.scm-staged"], .directory)] },
    .commit letterTree]

def letterCopy : WorkingCopy :=
  .clean 0 "a" "scm-staged" "a;" letterTree

def edited : Bench :=
  Bench.handleAll Statement.language { copy := letterCopy, files := twoTexts [] } editing

/-- The last trial is still pending after the commit that failed. -/
theorem edited_holds_last_trial :
    edited.copy.onTrial = true ∧
      edited.copy.scratch =
        Trial.text Statement.language edited.copy.committed edited.copy.tree .reformat := by
  have hload : WorkingCopy.load Statement.language (twoTexts []) 0 "a" "scm-staged" =
      .ok letterCopy := rfl
  have htrial : edited.copy.onTrial = true := by decide +kernel
  obtain ⟨-, hpending, -⟩ := working_copy_holds_last_trial _ _ _ _ _ _ hload editing
  obtain ⟨trial, hlast, hscratch⟩ := hpending htrial
  have hreformat : (editing.filterMap Handling.trial?).getLast? = some .reformat := rfl
  rw [hreformat] at hlast
  cases hlast
  exact ⟨htrial, hscratch⟩

end SourceReducer
