import SourceReducer.Proofs.Engine.Attempt
import SourceReducer.Proofs.Engine.Staging

/-! What attempts commit, whatever the language, the invariant and the files. Texts are promoted one
unit after the other, so an attempt leaves the committed texts alone, or promotes the scratch texts
of all units, or breaks off where a file cannot be renamed. Only texts are promoted that the
invariant was found to hold of and that all parse, or those of a removal by force. -/
namespace SourceReducer

variable {σ : Type}

/-- The committed texts. -/
abbrev Session.committed (s : Session σ) : List String :=
  s.copies.map WorkingCopy.committed

/-- Working copies of which the first `count` were promoted. -/
def promotedUpTo (tree? : WorkingCopy → Option Tree) (count : Nat) (copies : List WorkingCopy) :
    List WorkingCopy :=
  (copies.take count).map (fun c => c.promoted (tree? c)) ++ copies.drop count

theorem promotedUpTo_zero (tree? : WorkingCopy → Option Tree) (copies : List WorkingCopy) :
    promotedUpTo tree? 0 copies = copies := by
  simp [promotedUpTo]

theorem length_promotedUpTo (tree? : WorkingCopy → Option Tree) (count : Nat)
    (copies : List WorkingCopy) : (promotedUpTo tree? count copies).length = copies.length := by
  simp [promotedUpTo]
  omega

theorem committed_promotedUpTo (tree? : WorkingCopy → Option Tree) (count : Nat)
    (copies : List WorkingCopy) :
    (promotedUpTo tree? count copies).map WorkingCopy.committed =
      (copies.map WorkingCopy.scratch).take count ++
        (copies.map WorkingCopy.committed).drop count := by
  simp [promotedUpTo, WorkingCopy.promoted, Function.comp_def, List.map_take, List.map_drop]

/-- Promotions go through for all units, or break off at one of them. -/
theorem promoteAll_cases (tree? : WorkingCopy → Option Tree) {copies : List WorkingCopy}
    {staged : List Staged} (hlength : staged.length = copies.length) (f : Files) :
    (∃ g, promoteAll copies staged (copies.map tree?) f =
        (.ok (), copies.map fun c => c.promoted (tree? c), g)) ∨
      ∃ failure count g, promoteAll copies staged (copies.map tree?) f =
        (.error failure, promotedUpTo tree? count copies, g) := by
  induction copies generalizing staged f with
  | nil => exact .inl ⟨f, by simp [promoteAll]⟩
  | cons c copies ih =>
    obtain _ | ⟨first, staged⟩ := staged
    · simp at hlength
    rw [List.map_cons, promoteAll]
    rcases hrename : f.riskRename first.path first.target with ⟨fault | _, renamed⟩
    · obtain ⟨hpromote, hleft⟩ := promote_eq_error c _ (tree? c) hrename
      refine .inr ⟨.file first.target fault, 0, renamed, ?_⟩
      simp only [hpromote, hleft, promotedUpTo_zero]
    · rw [promote_eq_ok (tree? c) hrename]
      rcases ih (by simpa using hlength) renamed with ⟨g, hrest⟩ | ⟨failure, count, g, hrest⟩
      · exact .inl ⟨g, by simp only [hrest, List.map_cons]⟩
      · refine .inr ⟨failure, count + 1, g, ?_⟩
        simp only [hrest, promotedUpTo, List.take_succ_cons, List.drop_succ_cons, List.map_cons,
          List.cons_append]

namespace Engine

/-- Installing goes through, or ends with an error after some units. -/
theorem install_result (p : Session σ) (tree? : WorkingCopy → Option Tree) :
    (∃ files, install p (p.copies.map tree?) =
        (.ok (), installed p (p.copies.map fun c => c.promoted (tree? c)) files)) ∨
      ∃ failure count files, install p (p.copies.map tree?) =
        (.error failure, { p with copies := promotedUpTo tree? count p.copies, files }) := by
  rcases hstage : stageAll p.copies p.files with ⟨failure | staged, written⟩
  · refine .inr ⟨failure, 0, written, ?_⟩
    rw [install_of_error hstage, promotedUpTo_zero]
  · have hlength : staged.length = p.copies.length := by
      rw [stageFrom_staged hstage]
      simp
    rcases promoteAll_cases tree? hlength written with
      ⟨files, hall⟩ | ⟨failure, count, files, hsome⟩
    · exact .inl ⟨files, install_of_ok hstage hall⟩
    · refine .inr ⟨failure, count, files, ?_⟩
      simp only [install, hstage, hsome]

/-- Whether the scratch texts of an attempt may be committed: those that are checked have to parse,
and the invariant has to be found to hold of them in time. -/
def Approves (e : Engine σ) (a : Attempt) (s : Session σ) : Prop :=
  a.isChecked = true → (e.check (e.proposal a s)).1 = .ok .holds ∧
    ∀ text ∈ (e.proposal a s).texts, (e.language.parse text).isOk = true

/-- The answer to an attempt whose texts were committed. -/
def answerTo (a : Attempt) : Control :=
  if a.isChecked then .proceed else .stop

/-- What an attempt leaves: nothing is committed, or all scratch texts are, or an error ended it
after some units were promoted. -/
inductive Leaves (e : Engine σ) (a : Attempt) (s : Session σ) : Prop
  | refused (reason : Rejection) (houtcome : (e.attempt a s).1 = .ok (.failed reason))
      (hsame : s.SameCommitted (e.attempt a s).2)
  | committed (houtcome : (e.attempt a s).1 = .ok (answerTo a)) (happroves : e.Approves a s)
      (hcopies : (e.attempt a s).2.copies = (e.proposal a s).copies.map
        fun c => c.promoted (c.parseScratch e.language).toOption)
      (hforest : (e.attempt a s).2.forest.trees =
        (e.attempt a s).2.copies.map WorkingCopy.tree)
      (hcommits : (e.attempt a s).2.stats.commits = s.stats.commits + 1)
  | failed (failure : Failure) (count : Nat) (houtcome : (e.attempt a s).1 = .error failure)
      (happroves : count ≠ 0 → e.Approves a s)
      (hcopies : (e.attempt a s).2.copies = promotedUpTo
        (fun c => (c.parseScratch e.language).toOption) count (e.proposal a s).copies)
      (hforest : (e.attempt a s).2.forest = s.forest)
      (hcommits : (e.attempt a s).2.stats.commits = s.stats.commits)

/-- What an attempt leaves that comes to installing its texts, in a session `p` in which nothing was
committed yet. -/
theorem leaves_of_install {e : Engine σ} {a : Attempt} {s p : Session σ}
    (happroves : e.Approves a s) (hcopies : p.copies = (e.proposal a s).copies)
    (hforest : p.forest = s.forest) (hcommits : p.stats.commits = s.stats.commits)
    (hok : ∀ q,
      install p (p.copies.map fun c => (c.parseScratch e.language).toOption) = (.ok (), q) →
        (e.attempt a s).1 = .ok (answerTo a) ∧ (e.attempt a s).2.copies = q.copies ∧
        (e.attempt a s).2.forest = q.forest ∧ (e.attempt a s).2.stats.commits = q.stats.commits)
    (herror : ∀ failure q,
      install p (p.copies.map fun c => (c.parseScratch e.language).toOption) =
          (.error failure, q) →
        e.attempt a s = (.error failure, q)) :
    e.Leaves a s := by
  rcases install_result p (fun c => (c.parseScratch e.language).toOption) with
    ⟨files, hinstall⟩ | ⟨failure, count, files, hinstall⟩
  · obtain ⟨houtcome, hafter, htrees, hcount⟩ := hok _ hinstall
    refine .committed houtcome happroves (by rw [hafter, ← hcopies]; rfl) ?_ ?_
    · rw [hafter, htrees]
      rfl
    · rw [hcount, ← hcommits]
      rfl
  · have hattempt := herror failure _ hinstall
    refine .failed failure count (by rw [hattempt]) (fun _ => happroves) ?_ ?_ ?_
    · rw [hattempt, ← hcopies]
    · rw [hattempt, ← hforest]
    · rw [hattempt, ← hcommits]

theorem attempt_leaves (e : Engine σ) (a : Attempt) {s : Session σ}
    (hunits : s.forest.unitCount = s.copies.length) : e.Leaves a s := by
  have hprop := e.sameCommitted_proposal a hunits
  rcases e.attempt_cases a s with ⟨nodes, rfl, hmatched, hattempt⟩ | ⟨hchecked, -, hattempt⟩ |
      ⟨nodes, rfl, hattempt⟩
  · refine .refused .nothingToRemove (by rw [hattempt]) ?_
    rw [hattempt]
    exact ⟨s.sameCommitted_rollback.copies, rfl, rfl, rfl⟩
  · have hanswer : answerTo a = .proceed := by simp [answerTo, hchecked]
    have hcheck := hprop.trans (e.sameCommitted_check (e.proposal a s))
    rcases e.attemptCommit_cases (e.proposal a s) with ⟨failure, hfailure, hcommit⟩ |
        ⟨reason, -, hcommit⟩ | ⟨trees, hholds, hparse, hcommit⟩
    · refine .failed failure 0 (by rw [hattempt, hcommit]) (fun h => absurd rfl h) ?_ ?_ ?_
      · rw [hattempt, hcommit, promotedUpTo_zero]
        rfl
      · rw [hattempt, hcommit]
        exact hcheck.forest
      · rw [hattempt, hcommit]
        exact hcheck.commits
    · refine .refused reason (by rw [hattempt, hcommit]; rfl) ?_
      rw [hattempt, hcommit]
      exact hcheck.trans (sameCommitted_reject _ reason)
    · obtain ⟨htrees, hok⟩ := parseAll_eq_ok hparse
      have happroves : e.Approves a s := by
        intro _
        refine ⟨hholds, fun text htext => ?_⟩
        obtain ⟨c, hc, rfl⟩ := List.mem_map.1 htext
        exact hok c hc
      have hcopies : (e.check (e.proposal a s)).2.copies = (e.proposal a s).copies := rfl
      rw [htrees, ← hcopies] at hcommit
      refine leaves_of_install happroves hcopies hcheck.forest hcheck.commits (fun q h => ?_)
        fun failure q h => ?_
      · rw [hattempt, hcommit, h, hanswer]
        exact ⟨rfl, rfl, rfl, rfl⟩
      · rw [hattempt, hcommit, h]
        rfl
  · have happroves : e.Approves (.force nodes) s := fun h => by cases h
    refine leaves_of_install happroves rfl hprop.forest hprop.commits (fun q h => ?_)
      fun failure q h => ?_
    · rw [hattempt, h]
      exact ⟨rfl, rfl, rfl, rfl⟩
    · rw [hattempt, h]

end Engine

end SourceReducer
