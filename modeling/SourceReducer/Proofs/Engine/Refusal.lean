import SourceReducer.Proofs.Engine.Attempt
import SourceReducer.Proofs.Engine.Loading
import SourceReducer.Proofs.Engine.Staging
import SourceReducer.Statement.Language

/-! Refusals are atomic. An attempt that is rejected, whose check fails or whose texts cannot all be
staged leaves the committed texts and trees, the forest, the working files and the counts as they
were, and none of the staged files that it wrote, as far as these can be removed. -/
namespace SourceReducer

open Files

variable {σ : Type}

/-- No staged file of a unit is a symbolic link, another name of a working file, or another name of
the staged file of another unit. -/
structure StagingApart (f : Files) (copies : List WorkingCopy) : Prop where
  apart : f.Apart (copies.map WorkingCopy.stagedPath)
  working : ∀ c ∈ copies, ∀ d ∈ copies, ∀ loc id, f.find d.path = .ok (.file loc id) →
    f.fileAt? c.stagedPath ≠ some id

/-- Whether a staged file may stay after staging failed: the write that is for its unit leaves a
part, or the removal that is for it fails. -/
def StaysStaged (seen : Files) (copies : List WorkingCopy) (path : String) : Prop :=
  ∃ (i : Nat) (c : WorkingCopy), copies[i]? = some c ∧ c.stagedPath = path ∧
    (seen.LeavesPart i ∨ seen.RemovalFails i)

theorem StaysStaged.not_cleansUp {seen : Files} {copies : List WorkingCopy} {path : String}
    (h : StaysStaged seen copies path) : ¬seen.CleansUp := by
  intro hclean
  obtain ⟨i, c, -, -, hpart | hfails⟩ := h
  · exact hclean.not_leavesPart i hpart
  · exact hclean.not_removalFails i hfails

/-- A failure to stage changes no working file and leaves no staged file that was written, unless
cleaning up fails. -/
theorem staging_failed {copies : List WorkingCopy} {f g : Files} {failure : Failure}
    (hapart : StagingApart f copies) (h : stageAll copies f = (.error failure, g)) :
    (∀ c ∈ copies, ∀ content, f.read c.path = .ok content → g.read c.path = .ok content) ∧
      ∀ c ∈ copies, g.fileAt? c.stagedPath = none ∨
        (g.fileAt? c.stagedPath = f.fileAt? c.stagedPath ∧
          g.held? c.stagedPath = f.held? c.stagedPath) ∨
        StaysStaged f copies c.stagedPath := by
  obtain ⟨done, c, rest, rfl, hchanged, hgone⟩ := stageFrom_error hapart.apart.wellFormed
    (fun p hp => hapart.apart.unlinked p (by simpa using hp)) h
  simp only [List.map_nil, List.nil_append] at hchanged hgone
  have hsub : done.map WorkingCopy.stagedPath ⊆
      (done ++ c :: rest).map WorkingCopy.stagedPath := by simp
  have hsub' : (done ++ [c]).map WorkingCopy.stagedPath ⊆
      (done ++ c :: rest).map WorkingCopy.stagedPath := by simp
  constructor
  · intro d hd content hread
    have hall : Changed ((done ++ c :: rest).map WorkingCopy.stagedPath) f g :=
      hchanged.elim (·.mono hsub) (·.1.mono hsub')
    obtain ⟨loc, id, hfind, rfl⟩ := Files.read_eq_ok.1 hread
    obtain ⟨hfind', hcontent⟩ := hall.find_file hapart.apart.wellFormed hfind fun p hp => by
      obtain ⟨d', hd', rfl⟩ := List.mem_map.1 hp
      exact hapart.working d' hd' d hd loc id hfind
    exact Files.read_eq_ok.2 ⟨loc, id, hfind', by rw [hcontent]⟩
  · intro d hd
    by_cases hdone : d.stagedPath ∈ done.map WorkingCopy.stagedPath
    · obtain ⟨i, hi⟩ := List.mem_iff_getElem?.1 hdone
      rcases hgone i d.stagedPath (by simpa using hi) with hnone | hfails
      · exact .inl hnone
      · rw [List.getElem?_map, Option.map_eq_some_iff] at hi
        obtain ⟨d', hd', hsame⟩ := hi
        have hat : (done ++ c :: rest)[i]? = some d' :=
          (List.getElem?_append_left (List.getElem?_eq_some_iff.1 hd').1).trans hd'
        exact .inr (.inr ⟨i, d', hat, hsame, .inr hfails⟩)
    · have hmem := List.mem_map_of_mem (f := WorkingCopy.stagedPath) hd
      rcases hchanged with hnone | ⟨hpart, hleaves⟩
      · exact .inr (.inl (hapart.apart.held? hnone hsub hmem hdone))
      · by_cases hlast : c.stagedPath = d.stagedPath
        · exact .inr (.inr ⟨done.length, c, by simp, hlast, .inl hleaves⟩)
        · refine .inr (.inl (hapart.apart.held? hpart hsub' hmem ?_))
          rw [List.map_append, List.mem_append, not_or, List.map_singleton, List.mem_singleton]
          exact ⟨hdone, Ne.symm hlast⟩

/-- Why an attempt commits nothing. -/
inductive Engine.Refused (e : Engine σ) (a : Attempt) (s : Session σ) : Prop
  /-- The answer is no: the invariant does not hold or was not decided in time, a text does not
  parse, or there is nothing to remove. -/
  | rejected (reason : Rejection) (h : (e.attempt a s).1 = .ok (.failed reason))
  | checkFailed (failure : Failure) (hchecked : a.isChecked = true)
      (h : (e.check (e.proposal a s)).1 = .error failure)
  | stagingFailed (failure : Failure) (files : Files)
      (h : stageAll (e.proposal a s).copies (e.filesSeen a s) = (.error failure, files))

/-- What a refused attempt leaves, where `seen` are the files before it would have staged. -/
structure Intact (s : Session σ) (seen : Files) (after : Session σ) : Prop where
  committed : s.SameCommitted after
  working : ∀ c ∈ s.copies, ∀ content, seen.read c.path = .ok content →
    after.files.read c.path = .ok content
  staging : ∀ c ∈ s.copies, after.files.fileAt? c.stagedPath = none ∨
    (after.files.fileAt? c.stagedPath = seen.fileAt? c.stagedPath ∧
      after.files.held? c.stagedPath = seen.held? c.stagedPath) ∨
    StaysStaged seen s.copies c.stagedPath

theorem intact_of_files {s after : Session σ} {seen : Files} (h : s.SameCommitted after)
    (hfiles : after.files = seen) : Intact s seen after :=
  ⟨h, fun _ _ _ hread => hfiles ▸ hread, fun _ _ => .inr (.inl (by simp [hfiles]))⟩

theorem Session.SameCommitted.mem_copies {s t : Session σ} (h : s.SameCommitted t) {c : WorkingCopy}
    (hc : c ∈ s.copies) : ∃ d ∈ t.copies, d.rollback = c.rollback := by
  have hmem : c.rollback ∈ t.copies.map WorkingCopy.rollback := by
    rw [h.copies]
    exact List.mem_map_of_mem hc
  simpa using hmem

theorem Session.SameCommitted.symm {s t : Session σ} (h : s.SameCommitted t) : t.SameCommitted s :=
  ⟨h.copies.symm, h.forest.symm, h.commits.symm, h.forcedExit.symm⟩

/-- The paths of a working copy do not depend on its trial. -/
theorem paths_of_rollback {c d : WorkingCopy} (h : d.rollback = c.rollback) :
    d.path = c.path ∧ d.stagedPath = c.stagedPath := by
  have hpath := congrArg WorkingCopy.path h
  have hstaged := congrArg WorkingCopy.stagedPath h
  simp only [WorkingCopy.path_rollback, WorkingCopy.stagedPath_rollback] at hpath hstaged
  exact ⟨hpath, hstaged⟩

theorem committed_of_rollback {c d : WorkingCopy} (h : d.rollback = c.rollback) :
    d.committed = c.committed ∧ d.tree = c.tree := by
  have hcommitted := congrArg WorkingCopy.committed h
  have htree := congrArg WorkingCopy.tree h
  simp only [WorkingCopy.committed_rollback, WorkingCopy.tree_rollback] at hcommitted htree
  exact ⟨hcommitted, htree⟩

theorem Session.SameCommitted.stagedPaths {s t : Session σ} (h : s.SameCommitted t) :
    t.copies.map WorkingCopy.stagedPath = s.copies.map WorkingCopy.stagedPath := by
  have hpaths := congrArg (List.map WorkingCopy.stagedPath) h.copies
  simpa [Function.comp_def] using hpaths

theorem StagingApart.of_sameCommitted {f : Files} {s t : Session σ} (h : StagingApart f s.copies)
    (hst : s.SameCommitted t) : StagingApart f t.copies := by
  refine ⟨hst.stagedPaths ▸ h.apart, ?_⟩
  intro c hc d hd loc id hfind
  obtain ⟨c', hc', hcc⟩ := hst.symm.mem_copies hc
  obtain ⟨d', hd', hdd⟩ := hst.symm.mem_copies hd
  rw [← (paths_of_rollback hcc).2]
  rw [← (paths_of_rollback hdd).1] at hfind
  exact h.working c' hc' d' hd' loc id hfind

/-- Which staged files may stay depends on their paths only. -/
theorem StaysStaged.congr {seen : Files} {copies copies' : List WorkingCopy} {path : String}
    (h : StaysStaged seen copies path)
    (hpaths : copies.map WorkingCopy.stagedPath = copies'.map WorkingCopy.stagedPath) :
    StaysStaged seen copies' path := by
  obtain ⟨i, c, hc, hpath, hfails⟩ := h
  have hat : (copies'.map WorkingCopy.stagedPath)[i]? = some path := by
    rw [← hpaths, List.getElem?_map, hc, Option.map_some, hpath]
  rw [List.getElem?_map, Option.map_eq_some_iff] at hat
  obtain ⟨d, hd, hpath'⟩ := hat
  exact ⟨i, d, hd, hpath', hfails⟩

/-- A proposal whose texts cannot all be staged leaves everything as it was. -/
theorem intact_of_staging_failed {s p : Session σ} {seen files : Files} {failure : Failure}
    (hp : s.SameCommitted p) (hapart : StagingApart seen s.copies)
    (h : stageAll p.copies seen = (.error failure, files)) : Intact s seen { p with files } := by
  obtain ⟨hworking, hstaging⟩ := staging_failed (hapart.of_sameCommitted hp) h
  refine ⟨⟨hp.copies, hp.forest, hp.commits, hp.forcedExit⟩, ?_, ?_⟩
  · intro c hc content hread
    obtain ⟨d, hd, hdc⟩ := hp.mem_copies hc
    rw [← (paths_of_rollback hdc).1] at hread ⊢
    exact hworking d hd content hread
  · intro c hc
    obtain ⟨d, hd, hdc⟩ := hp.mem_copies hc
    rw [← (paths_of_rollback hdc).2]
    rcases hstaging d hd with hgone | hsame | hstays
    · exact .inl hgone
    · exact .inr (.inl hsame)
    · exact .inr (.inr (hstays.congr hp.stagedPaths))

theorem intact_of_refused (e : Engine σ) (a : Attempt) (s : Session σ)
    (hunits : s.forest.unitCount = s.copies.length)
    (hapart : StagingApart (e.filesSeen a s) s.copies) (h : e.Refused a s) :
    Intact s (e.filesSeen a s) (e.attempt a s).2 := by
  have hprop := e.sameCommitted_proposal a hunits
  rcases e.attempt_cases a s with ⟨nodes, rfl, hmatched, hattempt⟩ | ⟨hchecked, hseen, hattempt⟩ |
      ⟨nodes, rfl, hattempt⟩
  · rw [hattempt]
    have hfiles : e.filesSeen (.remove nodes) s = s.files := by simp [Engine.filesSeen, hmatched]
    rw [hfiles]
    exact intact_of_files ⟨s.sameCommitted_rollback.copies, rfl, rfl, rfl⟩ rfl
  · have hcheck := hprop.trans (e.sameCommitted_check (e.proposal a s))
    rcases e.attemptCommit_cases (e.proposal a s) with
      ⟨failure, -, hcommit⟩ | ⟨reason, -, hcommit⟩ | ⟨trees, hholds, -, hcommit⟩
    · rw [hattempt, hcommit, hseen]
      exact intact_of_files hcheck rfl
    · rw [hattempt, hcommit, hseen]
      exact intact_of_files (hcheck.trans (Engine.sameCommitted_reject _ reason)) rfl
    · rw [hattempt, hcommit]
      rw [hseen] at hapart ⊢
      rcases hstage : stageAll (e.proposal a s).copies (e.check (e.proposal a s)).2.files with
        ⟨failure | staged, files⟩
      · rw [Engine.install_of_error hstage]
        exact intact_of_staging_failed hcheck hapart hstage
      · -- then the texts were staged, which no refusal allows
        exfalso
        cases h with
        | rejected reason h =>
          rw [hattempt, hcommit] at h
          rcases hinstall : (Engine.install (e.check (e.proposal a s)).2 (trees.map some)).1 with
            _ | _
          · simp [hinstall, Except.map] at h
          · simp [hinstall, Except.map] at h
        | checkFailed failure _ h =>
          rw [hholds] at h
          cases h
        | stagingFailed failure files h =>
          rw [hseen, hstage] at h
          cases h
  · rw [hattempt]
    have hfiles : (e.proposal (.force nodes) s).files = s.files := rfl
    have hseen : e.filesSeen (.force nodes) s = s.files := rfl
    rw [hseen] at hapart ⊢
    rcases hstage : stageAll (e.proposal (.force nodes) s).copies s.files with
      ⟨failure | staged, files⟩
    · rw [Engine.install_of_error hstage]
      exact intact_of_staging_failed hprop hapart hstage
    · exfalso
      cases h with
      | rejected reason h =>
        rw [hattempt] at h
        split at h <;> simp at h
      | checkFailed failure hchecked _ => simp [Attempt.isChecked] at hchecked
      | stagingFailed failure files h =>
        rw [hseen, hstage] at h
        cases h

/-- An attempt that is refused, for whatever reason, leaves the session and its files as they were,
and giving its trials up makes every scratch text the committed one. A file that was staged stays
only where its own write breaks off half way or its removal fails. The files are compared with those
that the check left; a check that leaves the files alone leaves them as they were before. -/
theorem refusal_is_atomic (e : Engine σ) (a : Attempt) (s : Session σ)
    (hunits : s.forest.unitCount = s.copies.length)
    (hapart : StagingApart (e.filesSeen a s) s.copies) (h : e.Refused a s) :
    Intact s (e.filesSeen a s) (e.attempt a s).2 ∧
      ((e.filesSeen a s).CleansUp →
        ∀ c ∈ s.copies, (e.attempt a s).2.files.fileAt? c.stagedPath = none ∨
          (e.attempt a s).2.files.fileAt? c.stagedPath =
              (e.filesSeen a s).fileAt? c.stagedPath ∧
            (e.attempt a s).2.files.held? c.stagedPath = (e.filesSeen a s).held? c.stagedPath) ∧
      ((∀ limit candidate state files,
        (e.invariant.check limit candidate state files).files = files) →
          e.filesSeen a s = s.files) ∧
      (e.attempt a s).2.rollback.copies = s.rollback.copies ∧
      ∀ c ∈ (e.attempt a s).2.rollback.copies, c.onTrial = false ∧ c.scratch = c.committed := by
  have hintact := intact_of_refused e a s hunits hapart h
  refine ⟨hintact, ?_, ?_, hintact.committed.copies, ?_⟩
  · intro hclean c hc
    rcases hintact.staging c hc with hgone | hsame | hstays
    · exact .inl hgone
    · exact .inr hsame
    · exact absurd hclean hstays.not_cleansUp
  · intro hleaves
    have hcheck (p : Session σ) : (e.check p).2.files = p.files := hleaves _ _ _ _
    cases a with
    | remove nodes =>
      simp only [Engine.filesSeen, hcheck]
      split <;> rfl
    | force nodes => rfl
    | cleanup => exact hcheck _
    | strip unit => exact hcheck _
  · intro c hc
    obtain ⟨d, -, rfl⟩ := List.mem_map.1 hc
    exact ⟨d.onTrial_rollback, d.scratch_rollback.trans d.committed_rollback.symm⟩

/-! Two units whose second cannot be staged, as a directory stands in the way. -/

/-- An invariant that always holds. -/
def lenient : Engine Tally :=
  { language := Statement.language, invariant := Invariant.ofPredicate "any" fun _ _ => true }

/-- Two texts to reduce, with a file at the output of the first one, beside further entries. The
file with number 3 has no name yet. -/
def twoTexts (extra : List (Location × Entry)) : Files :=
  { entries := [(["w"], .directory), (["w", "a"], .file 0), (["w", "b"], .file 1),
      (["w", "a.min"], .file 2)] ++ extra
    contents := #[.text "a;", .text "b;", .text "", .text "old"], here := ["w"] }

/-- A directory where the second text is to be staged. -/
def blocked : Location × Entry :=
  (["w", "b.min.scm-staged"], .directory)

/-- The tree of a statement of one letter. -/
def letterTree : Tree :=
  { nodes := #[{ kind := "program", span := ⟨0, 2, by decide⟩, children := [1] },
      { kind := "statement", span := ⟨0, 2, by decide⟩, parent := some 0, children := [2] },
      { kind := "word", span := ⟨0, 1, by decide⟩, parent := some 1 }] }

/-- The session that is loaded from the two texts. -/
def twoUnits (extra : List (Location × Entry)) (trouble : Trouble := {}) : Session Tally :=
  { copies :=
      [.clean 0 "a.min" "scm-staged" "a;" letterTree, .clean 1 "b.min" "scm-staged" "b;" letterTree]
    forest := { generation := 0, trees := [letterTree, letterTree] }
    files := { twoTexts extra with
      entries := (twoTexts extra).entries ++ [(["w", "b.min"], .file 4)]
      contents := #[.text "a;", .text "b;", .text "a;", .text "old", .text "b;"]
      trouble }
    state := {} }

/-- Laying the two texts out anew is refused whatever else there is. -/
theorem refused_cleanup (extra : List (Location × Entry)) (trouble : Trouble)
    (h : (stageAll (lenient.proposal .cleanup (twoUnits extra trouble)).copies
      (twoUnits extra trouble).files).1.toOption = none) :
    lenient.Refused .cleanup (twoUnits extra trouble) := by
  rcases hstage : stageAll (lenient.proposal .cleanup (twoUnits extra trouble)).copies
      (lenient.filesSeen .cleanup (twoUnits extra trouble)) with ⟨failure | staged, files⟩
  · exact .stagingFailed failure files hstage
  · have hseen : lenient.filesSeen .cleanup (twoUnits extra trouble) =
        (twoUnits extra trouble).files := rfl
    rw [hseen] at hstage
    simp [hstage, Except.toOption] at h

/-- The disk is full when the second text is half written. -/
def fullDisk : Trouble :=
  { writes := [none, some { fault := .noSpace, part := some (.text "b") }] }

theorem stagingApart_fullDisk :
    StagingApart (twoUnits [] fullDisk).files (twoUnits [] fullDisk).copies := by
  refine ⟨⟨wellFormed_of_entries ?_, ?_, ?_⟩, ?_⟩
  · decide +kernel
  · decide +kernel
  · decide +kernel
  · have hnone : ∀ c ∈ (twoUnits [] fullDisk).copies,
        (twoUnits [] fullDisk).files.fileAt? c.stagedPath = none := by decide +kernel
    intro c hc d _ loc id _ hfile
    simp [hnone c hc] at hfile

/-- After the disk is full the first file is as it was and the first text is staged no more. A part
of the second one is. -/
theorem cleanup_twoUnits :
    lenient.Refused .cleanup (twoUnits [] fullDisk) ∧
      let after := (lenient.attempt .cleanup (twoUnits [] fullDisk)).2.files
      after.read "a.min" = .ok (.text "a;") ∧ after.fileAt? "a.min.scm-staged" = none ∧
        after.held? "b.min.scm-staged" = some (.text "b") := by
  have hrefused : lenient.Refused .cleanup (twoUnits [] fullDisk) :=
    refused_cleanup [] fullDisk (by decide +kernel)
  have hseen : lenient.filesSeen .cleanup (twoUnits [] fullDisk) = (twoUnits [] fullDisk).files :=
    rfl
  obtain ⟨hintact, -⟩ := refusal_is_atomic lenient .cleanup (twoUnits [] fullDisk) rfl
    (hseen ▸ stagingApart_fullDisk) hrefused
  rw [hseen] at hintact
  refine ⟨hrefused, hintact.working _ List.mem_cons_self _ rfl, ?_, by decide +kernel⟩
  have hfree : (twoUnits [] fullDisk).files.fileAt? "a.min.scm-staged" = none := by decide +kernel
  rcases hintact.staging _ List.mem_cons_self with hgone | ⟨hsame, -⟩ | hstays
  · exact hgone
  · exact hsame.trans hfree
  · obtain ⟨i, c, hc, hpath, hfails⟩ := hstays
    -- the write that breaks off is not for the first unit
    rcases i with _ | _ | i
    · rcases hfails with ⟨mishap, part, hwrite, -⟩ | ⟨fault, hremoval⟩
      · cases hwrite
      · cases hremoval
    · cases hc
      exact absurd hpath (by decide +kernel)
    · cases hc

/-- The staged file of one unit is neither the working file nor the staged file of another one. -/
def ApartAcrossUnits (s : Session σ) : Prop :=
  ∀ c ∈ s.copies, ∀ d ∈ s.copies, c.unit ≠ d.unit →
    ¬s.files.Coincide leaf? c.stagedPath d.path ∧ ¬s.files.Coincide leaf? c.stagedPath d.stagedPath

/-- That the staged files are apart across units is not enough. One that is a second name of its own
working file is written there before the next one fails, and one that is a symbolic link leaves what
was written where it leads. -/
theorem cleanup_through_links :
    (∃ s, (lenient.load {} [⟨"a", "a.min"⟩, ⟨"b", "b.min"⟩]
        (twoTexts [blocked, (["w", "a.min.scm-staged"], .file 2)])).1 = .ok s ∧
      ApartAcrossUnits s ∧ lenient.Refused .cleanup s ∧
      s.files.held? "a.min" = some (.text "a;") ∧
      (lenient.attempt .cleanup s).2.files.held? "a.min" = some (.text "a;\n")) ∧
    ∃ s, (lenient.load {} [⟨"a", "a.min"⟩, ⟨"b", "b.min"⟩]
        (twoTexts [blocked, (["w", "a.min.scm-staged"], .link "left")])).1 = .ok s ∧
      ApartAcrossUnits s ∧ lenient.Refused .cleanup s ∧
      s.files.held? "left" = none ∧
      (lenient.attempt .cleanup s).2.files.held? "left" = some (.text "a;\n") := by
  constructor
  · refine ⟨twoUnits [blocked, (["w", "a.min.scm-staged"], .file 2)], rfl, ?_, ?_, ?_, ?_⟩
    · unfold ApartAcrossUnits
      decide +kernel
    · exact refused_cleanup _ {} (by decide +kernel)
    · decide +kernel
    · decide +kernel
  · refine ⟨twoUnits [blocked, (["w", "a.min.scm-staged"], .link "left")], rfl, ?_, ?_, ?_, ?_⟩
    · unfold ApartAcrossUnits
      decide +kernel
    · exact refused_cleanup _ {} (by decide +kernel)
    · decide +kernel
    · decide +kernel

end SourceReducer
