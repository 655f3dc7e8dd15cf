import SourceReducer.Proofs.Engine.Coherence
import SourceReducer.Proofs.Engine.Loading
import SourceReducer.Proofs.Engine.Promotion

/-! Installs that break off. Staged texts are renamed to their working files one unit after the
other, and nothing takes a rename back. Where one of them fails, the units before it have their new
texts, in memory and in their files, and the others their old ones; so all is as before exactly if
the units before had nothing new. -/
namespace SourceReducer

open Files

variable {σ : Type}

/-! Promotions that break off. -/

/-- A file that was renamed to a path which is no link found a file or nothing there. -/
theorem Files.leaf?_of_rename {f g : Files} {p q : String} {id : Nat} (hp : f.fileAt? p = some id)
    (hlink : f.Unlinked q) (h : f.rename p q = .ok g) : ∃ loc, f.leaf? q = some loc := by
  obtain ⟨a, hresp⟩ := resolve_of_fileAt? hp
  unfold Files.rename at h
  cases hresq : f.resolve q false with
  | error fault => simp [hresp, hresq, bind, Except.bind] at h
  | ok place =>
    cases place with
    | directory loc =>
      simp [hresp, hresq, bind, Except.bind, throw, throwThe, MonadExceptOf.throw] at h
    | link loc target => exact absurd hresq (hlink loc target)
    | file loc id' => exact ⟨loc, by simp [leaf?, hresq]⟩
    | missing around name => exact ⟨around ++ [name], by simp [leaf?, hresq]⟩

/-- A rename that was made put the staged text in the working file and left the other units
alone. -/
theorem renamed_unit {paths : List String} {c : WorkingCopy} {copies : List WorkingCopy}
    {f g : Files} {content : Content} (hf : f.Apart paths) (hsub : unitPaths (c :: copies) ⊆ paths)
    (hnodup : (unitPaths (c :: copies)).Nodup) (hheld : f.held? c.stagedPath = some content)
    (h : f.afterRename.rename c.stagedPath c.path = .ok g) :
    g.Apart paths ∧ Changed [c.stagedPath, c.path] f g ∧ g.held? c.path = some content ∧
      ∀ x ∈ unitPaths copies, g.held? x = f.held? x := by
  have hp : c.path ∈ paths := hsub (path_mem_unitPaths List.mem_cons_self)
  obtain ⟨id, hid, -⟩ := Option.bind_eq_some_iff.1 hheld
  obtain ⟨loc, hleaf⟩ := leaf?_of_rename ((fileAt?_withTrouble _).trans hid)
    ((sameWays_withTrouble f _).unlinked (hf.unlinked _ hp)) h
  rw [leaf?_withTrouble] at hleaf
  obtain ⟨g', hrename, hapart, hchanged, -, hmoved, hkeep⟩ :=
    rename_unit hf hsub hnodup hheld hleaf
  obtain rfl : g = g' := Except.ok.inj (h.symm.trans hrename)
  exact ⟨hapart, hchanged, hmoved, hkeep⟩

theorem unitPaths_take_subset (copies : List WorkingCopy) (count : Nat) :
    unitPaths (copies.take count) ⊆ unitPaths copies := by
  intro x hx
  simp only [unitPaths, List.mem_flatMap] at hx ⊢
  obtain ⟨d, hd, hx⟩ := hx
  exact ⟨d, List.mem_of_mem_take hd, hx⟩

/-- What promotions leave that break off before the unit with number `count`, where `f` were the
files before. The rename that is for this unit fails, or the store does not allow it. -/
structure PromotedUntil (tree? : WorkingCopy → Option Tree) (copies after : List WorkingCopy)
    (f g : Files) (failure : Failure) (count : Nat) : Prop where
  fails : ∃ c fault, copies[count]? = some c ∧ failure = .file c.path fault ∧
    (g.rename c.stagedPath c.path = .error fault ∨ f.RenameFails count fault)
  copies : after = promotedUpTo tree? count copies

/-- The first rename that fails ends the promotions. -/
theorem promoteAll_until (tree? : WorkingCopy → Option Tree) {copies after : List WorkingCopy}
    {f g : Files} {failure : Failure}
    (h : promoteAll copies (copies.map fun c => ⟨c.stagedPath, c.path⟩) (copies.map tree?) f =
      (.error failure, after, g)) :
    ∃ count, PromotedUntil tree? copies after f g failure count ∧
      ∀ paths, f.Apart paths → unitPaths copies ⊆ paths → (unitPaths copies).Nodup →
        (∀ c ∈ copies, f.held? c.stagedPath = some (.text c.scratch)) →
        Changed (unitPaths (copies.take count)) f g ∧ g.Apart paths ∧
          ∀ c ∈ copies.take count, g.held? c.path = some (.text c.scratch) := by
  induction copies generalizing f after with
  | nil => simp [promoteAll] at h
  | cons c copies ih =>
    rw [List.map_cons, List.map_cons, promoteAll] at h
    rcases f.riskRename_cases c.stagedPath c.path with ⟨renamed, hallowed, hrename⟩ |
      ⟨fault, hfault, hrename⟩
    · have hfirst : c.promote f ⟨c.stagedPath, c.path⟩ (tree? c) =
          .ok (c.promoted (tree? c), renamed) := promote_eq_ok (tree? c) hrename
      rw [hfirst] at h
      rcases hrest : promoteAll copies (copies.map fun c => ⟨c.stagedPath, c.path⟩)
        (copies.map tree?) renamed with ⟨outcome, others, final⟩
      simp only [hrest, Prod.mk.injEq] at h
      obtain ⟨rfl, rfl, rfl⟩ := h
      obtain ⟨count, ⟨⟨d, fault, hd, hfailure, hfails⟩, hothers⟩, hfiles⟩ := ih hrest
      have hfails' : final.rename d.stagedPath d.path = .error fault ∨
          f.RenameFails (count + 1) fault := by
        refine hfails.imp_right fun hnext => ?_
        rw [RenameFails, (rename_keeps hallowed).2] at hnext
        rwa [RenameFails, ← List.getElem?_tail]
      refine ⟨count + 1, ⟨⟨d, fault, hd, hfailure, hfails'⟩, ?_⟩, ?_⟩
      · simp only [hothers, promotedUpTo, List.take_succ_cons, List.drop_succ_cons, List.map_cons,
          List.cons_append]
      · intro paths hf hsub hnodup hstaged
        have hp : c.path ∈ paths := hsub (path_mem_unitPaths List.mem_cons_self)
        obtain ⟨hapart, hchanged, hmoved, hkeep⟩ :=
          renamed_unit hf hsub hnodup (hstaged c List.mem_cons_self) hallowed
        rw [unitPaths_cons] at hsub hnodup
        obtain ⟨hpath, hnodup⟩ := List.nodup_cons.1 hnodup
        have hrest : unitPaths copies ⊆ paths := fun x hx => hsub (by simp [hx])
        obtain ⟨hlater, hfinal, hholds⟩ := hfiles paths hapart hrest (List.nodup_cons.1 hnodup).2
          fun d hd => by
            rw [hkeep _ (stagedPath_mem_unitPaths hd)]
            exact hstaged d (List.mem_cons_of_mem _ hd)
        have htake := unitPaths_take_subset copies count
        rw [List.take_succ_cons, unitPaths_cons]
        refine ⟨(hchanged.mono ?_).trans (hlater.mono (by simp)), hfinal, ?_⟩
        · intro x hx
          simp only [List.mem_cons, List.not_mem_nil, or_false] at hx
          rcases hx with rfl | rfl <;> simp
        · intro d hd
          rcases List.mem_cons.1 hd with rfl | hd
          · rw [(hapart.held? hlater (List.Subset.trans htake hrest) hp ?_).2, hmoved]
            intro hmem
            exact hpath (List.mem_cons_of_mem _ (htake hmem))
          · exact hholds d hd
    · obtain ⟨hpromote, hleft⟩ := promote_eq_error c ⟨c.stagedPath, c.path⟩ (tree? c) hrename
      simp only [hpromote, hleft, Prod.mk.injEq, Except.error.injEq] at h
      obtain ⟨hfailure, hafter, rfl⟩ := h
      have hkept : after = promotedUpTo tree? 0 (c :: copies) := by
        rw [promotedUpTo_zero, hafter]
      refine ⟨0, ⟨⟨c, fault, by simp, hfailure.symm, hfault⟩, hkept⟩, ?_⟩
      intro paths hf _ _ _
      have hsame : Changed [] f f.afterRename := changed_withTrouble [] hf.wellFormed
      exact ⟨hsame, hf.changed hsame (by simp) (by simp), by simp⟩

/-! Attempts whose install fails. -/

namespace Engine

/-- Whether an attempt got as far as installing its texts, which may be committed and are all
staged, and ended with an error then. -/
structure InstallFails (e : Engine σ) (a : Attempt) (s : Session σ) (failure : Failure) : Prop where
  approves : e.Approves a s
  staged : ∃ staged written,
    stageAll (e.proposal a s).copies (e.filesSeen a s) = (.ok staged, written)
  failed : (e.attempt a s).1 = .error failure

/-- The session after an install that broke off before the unit with number `count`. -/
structure BrokeOffAt (e : Engine σ) (a : Attempt) (s : Session σ) (failure : Failure)
    (count : Nat) : Prop where
  promoted : PromotedUntil (fun c => (c.parseScratch e.language).toOption) (e.proposal a s).copies
    (e.attempt a s).2.copies (e.filesSeen a s) (e.attempt a s).2.files failure count
  forest : (e.attempt a s).2.forest = s.forest
  commits : (e.attempt a s).2.stats.commits = s.stats.commits
  forcedExit : (e.attempt a s).2.stats.forcedExit = s.stats.forcedExit

theorem install_failed {p : Session σ} {trees : List (Option Tree)} {staged : List Staged}
    {written : Files} {failure : Failure}
    (hstage : stageAll p.copies p.files = (.ok staged, written))
    (h : (install p trees).1 = .error failure) :
    ∃ copies files, promoteAll p.copies staged trees written = (.error failure, copies, files) ∧
      (install p trees).2 = { p with copies, files } := by
  rcases hpromote : promoteAll p.copies staged trees written with ⟨failure' | _, copies, files⟩
  · simp only [install, hstage, hpromote, Except.error.injEq] at h ⊢
    exact ⟨copies, files, by rw [h], rfl⟩
  · rw [install_of_ok hstage hpromote] at h
    cases h

/-- Where an install failed, the staged texts were being promoted. -/
theorem InstallFails.promoting {e : Engine σ} {a : Attempt} {s : Session σ} {failure : Failure}
    (hunits : s.forest.unitCount = s.copies.length) (h : e.InstallFails a s failure) :
    ∃ staged written,
      stageAll (e.proposal a s).copies (e.filesSeen a s) = (.ok staged, written) ∧
      promoteAll (e.proposal a s).copies staged
          ((e.proposal a s).copies.map fun c => (c.parseScratch e.language).toOption) written =
        (.error failure, (e.attempt a s).2.copies, (e.attempt a s).2.files) ∧
      (e.attempt a s).2.forest = s.forest ∧
      (e.attempt a s).2.stats.commits = s.stats.commits ∧
      (e.attempt a s).2.stats.forcedExit = s.stats.forcedExit := by
  have hprop := e.sameCommitted_proposal a hunits
  obtain ⟨happroves, ⟨staged, written, hstage⟩, hfailed⟩ := h
  rcases e.attempt_cases a s with ⟨nodes, rfl, -, hattempt⟩ | ⟨hchecked, hseen, hattempt⟩ |
      ⟨nodes, rfl, hattempt⟩
  · rw [hattempt] at hfailed
    cases hfailed
  · rw [hseen] at hstage
    obtain ⟨hholds, -⟩ := happroves hchecked
    have hcheck := hprop.trans (e.sameCommitted_check (e.proposal a s))
    rcases e.attemptCommit_cases (e.proposal a s) with ⟨_, herror, -⟩ | ⟨reason, -, hcommit⟩ |
        ⟨trees, -, hparse, hcommit⟩
    · rw [hholds] at herror
      cases herror
    · rw [hattempt, hcommit] at hfailed
      cases hfailed
    · rw [(parseAll_eq_ok hparse).1] at hcommit
      have hinstall : (install (e.check (e.proposal a s)).2 ((e.proposal a s).copies.map fun c =>
          (c.parseScratch e.language).toOption)).1 = .error failure := by
        rw [hattempt, hcommit] at hfailed
        cases hresult : (install (e.check (e.proposal a s)).2 ((e.proposal a s).copies.map fun c =>
          (c.parseScratch e.language).toOption)).1 with
        | error failure' => simpa [hresult, Except.map] using hfailed
        | ok _ => simp [hresult, Except.map] at hfailed
      obtain ⟨copies, files, hpromote, hafter⟩ := install_failed hstage hinstall
      rw [hseen, hattempt, hcommit, hafter]
      exact ⟨staged, written, hstage, hpromote, hcheck.forest, hcheck.commits, hcheck.forcedExit⟩
  · have hinstall : (install (e.proposal (.force nodes) s)
        ((e.proposal (.force nodes) s).copies.map fun c =>
          (c.parseScratch e.language).toOption)).1 = .error failure := by
      rw [hattempt] at hfailed
      split at hfailed
      · next heq =>
        rw [heq]
        cases hfailed
        rfl
      · cases hfailed
    obtain ⟨copies, files, hpromote, hafter⟩ := install_failed hstage hinstall
    have hresult : install (e.proposal (.force nodes) s)
        ((e.proposal (.force nodes) s).copies.map fun c =>
          (c.parseScratch e.language).toOption) =
        (.error failure, { e.proposal (.force nodes) s with copies, files }) :=
      Prod.ext hinstall hafter
    rw [hattempt, hresult]
    exact ⟨staged, written, hstage, hpromote, hprop.forest, hprop.commits, hprop.forcedExit⟩

end Engine

/-! What the working files hold then. -/

/-- What is read at a path that is no link is what the file there holds. -/
theorem Files.toOption_read {f : Files} {p : String} (hf : f.WellFormed) (hlink : f.Unlinked p) :
    (f.read p).toOption = f.held? p := by
  have hfind := find_eq_resolve hlink
  unfold Files.read Files.held? Files.fileAt?
  cases hres : f.resolve p false with
  | error fault => simp [hfind, hres, bind, Except.bind, Except.toOption]
  | ok place =>
    rw [hfind, hres]
    cases place with
    | file loc id =>
      have hid : id < f.contents.size := hf loc id (stands_resolve hres).2
      simp [bind, Except.bind, pure, Except.pure, Except.toOption, hid]
    | directory loc => rfl
    | link loc target => rfl
    | missing around name => rfl

theorem unitPaths_append (copies others : List WorkingCopy) :
    unitPaths (copies ++ others) = unitPaths copies ++ unitPaths others := by
  simp [unitPaths]

/-- The units before the one that failed have their scratch texts in their working files, and the
others what they had. -/
theorem promoteAll_reads {copies after : List WorkingCopy} (tree? : WorkingCopy → Option Tree)
    {seen written g : Files} {staged : List Staged} {failure : Failure}
    (hstage : stageAll copies seen = (.ok staged, written))
    (hpromote : promoteAll copies staged (copies.map tree?) written = (.error failure, after, g)) :
    ∃ count, PromotedUntil tree? copies after seen g failure count ∧
      (seen.Apart (unitPaths copies) → (unitPaths copies).Nodup →
        ∀ (k : Nat) (c : WorkingCopy), copies[k]? = some c →
          (g.read c.path).toOption =
            if k < count then some (.text c.scratch) else (seen.read c.path).toOption) := by
  rw [stageFrom_staged hstage, List.nil_append] at hpromote
  obtain ⟨count, huntil, hfiles⟩ := promoteAll_until tree? hpromote
  have huntil' : PromotedUntil tree? copies after seen g failure count := by
    refine ⟨?_, huntil.copies⟩
    obtain ⟨c, fault, hc, hfailure, hfails⟩ := huntil.fails
    rw [RenameFails, renames_stageFrom hstage] at hfails
    exact ⟨c, fault, hc, hfailure, hfails⟩
  refine ⟨count, huntil', fun hapart hnodup k c hk => ?_⟩
  obtain ⟨hwritten, hchanged, hheld⟩ := stageFrom_ok hapart
    (fun c hc => stagedPath_mem_unitPaths hc) (hnodup.sublist (stagedPaths_sublist copies)) hstage
  obtain ⟨hlater, hg, hholds⟩ := hfiles _ hwritten (List.Subset.refl _) hnodup hheld
  have hc := List.mem_of_getElem? hk
  have hpath := path_mem_unitPaths hc
  rw [toOption_read hg.wellFormed (hg.unlinked _ hpath),
    toOption_read hapart.wellFormed (hapart.unlinked _ hpath)]
  have hsplit :
      unitPaths copies = unitPaths (copies.take count) ++ unitPaths (copies.drop count) := by
    rw [← unitPaths_append, List.take_append_drop]
  split
  · next hlt =>
    apply hholds
    exact List.mem_of_getElem? ((List.getElem?_take_of_lt hlt).trans hk)
  · next hge =>
    have hdrop : c ∈ copies.drop count := by
      refine List.mem_of_getElem? (i := k - count) ?_
      rw [List.getElem?_drop, Nat.add_sub_cancel' (Nat.le_of_not_lt hge), hk]
    have hnot : c.path ∉ unitPaths (copies.take count) := by
      intro hmem
      rw [hsplit] at hnodup
      exact (List.nodup_append.1 hnodup).2.2 _ hmem _ (path_mem_unitPaths hdrop) rfl
    have htake := unitPaths_take_subset copies count
    calc g.held? c.path
        = written.held? c.path := (hwritten.held? hlater htake hpath hnot).2
      _ = seen.held? c.path := (hapart.held? hchanged (stagedPaths_sublist copies).subset hpath
          (path_not_staged hnodup hc)).2

/-- Whether the committed texts, the trees and the working files of the units are as they were. -/
structure Unharmed (s : Session σ) (seen : Files) (t : Session σ) : Prop where
  copies : t.copies.map WorkingCopy.rollback = s.copies.map WorkingCopy.rollback
  working : ∀ c ∈ s.copies, (t.files.read c.path).toOption = (seen.read c.path).toOption

/-- Whether promoting a working copy would change neither its text nor its tree nor its file. -/
structure WorkingCopy.UpToDate (language : Language) (seen : Files) (c : WorkingCopy) : Prop where
  text : c.scratch = c.committed
  tree : (c.parseScratch language).toOption.getD c.tree = c.tree
  working : (seen.read c.path).toOption = some (.text c.scratch)

theorem rollback_promoted_iff {c : WorkingCopy} {tree? : Option Tree} :
    (c.promoted tree?).rollback = c.rollback ↔
      c.scratch = c.committed ∧ tree?.getD c.tree = c.tree := by
  rw [WorkingCopy.rollback_eq, WorkingCopy.rollback_eq]
  simp only [WorkingCopy.promoted, WorkingCopy.mk.injEq, true_and, and_true]
  exact ⟨fun h => ⟨h.1, h.2.1⟩, fun h => ⟨h.1, h.2, h.1⟩⟩

theorem rollback_promotedUpTo_iff {tree? : WorkingCopy → Option Tree} {copies : List WorkingCopy}
    {count : Nat} :
    (promotedUpTo tree? count copies).map WorkingCopy.rollback = copies.map WorkingCopy.rollback ↔
      ∀ c ∈ copies.take count, c.scratch = c.committed ∧ (tree? c).getD c.tree = c.tree := by
  have hsplit : copies.map WorkingCopy.rollback =
      (copies.take count).map WorkingCopy.rollback ++
        (copies.drop count).map WorkingCopy.rollback := by
    rw [← List.map_append, List.take_append_drop]
  rw [hsplit, promotedUpTo, List.map_append, List.append_left_inj, List.map_map, List.map_inj_left]
  simp only [Function.comp_apply, rollback_promoted_iff]

/-- Where the first units of a proposal were written to their working files, these read as before
exactly if they held the scratch texts already. -/
theorem reads_kept_iff {s p : Session σ} {seen after : Files} {count : Nat}
    (hprop : s.SameCommitted p)
    (hread : ∀ (k : Nat) (c : WorkingCopy), p.copies[k]? = some c →
      (after.read c.path).toOption =
        if k < count then some (.text c.scratch) else (seen.read c.path).toOption) :
    (∀ c ∈ s.copies, (after.read c.path).toOption = (seen.read c.path).toOption) ↔
      ∀ c ∈ p.copies.take count, (seen.read c.path).toOption = some (.text c.scratch) := by
  constructor
  · intro hall c hc
    obtain ⟨k, hk⟩ := List.mem_iff_getElem?.1 hc
    obtain ⟨hlt, hk⟩ : k < count ∧ p.copies[k]? = some c := by
      rw [List.getElem?_take] at hk
      split at hk
      · next hlt => exact ⟨hlt, hk⟩
      · cases hk
    -- the unit of the session has the same working file
    obtain ⟨d, hd, hdc⟩ := hprop.symm.mem_copies (List.mem_of_getElem? hk)
    have hsame := hall d hd
    rw [(paths_of_rollback hdc).1, hread k c hk, if_pos hlt] at hsame
    exact hsame.symm
  · intro hall d hd
    obtain ⟨c, hc, hcd⟩ := hprop.mem_copies hd
    obtain ⟨k, hk⟩ := List.mem_iff_getElem?.1 hc
    rw [← (paths_of_rollback hcd).1, hread k c hk]
    split
    · next hlt =>
      have hmem := List.mem_of_getElem? ((List.getElem?_take_of_lt hlt).trans hk)
      exact (hall c hmem).symm
    · rfl

/-- An attempt whose install fails leaves the units before the failing one with their new texts and
trees and the others with their old ones, and so do the working files if those of the units are
apart; nothing is counted. All is as it was exactly if none of the units before had anything new,
which is so if the first one failed. -/
theorem failed_install_keeps_later_units (e : Engine σ) (a : Attempt) (s : Session σ)
    (failure : Failure) (hunits : s.forest.unitCount = s.copies.length)
    (h : e.InstallFails a s failure) :
    ∃ count, e.BrokeOffAt a s failure count ∧
      ((e.filesSeen a s).Apart (unitPaths s.copies) → (unitPaths s.copies).Nodup →
        (∀ (k : Nat) (c : WorkingCopy), (e.proposal a s).copies[k]? = some c →
          ((e.attempt a s).2.files.read c.path).toOption =
            if k < count then some (.text c.scratch)
            else ((e.filesSeen a s).read c.path).toOption) ∧
        (Unharmed s (e.filesSeen a s) (e.attempt a s).2 ↔
          ∀ c ∈ (e.proposal a s).copies.take count,
            c.UpToDate e.language (e.filesSeen a s))) := by
  have hprop := e.sameCommitted_proposal a hunits
  obtain ⟨staged, written, hstage, hpromote, hforest, hcommits, hforced⟩ := h.promoting hunits
  obtain ⟨count, huntil, hreads⟩ := promoteAll_reads _ hstage hpromote
  refine ⟨count, ⟨huntil, hforest, hcommits, hforced⟩, fun hapart hnodup => ?_⟩
  rw [← hprop.unitPaths] at hapart hnodup
  have hread := hreads hapart hnodup
  refine ⟨hread, ?_⟩
  have hworking := reads_kept_iff hprop hread
  have hcopies : (e.attempt a s).2.copies.map WorkingCopy.rollback =
      s.copies.map WorkingCopy.rollback ↔
        ∀ c ∈ (e.proposal a s).copies.take count, c.scratch = c.committed ∧
          (c.parseScratch e.language).toOption.getD c.tree = c.tree := by
    rw [huntil.copies, ← hprop.copies]
    exact rollback_promotedUpTo_iff
  constructor
  · rintro ⟨hkept, hfiles⟩ c hc
    obtain ⟨htext, htree⟩ := hcopies.1 hkept c hc
    exact ⟨htext, htree, hworking.1 hfiles c hc⟩
  · intro hall
    exact ⟨hcopies.2 fun c hc => ⟨(hall c hc).text, (hall c hc).tree⟩,
      hworking.2 fun c hc => (hall c hc).working⟩

/-- Two loaded units after something else put a directory in the place of the second working
file. -/
def displaced : Session Tally :=
  { twoUnits [] with
    files := { twoTexts [(["w", "b.min"], .directory)] with
      contents := #[.text "a;", .text "b;", .text "a;", .text "old"] } }

theorem apart_displaced : displaced.files.Apart (unitPaths displaced.copies) := by
  refine ⟨wellFormed_of_entries ?_, ?_, ?_⟩
  · decide +kernel
  · decide +kernel
  · decide +kernel

theorem installFails_displaced :
    lenient.InstallFails .cleanup displaced (.file "b.min" .isDirectory) := by
  have hstage : (stageAll (lenient.proposal .cleanup displaced).copies
      (lenient.filesSeen .cleanup displaced)).1.isOk = true := by decide +kernel
  refine ⟨fun _ => ⟨rfl, by decide +kernel⟩, ?_, by decide +kernel⟩
  rcases hstaged : stageAll (lenient.proposal .cleanup displaced).copies
    (lenient.filesSeen .cleanup displaced) with ⟨_ | staged, written⟩
  · rw [hstaged] at hstage
    cases hstage
  · exact ⟨staged, written, rfl⟩

/-- The new layout of the first unit stays, in memory and in its working file, though the second one
could not be installed. -/
theorem failed_install_displaced :
    lenient.InstallFails .cleanup displaced (.file "b.min" .isDirectory) ∧
      lenient.BrokeOffAt .cleanup displaced (.file "b.min" .isDirectory) 1 ∧
      ((lenient.attempt .cleanup displaced).2.files.read "a.min").toOption = some (.text "a;\n") ∧
      ¬Unharmed displaced displaced.files (lenient.attempt .cleanup displaced).2 := by
  have hfails := installFails_displaced
  have hseen : lenient.filesSeen .cleanup displaced = displaced.files := rfl
  have hunits : (lenient.proposal .cleanup displaced).copies.map
      (fun c => (c.path, c.scratch, c.committed)) =
        [("a.min", "a;\n", "a;"), ("b.min", "b;\n", "b;")] := by decide +kernel
  obtain ⟨count, hbroke, hreads⟩ :=
    failed_install_keeps_later_units lenient .cleanup displaced _ (by decide) hfails
  obtain ⟨hread, hunharmed⟩ := hreads (hseen ▸ apart_displaced) (by decide +kernel)
  obtain ⟨c, fault, hc, hfailure, -⟩ := hbroke.promoted.fails
  have hpath : "b.min" = c.path := (Failure.file.inj hfailure).1
  rw [hseen] at hunharmed
  generalize (lenient.proposal .cleanup displaced).copies = copies at hunits hread hunharmed hc
  obtain ⟨first, rest, rfl, hfirst, hrest⟩ := List.map_eq_cons_iff.1 hunits
  obtain ⟨second, rfl, -⟩ := List.map_eq_singleton_iff.1 hrest
  simp only [Prod.mk.injEq] at hfirst
  obtain ⟨hpath₁, hscratch, hcommitted⟩ := hfirst
  -- the error names the working file of the second unit
  obtain rfl : count = 1 := by
    match count, hc with
    | 0, hc =>
      obtain rfl : first = c := Option.some.inj hc
      exact absurd (hpath.trans hpath₁) (by decide)
    | 1, _ => rfl
  refine ⟨hfails, hbroke, ?_, fun h => ?_⟩
  · rw [← hpath₁, hread 0 first rfl, if_pos Nat.one_pos, hscratch]
  · have hkept := (hunharmed.1 h first (by simp)).text
    rw [hscratch, hcommitted] at hkept
    exact absurd hkept (by decide)

/-- A staging suffix that leads all units to one file makes the second rename fail after a load
without any fault. The first working file then holds the text of the second unit, and the first unit
counts as committed. -/
theorem install_breaks_off_over_one_file :
    (lenient.load { stagingSuffix := "x/../s" } [⟨"a", "a.min"⟩, ⟨"b", "b.min"⟩]
        (twoTexts [(["w", "a.min.x"], .directory), (["w", "b.min.x"], .directory)])).1.toOption.map
      (fun s =>
        let t := (lenient.attempt .cleanup s).2
        ((lenient.attempt .cleanup s).1.toOption, s.committed, t.committed,
          (t.files.readText "a.min").toOption, (t.files.readText "b.min").toOption)) =
      some (none, ["a;", "b;"], ["a;\n", "b;"], some "b;\n", some "b;") := by
  decide +kernel

end SourceReducer
