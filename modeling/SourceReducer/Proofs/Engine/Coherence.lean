import SourceReducer.Proofs.Engine.Refusal

/-! Coherence. The state of a unit is kept in four places: its working file, its committed text, its
tree and the forest. However a session is used after it was loaded, these agree, and nothing that
was staged is left. -/
namespace SourceReducer

open Files

variable {σ : Type}

/-- What a caller may do with a session. -/
inductive Operation
  | attempt (a : Attempt)
  | rollback

namespace Engine

def operate (e : Engine σ) (s : Session σ) : Operation → Session σ
  | .attempt a => (e.attempt a s).2
  | .rollback => s.rollback

/-- Operations in turn, whatever comes of each of them. -/
def operateAll (e : Engine σ) (s : Session σ) (ops : List Operation) : Session σ :=
  ops.foldl e.operate s

/-- Whether every text parses that a forced removal among operations leaves. -/
def ForcesParse (e : Engine σ) : Session σ → List Operation → Prop
  | _, [] => True
  | s, op :: ops =>
      (∀ nodes, op = .attempt (.force nodes) →
        ∀ c ∈ (e.operate s op).copies, (e.language.parse c.committed).isOk = true) ∧
      e.ForcesParse (e.operate s op) ops

end Engine

/-- Whether two stores have the same files at some paths, and nothing more is going to fail. -/
structure Files.Spared (paths : List String) (f g : Files) : Prop where
  wellFormed : g.WellFormed
  resolve : ∀ p ∈ paths, g.resolve p false = f.resolve p false
  held? : ∀ p ∈ paths, g.held? p = f.held? p
  trouble : g.trouble.RestOf f.trouble

theorem Files.Spared.refl {f : Files} (paths : List String) (hf : f.WellFormed) :
    f.Spared paths f :=
  ⟨hf, fun _ _ => rfl, fun _ _ => rfl, .refl _⟩

theorem Files.Spared.fileAt? {paths : List String} {f g : Files} (h : f.Spared paths g) {p : String}
    (hp : p ∈ paths) : g.fileAt? p = f.fileAt? p := by
  unfold Files.fileAt?
  rw [h.resolve p hp]

theorem Files.Apart.spared {paths : List String} {f g : Files} (hf : f.Apart paths)
    (h : f.Spared paths g) : g.Apart paths := by
  have hleaf {p : String} (hp : p ∈ paths) : g.leaf? p = f.leaf? p := by
    unfold leaf?
    rw [h.resolve p hp]
  refine ⟨h.wellFormed, fun p hp => ?_, fun p hp q hq hne hsame => ?_⟩
  · unfold Unlinked
    rw [h.resolve p hp]
    exact hf.unlinked p hp
  · refine hf.separate p hp q hq hne ?_
    unfold Coincide at hsame ⊢
    rwa [hleaf hp, hleaf hq, h.fileAt? hp, h.fileAt? hq] at hsame

/-- Whether checks leave the files at some paths alone. -/
def Invariant.Spares (i : Invariant σ) (paths : List String) : Prop :=
  ∀ limit candidate state (files : Files), files.Apart paths →
    files.Spared paths (i.check limit candidate state files).files

/-- Whether the working files and the staged files of all units are apart from each other, and none
of them is a symbolic link. -/
structure UnitsApart (s : Session σ) : Prop where
  nodup : (unitPaths s.copies).Nodup
  apart : s.files.Apart (unitPaths s.copies)

/-- Whether what is known about the units agrees, where `origin` were the files when they were
loaded. -/
structure Coherent (origin : Files) (s : Session σ) : Prop extends UnitsApart s where
  working : ∀ c ∈ s.copies, s.files.held? c.path = some (.text c.committed)
  forest : s.forest.trees = s.copies.map WorkingCopy.tree
  renames : s.files.RenamesSucceed
  trouble : s.files.trouble.RestOf origin.trouble
  staging : origin.CleansUp → ∀ c ∈ s.copies, s.files.fileAt? c.stagedPath = none ∨
    s.files.fileAt? c.stagedPath = origin.fileAt? c.stagedPath ∧
      s.files.held? c.stagedPath = origin.held? c.stagedPath

/-- Whether every tree is that of the committed text. -/
def Session.Parsed (language : Language) (s : Session σ) : Prop :=
  ∀ c ∈ s.copies, language.parse c.committed = .ok c.tree

/-! The paths of the units. -/

/-- The working file and the staged file. -/
def WorkingCopy.paths (c : WorkingCopy) : String × String :=
  (c.path, c.stagedPath)

section Paths

variable {copies : List WorkingCopy}

theorem stagedPaths_sublist (copies : List WorkingCopy) :
    (copies.map WorkingCopy.stagedPath).Sublist (unitPaths copies) := by
  induction copies with
  | nil => exact List.Sublist.refl _
  | cons c copies ih =>
    rw [List.map_cons, unitPaths_cons]
    exact (ih.cons_cons _).cons _

theorem workingPaths_sublist (copies : List WorkingCopy) :
    (copies.map WorkingCopy.path).Sublist (unitPaths copies) := by
  induction copies with
  | nil => exact List.Sublist.refl _
  | cons c copies ih =>
    rw [List.map_cons, unitPaths_cons]
    exact (ih.cons _).cons_cons _

theorem path_not_staged (hnodup : (unitPaths copies).Nodup) {c : WorkingCopy} (hc : c ∈ copies) :
    c.path ∉ copies.map WorkingCopy.stagedPath := by
  induction copies with
  | nil => simp
  | cons d copies ih =>
    rw [unitPaths_cons] at hnodup
    obtain ⟨hpath, hnodup⟩ := List.nodup_cons.1 hnodup
    obtain ⟨hstaged, hnodup⟩ := List.nodup_cons.1 hnodup
    rw [List.map_cons, List.mem_cons, not_or]
    rcases List.mem_cons.1 hc with rfl | hc
    · refine ⟨fun h => hpath (by simp [h]), fun h => hpath ?_⟩
      exact List.mem_cons_of_mem _ ((stagedPaths_sublist copies).subset h)
    · exact ⟨fun h => hstaged (h ▸ path_mem_unitPaths hc), ih hnodup hc⟩

theorem unitPaths_congr {copies copies' : List WorkingCopy}
    (h : copies.map WorkingCopy.paths = copies'.map WorkingCopy.paths) :
    unitPaths copies = unitPaths copies' := by
  have hflat (copies : List WorkingCopy) :
      unitPaths copies = (copies.map WorkingCopy.paths).flatMap fun x => [x.1, x.2] := by
    simp [unitPaths, List.flatMap_map, WorkingCopy.paths]
  rw [hflat, hflat, h]

theorem Session.SameCommitted.paths {s t : Session σ} (h : s.SameCommitted t) :
    t.copies.map WorkingCopy.paths = s.copies.map WorkingCopy.paths := by
  have hback (copies : List WorkingCopy) :
      (copies.map WorkingCopy.rollback).map WorkingCopy.paths = copies.map WorkingCopy.paths := by
    rw [List.map_map]
    exact List.map_congr_left fun c _ => congrArg₂ Prod.mk c.path_rollback c.stagedPath_rollback
  rw [← hback, h.copies, hback]

theorem Session.SameCommitted.unitPaths {s t : Session σ} (h : s.SameCommitted t) :
    unitPaths t.copies = unitPaths s.copies :=
  unitPaths_congr h.paths

end Paths

theorem Session.Parsed.of_sameCommitted {language : Language} {s t : Session σ}
    (h : s.Parsed language) (hst : s.SameCommitted t) : t.Parsed language := by
  intro c hc
  obtain ⟨d, hd, hdc⟩ := hst.symm.mem_copies hc
  rw [← (committed_of_rollback hdc).1, ← (committed_of_rollback hdc).2]
  exact h d hd

namespace Coherent

variable {origin : Files} {s t : Session σ}

/-- A session with the same committed texts, whose files are the same at the paths of the units. -/
theorem of_sameCommitted (h : Coherent origin s) (hst : s.SameCommitted t)
    (hfiles : s.files.Spared (unitPaths s.copies) t.files) : Coherent origin t := by
  refine ⟨⟨hst.unitPaths ▸ h.nodup, hst.unitPaths ▸ h.apart.spared hfiles⟩, ?_, ?_,
    h.renames.rest hfiles.trouble, hfiles.trouble.trans h.trouble, ?_⟩
  · intro c hc
    obtain ⟨d, hd, hdc⟩ := hst.symm.mem_copies hc
    rw [← (paths_of_rollback hdc).1, ← (committed_of_rollback hdc).1,
      hfiles.held? _ (path_mem_unitPaths hd)]
    exact h.working d hd
  · rw [hst.forest, h.forest]
    have := congrArg (List.map WorkingCopy.tree) hst.copies
    simpa [Function.comp_def] using this.symm
  · intro hclean c hc
    obtain ⟨d, hd, hdc⟩ := hst.symm.mem_copies hc
    have hmem := stagedPath_mem_unitPaths hd
    rw [← (paths_of_rollback hdc).2, hfiles.held? _ hmem, hfiles.fileAt? hmem]
    exact h.staging hclean d hd

/-- A failure to stage leaves a coherent session. -/
theorem of_staging_failed (h : Coherent origin s) {failure : Failure} {files : Files}
    (hstage : stageAll s.copies s.files = (.error failure, files)) :
    Coherent origin { s with files } := by
  have hfiles : files = (stageAll s.copies s.files).2 := by rw [hstage]
  have htrouble : files.trouble.RestOf s.files.trouble :=
    hfiles ▸ restOf_stageFrom [] s.copies s.files
  obtain ⟨done, c, rest, hcopies, hchanged, hgone⟩ := stageFrom_error h.apart.wellFormed
    (fun p hp => h.apart.unlinked p ((stagedPaths_sublist _).subset (by simpa using hp))) hstage
  simp only [List.map_nil, List.nil_append] at hchanged hgone
  have hdone : (done ++ [c]).map WorkingCopy.stagedPath ⊆ s.copies.map WorkingCopy.stagedPath := by
    simp [hcopies]
  have hsub : (done ++ [c]).map WorkingCopy.stagedPath ⊆ unitPaths s.copies :=
    List.Subset.trans hdone (stagedPaths_sublist _).subset
  have hfirst :
      done.map WorkingCopy.stagedPath ⊆ (done ++ [c]).map WorkingCopy.stagedPath := by simp
  have hall : Changed ((done ++ [c]).map WorkingCopy.stagedPath) s.files files :=
    hchanged.elim (·.mono hfirst) (·.1)
  refine ⟨⟨h.nodup, ?_⟩, ?_, h.forest, h.renames.rest htrouble, htrouble.trans h.trouble, ?_⟩
  · rw [hfiles]
    exact apart_stageFrom h.apart (by simp) fun c hc => stagedPath_mem_unitPaths hc
  · intro d hd
    rw [← h.working d hd]
    exact (h.apart.held? hall hsub (path_mem_unitPaths hd) fun hmem =>
      path_not_staged h.nodup hd (hdone hmem)).2
  · intro hclean d hd
    have hcleans : s.files.CleansUp := hclean.rest h.trouble
    by_cases hmem : d.stagedPath ∈ done.map WorkingCopy.stagedPath
    · obtain ⟨i, hi⟩ := List.mem_iff_getElem?.1 hmem
      exact .inl ((hgone i _ hi).resolve_right (hcleans.not_removalFails i))
    · have hnone := hchanged.resolve_right fun hpart => hcleans.not_leavesPart _ hpart.2
      obtain ⟨hfile, hheld⟩ := h.apart.held? hnone (List.Subset.trans hfirst hsub)
        (stagedPath_mem_unitPaths hd) hmem
      rw [hfile, hheld]
      exact h.staging hclean d hd

/-- Where all texts are staged, they are promoted as well. -/
theorem of_staged (h : Coherent origin s) (tree? : WorkingCopy → Option Tree)
    {staged : List Staged} {written : Files}
    (hstage : stageAll s.copies s.files = (.ok staged, written)) :
    ∃ files, promoteAll s.copies staged (s.copies.map tree?) written =
        (.ok (), s.copies.map fun c => c.promoted (tree? c), files) ∧
      Coherent origin (Engine.installed s (s.copies.map fun c => c.promoted (tree? c)) files) := by
  have hstaged := stageFrom_staged hstage
  rw [List.nil_append] at hstaged
  obtain ⟨hwritten, hchanged, hholds⟩ := stageFrom_ok h.apart
    (fun c hc => stagedPath_mem_unitPaths hc) (h.nodup.sublist (stagedPaths_sublist _)) hstage
  have htrouble : written.trouble.RestOf s.files.trouble := by
    have hrest := restOf_stageFrom [] s.copies s.files
    rwa [show stageFrom [] s.copies s.files = _ from hstage] at hrest
  have hworking : ∀ c ∈ s.copies, (written.held? c.path).isSome := by
    intro c hc
    rw [(h.apart.held? hchanged (stagedPaths_sublist _).subset (path_mem_unitPaths hc)
      (path_not_staged h.nodup hc)).2, h.working c hc]
    rfl
  obtain ⟨files, hpromote, hapart, -, hfinal⟩ :=
    promoteAll_ok tree? hwritten (List.Subset.refl _) h.nodup (h.renames.rest htrouble) hworking
      hholds
  have hrest : files.trouble.RestOf s.files.trouble := by
    have hlater := restOf_promoteAll s.copies (s.copies.map fun c => ⟨c.stagedPath, c.path⟩)
      (s.copies.map tree?) written
    rw [hpromote] at hlater
    exact hlater.trans htrouble
  have hpaths : unitPaths (s.copies.map fun c => c.promoted (tree? c)) = unitPaths s.copies :=
    unitPaths_congr (by rw [List.map_map]; rfl)
  refine ⟨files, by rw [hstaged, hpromote], ⟨hpaths ▸ h.nodup, hpaths ▸ hapart⟩, ?_, rfl,
    h.renames.rest hrest, hrest.trans h.trouble, ?_⟩
  · intro d hd
    obtain ⟨c, hc, rfl⟩ := List.mem_map.1 hd
    exact (hfinal c hc).1
  · intro _ d hd
    obtain ⟨c, hc, rfl⟩ := List.mem_map.1 hd
    exact .inl (hfinal c hc).2

/-- Installing leaves a coherent session, whether or not all texts can be staged. -/
theorem install (h : Coherent origin s) (tree? : WorkingCopy → Option Tree) :
    Coherent origin (Engine.install s (s.copies.map tree?)).2 ∧
      ((Engine.install s (s.copies.map tree?)).2.copies = s.copies ∨
        (Engine.install s (s.copies.map tree?)).2.copies =
          s.copies.map fun c => c.promoted (tree? c)) := by
  rcases hstage : stageAll s.copies s.files with ⟨failure | staged, written⟩
  · rw [Engine.install_of_error hstage]
    exact ⟨h.of_staging_failed hstage, .inl rfl⟩
  · obtain ⟨files, hpromote, hcoherent⟩ := h.of_staged tree? hstage
    rw [Engine.install_of_ok hstage hpromote]
    exact ⟨hcoherent, .inr rfl⟩

end Coherent

/-! Trees. -/

/-- A promoted text that parses has its own tree. -/
theorem parse_promoted {language : Language} {c : WorkingCopy}
    (h : (language.parse c.scratch).isOk = true) :
    language.parse (c.promoted (c.parseScratch language).toOption).committed =
      .ok (c.promoted (c.parseScratch language).toOption).tree := by
  unfold WorkingCopy.promoted WorkingCopy.parseScratch
  cases hparse : language.parse c.scratch with
  | error error => simp [hparse, Except.isOk, Except.toBool] at h
  | ok tree => simp [Except.toOption]

namespace Engine

variable {origin : Files} {s : Session σ}

/-- An attempt keeps a session coherent, and keeps its trees those of the texts unless a forced
removal leaves a text that does not parse. -/
theorem coherent_attempt (e : Engine σ) (a : Attempt) (h : Coherent origin s)
    (hspares : e.invariant.Spares (unitPaths s.copies)) :
    Coherent origin (e.attempt a s).2 ∧
      (s.Parsed e.language →
        (∀ nodes, a = .force nodes →
          ∀ c ∈ (e.attempt a s).2.copies, (e.language.parse c.committed).isOk = true) →
        (e.attempt a s).2.Parsed e.language) := by
  have hunits : s.forest.unitCount = s.copies.length := by
    simp [Forest.unitCount, h.forest]
  have hprop := e.sameCommitted_proposal a hunits
  rcases e.attempt_cases a s with ⟨nodes, rfl, -, hattempt⟩ | ⟨-, -, hattempt⟩ |
      ⟨nodes, rfl, hattempt⟩
  · have hsame : s.SameCommitted (countUnknown s.rollback nodes) :=
      ⟨s.sameCommitted_rollback.copies, rfl, rfl, rfl⟩
    rw [hattempt]
    exact ⟨h.of_sameCommitted hsame (Spared.refl _ h.apart.wellFormed),
      fun hparsed _ => hparsed.of_sameCommitted hsame⟩
  · have hcheck := hprop.trans (e.sameCommitted_check (e.proposal a s))
    have hfiles : s.files.Spared (unitPaths s.copies) (e.check (e.proposal a s)).2.files := by
      rw [← e.files_proposal a s]
      exact hspares _ _ _ _ (e.files_proposal a s ▸ h.apart)
    have hchecked := h.of_sameCommitted hcheck hfiles
    rcases e.attemptCommit_cases (e.proposal a s) with
      ⟨failure, -, hcommit⟩ | ⟨reason, -, hcommit⟩ | ⟨trees, -, hparse, hcommit⟩
    · rw [hattempt, hcommit]
      exact ⟨hchecked, fun hparsed _ => hparsed.of_sameCommitted hcheck⟩
    · rw [hattempt, hcommit]
      have hreject := hcheck.trans (sameCommitted_reject _ reason)
      exact ⟨h.of_sameCommitted hreject hfiles, fun hparsed _ => hparsed.of_sameCommitted hreject⟩
    · obtain ⟨htrees, hok⟩ := parseAll_eq_ok hparse
      rw [hattempt, hcommit, htrees]
      obtain ⟨hcoherent, hcopies⟩ :=
        hchecked.install fun c => (c.parseScratch e.language).toOption
      refine ⟨hcoherent, fun hparsed _ => ?_⟩
      rcases hcopies with hcopies | hcopies
      · intro c hc
        exact (hparsed.of_sameCommitted hcheck) c (hcopies ▸ hc)
      · intro c hc
        obtain ⟨d, hd, rfl⟩ := List.mem_map.1 (hcopies ▸ hc)
        exact parse_promoted (hok d hd)
  · have hproposed : Coherent origin (e.proposal (.force nodes) s) :=
      h.of_sameCommitted hprop (Spared.refl _ h.apart.wellFormed)
    obtain ⟨hcoherent, hcopies⟩ :=
      hproposed.install fun c => (c.parseScratch e.language).toOption
    rw [hattempt]
    have hsame : s.Parsed e.language →
        (∀ c ∈ (install (e.proposal (.force nodes) s) ((e.proposal (.force nodes) s).copies.map
          fun c => (c.parseScratch e.language).toOption)).2.copies,
            (e.language.parse c.committed).isOk = true) →
        (install (e.proposal (.force nodes) s) ((e.proposal (.force nodes) s).copies.map
          fun c => (c.parseScratch e.language).toOption)).2.Parsed e.language := by
      intro hparsed hok c hc
      rcases hcopies with hcopies | hcopies
      · exact (hparsed.of_sameCommitted hprop) c (hcopies ▸ hc)
      · have hparse := hok c hc
        obtain ⟨d, hd, rfl⟩ := List.mem_map.1 (hcopies ▸ hc)
        exact parse_promoted hparse
    rcases hinstall : install (e.proposal (.force nodes) s)
        ((e.proposal (.force nodes) s).copies.map
          fun c => (c.parseScratch e.language).toOption) with ⟨failure | _, t⟩
    · rw [hinstall] at hcoherent hsame ⊢
      exact ⟨hcoherent, fun hparsed hok => hsame hparsed (hok nodes rfl)⟩
    · rw [hinstall] at hcoherent hsame ⊢
      refine ⟨⟨⟨hcoherent.nodup, hcoherent.apart⟩, hcoherent.working, hcoherent.forest,
        hcoherent.renames, hcoherent.trouble, hcoherent.staging⟩, ?_⟩
      exact fun hparsed hok => hsame hparsed (hok nodes rfl)

/-! No operation changes the paths of the units. -/

theorem paths_promoteAll (copies : List WorkingCopy) (staged : List Staged)
    (trees : List (Option Tree)) (f : Files) :
    (promoteAll copies staged trees f).2.1.map WorkingCopy.paths =
      copies.map WorkingCopy.paths := by
  fun_induction promoteAll copies staged trees f with
  | case1 copy copies staged rest tree? trees f failure hpromote => rfl
  | case2 copy copies staged rest tree? trees f promoted renamed hpromote outcome others final hrest
      ih =>
    have hpaths : promoted.paths = copy.paths := by
      obtain ⟨-, rfl⟩ := rename_of_promote hpromote
      rfl
    rw [hrest] at ih
    rw [List.map_cons, List.map_cons, hpaths, ih]
  | case3 => rfl

theorem paths_install (s : Session σ) (trees : List (Option Tree)) :
    (install s trees).2.copies.map WorkingCopy.paths = s.copies.map WorkingCopy.paths := by
  unfold install
  rcases stageAll s.copies s.files with ⟨failure | staged, written⟩
  · rfl
  · have hpaths := paths_promoteAll s.copies staged trees written
    rcases hpromote : promoteAll s.copies staged trees written with ⟨failure | _, copies, files⟩
    · rw [hpromote] at hpaths
      simp only [hpromote]
      exact hpaths
    · rw [hpromote] at hpaths
      simp only [hpromote]
      exact hpaths

theorem paths_attempt (e : Engine σ) (a : Attempt) {s : Session σ}
    (hunits : s.forest.unitCount = s.copies.length) :
    (e.attempt a s).2.copies.map WorkingCopy.paths = s.copies.map WorkingCopy.paths := by
  have hprop := e.sameCommitted_proposal a hunits
  rcases e.attempt_cases a s with
    ⟨nodes, -, -, hattempt⟩ | ⟨-, -, hattempt⟩ | ⟨nodes, rfl, hattempt⟩
  · rw [hattempt]
    exact s.sameCommitted_rollback.paths
  · rw [hattempt]
    rcases e.attemptCommit_cases (e.proposal a s) with
      ⟨failure, -, hcommit⟩ | ⟨reason, -, hcommit⟩ | ⟨trees, -, -, hcommit⟩
    · rw [hcommit]
      exact hprop.paths
    · rw [hcommit]
      exact hprop.paths
    · rw [hcommit]
      exact (paths_install _ _).trans hprop.paths
  · rw [hattempt]
    have hinstall := (paths_install (e.proposal (.force nodes) s)
      ((e.proposal (.force nodes) s).copies.map
        fun c => (c.parseScratch e.language).toOption)).trans hprop.paths
    split <;> next h => simpa only [h] using hinstall

/-! Operations one after the other. -/

theorem coherent_operate (e : Engine σ) (op : Operation) (h : Coherent origin s)
    (hspares : e.invariant.Spares (unitPaths s.copies)) :
    Coherent origin (e.operate s op) ∧
      (e.operate s op).copies.map WorkingCopy.paths = s.copies.map WorkingCopy.paths := by
  cases op with
  | attempt a =>
    have hunits : s.forest.unitCount = s.copies.length := by simp [Forest.unitCount, h.forest]
    exact ⟨(e.coherent_attempt a h hspares).1, e.paths_attempt a hunits⟩
  | rollback =>
    have hsame := s.sameCommitted_rollback
    exact ⟨h.of_sameCommitted hsame (Spared.refl _ h.apart.wellFormed), hsame.paths⟩

theorem parsed_operate (e : Engine σ) (op : Operation) (h : Coherent origin s)
    (hspares : e.invariant.Spares (unitPaths s.copies)) (hparsed : s.Parsed e.language)
    (hforce : ∀ nodes, op = .attempt (.force nodes) →
      ∀ c ∈ (e.operate s op).copies, (e.language.parse c.committed).isOk = true) :
    (e.operate s op).Parsed e.language := by
  cases op with
  | attempt a =>
    refine (e.coherent_attempt a h hspares).2 hparsed ?_
    rintro nodes rfl
    exact hforce nodes rfl
  | rollback => exact hparsed.of_sameCommitted s.sameCommitted_rollback

theorem coherent_operateAll (e : Engine σ) (ops : List Operation) (h : Coherent origin s)
    (hspares : e.invariant.Spares (unitPaths s.copies)) :
    Coherent origin (e.operateAll s ops) ∧
      (e.operateAll s ops).copies.map WorkingCopy.paths = s.copies.map WorkingCopy.paths ∧
      (s.Parsed e.language → e.ForcesParse s ops → (e.operateAll s ops).Parsed e.language) := by
  induction ops generalizing s with
  | nil => exact ⟨h, rfl, fun hparsed _ => hparsed⟩
  | cons op ops ih =>
    obtain ⟨hnext, hpaths⟩ := e.coherent_operate op h hspares
    obtain ⟨hall, hallPaths, hallParsed⟩ := ih hnext (unitPaths_congr hpaths ▸ hspares)
    refine ⟨hall, hallPaths.trans hpaths, ?_⟩
    rintro hparsed ⟨hforce, hforces⟩
    exact hallParsed (e.parsed_operate op h hspares hparsed hforce) hforces

end Engine

/-- A session is coherent when it has been loaded. -/
theorem Engine.coherent_load {e : Engine σ} {settings : Settings} {mappings : List FileMapping}
    {files loaded : Files} {s : Session σ} (hfiles : files.WellFormed)
    (hload : e.load settings mappings files = (.ok s, loaded)) (hapart : UnitsApart s)
    (hrenames : loaded.RenamesSucceed) :
    Coherent s.files s ∧ s.Parsed e.language ∧
      s.copies.map WorkingCopy.path = mappings.map FileMapping.output := by
  obtain ⟨-, rfl, hfrom, hforest⟩ := Engine.load_eq_ok hload
  obtain ⟨hpaths, hparses⟩ := loadFrom_copies hfrom
  have hsub := workingPaths_sublist s.copies
  have hheld := loadFrom_held hfiles hfrom (hpaths ▸ hapart.apart.mono hsub.subset)
    (hpaths ▸ hapart.nodup.sublist hsub)
  exact ⟨⟨hapart, hheld, hforest, hrenames, .refl _, fun _ _ _ => .inr ⟨rfl, rfl⟩⟩, hparses, hpaths⟩

/-- However a loaded session is used, every working file holds the committed text of its unit, the
forest has the trees of the units, no file stays that was staged where cleaning up succeeds, and the
trees are those of the committed texts as long as no forced removal leaves a text that does not
parse. Any write and any removal may fail; of the renames the store allows none does. -/
theorem operations_keep_coherence (e : Engine σ) (settings : Settings) (mappings : List FileMapping)
    (files loaded : Files) (s : Session σ) (ops : List Operation) (hfiles : files.WellFormed)
    (hload : e.load settings mappings files = (.ok s, loaded)) (hapart : UnitsApart s)
    (hspares : e.invariant.Spares (unitPaths s.copies)) (hrenames : loaded.RenamesSucceed) :
    let t := e.operateAll s ops
    t.copies.map WorkingCopy.path = mappings.map FileMapping.output ∧
      (∀ c ∈ t.copies, t.files.readText c.path = .ok c.committed) ∧
      t.forest.trees = t.copies.map WorkingCopy.tree ∧
      (∀ c ∈ t.copies, c.onTrial = false → c.scratch = c.committed) ∧
      (loaded.CleansUp → ∀ c ∈ t.copies, t.files.fileAt? c.stagedPath = none ∨
        t.files.fileAt? c.stagedPath = loaded.fileAt? c.stagedPath ∧
          t.files.held? c.stagedPath = loaded.held? c.stagedPath) ∧
      (e.ForcesParse s ops → ∀ c ∈ t.copies, e.language.parse c.committed = .ok c.tree) := by
  obtain ⟨hcoherent, hparsed, hpaths⟩ := Engine.coherent_load hfiles hload hapart hrenames
  obtain ⟨hall, hallPaths, hallParsed⟩ := e.coherent_operateAll ops hcoherent hspares
  obtain ⟨-, rfl, -⟩ := Engine.load_eq_ok hload
  refine ⟨?_, ?_, hall.forest, ?_, hall.staging, hallParsed hparsed⟩
  · have hfst (copies : List WorkingCopy) :
        (copies.map WorkingCopy.paths).map Prod.fst = copies.map WorkingCopy.path := by
      rw [List.map_map]
      rfl
    rw [← hpaths, ← hfst, hallPaths, hfst]
  · intro c hc
    exact readText_of_held? (hall.apart.unlinked _ (path_mem_unitPaths hc)) (hall.working c hc)
  · intro c _ htrial
    exact c.settled htrial

/-! Two units, whose texts are laid out anew, at the second try, before a statement of the first one
is removed by force. -/

/-- There is no space for the second text that is written. -/
def tightDisk : Trouble :=
  { writes := [none, some { fault := .noSpace }] }

theorem unitsApart_twoUnits (trouble : Trouble) : UnitsApart (twoUnits [] trouble) := by
  have hapart : UnitsApart (twoUnits []) := by
    refine ⟨?_, wellFormed_of_entries ?_, ?_, ?_⟩
    · decide +kernel
    · decide +kernel
    · decide +kernel
    · decide +kernel
  have hchanged : Changed [] (twoUnits []).files (twoUnits [] trouble).files :=
    changed_withTrouble [] hapart.apart.wellFormed
  exact ⟨hapart.nodup, hapart.apart.changed hchanged (by simp) (by simp)⟩

theorem spares_ofPredicate (name : String) (p : Nat → Candidate → Bool) (paths : List String) :
    (Invariant.ofPredicate name p).Spares paths :=
  fun _ _ _ _ hfiles => Spared.refl _ hfiles.wellFormed

/-- A layout that is tried twice, a forced removal and a rollback. -/
def layoutAndForce : List Operation :=
  [.attempt .cleanup, .attempt .cleanup, .attempt (.force (.ofList [⟨1, 0, 1⟩])), .rollback]

theorem operate_layoutAndForce :
    let t := lenient.operateAll (twoUnits [] tightDisk) layoutAndForce
    t.copies.map WorkingCopy.committed = ["\n", "b;\n"] ∧
      (∀ c ∈ t.copies, t.files.readText c.path = .ok c.committed) ∧
      (∀ c ∈ t.copies, t.files.fileAt? c.stagedPath = none) ∧
      ∀ c ∈ t.copies, lenient.language.parse c.committed = .ok c.tree := by
  have hwellFormed : ((twoTexts []).withTrouble tightDisk).WellFormed :=
    wellFormed_of_entries (by decide +kernel)
  have hload : lenient.load {} [⟨"a", "a.min"⟩, ⟨"b", "b.min"⟩]
      ((twoTexts []).withTrouble tightDisk) =
        (.ok (twoUnits [] tightDisk), (twoUnits [] tightDisk).files) := rfl
  have hforces : lenient.ForcesParse (twoUnits [] tightDisk) layoutAndForce := by
    refine ⟨fun _ h => ?_, fun _ h => ?_, fun _ _ => ?_, fun _ h => ?_, trivial⟩
    · cases h
    · cases h
    · decide +kernel
    · cases h
  have hspares : lenient.invariant.Spares (unitPaths (twoUnits [] tightDisk).copies) :=
    spares_ofPredicate "any" (fun _ _ => true) _
  have hclean : (twoUnits [] tightDisk).files.CleansUp := ⟨by decide, by decide⟩
  have hfree : ∀ c ∈ (lenient.operateAll (twoUnits [] tightDisk) layoutAndForce).copies,
      (twoUnits [] tightDisk).files.fileAt? c.stagedPath = none := by decide +kernel
  obtain ⟨-, hworking, -, -, hstaging, hparsed⟩ := operations_keep_coherence lenient {} _ _ _
    (twoUnits [] tightDisk) layoutAndForce hwellFormed hload (unitsApart_twoUnits tightDisk) hspares
    (by decide)
  refine ⟨by decide +kernel, hworking, fun c hc => ?_, hparsed hforces⟩
  rcases hstaging hclean c hc with hgone | ⟨hsame, -⟩
  · exact hgone
  · exact hsame.trans (hfree c hc)

/-- The working files are different regular files, and no staged file is one of them. -/
def WorkingFilesApart (s : Session σ) : Prop :=
  (∀ c ∈ s.copies, (s.files.fileAt? c.path).isSome = true) ∧
    (∀ c ∈ s.copies, ∀ d ∈ s.copies, c.unit ≠ d.unit → ¬s.files.Coincide leaf? c.path d.path) ∧
    ∀ c ∈ s.copies, ∀ d ∈ s.copies, ¬s.files.Coincide leaf? c.stagedPath d.path

/-- That the working files are apart is not enough. Where the staged files of two units are two
names of one file, the first working file ends up with the text of the second unit; and where a
staged file is a symbolic link, what is staged stays where the link leads if the next text cannot be
staged. -/
theorem operate_through_links :
    (∃ s, (lenient.load {} [⟨"a", "a.min"⟩, ⟨"b", "b.min"⟩] (twoTexts
          [(["w", "a.min.scm-staged"], .file 3), (["w", "b.min.scm-staged"], .file 3)])).1 = .ok s ∧
      WorkingFilesApart s ∧
      let t := lenient.operateAll s [.attempt (.force (.ofList [⟨0, 0, 1⟩]))]
      t.copies.map WorkingCopy.committed = ["", "b;"] ∧
        t.files.held? "a.min" = some (.text "b;")) ∧
    ∃ s, (lenient.load {} [⟨"a", "a.min"⟩, ⟨"b", "b.min"⟩]
        (twoTexts [blocked, (["w", "a.min.scm-staged"], .link "left")])).1 = .ok s ∧
      WorkingFilesApart s ∧ s.files.held? "left" = none ∧
      (lenient.operateAll s [.attempt .cleanup]).files.held? "left" = some (.text "a;\n") := by
  constructor
  · refine ⟨twoUnits [(["w", "a.min.scm-staged"], .file 3), (["w", "b.min.scm-staged"], .file 3)],
      rfl, ?_, ?_, ?_⟩
    · unfold WorkingFilesApart
      decide +kernel
    · decide +kernel
    · decide +kernel
  · refine ⟨twoUnits [blocked, (["w", "a.min.scm-staged"], .link "left")], rfl, ?_, ?_, ?_⟩
    · unfold WorkingFilesApart
      decide +kernel
    · decide +kernel
    · decide +kernel

end SourceReducer
