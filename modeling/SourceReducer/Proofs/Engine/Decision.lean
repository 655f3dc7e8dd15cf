import SourceReducer.Proofs.Engine.Commit
import SourceReducer.Proofs.Engine.Cuts

/-! Sessions whose invariant is a predicate of the texts. Only a fault of the files can end an
attempt with an error; otherwise it is refused because its texts are not acceptable, or they are
committed. -/
namespace SourceReducer

open Files

variable {σ α : Type}

/-- Whether checks of candidates of a language, which are given up after a limit, are decided by a
predicate of the scratch texts and never fail, and nothing else that the invariant does fails. -/
structure Invariant.DecidesIn (i : Invariant σ) (language : Language) (limit : Option Nat)
    (P : List String → Bool) : Prop where
  verdict : ∀ candidate state files, candidate.language = language →
    (i.check limit candidate state files).verdict = .ok (.ofBool (P candidate.texts))
  files : ∀ candidate state files, (i.check limit candidate state files).files = files
  prepare : ∀ candidate state, ∃ prepared, i.prepare candidate state = .ok prepared
  statistics : ∀ state, ∃ text, i.statistics state = .ok text

/-- The same for candidates of all languages. -/
def Invariant.Decides (i : Invariant σ) (limit : Option Nat) (P : List String → Bool) : Prop :=
  ∀ language, i.DecidesIn language limit P

/-- Whether a predicate of texts only depends on the tokens of each. -/
def TokensDecide (P : List String → Bool) : Prop :=
  ∀ texts texts' : List String,
    texts.map (fun text => Statement.lexemes text.toList) =
      texts'.map (fun text => Statement.lexemes text.toList) → P texts = P texts'

/-- Whether an engine for statements has an invariant that a predicate of the tokens decides. -/
structure Engine.Decided (e : Engine σ) (P : List String → Bool) : Prop where
  language : e.language = Statement.language
  decides : e.invariant.DecidesIn e.language e.limit P
  tokens : TokensDecide P

theorem Engine.Decided.ofStatements {e : Engine σ} {P : List String → Bool} (he : e.Decided P) :
    e.language.OfStatements :=
  he.language ▸ Statement.ofStatements_language

/-- Whether a fault of a file ended something. -/
def FileFailed (outcome : Except Failure α) : Prop :=
  ∃ path fault, outcome = .error (.file path fault)

/-- Texts parse if others with the same tokens do. -/
theorem parses_congr {texts texts' : List String}
    (h : texts.map (fun text => Statement.lexemes text.toList) =
      texts'.map fun text => Statement.lexemes text.toList)
    (hparses : ∀ text ∈ texts, (Statement.parse text).isOk = true) :
    ∀ text ∈ texts', (Statement.parse text).isOk = true := by
  intro text' htext'
  have hmem : Statement.lexemes text'.toList ∈
      texts.map fun text => Statement.lexemes text.toList := by
    rw [h]
    exact List.mem_map_of_mem htext'
  obtain ⟨text, htext, hsame⟩ := List.mem_map.1 hmem
  obtain ⟨tree, hparse⟩ := Statement.exists_parse (hparses text htext)
  obtain ⟨tree', hparse'⟩ := Statement.parse_congr hsame hparse
  rw [hparse']
  rfl

/-- What keeps the tokens of acceptable texts keeps them acceptable. -/
theorem accepted_congr {P : List String → Bool} (hP : TokensDecide P) {texts texts' : List String}
    (h : texts.map (fun text => Statement.lexemes text.toList) =
      texts'.map fun text => Statement.lexemes text.toList)
    (haccepted : Accepted Statement.language P texts) : Accepted Statement.language P texts' :=
  ⟨(hP texts texts' h).symm.trans haccepted.1, parses_congr h haccepted.2⟩

theorem strip_canonical {text : String} {tree : Tree} (hparse : Statement.parse text = .ok tree)
    (hcanonical : Statement.reformat text = text) : stripBlankLines text = text := by
  obtain ⟨items, hread, -⟩ := Statement.parse_eq_ok_iff.1 hparse
  have hstrip := Statement.stripBlankLines_reformat hread
  rwa [hcanonical] at hstrip

/-! Only files fail while texts are committed. -/

theorem stageFrom_fileFailed {earlier : List Staged} {copies : List WorkingCopy} {f g : Files}
    {failure : Failure} (h : stageFrom earlier copies f = (.error failure, g)) :
    ∃ path fault, failure = .file path fault := by
  induction copies generalizing earlier f with
  | nil => simp [stageFrom] at h
  | cons c copies ih =>
    unfold stageFrom WorkingCopy.stage at h
    rcases hwrite : f.riskWrite c.stagedPath (.text c.scratch) with ⟨fault | _, written⟩
    · simp only [hwrite, orDiscard, Prod.mk.injEq, Except.error.injEq] at h
      exact ⟨_, fault, h.1.symm⟩
    · simp only [hwrite, orDiscard] at h
      exact ih h

theorem promoteAll_fileFailed {copies promoted : List WorkingCopy} {staged : List Staged}
    {trees : List (Option Tree)} {f g : Files} {failure : Failure}
    (h : promoteAll copies staged trees f = (.error failure, promoted, g)) :
    ∃ path fault, failure = .file path fault := by
  induction copies generalizing staged trees f promoted with
  | nil => simp [promoteAll] at h
  | cons c copies ih =>
    rcases staged with _ | ⟨first, staged⟩
    · simp [promoteAll] at h
    · rcases trees with _ | ⟨tree?, trees⟩
      · simp [promoteAll] at h
      · unfold promoteAll WorkingCopy.promote at h
        rcases hrename : f.riskRename first.path first.target with ⟨fault | _, renamed⟩
        · simp only [hrename, Prod.mk.injEq, Except.error.injEq] at h
          exact ⟨_, fault, h.1.symm⟩
        · rcases hrest : promoteAll copies staged trees renamed with ⟨outcome, others, final⟩
          simp only [hrename, hrest, Prod.mk.injEq] at h
          obtain ⟨rfl, -, rfl⟩ := h
          exact ih hrest

theorem Engine.install_cases (p : Session σ) (trees : List (Option Tree)) :
    FileFailed (Engine.install p trees).1 ∨
      ∃ staged written copies files, stageAll p.copies p.files = (.ok staged, written) ∧
        promoteAll p.copies staged trees written = (.ok (), copies, files) ∧
        Engine.install p trees = (.ok (), installed p copies files) := by
  rcases hstage : stageAll p.copies p.files with ⟨failure | staged, written⟩
  · obtain ⟨path, fault, rfl⟩ := stageFrom_fileFailed hstage
    exact .inl ⟨path, fault, by rw [install_of_error hstage]⟩
  · rcases hpromote : promoteAll p.copies staged trees written with ⟨failure | _, copies, files⟩
    · obtain ⟨path, fault, rfl⟩ := promoteAll_fileFailed hpromote
      refine .inl ⟨path, fault, ?_⟩
      simp only [install, hstage, hpromote]
    · exact .inr ⟨staged, written, copies, files, rfl, hpromote, install_of_ok hstage hpromote⟩

/-! Sound sessions. -/

/-- Whether the committed texts of a session at given sites parse to its trees and satisfy a
predicate, and the files are in order: since the session was loaded into a store they only grew, or
something was committed and no staged file is there. After another commit the working files hold the
committed texts. -/
structure Sound (base : Files) (sites : List (String × String)) (P : List String → Bool)
    (s : Session σ) : Prop extends Session.Tracked s where
  paths : s.copies.map WorkingCopy.paths = sites
  holds : P (s.copies.map WorkingCopy.committed) = true
  grown : s.stats.commits = 0 → Grown base s.files
  tidy : 0 < s.stats.commits → Tidy base sites s.files
  settled : 1 < s.stats.commits → ∀ c ∈ s.copies, s.files.readText c.path = .ok c.committed

namespace Sound

variable {base : Files} {sites : List (String × String)} {P : List String → Bool}
  {s t p : Session σ}

theorem accepted (h : Sound base sites P s) : Accepted Statement.language P s.committed :=
  ⟨h.holds, h.parses⟩

theorem of_sameCommitted (h : Sound base sites P s) (hst : s.SameCommitted t)
    (hfiles : t.files = s.files) : Sound base sites P t where
  toTracked := h.toTracked.of_sameCommitted hst
  paths := hst.paths.trans h.paths
  holds := by
    rw [committed_of_sameCommitted hst]
    exact h.holds
  grown hcommits := hfiles ▸ h.grown (hst.commits ▸ hcommits)
  tidy hcommits := hfiles ▸ h.tidy (hst.commits ▸ hcommits)
  settled hcommits c hc := by
    obtain ⟨d, hd, hdc⟩ := hst.symm.mem_copies hc
    rw [hfiles, ← (paths_of_rollback hdc).1, ← (committed_of_rollback hdc).1]
    exact h.settled (hst.commits ▸ hcommits) d hd

theorem commit (h : Sound base sites P p) (hapart : SitesApart base sites)
    (tree? : WorkingCopy → Option Tree) {staged : List Staged} {written files : Files}
    {copies : List WorkingCopy} (hstage : stageAll p.copies p.files = (.ok staged, written))
    (hpromote : promoteAll p.copies staged (p.copies.map tree?) written = (.ok (), copies, files)) :
    copies = p.copies.map (fun c => c.promoted (tree? c)) ∧ Tidy base sites files ∧
      (0 < p.stats.commits → ∀ c ∈ p.copies, files.readText c.path = .ok c.scratch) := by
  by_cases hcommits : p.stats.commits = 0
  · rw [← h.paths] at hapart ⊢
    obtain ⟨hcopies, htidy⟩ := hapart.commit (h.grown hcommits) tree? hstage hpromote
    exact ⟨hcopies, htidy, fun hpos => by omega⟩
  · have htidy := h.tidy (by omega)
    rw [← h.paths] at htidy ⊢
    obtain ⟨hcopies, htidy', hread⟩ := htidy.commit tree? hstage hpromote
    exact ⟨hcopies, htidy', fun _ => hread⟩

/-- Acceptable scratch texts are committed, unless a file fails. -/
theorem install (h : Sound base sites P p) (hapart : SitesApart base sites)
    (haccepted : Accepted Statement.language P p.texts) :
    let after := Engine.install p
      (p.copies.map fun c => (c.parseScratch Statement.language).toOption)
    FileFailed after.1 ∨
      after.1 = .ok () ∧ Sound base sites P after.2 ∧
        after.2.copies.map WorkingCopy.committed = p.texts ∧
        after.2.stats.commits = p.stats.commits + 1 := by
  intro after
  rcases Engine.install_cases p
      (p.copies.map fun c => (c.parseScratch Statement.language).toOption) with
    hfailed | ⟨staged, written, copies, files, hstage, hpromote, hinstall⟩
  · exact .inl hfailed
  · obtain ⟨rfl, htidy, hread⟩ := h.commit hapart _ hstage hpromote
    have hafter : after = _ := hinstall
    have htexts : after.2.copies.map WorkingCopy.committed = p.texts := by
      rw [hafter]
      simp only [Engine.installed, Session.replaceForest, List.map_map]
      rfl
    refine .inr ⟨by rw [hafter], ?_, htexts, by rw [hafter]; rfl⟩
    rw [hafter] at htexts ⊢
    refine ⟨⟨rfl, ?_⟩, ?_, ?_, ?_, fun _ => htidy, ?_⟩
    · intro d hd
      obtain ⟨c, hc, rfl⟩ := List.mem_map.1 hd
      exact parse_promoted (haccepted.2 c.scratch (List.mem_map_of_mem hc))
    · rw [← h.paths]
      simp only [Engine.installed, Session.replaceForest, List.map_map]
      rfl
    · rw [htexts]
      exact haccepted.1
    · intro hcommits
      simp [Engine.installed, Session.replaceForest] at hcommits
    · intro hcommits d hd
      obtain ⟨c, hc, rfl⟩ := List.mem_map.1 hd
      exact hread (by simpa [Engine.installed, Session.replaceForest] using hcommits) c hc

end Sound

/-! Attempts. -/

namespace Engine

variable {base : Files} {sites : List (String × String)} {P : List String → Bool} {e : Engine σ}
  {s : Session σ}

/-- What an attempt comes to that the invariant decides. -/
theorem attempt_decided (he : e.Decided P) (hapart : SitesApart base sites)
    (hs : Sound base sites P s) {a : Attempt} (ha : a.isChecked = true) :
    FileFailed (e.attempt a s).1 ∨
      (∃ reason, (e.attempt a s).1 = .ok (.failed reason) ∧ s.SameCommitted (e.attempt a s).2 ∧
        (e.attempt a s).2.files = s.files ∧
        ((∃ nodes, a = .remove nodes ∧ (s.forest.partition nodes).matched = 0) ∨
          ¬Accepted Statement.language P (e.proposal a s).texts)) ∨
      (e.attempt a s).1 = .ok .proceed ∧ Sound base sites P (e.attempt a s).2 ∧
        Accepted Statement.language P (e.proposal a s).texts ∧
        (e.attempt a s).2.copies.map WorkingCopy.committed = (e.proposal a s).texts ∧
        (e.attempt a s).2.stats.commits = s.stats.commits + 1 := by
  have hprop := e.sameCommitted_proposal a hs.unitCount
  have hverdict : (e.check (e.proposal a s)).1 = .ok (.ofBool (P (e.proposal a s).texts)) :=
    he.decides.verdict _ _ _ rfl
  have hfiles : (e.check (e.proposal a s)).2.files = s.files :=
    (he.decides.files _ _ _).trans (e.files_proposal a s)
  have hcheck := hprop.trans (e.sameCommitted_check (e.proposal a s))
  rcases e.attempt_cases a s with ⟨nodes, rfl, hmatched, hattempt⟩ | ⟨-, -, hattempt⟩ |
      ⟨nodes, rfl, -⟩
  · rw [hattempt]
    refine .inr (.inl ⟨_, rfl, ⟨s.sameCommitted_rollback.copies, rfl, rfl, rfl⟩, rfl, ?_⟩)
    exact .inl ⟨nodes, rfl, hmatched⟩
  · rcases e.attemptCommit_cases (e.proposal a s) with ⟨failure, hfailure, -⟩ |
        ⟨reason, hwhy, hcommit⟩ | ⟨trees, hholds, hparse, hcommit⟩
    · simp [hverdict] at hfailure
    · rw [hattempt, hcommit]
      refine .inr (.inl ⟨reason, rfl, hcheck.trans (sameCommitted_reject _ reason), hfiles,
        .inr ?_⟩)
      rintro ⟨hP, hparses⟩
      obtain ⟨c, hc, hfails⟩ := hwhy (by rw [hverdict, hP]; rfl)
      rw [WorkingCopy.parseScratch, he.language] at hfails
      have hok := hparses c.scratch (List.mem_map_of_mem hc)
      exact absurd (hfails.symm.trans hok) (by simp)
    · rw [he.language] at hparse
      obtain ⟨htrees, hok⟩ := parseAll_eq_ok hparse
      have hcopies : (e.check (e.proposal a s)).2.copies = (e.proposal a s).copies := rfl
      have hP : P (e.proposal a s).texts = true := by
        rw [hverdict] at hholds
        cases hp : P (e.proposal a s).texts with
        | true => rfl
        | false => simp [hp, Verdict.ofBool] at hholds
      have haccepted : Accepted Statement.language P (e.proposal a s).texts := by
        refine ⟨hP, fun text htext => ?_⟩
        obtain ⟨c, hc, rfl⟩ := List.mem_map.1 htext
        exact hok c hc
      rw [hattempt, hcommit, htrees, ← hcopies]
      rcases (hs.of_sameCommitted hcheck hfiles).install hapart haccepted with
        ⟨path, fault, hfault⟩ | ⟨hdone, hsound, htexts, hcommits⟩
      · exact .inl ⟨path, fault, by rw [hfault]; rfl⟩
      · refine .inr (.inr ⟨by rw [hdone]; rfl, hsound, haccepted, htexts, ?_⟩)
        rw [hcommits, hcheck.commits]
  · simp [Attempt.isChecked] at ha

/-! Layout. -/

/-- Laying sound texts out anew is not refused. -/
theorem cleanup_decided (he : e.Decided P) (hapart : SitesApart base sites)
    (hs : Sound base sites P s) :
    FileFailed (e.cleanup s).1 ∨
      (e.cleanup s).1 = .ok .proceed ∧ Sound base sites P (e.cleanup s).2 ∧
        (e.cleanup s).2.copies.map WorkingCopy.committed =
          (s.copies.map WorkingCopy.committed).map Statement.reformat ∧
        (e.cleanup s).2.stats.commits = s.stats.commits + 1 := by
  have htexts := e.texts_proposal_cleanup he.ofStatements s
  have haccepted : Accepted Statement.language P (e.proposal .cleanup s).texts := by
    refine accepted_congr he.tokens ?_ hs.accepted
    simp [htexts, Function.comp_def, Statement.lexemes_reformat]
  rcases attempt_decided (a := .cleanup) he hapart hs rfl with
    hfailed | ⟨reason, -, -, -, ⟨nodes, hnodes, -⟩ | hnot⟩ |
    ⟨hdone, hsound, -, hcommitted, hcommits⟩
  · exact .inl hfailed
  · cases hnodes
  · exact absurd haccepted hnot
  · exact .inr ⟨hdone, hsound, hcommitted.trans htexts, hcommits⟩

/-- Stripping the blank lines of a unit changes nothing where the texts are laid out. -/
theorem strip_decided (he : e.Decided P) (hapart : SitesApart base sites)
    (hs : Sound base sites P s)
    (hcanonical : ∀ c ∈ s.copies, Statement.reformat c.committed = c.committed) (unit : Nat) :
    FileFailed (e.stripUnit unit s).1 ∨
      (e.stripUnit unit s).1 = .ok .proceed ∧ Sound base sites P (e.stripUnit unit s).2 ∧
        (e.stripUnit unit s).2.copies.map WorkingCopy.committed =
          s.copies.map WorkingCopy.committed ∧
        (e.stripUnit unit s).2.stats.commits = s.stats.commits + 1 := by
  have htexts : (e.proposal (.strip unit) s).texts = s.copies.map WorkingCopy.committed := by
    refine List.ext_getElem? fun k => ?_
    simp only [Session.texts, proposal, Session.rollback, List.getElem?_map, List.getElem?_modify,
      he.language]
    cases hc : s.copies[k]? with
    | none => rfl
    | some c =>
      have hmem := List.mem_of_getElem? hc
      have hstrip : Statement.language.stripBlank c.committed = c.committed :=
        strip_canonical (hs.parsed c hmem) (hcanonical c hmem)
      by_cases hunit : unit = k
      · simpa [hunit, WorkingCopy.strip] using hstrip
      · simp [hunit]
  rcases attempt_decided (a := .strip unit) he hapart hs rfl with
    hfailed | ⟨reason, -, -, -, ⟨nodes, hnodes, -⟩ | hnot⟩ |
    ⟨hdone, hsound, -, hcommitted, hcommits⟩
  · exact .inl hfailed
  · cases hnodes
  · exact absurd (htexts ▸ hs.accepted) hnot
  · exact .inr ⟨hdone, hsound, hcommitted.trans htexts, hcommits⟩

end Engine

end SourceReducer
