import SourceReducer.Proofs.Engine.Acceptance
import SourceReducer.Proofs.Engine.Outset
import SourceReducer.Proofs.Files.Thinning

/-! The inputs of a run. Loading and promoting change what the outputs name, and these lead to other
files than the inputs; but a text is staged wherever the path of the staged file leads. As long as
no staged file is a symbolic link or a name of a file that an input leads to, every input that could
be read holds what it held, whatever comes of loading and of the run. -/
namespace SourceReducer

open Files

variable {σ τ : Type}

/-! Files that units keep away from. -/

/-- Whether the files with some numbers are out of the way of sites: no working file leads to one of
them, and no staged file is a link or names one of them. -/
structure Sheltered (base : Files) (sites : List (String × String)) (guarded : Nat → Prop) :
    Prop where
  bound : ∀ id, guarded id → id < base.contents.size
  leaf : ∀ x ∈ sites, IsLeaf (base.find x.1)
  working : ∀ x ∈ sites, ∀ loc id, guarded id → base.find x.1 ≠ .ok (.file loc id)
  unlinked : ∀ x ∈ sites, base.Unlinked x.2
  staged : ∀ x ∈ sites, ∀ id, guarded id → base.fileAt? x.2 ≠ some id

/-- Whether a store has the guarded files of an earlier one under the names they had, and only links
at working files are gone. -/
structure Guarding (base : Files) (sites : List (String × String)) (guarded : Nat → Prop)
    (f : Files) : Prop where
  thinned : Thinned base (sites.map fun x => base.placeAt x.1) f
  wellFormed : f.WellFormed
  size_le : base.contents.size ≤ f.contents.size
  entry? : ∀ loc id, guarded id →
    (f.entry? loc = some (.file id) ↔ base.entry? loc = some (.file id))
  content : ∀ id, guarded id → f.contents[id]? = base.contents[id]?

section Guard

variable {base f g : Files} {sites : List (String × String)} {guarded : Nat → Prop}
  {x : String × String}

theorem Sheltered.slot?_working (h : Sheltered base sites guarded) (hx : x ∈ sites) :
    base.slot? x.1 = some (base.placeAt x.1) := by
  obtain ⟨loc, hloc⟩ := slot?_of_isLeaf (h.leaf x hx)
  simp [placeAt, hloc]

theorem Sheltered.blind (h : Sheltered base sites guarded) :
    ∀ loc ∈ sites.map (fun x => base.placeAt x.1), base.Blind loc := by
  intro loc hloc
  obtain ⟨x, hx, rfl⟩ := List.mem_map.1 hloc
  exact blind_of_isLeaf (h.slot?_working hx) (h.leaf x hx)

namespace Guarding

/-- While the store only grows, the guarded files are as they were if they hold what they held. -/
theorem of_grown (hbound : ∀ id, guarded id → id < base.contents.size) (hf : Grown base f)
    (hcontent : ∀ id, guarded id → f.contents[id]? = base.contents[id]?) :
    Guarding base sites guarded f where
  thinned := .of_sameWays hf.ways _
  wellFormed := hf.wellFormed
  size_le := hf.size_le
  entry? loc id hid := by
    refine ⟨fun hentry => ?_, hf.kept loc id⟩
    rcases hf.fresh loc id hentry with hold | hnew
    · exact hold
    · exact absurd (hbound id hid) (Nat.not_lt.2 hnew)
  content := hcontent

variable (h : Sheltered base sites guarded) (hf : Guarding base sites guarded f)

include h hf

/-- A path that leads to a guarded file still does. -/
theorem find_file {path : String} {loc : Location} {id : Nat} (hid : guarded id)
    (hfind : base.find path = .ok (.file loc id)) : f.find path = .ok (.file loc id) := by
  refine hf.thinned.find_file h.blind ((hf.entry? loc id hid).2 (stands_resolve hfind).2) ?_ hfind
  intro around name target links hmem hentry htarget
  obtain ⟨x, hx, hplace⟩ := List.mem_map.1 hmem
  have hslot : base.slot? x.1 = some (around ++ [name]) :=
    (h.slot?_working hx).trans (by rw [hplace])
  exact h.working x hx loc id hid (find_of_target hslot hentry (h.leaf x hx) htarget)

theorem read_eq {path : String} {loc : Location} {id : Nat} {content : Content} (hid : guarded id)
    (hfind : base.find path = .ok (.file loc id)) (hread : base.read path = .ok content) :
    f.read path = .ok content := by
  obtain ⟨loc', id', hfind', rfl⟩ := read_eq_ok.1 hread
  obtain ⟨rfl, rfl⟩ : loc = loc' ∧ id = id' := by simpa [hfind] using hfind'
  exact read_eq_ok.2 ⟨loc, id, hf.find_file h hid hfind, by rw [hf.content id hid]⟩

theorem unlinked (hx : x ∈ sites) : f.Unlinked x.2 :=
  hf.thinned.unlinked h.blind (h.unlinked x hx)

/-- No staged file comes to name a guarded one. -/
theorem fileAt?_ne (hx : x ∈ sites) {id : Nat} (hid : guarded id) : f.fileAt? x.2 ≠ some id := by
  intro hfile
  obtain ⟨loc, hres⟩ := resolve_of_fileAt? hfile
  have hslot : base.slot? x.2 = some loc := by
    rw [← hf.thinned.slot?_eq h.blind, slot?, hres]
    rfl
  have hentry := (hf.entry? loc id hid).1 (stands_resolve hres).2
  exact h.staged x hx id hid (by simp [fileAt?, resolve_of_slot?_file hslot hentry])

/-- A change at staged files changes no guarded file. -/
theorem changed {paths : List String} (hg : Changed paths f g)
    (hpaths : ∀ p ∈ paths, ∃ x ∈ sites, p = x.2) : Guarding base sites guarded g := by
  have hfree : ∀ p ∈ paths, ∀ id, guarded id → f.fileAt? p ≠ some id := by
    intro p hp id hid
    obtain ⟨x, hx, rfl⟩ := hpaths p hp
    exact hf.fileAt?_ne h hx hid
  refine ⟨hf.thinned.trans_sameWays hg.ways, hg.wellFormed,
    Nat.le_trans hf.size_le hg.size_le, ?_, ?_⟩
  · intro loc id hid
    rw [← hf.entry? loc id hid]
    by_cases hloc : ∃ p ∈ paths, f.leaf? p = some loc
    · -- the place of a staged file has no guarded file, before and after
      obtain ⟨p, hp, hleaf⟩ := hloc
      constructor
      · intro hentry
        have hfile : g.fileAt? p = some id :=
          fileAt?_eq_some.2 ⟨loc, (hg.leaf? p).trans hleaf, hentry⟩
        rcases hg.named p hp id hfile with hnew | ⟨q, hq, hold⟩
        · have := Nat.lt_of_lt_of_le (h.bound id hid) hf.size_le
          omega
        · exact absurd hold (hfree q hq id hid)
      · intro hentry
        exact absurd (fileAt?_eq_some.2 ⟨loc, hleaf, hentry⟩) (hfree p hp id hid)
    · have hkept := hg.entry? loc fun p hp hleaf => hloc ⟨p, hp, hleaf⟩
      rw [hkept]
  · intro id hid
    rw [hg.content id (Nat.lt_of_lt_of_le (h.bound id hid) hf.size_le)
      fun p hp => hfree p hp id hid]
    exact hf.content id hid

/-- Renaming a staged file to its working file moves no guarded file and replaces none. -/
theorem rename (hx : x ∈ sites) {a : Location} (hslot : base.slot? x.2 = some a)
    (hrename : f.riskRename x.2 x.1 = (.ok (), g)) : Guarding base sites guarded g := by
  have hmem : base.placeAt x.1 ∈ sites.map fun x => base.placeAt x.1 :=
    List.mem_map.2 ⟨x, hx, rfl⟩
  have hpathSlot : base.slot? x.1 = some (base.placeAt x.1) := h.slot?_working hx
  have hstagedSlot : f.slot? x.2 = some a := (hf.thinned.slot?_eq h.blind _).trans hslot
  obtain ⟨entry, hentry, -, ⟨-, -, -, rfl⟩ | ⟨hcontents, hhere, hmoved⟩⟩ :=
    moved_of_riskRename hstagedSlot ((hf.thinned.slot?_eq h.blind _).trans hpathSlot) hrename
  · exact hf.changed h (changed_withTrouble [] hf.wellFormed) (by simp)
  -- what is moved is a file
  obtain ⟨id₀, rfl, hfile⟩ : ∃ id, entry = .file id ∧ f.fileAt? x.2 = some id := by
    obtain ⟨-, ⟨id, hid, hres⟩ | ⟨target, -, hres⟩ | ⟨hnone, -⟩⟩ := resolve_of_slot? hstagedSlot
    · exact ⟨id, Option.some.inj (hentry.symm.trans hid), by simp [fileAt?, hres]⟩
    · exact absurd hres (hf.unlinked h hx a target)
    · simp [hnone] at hentry
  have hid₀ : ¬guarded id₀ := fun hid => hf.fileAt?_ne h hx hid hfile
  refine ⟨⟨hhere.trans hf.thinned.here, fun loc => ?_⟩, ?_, hcontents ▸ hf.size_le, ?_, ?_⟩
  · by_cases hb : loc = base.placeAt x.1
    · exact .inr ⟨hb ▸ hmem, way?_of_file ((hmoved loc).trans (if_pos hb))⟩
    · have hway : g.way? loc = f.way? loc := by
        by_cases ha : loc = a
        · have hgone : g.entry? loc = none := by rw [hmoved, if_neg hb, if_pos ha]
          rw [way?_of_none hgone, ha, way?_of_file hentry]
        · simp only [way?, hmoved, if_neg hb, if_neg ha]
      rw [hway]
      exact hf.thinned.way? loc
  · intro loc id hid
    rw [hcontents]
    rw [hmoved] at hid
    split at hid
    · cases hid
      exact hf.wellFormed a id₀ hentry
    · split at hid
      · cases hid
      · exact hf.wellFormed loc id hid
  · intro loc id hid
    rw [hmoved]
    split
    · next hb =>
      constructor
      · intro heq
        cases heq
        exact absurd hid hid₀
      · intro hold
        subst hb
        have hres := resolve_of_slot?_file hpathSlot hold
        exact absurd ((find_eq_resolve (by simp [hres])).trans hres) (h.working x hx _ id hid)
    · split
      · next ha =>
        subst ha
        constructor
        · intro heq
          cases heq
        · intro hold
          exact absurd (by simp [fileAt?, resolve_of_slot?_file hslot hold]) (h.staged x hx id hid)
      · exact hf.entry? loc id hid
  · intro id hid
    rw [hcontents]
    exact hf.content id hid

end Guarding

end Guard

/-! Installing. -/

namespace Guarding

variable {base f : Files} {sites : List (String × String)} {guarded : Nat → Prop}
  {copies : List WorkingCopy} (h : Sheltered base sites guarded)

include h

theorem stageAll (hf : Guarding base sites guarded f) (hcopies : ∀ c ∈ copies, c.paths ∈ sites) :
    Guarding base sites guarded (SourceReducer.stageAll copies f).2 := by
  have hlink : ∀ p ∈ copies.map WorkingCopy.stagedPath, f.Unlinked p := by
    intro p hp
    obtain ⟨c, hc, rfl⟩ := List.mem_map.1 hp
    exact hf.unlinked (x := c.paths) h (hcopies c hc)
  have hsites {part : List WorkingCopy} (hsub : part ⊆ copies) :
      ∀ p ∈ part.map WorkingCopy.stagedPath, ∃ x ∈ sites, p = x.2 := by
    intro p hp
    obtain ⟨c, hc, rfl⟩ := List.mem_map.1 hp
    exact ⟨c.paths, hcopies c (hsub hc), rfl⟩
  rcases hstage : SourceReducer.stageAll copies f with ⟨failure | staged, g⟩
  · obtain ⟨done, c, rest, rfl, hchanged, -⟩ := stageFrom_error hf.wellFormed
      (by simpa using hlink) hstage
    simp only [List.map_nil, List.nil_append] at hchanged
    rcases hchanged with hnone | ⟨hpart, -⟩
    · exact hf.changed h hnone (hsites (by simp))
    · exact hf.changed h hpart (hsites (by simp))
  · have hstaged := stageFrom_changed hf.wellFormed
      (fun c hc => hlink _ (List.mem_map_of_mem hc)) hstage
    exact hf.changed h hstaged (hsites (List.Subset.refl _))

theorem promoteAll (hf : Guarding base sites guarded f)
    (hcopies : ∀ c ∈ copies, c.paths ∈ sites ∧ ∃ a, base.slot? c.stagedPath = some a)
    (trees : List (Option Tree)) :
    Guarding base sites guarded
      (SourceReducer.promoteAll copies (copies.map fun c => ⟨c.stagedPath, c.path⟩)
        trees f).2.2 := by
  induction copies generalizing f trees with
  | nil => exact hf
  | cons c copies ih =>
    cases trees with
    | nil => exact hf
    | cons tree? trees =>
      rw [List.map_cons, SourceReducer.promoteAll]
      rcases f.riskRename_cases c.stagedPath c.path with ⟨renamed, -, hrename⟩ | ⟨fault, -, hrename⟩
      · have hpromote : c.promote f ⟨c.stagedPath, c.path⟩ tree? =
            .ok (c.promoted tree?, renamed) := promote_eq_ok tree? hrename
        simp only [hpromote]
        obtain ⟨hsite, a, hslot⟩ := hcopies c (by simp)
        exact ih (hf.rename h hsite hslot hrename) (fun d hd => hcopies d (by simp [hd])) trees
      · obtain ⟨hpromote, hleft⟩ := promote_eq_error c ⟨c.stagedPath, c.path⟩ tree? hrename
        simp only [hpromote, hleft]
        exact hf.changed h (changed_withTrouble [] hf.wellFormed) (by simp)

/-- Installing texts changes no guarded file, whether or not it goes through. -/
theorem install {s : Session σ} (hs : Guarding base sites guarded s.files)
    (hcopies : ∀ c ∈ s.copies, c.paths ∈ sites) (trees : List (Option Tree)) :
    Guarding base sites guarded (Engine.install s trees).2.files := by
  have hstaged := hs.stageAll h hcopies
  unfold Engine.install
  rcases hstage : SourceReducer.stageAll s.copies s.files with ⟨failure | staged, written⟩
  · rw [hstage] at hstaged
    exact hstaged
  · have hpaths := stageFrom_staged hstage
    obtain ⟨-, hfound⟩ := stageFrom_grown hs.wellFormed hstage
    rw [List.nil_append] at hpaths
    simp only [hstage] at hstaged
    have hslots : ∀ c ∈ s.copies, c.paths ∈ sites ∧ ∃ a, base.slot? c.stagedPath = some a := by
      intro c hc
      obtain ⟨loc, id, hfind⟩ := hfound c hc
      have hlink : written.Unlinked c.stagedPath := hstaged.unlinked (x := c.paths) h (hcopies c hc)
      rw [find_eq_resolve hlink] at hfind
      refine ⟨hcopies c hc, loc, ?_⟩
      rw [← hstaged.thinned.slot?_eq h.blind, slot?, hfind]
      rfl
    have hpromoted := hstaged.promoteAll h hslots trees
    rw [← hpaths] at hpromoted
    rcases hpromote : SourceReducer.promoteAll s.copies staged trees written with
      ⟨failure | _, after, g⟩
    all_goals
      rw [hpromote] at hpromoted
      simp only [hpromote]
      exact hpromoted

end Guarding

/-! Histories. -/

/-- Whether checks change no file. -/
def Invariant.KeepsFiles (i : Invariant σ) : Prop :=
  ∀ limit candidate state files, (i.check limit candidate state files).files = files

namespace Engine

variable {base : Files} {sites : List (String × String)} {guarded : Nat → Prop} {e : Engine σ}
  {s t : Session σ}

theorem files_check (hchecks : e.invariant.KeepsFiles) (a : Attempt) (s : Session σ) :
    (e.check (e.proposal a s)).2.files = s.files :=
  (hchecks _ _ _ _).trans (e.files_proposal a s)

theorem filesSeen_eq (hchecks : e.invariant.KeepsFiles) (a : Attempt) (s : Session σ) :
    e.filesSeen a s = s.files := by
  have hfiles := files_check hchecks a s
  cases a with
  | remove nodes => simp only [filesSeen, hfiles, ite_self]
  | cleanup => exact hfiles
  | strip unit => exact hfiles
  | force nodes => rfl

theorem guarding_attempt (h : Sheltered base sites guarded) (hchecks : e.invariant.KeepsFiles)
    (a : Attempt) (hs : Guarding base sites guarded s.files)
    (hunits : s.forest.unitCount = s.copies.length)
    (hpaths : s.copies.map WorkingCopy.paths = sites) :
    Guarding base sites guarded (e.attempt a s).2.files := by
  have hcopies : ∀ c ∈ (e.proposal a s).copies, c.paths ∈ sites := by
    intro c hc
    rw [← hpaths, ← (e.sameCommitted_proposal a hunits).paths]
    exact List.mem_map_of_mem hc
  have hchecked : Guarding base sites guarded (e.check (e.proposal a s)).2.files :=
    (files_check hchecks a s).symm ▸ hs
  rcases e.attempt_cases a s with
    ⟨nodes, -, -, hattempt⟩ | ⟨-, -, hattempt⟩ | ⟨nodes, rfl, hattempt⟩
  · rw [hattempt]
    exact hs
  · rw [hattempt]
    rcases e.attemptCommit_cases (e.proposal a s) with
      ⟨failure, -, hcommit⟩ | ⟨reason, -, hcommit⟩ | ⟨trees, -, -, hcommit⟩
    · rw [hcommit]
      exact hchecked
    · rw [hcommit]
      exact hchecked
    · rw [hcommit]
      exact hchecked.install h hcopies _
  · have hproposed : Guarding base sites guarded (e.proposal (.force nodes) s).files :=
      (e.files_proposal _ s).symm ▸ hs
    have hinstall := hproposed.install h hcopies ((e.proposal (.force nodes) s).copies.map
      fun c => (c.parseScratch e.language).toOption)
    rw [hattempt]
    split <;> next heq => simpa only [heq] using hinstall

/-- Along a history in which nothing else touches files the guarded ones are as they were. -/
theorem History.guarding {start : Session σ} {log : List (Attempt × Session σ)}
    (hlog : e.History (fun f g => g = f) start log t) (h : Sheltered base sites guarded)
    (hchecks : e.invariant.KeepsFiles) (hunits : start.forest.unitCount = start.copies.length)
    (hpaths : start.copies.map WorkingCopy.paths = sites)
    (hstart : Guarding base sites guarded start.files) :
    Guarding base sites guarded t.files ∧ t.copies.map WorkingCopy.paths = sites := by
  induction hlog with
  | start => exact ⟨hstart, hpaths⟩
  | @attempt log s hs a ih =>
    have hcount := hs.unitCount hunits
    exact ⟨guarding_attempt h hchecks a ih.1 hcount ih.2, (e.paths_attempt a hcount).trans ih.2⟩
  | @aside log s t _ hsame hfiles ih =>
    have heq : t.files = s.files := hfiles.elim id id
    exact ⟨heq ▸ ih.1, hsame.paths.trans ih.2⟩

end Engine

/-! Loading. -/

section Load

variable {base f : Files} {guarded : Nat → Prop} {language : Language} {suffix : String}
  {unit : Nat} {mappings : List FileMapping}

/-- Loading grows the store and changes no file that no output leads to, whatever comes of it. -/
theorem loadFrom_keeps (hbound : ∀ id, guarded id → id < base.contents.size) (hf : Grown base f)
    (hcontent : ∀ id, guarded id → f.contents[id]? = base.contents[id]?)
    (houtput : ∀ m ∈ mappings, ∀ loc id, guarded id → base.find m.output ≠ .ok (.file loc id)) :
    Grown base (loadFrom language suffix unit mappings f).2 ∧
      ∀ id, guarded id →
        (loadFrom language suffix unit mappings f).2.contents[id]? = base.contents[id]? := by
  induction mappings generalizing f unit with
  | nil => exact ⟨hf, hcontent⟩
  | cons m mappings ih =>
    unfold loadFrom
    cases hcopy : f.copy m.input m.output with
    | error fault => exact ⟨hf, hcontent⟩
    | ok copied =>
      obtain ⟨_, _, loc, id', _, -, hwritten, -⟩ := copy_spec hf.wellFormed hcopy
      have hgrown := hf.trans hwritten.grown
      have hkept : ∀ id, guarded id → copied.contents[id]? = base.contents[id]? := by
        intro id hid
        have hne : id ≠ id' := by
          rintro rfl
          exact houtput m List.mem_cons_self loc id hid
            (hgrown.resolve_old hwritten.found (hbound id hid))
        rw [hwritten.others id (Nat.lt_of_lt_of_le (hbound id hid) hf.size_le) hne, hcontent id hid]
      have hrest : Grown base (loadFrom language suffix (unit + 1) mappings copied).2 ∧
          ∀ id, guarded id → (loadFrom language suffix (unit + 1) mappings copied).2.contents[id]? =
            base.contents[id]? := ih hgrown hkept fun m' hm' => houtput m' (by simp [hm'])
      cases hload : WorkingCopy.load language copied unit m.output suffix with
      | error failure =>
        simp only [hload]
        exact ⟨hgrown, hkept⟩
      | ok c =>
        rcases hothers : loadFrom language suffix (unit + 1) mappings copied with
          ⟨failure | others, final⟩
        all_goals
          rw [hothers] at hrest
          simp only [hload, hothers]
          exact hrest

end Load

/-! What a commit writes. -/

section Overwritten

variable {f g : Files} {earlier staged : List Staged} {copies : List WorkingCopy}

theorem stageFrom_contents (hf : f.WellFormed) (h : stageFrom earlier copies f = (.ok staged, g))
    {id : Nat} (hid : id < f.contents.size) :
    g.contents[id]? = f.contents[id]? ∨ ∃ c ∈ copies, g.contents[id]? = some (.text c.scratch) := by
  induction copies generalizing earlier f with
  | nil =>
    simp only [stageFrom, Prod.mk.injEq] at h
    exact .inl (by rw [h.2])
  | cons c copies ih =>
    obtain ⟨written, hwrite, h⟩ := stageFrom_cons_eq_ok h
    obtain ⟨loc, id', hwritten⟩ := riskWrite_spec hf hwrite
    rcases ih hwritten.grown.wellFormed h (Nat.lt_of_lt_of_le hid hwritten.grown.size_le) with
      hsame | ⟨d, hd, htext⟩
    · by_cases hne : id = id'
      · exact .inr ⟨c, by simp, by rw [hsame, hne, hwritten.holds]⟩
      · exact .inl (hsame.trans (hwritten.others id hid hne))
    · exact .inr ⟨d, by simp [hd], htext⟩

/-- A file that a staged path leads to holds one of the texts afterwards. -/
theorem stageFrom_overwrites (hf : f.WellFormed) (h : stageFrom earlier copies f = (.ok staged, g))
    {c : WorkingCopy} (hc : c ∈ copies) {loc : Location} {id : Nat}
    (hfind : f.find c.stagedPath = .ok (.file loc id)) :
    ∃ d ∈ copies, g.contents[id]? = some (.text d.scratch) := by
  induction copies generalizing earlier f with
  | nil => cases hc
  | cons first copies ih =>
    obtain ⟨written, hwrite, h⟩ := stageFrom_cons_eq_ok h
    obtain ⟨loc', id', hwritten⟩ := riskWrite_spec hf hwrite
    have hfound := hwritten.grown.resolve_file hfind
    rcases List.mem_cons.1 hc with rfl | hc
    · obtain ⟨rfl, rfl⟩ : loc' = loc ∧ id' = id := by
        have hsame := hwritten.found
        rw [find, hfound] at hsame
        simpa using hsame.symm
      have hid : id' < written.contents.size :=
        hwritten.grown.wellFormed loc' id' (stands_resolve hfound).2
      rcases stageFrom_contents hwritten.grown.wellFormed h hid with hsame | ⟨d, hd, htext⟩
      · exact ⟨c, by simp, hsame.trans hwritten.holds⟩
      · exact ⟨d, by simp [hd], htext⟩
    · obtain ⟨d, hd, htext⟩ := ih hwritten.grown.wellFormed h hc hfound
      exact ⟨d, by simp [hd], htext⟩

theorem contents_promoteAll (copies : List WorkingCopy) (staged : List Staged)
    (trees : List (Option Tree)) (f : Files) :
    (promoteAll copies staged trees f).2.2.contents = f.contents := by
  fun_induction promoteAll copies staged trees f with
  | case1 copy copies staged rest tree? trees f failure hpromote =>
    exact f.contents_riskRename staged.path staged.target
  | case2 copy copies staged rest tree? trees f promoted renamed hpromote outcome others final hrest
      ih =>
    have hrenamed := f.contents_riskRename staged.path staged.target
    rw [(rename_of_promote hpromote).1] at hrenamed
    rw [hrest] at ih
    exact ih.trans hrenamed
  | case3 => rfl

/-- A file that the staged path of a unit leads to holds one of the scratch texts after a commit. -/
theorem Engine.commit_overwrites {e : Engine σ} {a : Attempt} {s : Session σ}
    (hseen : (e.filesSeen a s).WellFormed) (hcommits : e.commits (a, s) = true) {c : WorkingCopy}
    (hc : c ∈ (e.proposal a s).copies) {loc : Location} {id : Nat}
    (hfind : (e.filesSeen a s).find c.stagedPath = .ok (.file loc id)) :
    ∃ d ∈ (e.proposal a s).copies,
      (e.attempt a s).2.files.contents[id]? = some (.text d.scratch) := by
  have hinstall {p : Session σ} (trees : List (Option Tree))
      (hcopies : p.copies = (e.proposal a s).copies) (hfiles : p.files = e.filesSeen a s)
      (hok : (install p trees).1.isOk = true) :
      ∃ d ∈ (e.proposal a s).copies,
        (install p trees).2.files.contents[id]? = some (.text d.scratch) := by
    rcases hstage : stageAll p.copies p.files with ⟨failure | staged, written⟩
    · rw [install_of_error hstage] at hok
      cases hok
    · have hcontents := contents_promoteAll p.copies staged trees written
      rw [← hcopies] at hc ⊢
      obtain ⟨d, hd, htext⟩ := stageFrom_overwrites (hfiles ▸ hseen) hstage hc (hfiles ▸ hfind)
      refine ⟨d, hd, ?_⟩
      rcases hpromote : promoteAll p.copies staged trees written with ⟨failure | _, after, g⟩
      all_goals
        rw [hpromote] at hcontents
        simp only [install, hstage, hpromote]
        rw [← htext]
        exact congrArg (fun contents => contents[id]?) hcontents
  rcases e.attempt_cases a s with
    ⟨nodes, -, -, hattempt⟩ | ⟨-, hfiles, hattempt⟩ | ⟨nodes, rfl, hattempt⟩
  · simp [commits, hattempt] at hcommits
  · rcases e.attemptCommit_cases (e.proposal a s) with
      ⟨failure, -, hcommit⟩ | ⟨reason, -, hcommit⟩ | ⟨trees, -, -, hcommit⟩
    · simp [commits, hattempt, hcommit] at hcommits
    · simp [commits, hattempt, hcommit, Session.reject] at hcommits
    · rw [hattempt, hcommit]
      refine hinstall (p := (e.check (e.proposal a s)).2) _ rfl hfiles.symm ?_
      cases hresult : (install (e.check (e.proposal a s)).2 (trees.map some)).1 with
      | error failure => simp [commits, hattempt, hcommit, hresult, Except.map] at hcommits
      | ok _ => rfl
  · have hdone := hinstall (p := e.proposal (.force nodes) s)
      ((e.proposal (.force nodes) s).copies.map fun c => (c.parseScratch e.language).toOption)
      rfl (e.files_proposal _ s)
    rw [hattempt]
    split
    · next heq => simp [commits, hattempt, heq] at hcommits
    · next heq =>
      rw [heq] at hdone
      exact hdone rfl

end Overwritten

/-! Inputs. -/

/-- Whether an input leads to the file with a number. -/
def Files.HoldsInput (files : Files) (mappings : List FileMapping) (id : Nat) : Prop :=
  ∃ m ∈ mappings, ∃ loc, files.find m.input = .ok (.file loc id)

/-- Whether no staged file is a symbolic link or a name of a file that an input leads to. -/
def StagedOffInputs (files : Files) (suffix : String) (mappings : List FileMapping) : Prop :=
  ∀ x ∈ sitesFrom suffix 0 mappings, files.Unlinked x.2 ∧
    ∀ id, files.HoldsInput mappings id → files.fileAt? x.2 ≠ some id

/-- Whether every input that could be read can still be read and holds what it held. -/
def InputsIntact (mappings : List FileMapping) (f g : Files) : Prop :=
  ∀ m ∈ mappings, ∀ content, f.read m.input = .ok content → g.read m.input = .ok content

theorem Guarding.inputsIntact {base f : Files} {sites : List (String × String)}
    {mappings : List FileMapping} (h : Sheltered base sites (base.HoldsInput mappings))
    (hf : Guarding base sites (base.HoldsInput mappings) f) : InputsIntact mappings base f := by
  intro m hm content hread
  obtain ⟨loc, id, hfind, -⟩ := read_eq_ok.1 hread
  exact hf.read_eq h ⟨m, hm, loc, hfind⟩ hfind hread

section Inputs

variable {settings : Settings} {mappings : List FileMapping} {files loaded : Files}

theorem holdsInput_lt (hfiles : files.WellFormed) (id : Nat) (h : files.HoldsInput mappings id) :
    id < files.contents.size := by
  obtain ⟨m, -, loc, hfind⟩ := h
  exact hfiles loc id (stands_resolve hfind).2

/-- What the check of the mappings says of the files that inputs lead to. -/
theorem output_off_inputs (hsetup : checkSetup settings mappings files = .ok ()) :
    ∀ m ∈ mappings, ∀ loc id, files.HoldsInput mappings id →
      files.find m.output ≠ .ok (.file loc id) := by
  rintro m hm loc id ⟨other, hother, src, hinput⟩ houtput
  have hsep := (checkSetup_eq_ok hsetup).2.1 m hm other hother
  simp [sameFile, hinput, houtput] at hsep

/-- Loading changes no file that an input leads to, whatever comes of it. -/
theorem Engine.load_keeps_inputs (e : Engine σ) (settings : Settings) (mappings : List FileMapping)
    (hfiles : files.WellFormed) :
    Grown files (e.load settings mappings files).2 ∧
      ∀ id, files.HoldsInput mappings id →
        (e.load settings mappings files).2.contents[id]? = files.contents[id]? := by
  unfold Engine.load
  cases hsetup : checkSetup settings mappings files with
  | error failure => exact ⟨Grown.refl hfiles, fun _ _ => rfl⟩
  | ok _ =>
    have hkeeps : Grown files (loadFrom e.language settings.stagingSuffix 0 mappings files).2 ∧
        ∀ id, files.HoldsInput mappings id →
          (loadFrom e.language settings.stagingSuffix 0 mappings files).2.contents[id]? =
            files.contents[id]? :=
      loadFrom_keeps (holdsInput_lt hfiles) (Grown.refl hfiles) (fun _ _ => rfl)
        (output_off_inputs hsetup)
    rcases hload : loadFrom e.language settings.stagingSuffix 0 mappings files with
      ⟨failure | copies, copied⟩
    all_goals
      rw [hload] at hkeeps
      exact hkeeps

/-- Where a session was loaded, the files that inputs lead to are out of the way of its units. -/
theorem Engine.load_sheltered {e : Engine σ} {s : Session σ} (hfiles : files.WellFormed)
    (hload : e.load settings mappings files = (.ok s, loaded))
    (hstaged : StagedOffInputs files settings.stagingSuffix mappings) :
    Sheltered files (s.copies.map WorkingCopy.paths) (files.HoldsInput mappings) := by
  obtain ⟨hsetup, -, hcopies, -⟩ := load_eq_ok hload
  obtain ⟨hsites, hleaf⟩ := loadFrom_sites (Grown.refl hfiles) hcopies
  have houtput :
      ∀ x ∈ sitesFrom settings.stagingSuffix 0 mappings, ∃ m ∈ mappings, x.1 = m.output := by
    intro x hx
    have hfst : x.1 ∈ mappings.map FileMapping.output :=
      map_fst_sitesFrom settings.stagingSuffix 0 mappings ▸ List.mem_map_of_mem hx
    obtain ⟨m, hm, heq⟩ := List.mem_map.1 hfst
    exact ⟨m, hm, heq.symm⟩
  rw [hsites]
  refine ⟨fun id => holdsInput_lt hfiles id, ?_, ?_, fun x hx => (hstaged x hx).1,
    fun x hx => (hstaged x hx).2⟩
  · intro x hx
    obtain ⟨m, hm, heq⟩ := houtput x hx
    rw [heq]
    exact hleaf m hm
  · intro x hx
    obtain ⟨m, hm, heq⟩ := houtput x hx
    rw [heq]
    exact output_off_inputs hsetup m hm

end Inputs

/-- Where no staged file is a symbolic link or a name of a file that an input leads to, the inputs
are intact after loading, whatever comes of it, and at every point and at the end of every run of a
strategy that touches no file. Where the path of a staged file leads to the file of an input, that
file holds a scratch text as soon as something was committed. -/
theorem inputs_stay_intact (e : Engine σ) (strategy : Strategy τ) (settings : Settings)
    (mappings : List FileMapping) (files : Files) (hfiles : files.WellFormed)
    (hchecks : e.invariant.KeepsFiles) (hstrategy : strategy.Touches e.language fun f g => g = f) :
    (StagedOffInputs files settings.stagingSuffix mappings →
      InputsIntact mappings files (e.load settings mappings files).2 ∧
      ∀ s loaded, e.load settings mappings files = (.ok s, loaded) →
        (∀ log t, e.History (fun f g => g = f) s log t → InputsIntact mappings files t.files) ∧
        (∀ r, Run.Between e strategy settings s r → InputsIntact mappings files r.session.files) ∧
        ∀ fuel outcome r,
          Run.runWithin e strategy settings fuel { session := s, state := strategy.start } =
            some (outcome, r) → InputsIntact mappings files r.session.files) ∧
    ∀ s loaded, e.load settings mappings files = (.ok s, loaded) →
      ∀ x ∈ sitesFrom settings.stagingSuffix 0 mappings, ∀ loc id,
        files.find x.2 = .ok (.file loc id) → files.HoldsInput mappings id →
          ∀ a, e.commits (a, s) = true → ∃ c ∈ (e.proposal a s).copies,
            (e.attempt a s).2.files.contents[id]? = some (.text c.scratch) := by
  obtain ⟨hgrown, hkept⟩ := e.load_keeps_inputs settings mappings hfiles
  have hbound : ∀ id, files.HoldsInput mappings id → id < files.contents.size :=
    holdsInput_lt hfiles
  constructor
  · intro hstaged
    constructor
    · have hnone : Sheltered files [] (files.HoldsInput mappings) := by
        refine ⟨hbound, ?_, ?_, ?_, ?_⟩ <;> simp
      exact Guarding.inputsIntact hnone (.of_grown hbound hgrown hkept)
    · intro s loaded hload
      have hsheltered := Engine.load_sheltered hfiles hload hstaged
      obtain ⟨-, hsame, -, htrees⟩ := Engine.load_eq_ok hload
      rw [hload] at hgrown hkept
      have hhistory : ∀ log t, e.History (fun f g => g = f) s log t →
          InputsIntact mappings files t.files := by
        intro log t hlog
        have hstart : Guarding files (s.copies.map WorkingCopy.paths) (files.HoldsInput mappings)
            s.files := hsame ▸ .of_grown hbound hgrown hkept
        have hunits : s.forest.unitCount = s.copies.length := by simp [Forest.unitCount, htrees]
        exact (hlog.guarding hsheltered hchecks hunits rfl hstart).1.inputsIntact hsheltered
      refine ⟨hhistory, fun r hr => ?_, fun fuel outcome r hr => ?_⟩
      · obtain ⟨log, hlog⟩ := hr.reaches hstrategy
        exact hhistory log _ hlog
      · obtain ⟨log, hlog⟩ := Run.reaches_runWithin hstrategy hr
        exact hhistory log _ hlog
  · intro s loaded hload x hx loc id hfind hinput a hcommits
    obtain ⟨-, hsame, hcopies, htrees⟩ := Engine.load_eq_ok hload
    have hunits : s.forest.unitCount = s.copies.length := by simp [Forest.unitCount, htrees]
    have hseen : e.filesSeen a s = loaded := (Engine.filesSeen_eq hchecks a s).trans hsame
    rw [hload] at hgrown
    rw [← (loadFrom_sites (Grown.refl hfiles) hcopies).1,
      ← (e.sameCommitted_proposal a hunits).paths] at hx
    obtain ⟨c, hc, rfl⟩ := List.mem_map.1 hx
    exact Engine.commit_overwrites (hseen ▸ hgrown.wellFormed) hcommits hc
      (hseen ▸ hgrown.resolve_file hfind)

/-- Two texts, the second of which is to be reduced in a symbolic link to an old file. -/
def linkedOutput : Files :=
  twoTexts [(["w", "b.min"], .link "c"), (["w", "c"], .file 3)]

/-- One text, in a file that has the name under which its output `x` is staged. -/
def stagedName : Files :=
  { entries := [(["w"], .directory), (["w", "x.scm-staged"], .file 0)]
    contents := #[.text "a;"], here := ["w"] }

/-- A greedy run whose second output is a symbolic link, which a commit replaces, leaves both inputs
as they were. A layout of the text that is staged over its own input is written to that input. -/
theorem inputs_intact_twoTexts :
    (∃ s loaded outcome r,
        lenient.load {} [⟨"a", "a.min"⟩, ⟨"b", "b.min"⟩] linkedOutput = (.ok s, loaded) ∧
        Run.start lenient Greedy.strategy {} s = some (outcome, r) ∧
        r.session.files.read "a" = .ok (.text "a;") ∧ r.session.files.read "b" = .ok (.text "b;")) ∧
      ∃ s loaded, lenient.load {} [⟨"x.scm-staged", "x"⟩] stagedName = (.ok s, loaded) ∧
        ∃ c ∈ (lenient.proposal .cleanup s).copies,
          (lenient.attempt .cleanup s).2.files.contents[0]? = some (.text c.scratch) := by
  have hchecks : lenient.invariant.KeepsFiles := fun _ _ _ _ => rfl
  have hstrategy := (Greedy.shrinking lenient.language).touches fun f g => g = f
  constructor
  · have hfiles : linkedOutput.WellFormed := wellFormed_of_entries (by decide +kernel)
    have hnone : ∀ x ∈ sitesFrom "scm-staged" 0 [⟨"a", "a.min"⟩, ⟨"b", "b.min"⟩],
        linkedOutput.Unlinked x.2 ∧ linkedOutput.fileAt? x.2 = none := by decide +kernel
    have hstaged : StagedOffInputs linkedOutput "scm-staged" [⟨"a", "a.min"⟩, ⟨"b", "b.min"⟩] := by
      intro x hx
      refine ⟨(hnone x hx).1, fun id _ => ?_⟩
      rw [(hnone x hx).2]
      simp
    obtain ⟨-, hruns⟩ :=
      (inputs_stay_intact lenient Greedy.strategy {} _ _ hfiles hchecks hstrategy).1 hstaged
    have hends : (lenient.load {} [⟨"a", "a.min"⟩, ⟨"b", "b.min"⟩] linkedOutput).1.toOption.map
        (fun s => (Run.start lenient Greedy.strategy {} s).isSome) = some true := by
      decide +kernel
    rcases hload : lenient.load {} [⟨"a", "a.min"⟩, ⟨"b", "b.min"⟩] linkedOutput with
      ⟨failure | s, loaded⟩
    · rw [hload] at hends
      cases hends
    · rw [hload] at hends
      obtain ⟨⟨outcome, r⟩, hrun⟩ := Option.isSome_iff_exists.1 (Option.some.inj hends)
      have hintact := (hruns s loaded hload).2.2 _ outcome r hrun
      exact ⟨s, loaded, outcome, r, rfl, hrun, hintact ⟨"a", "a.min"⟩ (by simp) _ rfl,
        hintact ⟨"b", "b.min"⟩ (by simp) _ rfl⟩
  · have hfiles : stagedName.WellFormed := wellFormed_of_entries (by decide +kernel)
    have hcommits : (lenient.load {} [⟨"x.scm-staged", "x"⟩] stagedName).1.toOption.map
        (fun s => lenient.commits (.cleanup, s)) = some true := by decide +kernel
    rcases hload : lenient.load {} [⟨"x.scm-staged", "x"⟩] stagedName with ⟨failure | s, loaded⟩
    · rw [hload] at hcommits
      cases hcommits
    · rw [hload] at hcommits
      obtain ⟨c, hc, htext⟩ :=
        (inputs_stay_intact lenient Greedy.strategy {} [⟨"x.scm-staged", "x"⟩] stagedName hfiles
          hchecks hstrategy).2 s loaded hload ("x", "x.scm-staged") (by decide +kernel)
          ["w", "x.scm-staged"] 0 rfl
          ⟨⟨"x.scm-staged", "x"⟩, by simp, ["w", "x.scm-staged"], rfl⟩ .cleanup
          (Option.some.inj hcommits)
      exact ⟨s, loaded, rfl, c, hc, htext⟩

/-- The check of the mappings knows nothing of staged files. An input with the name of a staged file
is gone after a commit, and one that is a second name of a staged file, or the target of a link in
its place, has another text. -/
theorem commits_over_inputs :
    (lenient.load {} [⟨"x.scm-staged", "x"⟩] stagedName).1.toOption.map (fun s =>
        ((stagedName.readText "x.scm-staged").toOption, lenient.commits (.cleanup, s),
          ((lenient.attempt .cleanup s).2.files.readText "x.scm-staged").toOption)) =
      some (some "a;", true, none) ∧
    ∀ entry ∈ [Entry.file 0, .link "a"],
      (lenient.load {} [⟨"a", "a.min"⟩, ⟨"b", "b.min"⟩]
          (twoTexts [(["w", "a.min.scm-staged"], entry)])).1.toOption.map (fun s =>
          (((twoTexts [(["w", "a.min.scm-staged"], entry)]).readText "a").toOption,
            lenient.commits (.cleanup, s),
            ((lenient.attempt .cleanup s).2.files.readText "a").toOption)) =
        some (some "a;", true, some "a;\n") := by
  constructor
  · decide +kernel
  · decide +kernel

end SourceReducer
