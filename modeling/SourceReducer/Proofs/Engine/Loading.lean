import SourceReducer.Engine.Load
import SourceReducer.Proofs.Files.Growth

/-! Loading sessions. Every working copy holds the text that its working file was found to hold, and
what is copied afterwards changes that file only if both lead to one file. -/
namespace SourceReducer

open Files

/-! What is checked before. -/

theorem FileMapping.checkDistinctFrom_eq_ok {files : Files}
    {all earlier mappings : List FileMapping}
    (h : checkDistinctFrom files all earlier mappings = .ok ()) :
    (∀ m ∈ mappings, ∀ other ∈ all, files.sameFile other.input m.output = false) ∧
      (∀ other ∈ earlier, ∀ m ∈ mappings, files.sameFile other.output m.output = false) ∧
      mappings.Pairwise fun other m => files.sameFile other.output m.output = false := by
  induction mappings generalizing earlier with
  | nil => simp
  | cons m mappings ih =>
    unfold checkDistinctFrom at h
    split at h
    · cases h
    · next hinputs =>
      split at h
      · cases h
      · next houtputs =>
        obtain ⟨hrest, hearlier, hpairs⟩ := ih h
        rw [List.find?_eq_none] at hinputs
        rw [List.any_eq_true] at houtputs
        refine ⟨?_, ?_, ?_⟩
        · intro m' hm' other hother
          rcases List.mem_cons.1 hm' with rfl | hm'
          · simpa using hinputs other hother
          · exact hrest m' hm' other hother
        · intro other hother m' hm'
          rcases List.mem_cons.1 hm' with rfl | hm'
          · by_contra hsame
            exact houtputs ⟨other, hother, by simpa using hsame⟩
          · exact hearlier other (by simp [hother]) m' hm'
        · refine List.pairwise_cons.2 ⟨fun m' hm' => ?_, hpairs⟩
          exact hearlier m (by simp) m' hm'

theorem checkSetup_eq_ok {settings : Settings} {mappings : List FileMapping} {files : Files}
    (h : checkSetup settings mappings files = .ok ()) :
    2 ≤ settings.cleanupInterval ∧
      (∀ m ∈ mappings, ∀ other ∈ mappings, files.sameFile other.input m.output = false) ∧
      mappings.Pairwise fun other m => files.sameFile other.output m.output = false := by
  unfold checkSetup at h
  split at h
  · cases h
  · next hvalid =>
    split at h
    · cases h
    · split at h
      · cases h
      · next hdistinct =>
        obtain ⟨hinputs, -, houtputs⟩ := FileMapping.checkDistinctFrom_eq_ok hdistinct
        refine ⟨?_, hinputs, houtputs⟩
        unfold Settings.validate at hvalid
        split at hvalid
        · cases hvalid
        · omega

/-! What is read and copied. -/

theorem Files.read_eq_ok {f : Files} {path : String} {content : Content} :
    f.read path = .ok content ↔
      ∃ loc id, f.find path = .ok (.file loc id) ∧ content = (f.contents[id]?).getD (.text "") := by
  unfold Files.read
  cases hfind : f.find path with
  | error fault => simp [bind, Except.bind]
  | ok place =>
    cases place <;>
      simp [bind, Except.bind, pure, Except.pure, throw, throwThe, MonadExceptOf.throw, eq_comm]

theorem Files.readText_eq_ok {f : Files} {path text : String} :
    f.readText path = .ok text ↔ f.read path = .ok (.text text) := by
  unfold Files.readText
  cases hread : f.read path with
  | error fault => simp [bind, Except.bind]
  | ok content =>
    cases content <;>
      simp [bind, Except.bind, pure, Except.pure, throw, throwThe, MonadExceptOf.throw]

/-- A text that is read is what the file at the end of the path holds. -/
theorem Files.readText_found {f : Files} {path text : String} (hf : f.WellFormed) :
    f.readText path = .ok text ↔
      ∃ loc id, f.find path = .ok (.file loc id) ∧ f.contents[id]? = some (.text text) := by
  rw [readText_eq_ok, read_eq_ok]
  constructor
  · rintro ⟨loc, id, hfind, htext⟩
    have hid : id < f.contents.size := hf loc id (stands_resolve hfind).2
    exact ⟨loc, id, hfind, by simpa [hid] using htext.symm⟩
  · rintro ⟨loc, id, hfind, htext⟩
    exact ⟨loc, id, hfind, by simp [htext]⟩

theorem Files.readText_of_held? {f : Files} {path text : String} (hlink : f.Unlinked path)
    (h : f.held? path = some (.text text)) : f.readText path = .ok text := by
  unfold Files.held? at h
  cases hfile : f.fileAt? path with
  | none => simp [hfile] at h
  | some id =>
    rw [hfile, Option.bind_some] at h
    obtain ⟨loc, hres⟩ := resolve_of_fileAt? hfile
    rw [readText_eq_ok, read_eq_ok]
    exact ⟨loc, id, (find_eq_resolve hlink).trans hres, by simp [h]⟩

theorem WorkingCopy.load_eq_ok {language : Language} {f : Files} {unit : Nat} {path suffix : String}
    {c : WorkingCopy} (h : WorkingCopy.load language f unit path suffix = .ok c) :
    f.readText path = .ok c.committed ∧ language.parse c.committed = .ok c.tree ∧
      c.path = path ∧ c.suffix = suffix ∧ c.onTrial = false := by
  unfold WorkingCopy.load at h
  cases hread : f.readText path with
  | error fault => simp [hread] at h
  | ok committed =>
    cases hparse : language.parse committed with
    | error error => simp [hread, hparse] at h
    | ok tree =>
      simp only [hread, hparse, Except.ok.injEq] at h
      subst h
      exact ⟨rfl, hparse, rfl, rfl, rfl⟩

section LoadFrom

variable {language : Language} {suffix : String} {unit : Nat} {mappings : List FileMapping}
  {f g : Files} {copies : List WorkingCopy}

theorem loadFrom_cons_eq_ok {m : FileMapping}
    (h : loadFrom language suffix unit (m :: mappings) f = (.ok copies, g)) :
    ∃ copied c others, f.copy m.input m.output = .ok copied ∧
      WorkingCopy.load language copied unit m.output suffix = .ok c ∧
      loadFrom language suffix (unit + 1) mappings copied = (.ok others, g) ∧
      copies = c :: others := by
  unfold loadFrom at h
  cases hcopy : f.copy m.input m.output with
  | error fault => simp [hcopy] at h
  | ok copied =>
    cases hload : WorkingCopy.load language copied unit m.output suffix with
    | error failure => simp [hcopy, hload] at h
    | ok c =>
      rcases hrest : loadFrom language suffix (unit + 1) mappings copied with
        ⟨failure | others, final⟩
      · simp [hcopy, hload, hrest] at h
      · simp only [hcopy, hload, hrest, Prod.mk.injEq, Except.ok.injEq] at h
        obtain ⟨rfl, rfl⟩ := h
        exact ⟨copied, c, others, rfl, hload, hrest, rfl⟩

/-- Loading grows the store, and changes only files that the outputs lead to. -/
theorem loadFrom_grown (hf : f.WellFormed)
    (h : loadFrom language suffix unit mappings f = (.ok copies, g)) :
    Grown f g ∧ ∀ id < f.contents.size,
      (∀ m ∈ mappings, ∀ loc, g.find m.output ≠ .ok (.file loc id)) →
        g.contents[id]? = f.contents[id]? := by
  induction mappings generalizing unit f copies with
  | nil =>
    simp only [loadFrom, Prod.mk.injEq] at h
    obtain ⟨-, rfl⟩ := h
    exact ⟨Grown.refl hf, fun _ _ _ => rfl⟩
  | cons m mappings ih =>
    obtain ⟨copied, c, others, hcopy, -, hrest, rfl⟩ := loadFrom_cons_eq_ok h
    obtain ⟨_, _, loc, id', _, -, hwritten, -⟩ := copy_spec hf hcopy
    obtain ⟨hgrown, hframe⟩ := ih hwritten.grown.wellFormed hrest
    refine ⟨hwritten.grown.trans hgrown, ?_⟩
    intro id hid hnot
    have hne : id ≠ id' := by
      rintro rfl
      exact hnot m (by simp) loc (hgrown.resolve_file hwritten.found)
    rw [hframe id (Nat.lt_of_lt_of_le hid hwritten.grown.size_le) fun m' hm' =>
      hnot m' (by simp [hm']), hwritten.others id hid hne]

theorem loadFrom_copies (h : loadFrom language suffix unit mappings f = (.ok copies, g)) :
    copies.map WorkingCopy.path = mappings.map FileMapping.output ∧
      ∀ c ∈ copies, language.parse c.committed = .ok c.tree := by
  induction mappings generalizing unit f copies with
  | nil =>
    simp only [loadFrom, Prod.mk.injEq, Except.ok.injEq] at h
    obtain ⟨rfl, -⟩ := h
    simp
  | cons m mappings ih =>
    obtain ⟨copied, c, others, -, hload, hrest, rfl⟩ := loadFrom_cons_eq_ok h
    obtain ⟨-, hparse, hpath, -⟩ := WorkingCopy.load_eq_ok hload
    obtain ⟨hpaths, hparses⟩ := ih hrest
    refine ⟨by simp [hpath, hpaths], ?_⟩
    intro d hd
    rcases List.mem_cons.1 hd with rfl | hd
    · exact hparse
    · exact hparses d hd

/-- Where the outputs are files apart from each other, each of them holds the committed text. -/
theorem loadFrom_held (hf : f.WellFormed)
    (h : loadFrom language suffix unit mappings f = (.ok copies, g))
    (hapart : g.Apart (mappings.map FileMapping.output))
    (hnodup : (mappings.map FileMapping.output).Nodup) :
    ∀ c ∈ copies, g.held? c.path = some (.text c.committed) := by
  induction mappings generalizing unit f copies with
  | nil =>
    simp only [loadFrom, Prod.mk.injEq, Except.ok.injEq] at h
    obtain ⟨rfl, -⟩ := h
    simp
  | cons m mappings ih =>
    obtain ⟨copied, c, others, hcopy, hload, hrest, rfl⟩ := loadFrom_cons_eq_ok h
    obtain ⟨_, _, _, _, _, -, hwritten, -⟩ := copy_spec hf hcopy
    have hcopied := hwritten.grown.wellFormed
    obtain ⟨hread, -, hpath, -⟩ := WorkingCopy.load_eq_ok hload
    obtain ⟨loc, id, hfind, htext⟩ := (readText_found hcopied).1 hread
    obtain ⟨hgrown, hframe⟩ := loadFrom_grown hcopied hrest
    have hnamed {m' : FileMapping} {loc' : Location} (hm' : m' ∈ m :: mappings)
        (hfound : g.find m'.output = .ok (.file loc' id)) : g.fileAt? m'.output = some id := by
      rw [find_eq_resolve (hapart.unlinked _ (List.mem_map_of_mem hm'))] at hfound
      simp [fileAt?, hfound]
    have hfile : g.fileAt? m.output = some id :=
      hnamed List.mem_cons_self (hgrown.resolve_file hfind)
    intro d hd
    rcases List.mem_cons.1 hd with rfl | hd
    · rw [hpath, Files.held?, hfile, Option.bind_some, ← htext]
      refine hframe id (hcopied loc id (stands_resolve hfind).2) fun m' hm' loc' hfound => ?_
      have hne : m.output ≠ m'.output := by
        intro heq
        exact (List.nodup_cons.1 hnodup).1 (heq ▸ List.mem_map_of_mem hm')
      have hmem : m'.output ∈ (m :: mappings).map FileMapping.output :=
        List.mem_map_of_mem (List.mem_cons_of_mem _ hm')
      exact hapart.separate _ (by simp) _ hmem hne
        (.inr ⟨id, hfile, hnamed (List.mem_cons_of_mem _ hm') hfound⟩)
    · exact ih hcopied hrest (hapart.mono (by simp)) (List.nodup_cons.1 hnodup).2 d hd

end LoadFrom

/-- What a session was loaded from. -/
theorem Engine.load_eq_ok {σ : Type} {e : Engine σ} {settings : Settings}
    {mappings : List FileMapping} {files loaded : Files} {s : Session σ}
    (h : e.load settings mappings files = (.ok s, loaded)) :
    checkSetup settings mappings files = .ok () ∧ s.files = loaded ∧
      loadFrom e.language settings.stagingSuffix 0 mappings files = (.ok s.copies, loaded) ∧
      s.forest.trees = s.copies.map WorkingCopy.tree := by
  unfold Engine.load at h
  cases hsetup : checkSetup settings mappings files with
  | error failure => simp [hsetup] at h
  | ok _ =>
    rcases hload : loadFrom e.language settings.stagingSuffix 0 mappings files with
      ⟨failure | copies, copied⟩
    · simp [hsetup, hload] at h
    · simp only [hsetup, hload, Prod.mk.injEq, Except.ok.injEq] at h
      obtain ⟨rfl, rfl⟩ := h
      exact ⟨rfl, rfl, rfl, rfl⟩

/-- A session that is loaded has no counts and no events, and its forest is the first one. -/
theorem Engine.load_fresh {σ : Type} {e : Engine σ} {settings : Settings}
    {mappings : List FileMapping} {files loaded : Files} {s : Session σ}
    (h : e.load settings mappings files = (.ok s, loaded)) :
    s.stats = {} ∧ s.journal = [] ∧ s.forest.generation = 0 := by
  unfold Engine.load at h
  split at h
  · simp at h
  · split at h
    · simp at h
    · simp only [Prod.mk.injEq, Except.ok.injEq] at h
      obtain ⟨rfl, -⟩ := h
      exact ⟨rfl, rfl, rfl⟩

end SourceReducer
