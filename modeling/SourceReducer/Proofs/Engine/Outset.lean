import SourceReducer.Proofs.Engine.Decision
import SourceReducer.Proofs.Files.Names

/-! The outset of a run. The check of the mappings keeps outputs apart from inputs and from each
other, so the texts that are loaded are those of the inputs, and the session that is loaded is
sound. -/
namespace SourceReducer

open Files

variable {σ : Type}

/-! Loading texts. -/

/-- The path of the staged file of a unit. -/
def stagedPathOf (unit : Nat) (path suffix : String) : String :=
  let name := (Path.fileName? path).getD s!"{showUnit unit}.txt"
  Path.withFileName path s!"{name}.{suffix}"

/-- The working file and the staged file of each mapping, from a number of units on. -/
def sitesFrom (suffix : String) (unit : Nat) (mappings : List FileMapping) :
    List (String × String) :=
  (mappings.zipIdx unit).map fun x => (x.1.output, stagedPathOf x.2 x.1.output suffix)

theorem map_fst_sitesFrom (suffix : String) (unit : Nat) (mappings : List FileMapping) :
    (sitesFrom suffix unit mappings).map Prod.fst = mappings.map FileMapping.output := by
  induction mappings generalizing unit with
  | nil => rfl
  | cons m mappings ih => simpa [sitesFrom] using ih (unit + 1)

/-- Whether the files that inputs led to in an earlier store hold texts. -/
structure InputsHold (base f : Files) (mappings : List FileMapping) (texts : List String) :
    Prop where
  length : texts.length = mappings.length
  holds : ∀ x ∈ mappings.zip texts, ∃ loc id, base.find x.1.input = .ok (.file loc id) ∧
    f.contents[id]? = some (.text x.2)

section Load

variable {base f g : Files} {mappings : List FileMapping} {texts : List String}

/-- A file that was written through an output is none that an input leads to. -/
theorem ne_of_sameFile {m other : FileMapping} (hsep : base.sameFile other.input m.output = false)
    (hg : Grown base g) (hbase : base.WellFormed) {src loc : Location} {id id' : Nat}
    (hinput : base.find other.input = .ok (.file src id))
    (houtput : g.find m.output = .ok (.file loc id')) : id ≠ id' := by
  rintro rfl
  have hold : base.find m.output = .ok (.file loc id) :=
    hg.resolve_old houtput (hbase src id (stands_resolve hinput).2)
  simp [sameFile, hinput, hold] at hsep

theorem load_written {unit : Nat} {path suffix text : String} {tree : Tree} {loc : Location}
    {id : Nat} (hg : g.WellFormed) (hfind : g.find path = .ok (.file loc id))
    (htext : g.contents[id]? = some (.text text)) (hparse : Statement.parse text = .ok tree) :
    WorkingCopy.load Statement.language g unit path suffix =
      .ok (.clean unit path suffix text tree) := by
  have hread : g.readText path = .ok text := (readText_found hg).2 ⟨loc, id, hfind, htext⟩
  have hparse' : Statement.language.parse text = .ok tree := hparse
  simp only [WorkingCopy.load, hread, hparse']

/-- The units that are loaded are at the sites of the mappings, and all outputs lead to files. -/
theorem loadFrom_sites {language : Language} {suffix : String} {unit : Nat}
    {copies : List WorkingCopy} (hf : Grown base f)
    (h : loadFrom language suffix unit mappings f = (.ok copies, g)) :
    copies.map WorkingCopy.paths = sitesFrom suffix unit mappings ∧
      ∀ m ∈ mappings, IsLeaf (base.find m.output) := by
  induction mappings generalizing unit f copies with
  | nil =>
    simp only [loadFrom, Prod.mk.injEq, Except.ok.injEq] at h
    obtain ⟨rfl, -⟩ := h
    exact ⟨rfl, by simp⟩
  | cons m mappings ih =>
    obtain ⟨copied, c, others, hcopy, hload, hrest, rfl⟩ := loadFrom_cons_eq_ok h
    obtain ⟨_, _, loc, id, _, -, hwritten, -⟩ := copy_spec hf.wellFormed hcopy
    have hgrown := hf.trans hwritten.grown
    obtain ⟨hsites, hleaf⟩ := ih hgrown hrest
    have hpaths : c.paths = (m.output, stagedPathOf unit m.output suffix) := by
      unfold WorkingCopy.load at hload
      split at hload
      · cases hload
      · split at hload
        · cases hload
        · cases hload
          rfl
    refine ⟨?_, ?_⟩
    · rw [List.map_cons, hsites, hpaths]
      rfl
    · intro m' hm'
      rcases List.mem_cons.1 hm' with rfl | hm'
      · exact isLeaf_of_grown hgrown hwritten.found
      · exact hleaf m' hm'

/-- Loading fails only where a file fails; otherwise it takes the texts of the inputs. -/
theorem loadFrom_texts (hbase : base.WellFormed) (hf : Grown base f)
    (hsep : ∀ m ∈ mappings, ∀ other ∈ mappings, base.sameFile other.input m.output = false)
    (hinputs : InputsHold base f mappings texts)
    (hparses : ∀ text ∈ texts, (Statement.parse text).isOk = true) (suffix : String) (unit : Nat) :
    FileFailed (loadFrom Statement.language suffix unit mappings f).1 ∨
      ∃ copies g, loadFrom Statement.language suffix unit mappings f = (.ok copies, g) ∧
        Grown base g ∧ copies.map WorkingCopy.committed = texts := by
  induction mappings generalizing f texts unit with
  | nil =>
    obtain rfl : texts = [] := List.eq_nil_of_length_eq_zero hinputs.length
    exact .inr ⟨[], f, rfl, hf, rfl⟩
  | cons m mappings ih =>
    obtain _ | ⟨text, texts⟩ := texts
    · exact absurd hinputs.length (by simp)
    obtain ⟨src, id, hsrc, htext⟩ := hinputs.holds (m, text) (by simp)
    unfold loadFrom
    cases hcopy : f.copy m.input m.output with
    | error fault => exact .inl ⟨m.input, fault, rfl⟩
    | ok copied =>
      obtain ⟨src', id₀, loc, id', content, hfind, hwritten, hcontent⟩ :=
        copy_spec hf.wellFormed hcopy
      have hgrown := hf.trans hwritten.grown
      obtain ⟨rfl, rfl⟩ : src' = src ∧ id₀ = id := by
        have hsame := hf.resolve_file hsrc
        rw [← find, hfind] at hsame
        simpa using hsame
      have hne {other : FileMapping} (hother : other ∈ m :: mappings) {l : Location} {i : Nat}
          (hinput : base.find other.input = .ok (.file l i)) : i ≠ id' :=
        ne_of_sameFile (hsep m List.mem_cons_self other hother) hgrown hbase hinput hwritten.found
      obtain rfl : content = .text text := by
        have := hcontent (hne List.mem_cons_self hsrc)
        rw [htext] at this
        exact (Option.some.inj this).symm
      obtain ⟨tree, hparse⟩ := Statement.exists_parse (hparses text List.mem_cons_self)
      have hkept : InputsHold base copied mappings texts := by
        refine ⟨by simpa using hinputs.length, fun x hx => ?_⟩
        obtain ⟨l, i, hinput, hheld⟩ := hinputs.holds x (by simp [hx])
        refine ⟨l, i, hinput, ?_⟩
        have hi : i < f.contents.size :=
          Nat.lt_of_lt_of_le (hbase l i (stands_resolve hinput).2) hf.size_le
        rw [hwritten.others i hi (hne (by simp [(List.of_mem_zip hx).1]) hinput), hheld]
      simp only [load_written hgrown.wellFormed hwritten.found hwritten.holds hparse]
      rcases ih hgrown (fun a ha b hb => hsep a (by simp [ha]) b (by simp [hb])) hkept
          (fun t ht => hparses t (by simp [ht])) (unit + 1) with
        ⟨path, fault, hfault⟩ | ⟨copies, g, hloaded, hg, hcommitted⟩
      · refine .inl ⟨path, fault, ?_⟩
        rcases hloaded : loadFrom Statement.language suffix (unit + 1) mappings copied with
          ⟨outcome, final⟩
        rw [hloaded] at hfault
        simp only at hfault
        rw [hfault]
      · exact .inr ⟨_, g, by rw [hloaded], hg, by simp [hcommitted, WorkingCopy.clean]⟩

end Load

/-! The loaded session. -/

/-- Whether no staged file of a mapping has the place of a working file or is another name of it. -/
def StagedApart (files : Files) (suffix : String) (mappings : List FileMapping) : Prop :=
  ∀ (unit : Nat) (m : FileMapping), mappings[unit]? = some m → ∀ other ∈ mappings,
    ¬files.Coincide slot? (stagedPathOf unit m.output suffix) other.output

section Session

variable {files : Files} {mappings : List FileMapping} {texts : List String}

theorem inputsHold_of_readText (hfiles : files.WellFormed)
    (h : mappings.map (fun m => files.readText m.input) = texts.map .ok) :
    InputsHold files files mappings texts := by
  have hlength : texts.length = mappings.length := by
    simpa using (congrArg List.length h).symm
  refine ⟨hlength, fun x hx => (readText_found hfiles).1 ?_⟩
  obtain ⟨k, hk⟩ := List.mem_iff_getElem?.1 hx
  obtain ⟨hm, htext⟩ := List.getElem?_zip_eq_some.1 hk
  have hread := congrArg (fun reads => reads[k]?) h
  simpa [hm, htext] using hread

theorem sitesApart_of_setup {suffix : String} (hfiles : files.WellFormed)
    (houtputs : mappings.Pairwise fun other m => files.sameFile other.output m.output = false)
    (hleaf : ∀ m ∈ mappings, IsLeaf (files.find m.output))
    (hstaged : StagedApart files suffix mappings) :
    SitesApart files (sitesFrom suffix 0 mappings) := by
  have hsite {x : String × String} (hx : x ∈ sitesFrom suffix 0 mappings) :
      ∃ (unit : Nat) (m : FileMapping), mappings[unit]? = some m ∧
        x = (m.output, stagedPathOf unit m.output suffix) := by
    obtain ⟨⟨m, unit⟩, hmem, rfl⟩ := List.mem_map.1 hx
    exact ⟨unit, m, List.mem_zipIdx_iff_getElem?.1 hmem, rfl⟩
  refine ⟨hfiles, ?_, ?_, ?_⟩
  · intro x hx
    obtain ⟨unit, m, hm, rfl⟩ := hsite hx
    exact hleaf m (List.mem_of_getElem? hm)
  · have hplaces : (sitesFrom suffix 0 mappings).map (fun x => files.placeAt x.1) =
        mappings.map fun m => files.placeAt m.output := by
      have := congrArg (List.map files.placeAt) (map_fst_sitesFrom suffix 0 mappings)
      simpa [Function.comp_def] using this
    rw [hplaces, List.Nodup, List.pairwise_map]
    refine houtputs.imp_of_mem fun {a b} ha hb hsame heq => ?_
    obtain ⟨loc, hloc⟩ := slot?_of_isLeaf (hleaf a ha)
    obtain ⟨loc', hloc'⟩ := slot?_of_isLeaf (hleaf b hb)
    obtain rfl : loc = loc' := by simpa [placeAt, hloc, hloc'] using heq
    simp [sameFile_of_slot? hloc hloc' (hleaf a ha) (hleaf b hb)] at hsame
  · intro x hx y hy
    obtain ⟨unit, m, hm, rfl⟩ := hsite hx
    obtain ⟨unit', other, hother, rfl⟩ := hsite hy
    exact hstaged unit m hm other (List.mem_of_getElem? hother)

/-- Loading fails only where a file fails; otherwise the session is sound. -/
theorem Engine.load_sound {e : Engine σ} {settings : Settings} {P : List String → Bool}
    (hlang : e.language = Statement.language) (hfiles : files.WellFormed)
    (hsetup : checkSetup settings mappings files = .ok ())
    (hinputs : mappings.map (fun m => files.readText m.input) = texts.map .ok)
    (haccepted : Accepted Statement.language P texts)
    (hstaged : StagedApart files settings.stagingSuffix mappings) :
    FileFailed (e.load settings mappings files).1 ∨
      ∃ s loaded, e.load settings mappings files = (.ok s, loaded) ∧
        SitesApart files (sitesFrom settings.stagingSuffix 0 mappings) ∧
        Sound files (sitesFrom settings.stagingSuffix 0 mappings) P s := by
  obtain ⟨-, hsep, houtputs⟩ := checkSetup_eq_ok hsetup
  unfold Engine.load
  rw [hsetup, hlang]
  rcases loadFrom_texts hfiles (Grown.refl hfiles) hsep (inputsHold_of_readText hfiles hinputs)
      haccepted.2 settings.stagingSuffix 0 with
    ⟨path, fault, hfault⟩ | ⟨copies, loaded, hload, hgrown, hcommitted⟩
  · refine .inl ⟨path, fault, ?_⟩
    rcases hload : loadFrom Statement.language settings.stagingSuffix 0 mappings files with
      ⟨outcome, copied⟩
    rw [hload] at hfault
    simp only at hfault
    rw [hfault]
  · obtain ⟨hpaths, hleaf⟩ := loadFrom_sites (Grown.refl hfiles) hload
    refine .inr ⟨_, loaded, by rw [hload], sitesApart_of_setup hfiles houtputs hleaf hstaged, ?_⟩
    refine ⟨⟨rfl, (loadFrom_copies hload).2⟩, hpaths, ?_, fun _ => hgrown, ?_, ?_⟩
    · rw [hcommitted]
      exact haccepted.1
    · intro hcommits
      exact absurd hcommits (by simp)
    · intro hcommits
      exact absurd hcommits (by simp)

end Session

end SourceReducer
