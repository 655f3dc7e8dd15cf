import SourceReducer.Proofs.Engine.Outset
import SourceReducer.Proofs.Engine.Promotion
import SourceReducer.Proofs.Files.Vacancy

/-! What is loaded. Every working file holds the committed text of its unit, which its input held
before, and the forest of the first generation has its tree, unless links led two units to one place
at which nothing stood: then the copies were made one over the other. -/
namespace SourceReducer

open Files

variable {σ : Type}

/-- Whether the working files of mappings hold the committed texts, and the inputs held them in an
earlier store. -/
structure Baseline (files : Files) (mappings : List FileMapping) (s : Session σ) : Prop where
  working : mappings.map (fun m => s.files.readText m.output) = s.committed.map .ok
  inputs : mappings.map (fun m => files.readText m.input) = s.committed.map .ok

section LoadFrom

variable {language : Language} {suffix : String} {unit : Nat} {mappings : List FileMapping}
  {base f g : Files} {copies : List WorkingCopy}

theorem path_of_loadFrom (h : loadFrom language suffix unit mappings f = (.ok copies, g)) {i : Nat}
    {m : FileMapping} {c : WorkingCopy} (hm : mappings[i]? = some m) (hc : copies[i]? = some c) :
    c.path = m.output := by
  have hpaths := congrArg (fun paths => paths[i]?) (loadFrom_copies h).1
  simpa [hm, hc] using hpaths

/-- The file that an output leads to holds the text of the last unit whose output leads there. -/
theorem loadFrom_last (hf : f.WellFormed)
    (h : loadFrom language suffix unit mappings f = (.ok copies, g)) {i : Nat} {c : WorkingCopy}
    (hc : copies[i]? = some c) :
    ∃ loc id, g.find c.path = .ok (.file loc id) ∧
      ((∀ (j : Nat) (d : WorkingCopy), i < j → copies[j]? = some d →
          ¬g.LeadTogether c.path d.path) →
        g.contents[id]? = some (.text c.committed)) := by
  induction mappings generalizing unit f copies i with
  | nil =>
    simp only [loadFrom, Prod.mk.injEq, Except.ok.injEq] at h
    obtain ⟨rfl, -⟩ := h
    simp at hc
  | cons m mappings ih =>
    obtain ⟨copied, first, others, hcopy, hload, hrest, rfl⟩ := loadFrom_cons_eq_ok h
    obtain ⟨_, _, _, _, _, -, hwritten, -⟩ := copy_spec hf hcopy
    have hcopied := hwritten.grown.wellFormed
    cases i with
    | zero =>
      obtain rfl : first = c := by simpa using hc
      obtain ⟨hread, -, hpath, -⟩ := WorkingCopy.load_eq_ok hload
      obtain ⟨loc, id, hfind, htext⟩ := (readText_found hcopied).1 hread
      obtain ⟨hgrown, hframe⟩ := loadFrom_grown hcopied hrest
      have hfound : g.find first.path = .ok (.file loc id) := by
        rw [hpath]
        exact hgrown.resolve_file hfind
      refine ⟨loc, id, hfound, fun hlast => ?_⟩
      rw [hframe id (hcopied loc id (stands_resolve hfind).2), htext]
      intro m' hm' loc' hm'find
      have hmem : m'.output ∈ others.map WorkingCopy.path := by
        rw [(loadFrom_copies hrest).1]
        exact List.mem_map_of_mem hm'
      obtain ⟨d, hd, hdpath⟩ := List.mem_map.1 hmem
      obtain ⟨j, hj⟩ := List.mem_iff_getElem?.1 hd
      apply hlast (j + 1) d (by omega) (by simpa using hj)
      rw [hdpath]
      exact ⟨loc, loc', id, hfound, hm'find⟩
    | succ i =>
      obtain ⟨loc, id, hfind, hholds⟩ := ih hcopied hrest (by simpa using hc)
      refine ⟨loc, id, hfind, fun hlast => hholds fun j d hij hd => ?_⟩
      exact hlast (j + 1) d (by omega) (by simpa using hd)

/-- A store while outputs are filled: files that came since an earlier one are found by outputs that
were filled, and the files of the inputs hold what they held. -/
structure Filling (base f : Files) (inputs filled : List String) : Prop where
  grown : Grown base f
  fresh : ∀ loc id, base.contents.size ≤ id → f.entry? loc = some (.file id) →
    ∃ q ∈ filled, f.find q = .ok (.file loc id)
  kept : ∀ p ∈ inputs, ∀ loc id, base.find p = .ok (.file loc id) →
    f.contents[id]? = base.contents[id]?

theorem Filling.start (hbase : base.WellFormed) (inputs : List String) :
    Filling base base inputs [] where
  grown := Grown.refl hbase
  fresh loc id hid hentry := absurd (hbase loc id hentry) (Nat.not_lt.2 hid)
  kept _ _ _ _ _ := rfl

/-- A copy to an output fills it. -/
theorem Filling.copy {inputs filled : List String} (hbase : base.WellFormed)
    (h : Filling base f inputs filled) {m : FileMapping}
    (hsep : ∀ p ∈ inputs, base.sameFile p m.output = false)
    (hcopy : f.copy m.input m.output = .ok g) :
    Filling base g inputs (filled ++ [m.output]) := by
  obtain ⟨_, _, loc, id', _, -, hwritten, -⟩ := copy_spec h.grown.wellFormed hcopy
  have hgrown := h.grown.trans hwritten.grown
  refine ⟨hgrown, ?_, ?_⟩
  · intro l id hid hentry
    by_cases hl : l = loc
    · subst hl
      obtain rfl : id = id' := by
        have hstands := (stands_resolve hwritten.found).2
        rw [hentry] at hstands
        cases hstands
        rfl
      exact ⟨m.output, by simp, hwritten.found⟩
    · rw [hwritten.places l hl] at hentry
      obtain ⟨q, hq, hfind⟩ := h.fresh l id hid hentry
      exact ⟨q, by simp [hq], hwritten.grown.resolve_file hfind⟩
  · intro p hp l id hfind
    have hid : id < base.contents.size := hbase l id (stands_resolve hfind).2
    have hne : id ≠ id' := by
      rintro rfl
      have hold : base.find m.output = .ok (.file loc id) := hgrown.resolve_old hwritten.found hid
      have hapart := hsep p hp
      simp [sameFile, hfind, hold] at hapart
    rw [hwritten.others id (Nat.lt_of_lt_of_le hid h.grown.size_le) hne, h.kept p hp l id hfind]

/-- The text of a unit is what its input held, unless the input led to a vacant place that was
filled through an earlier output. -/
theorem loadFrom_input {inputs filled : List String} (hbase : base.WellFormed)
    (hf : Filling base f inputs filled)
    (hsep : ∀ p ∈ inputs, (∀ q ∈ filled, base.sameFile p q = false) ∧
      ∀ m ∈ mappings, base.sameFile p m.output = false)
    (hinputs : ∀ m ∈ mappings, m.input ∈ inputs)
    (h : loadFrom language suffix unit mappings f = (.ok copies, g)) {i : Nat} {m : FileMapping}
    {c : WorkingCopy} (hm : mappings[i]? = some m) (hc : copies[i]? = some c) :
    base.readText m.input = .ok c.committed ∨
      (∃ q ∈ filled, base.SameVacancy m.input q) ∨
      ∃ (j : Nat) (n : FileMapping), j < i ∧ mappings[j]? = some n ∧
        base.SameVacancy m.input n.output := by
  induction mappings generalizing unit f copies i filled with
  | nil => simp at hm
  | cons first mappings ih =>
    obtain ⟨copied, loadedFirst, others, hcopy, hload, hrest, rfl⟩ := loadFrom_cons_eq_ok h
    have hfirst : first.input ∈ inputs := hinputs first List.mem_cons_self
    cases i with
    | zero =>
      obtain rfl : first = m := by simpa using hm
      obtain rfl : loadedFirst = c := by simpa using hc
      obtain ⟨src, id, loc, id', content, hfind, hwritten, hcontent⟩ :=
        copy_spec hf.grown.wellFormed hcopy
      by_cases hid : id < base.contents.size
      · -- an old file is none that the output leads to, so what was read is what it held
        have hold : base.find first.input = .ok (.file src id) := hf.grown.resolve_old hfind hid
        have hne : id ≠ id' := ne_of_sameFile ((hsep _ hfirst).2 first List.mem_cons_self)
          (hf.grown.trans hwritten.grown) hbase hold hwritten.found
        obtain ⟨hread, -⟩ := WorkingCopy.load_eq_ok hload
        obtain ⟨_, _, hfound, htext⟩ := (readText_found hwritten.grown.wellFormed).1 hread
        rw [hwritten.found] at hfound
        cases hfound
        rw [hwritten.holds] at htext
        refine .inl ((readText_found hbase).2 ⟨src, id, hold, ?_⟩)
        rw [← hf.kept _ hfirst src id hold, hcontent hne, htext]
      · obtain ⟨q, hq, hqfind⟩ := hf.fresh src id (Nat.le_of_not_lt hid) (stands_resolve hfind).2
        exact .inr (.inl ⟨q, hq, hf.grown.sameVacancy hbase ((hsep _ hfirst).1 q hq)
          ⟨src, src, id, hfind, hqfind⟩⟩)
    | succ i =>
      have hfilled := hf.copy hbase (fun p hp => (hsep p hp).2 first List.mem_cons_self) hcopy
      have hsep' : ∀ p ∈ inputs, (∀ q ∈ filled ++ [first.output], base.sameFile p q = false) ∧
          ∀ m ∈ mappings, base.sameFile p m.output = false := by
        intro p hp
        refine ⟨fun q hq => ?_, fun m hm => (hsep p hp).2 m (List.mem_cons_of_mem _ hm)⟩
        rcases List.mem_append.1 hq with hq | hq
        · exact (hsep p hp).1 q hq
        · rw [List.mem_singleton.1 hq]
          exact (hsep p hp).2 first List.mem_cons_self
      rcases ih hfilled hsep' (fun m hm => hinputs m (List.mem_cons_of_mem _ hm)) hrest
        (by simpa using hm) (by simpa using hc) with
        hread | ⟨q, hq, hvacant⟩ | ⟨j, n, hj, hn, hvacant⟩
      · exact .inl hread
      · rcases List.mem_append.1 hq with hq | hq
        · exact .inr (.inl ⟨q, hq, hvacant⟩)
        · rw [List.mem_singleton.1 hq] at hvacant
          exact .inr (.inr ⟨0, first, by omega, rfl, hvacant⟩)
      · exact .inr (.inr ⟨j + 1, n, by omega, by simpa using hn, hvacant⟩)

end LoadFrom

section Load

variable {e : Engine σ} {settings : Settings} {mappings : List FileMapping} {files loaded : Files}
  {s : Session σ}

theorem Engine.generation_load (h : e.load settings mappings files = (.ok s, loaded)) :
    s.forest.generation = 0 := by
  obtain ⟨hsetup, -, hfrom, -⟩ := Engine.load_eq_ok h
  simp only [Engine.load, hsetup, hfrom, Prod.mk.injEq, Except.ok.injEq] at h
  rw [← h.1]

theorem length_copies_load (h : e.load settings mappings files = (.ok s, loaded)) :
    s.copies.length = mappings.length := by
  obtain ⟨-, -, hfrom, -⟩ := Engine.load_eq_ok h
  simpa using congrArg List.length (loadFrom_copies hfrom).1

theorem sameFile_outputs (h : e.load settings mappings files = (.ok s, loaded)) {i j : Nat}
    {m n : FileMapping} (hij : i < j) (hm : mappings[i]? = some m) (hn : mappings[j]? = some n) :
    files.sameFile m.output n.output = false := by
  obtain ⟨hi, rfl⟩ := List.getElem?_eq_some_iff.1 hm
  obtain ⟨hj, rfl⟩ := List.getElem?_eq_some_iff.1 hn
  obtain ⟨-, -, houtputs⟩ := checkSetup_eq_ok (Engine.load_eq_ok h).1
  exact List.pairwise_iff_getElem.1 houtputs i j hi hj hij

theorem map_eq_committed {read : FileMapping → Except FileFault String}
    (hlength : s.copies.length = mappings.length)
    (h : ∀ (i : Nat) (m : FileMapping) (c : WorkingCopy), mappings[i]? = some m →
      s.copies[i]? = some c → read m = .ok c.committed) :
    mappings.map read = s.committed.map .ok := by
  apply List.ext_getElem
  · simp [Session.committed, hlength]
  · intro i hleft hright
    have hm : i < mappings.length := by simpa using hleft
    have hc : i < s.copies.length := by omega
    simpa [Session.committed] using
      h i _ _ (List.getElem?_eq_getElem hm) (List.getElem?_eq_getElem hc)

/-- Two outputs lead to one file after loading exactly if they led to one vacant place. -/
theorem leadTogether_iff (hfiles : files.WellFormed)
    (hload : e.load settings mappings files = (.ok s, loaded)) {i j : Nat} {m n : FileMapping}
    (hij : i < j) (hm : mappings[i]? = some m) (hn : mappings[j]? = some n) :
    loaded.LeadTogether m.output n.output ↔ files.SameVacancy m.output n.output := by
  obtain ⟨-, -, hfrom, -⟩ := Engine.load_eq_ok hload
  have hgrown := (loadFrom_grown hfiles hfrom).1
  constructor
  · exact hgrown.sameVacancy hfiles (sameFile_outputs hload hij hm hn)
  · intro hvacant
    have hi : i < s.copies.length := by
      rw [length_copies_load hload]
      exact (List.getElem?_eq_some_iff.1 hm).1
    obtain ⟨loc, id, hfind, -⟩ := loadFrom_last hfiles hfrom (List.getElem?_eq_getElem hi)
    rw [path_of_loadFrom hfrom hm (List.getElem?_eq_getElem hi)] at hfind
    exact ⟨loc, loc, id, hfind, hgrown.find_of_sameVacancy hvacant hfind⟩

/-- An output is read as the text of the last unit whose output led to the same vacant place. -/
theorem readText_output (hfiles : files.WellFormed)
    (hload : e.load settings mappings files = (.ok s, loaded)) {i j : Nat} {m n : FileMapping}
    {d : WorkingCopy} (hm : mappings[i]? = some m) (hn : mappings[j]? = some n)
    (hd : s.copies[j]? = some d) (hshared : j = i ∨ files.SameVacancy m.output n.output)
    (hlast : ∀ (k : Nat) (n' : FileMapping), j < k → mappings[k]? = some n' →
      ¬files.SameVacancy m.output n'.output) :
    loaded.readText m.output = .ok d.committed := by
  obtain ⟨-, -, hfrom, -⟩ := Engine.load_eq_ok hload
  have hgrown := (loadFrom_grown hfiles hfrom).1
  obtain ⟨loc, id, hfind, hholds⟩ := loadFrom_last hfiles hfrom hd
  rw [path_of_loadFrom hfrom hn hd] at hfind hholds
  have hvacant {q : String} (hq : files.SameVacancy n.output q) : files.SameVacancy m.output q := by
    rcases hshared with rfl | hshared
    · obtain rfl : m = n := Option.some.inj (hm.symm.trans hn)
      exact hq
    · exact hshared.trans hq
  refine (readText_found hgrown.wellFormed).2 ⟨loc, id, ?_, hholds ?_⟩
  · rcases hshared with rfl | hshared
    · obtain rfl : m = n := Option.some.inj (hm.symm.trans hn)
      exact hfind
    · exact hgrown.find_of_sameVacancy hshared.symm hfind
  · intro k d' hjk hd' htogether
    have hk : k < mappings.length := by
      rw [← length_copies_load hload]
      exact (List.getElem?_eq_some_iff.1 hd').1
    have hn' := List.getElem?_eq_getElem hk
    rw [path_of_loadFrom hfrom hn' hd'] at htogether
    exact hlast k _ hjk hn' (hvacant ((leadTogether_iff hfiles hload hjk hn hn').1 htogether))

/-- The committed text of a unit is what its input held, unless the input led to a vacant place to
which an earlier output led as well. -/
theorem readText_input (hfiles : files.WellFormed)
    (hload : e.load settings mappings files = (.ok s, loaded)) {i : Nat} {m : FileMapping}
    {c : WorkingCopy} (hm : mappings[i]? = some m) (hc : s.copies[i]? = some c) :
    files.readText m.input = .ok c.committed ∨
      ∃ (j : Nat) (n : FileMapping), j < i ∧ mappings[j]? = some n ∧
        files.SameVacancy m.input n.output := by
  obtain ⟨hsetup, -, hfrom, -⟩ := Engine.load_eq_ok hload
  have hsep : ∀ p ∈ mappings.map FileMapping.input,
      (∀ q ∈ ([] : List String), files.sameFile p q = false) ∧
        ∀ n ∈ mappings, files.sameFile p n.output = false := by
    intro p hp
    obtain ⟨other, hother, rfl⟩ := List.mem_map.1 hp
    exact ⟨by simp, fun n hn => (checkSetup_eq_ok hsetup).2.1 n hn other hother⟩
  rcases loadFrom_input hfiles (Filling.start hfiles _) hsep
    (fun n hn => List.mem_map_of_mem hn) hfrom hm hc with hread | ⟨q, hq, -⟩ | hvacant
  · exact .inl hread
  · cases hq
  · exact .inr hvacant

end Load

/-- A session that is loaded has the trees of its committed texts in the first generation, and its
units are at the outputs. Where no input and no output is a link that leads to a vacant place, every
working file holds the committed text of its unit, which its input held before. Otherwise two
outputs lead to one file exactly if they led to one vacant place, and then one of them is such a
link: the file holds the text that was copied last. Only an input that led to a vacant place to
which an earlier output led may not have held the text of its unit. -/
theorem loading_takes_a_baseline (e : Engine σ) (settings : Settings) (mappings : List FileMapping)
    (files loaded : Files) (s : Session σ) (hfiles : files.WellFormed)
    (hload : e.load settings mappings files = (.ok s, loaded)) :
    (s.files = loaded ∧ s.forest.generation = 0 ∧
      s.committed.map e.language.parse = s.forest.trees.map .ok ∧
      s.copies.map WorkingCopy.path = mappings.map FileMapping.output) ∧
    ((∀ m ∈ mappings, ¬files.Dangles m.input ∧ ¬files.Dangles m.output) →
      Baseline files mappings s) ∧
    (∀ (i j : Nat) (m n : FileMapping), i < j → mappings[i]? = some m → mappings[j]? = some n →
      (loaded.LeadTogether m.output n.output ↔ files.SameVacancy m.output n.output) ∧
      (files.SameVacancy m.output n.output → files.Dangles m.output ∨ files.Dangles n.output)) ∧
    ∀ (i : Nat) (m : FileMapping) (c : WorkingCopy), mappings[i]? = some m → s.copies[i]? = some c →
      (files.readText m.input = .ok c.committed ∨
        ∃ (j : Nat) (n : FileMapping), j < i ∧ mappings[j]? = some n ∧
          files.SameVacancy m.input n.output) ∧
      ∀ (j : Nat) (n : FileMapping) (d : WorkingCopy), mappings[j]? = some n →
        s.copies[j]? = some d → (j = i ∨ files.SameVacancy m.output n.output) →
        (∀ (k : Nat) (n' : FileMapping), j < k → mappings[k]? = some n' →
          ¬files.SameVacancy m.output n'.output) →
        loaded.readText m.output = .ok d.committed := by
  obtain ⟨hsetup, hsame, hfrom, htrees⟩ := Engine.load_eq_ok hload
  obtain ⟨hpaths, hparses⟩ := loadFrom_copies hfrom
  obtain ⟨-, hinputs, -⟩ := checkSetup_eq_ok hsetup
  refine ⟨⟨hsame, Engine.generation_load hload, ?_, hpaths⟩, ?_, ?_, ?_⟩
  · rw [htrees, Session.committed, List.map_map, List.map_map]
    exact List.map_congr_left hparses
  · intro hsound
    constructor
    · apply map_eq_committed (length_copies_load hload)
      intro i m c hm hc
      rw [hsame]
      apply readText_output hfiles hload hm hm hc (.inl rfl)
      intro k n' hik hn' hvacant
      rcases dangles_of_sameVacancy hvacant (sameFile_outputs hload hik hm hn') with
        hdangles | hdangles
      · exact (hsound m (List.mem_of_getElem? hm)).2 hdangles
      · exact (hsound n' (List.mem_of_getElem? hn')).2 hdangles
    · apply map_eq_committed (length_copies_load hload)
      intro i m c hm hc
      rcases readText_input hfiles hload hm hc with hread | ⟨j, n, -, hn, hvacant⟩
      · exact hread
      · have hsep := hinputs n (List.mem_of_getElem? hn) m (List.mem_of_getElem? hm)
        rcases dangles_of_sameVacancy hvacant hsep with hdangles | hdangles
        · exact absurd hdangles (hsound m (List.mem_of_getElem? hm)).1
        · exact absurd hdangles (hsound n (List.mem_of_getElem? hn)).2
  · intro i j m n hij hm hn
    exact ⟨leadTogether_iff hfiles hload hij hm hn, fun hvacant =>
      dangles_of_sameVacancy hvacant (sameFile_outputs hload hij hm hn)⟩
  · intro i m c hm hc
    exact ⟨readText_input hfiles hload hm hc, fun j n d hn hd hshared hlast =>
      readText_output hfiles hload hm hn hd hshared hlast⟩

/-- Two texts, with a link to a file at the output of the first one. -/
def linkedTexts : Files :=
  twoTexts [(["w", "x"], .link "a.min")]

/-- A text is copied through a link to the file that it leads to, and is read there. -/
theorem baseline_linkedTexts :
    ∃ s loaded,
      lenient.load {} [⟨"a", "x"⟩, ⟨"b", "t"⟩] linkedTexts = (.ok s, loaded) ∧
        Baseline linkedTexts [⟨"a", "x"⟩, ⟨"b", "t"⟩] s := by
  have hwellFormed : linkedTexts.WellFormed := wellFormed_of_entries (by decide +kernel)
  have hok : (lenient.load {} [⟨"a", "x"⟩, ⟨"b", "t"⟩] linkedTexts).1.isOk = true := by
    decide +kernel
  rcases hload : lenient.load {} [⟨"a", "x"⟩, ⟨"b", "t"⟩] linkedTexts with ⟨failure | s, loaded⟩
  · rw [hload] at hok
    cases hok
  · obtain ⟨-, hbaseline, -⟩ := loading_takes_a_baseline lenient {} _ _ _ _ hwellFormed hload
    refine ⟨s, loaded, rfl, hbaseline ?_⟩
    have ha : linkedTexts.find "a" = .ok (.file ["w", "a"] 0) := rfl
    have hb : linkedTexts.find "b" = .ok (.file ["w", "b"] 1) := rfl
    have hx : linkedTexts.find "x" = .ok (.file ["w", "a.min"] 2) := rfl
    have ht : linkedTexts.resolve "t" false = .ok (.missing ["w"] "t") := rfl
    simp [Dangles, ha, hb, hx, ht]

/-- Two outputs may be a link that leads to a vacant place and the place itself: both copies are
made, and the first working file holds the text of the second unit. An input may be such a place:
its unit has the text that was copied there. -/
theorem load_through_dangling_links :
    (lenient.load {} [⟨"a", "x"⟩, ⟨"b", "t"⟩] (twoTexts [(["w", "x"], .link "t")])).1.toOption.map
      (fun s => (s.committed, (s.files.readText "x").toOption, (s.files.readText "t").toOption)) =
      some (["a;", "b;"], some "b;", some "b;") ∧
    ((twoTexts [(["w", "x"], .link "t")]).readText "t").toOption = none ∧
    (lenient.load {} [⟨"a", "x"⟩, ⟨"t", "c"⟩] (twoTexts [(["w", "x"], .link "t")])).1.toOption.map
      Session.committed = some ["a;", "a;"] := by
  refine ⟨?_, ?_, ?_⟩
  · decide +kernel
  · decide +kernel
  · decide +kernel

end SourceReducer
