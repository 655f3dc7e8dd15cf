import SourceReducer.Proofs.Engine.Coherence
import SourceReducer.Proofs.Files.Slots

/-! Commits, whatever the staged files are. Even where staged files are links or share a file, a
commit that goes through leaves no staged file, and every commit after it puts each text in its
working file. -/
namespace SourceReducer

open Files

/-! Single operations on the places that paths name. -/

section Place

variable {f g : Files} {p q : String} {a b : Location}

theorem Files.write_empty {content : Content} (hslot : f.slot? p = some a)
    (hentry : f.entry? a = none) (h : f.write p content = .ok g) : g = f.create a content := by
  obtain ⟨around, name, rfl, hres⟩ := resolve_of_slot?_none hslot hentry
  have hunlinked : f.Unlinked p := by
    intro loc target hlink
    simp [hres] at hlink
  obtain ⟨loc, hleaf, ⟨id, hfile, -⟩ | ⟨-, rfl⟩⟩ := write_eq_ok hunlinked h
  · obtain rfl : around ++ [name] = loc := by simpa [leaf?, hres] using hleaf
    simp [hentry] at hfile
  · obtain rfl : around ++ [name] = loc := by simpa [leaf?, hres] using hleaf
    rfl

/-- Renaming moves what stands at the first place to the second one; where both are names of one
file, it changes nothing. -/
theorem Files.rename_eq_ok (hp : f.slot? p = some a) (hq : f.slot? q = some b)
    (h : f.rename p q = .ok g) :
    ∃ entry, f.entry? a = some entry ∧ entry ≠ .directory ∧
      ((∃ id, entry = .file id ∧ f.entry? b = some (.file id) ∧ g = f) ∨
        g.contents = f.contents ∧ g.here = f.here ∧
          ∀ l, g.entry? l = if l = b then some entry else if l = a then none else f.entry? l) := by
  obtain ⟨hane, ha⟩ := resolve_of_slot? hp
  obtain ⟨hbne, hb⟩ := resolve_of_slot? hq
  have hput (entry : Entry) (h : (.ok ((f.drop a).put b entry) : Except FileFault Files) = .ok g) :
      g.contents = f.contents ∧ g.here = f.here ∧
        ∀ l, g.entry? l = if l = b then some entry else if l = a then none else f.entry? l := by
    cases h
    refine ⟨rfl, rfl, fun l => ?_⟩
    rw [entry?_put hbne, entry?_drop hane]
  unfold rename at h
  rcases ha with ⟨id, hentry, hres⟩ | ⟨target, hentry, hres⟩ | ⟨-, around, name, -, hres⟩
  · refine ⟨_, hentry, by simp, ?_⟩
    rcases hb with ⟨id', hentry', hres'⟩ | ⟨target', -, hres'⟩ | ⟨-, around, name, rfl, hres'⟩
    · by_cases hid : id = id'
      · simp only [hres, hres', bind, Except.bind, pure, Except.pure, hid, if_true,
          Except.ok.injEq] at h
        exact .inl ⟨id, rfl, hid ▸ hentry', h.symm⟩
      · simp only [hres, hres', bind, Except.bind, hid, if_false] at h
        exact .inr (hput _ h)
    · simp only [hres, hres', bind, Except.bind] at h
      exact .inr (hput _ h)
    · simp only [hres, hres', bind, Except.bind] at h
      exact .inr (hput _ h)
  · refine ⟨_, hentry, by simp, .inr (hput _ ?_)⟩
    rcases hb with ⟨id', -, hres'⟩ | ⟨target', -, hres'⟩ | ⟨-, around, name, rfl, hres'⟩ <;>
      simpa only [hres, hres', bind, Except.bind, pure, Except.pure] using h
  · -- nothing stands at the first place
    rcases hb with ⟨id', -, hres'⟩ | ⟨target', -, hres'⟩ | ⟨-, around', name', -, hres'⟩ <;>
      simp [hres, hres', bind, Except.bind, throw, throwThe, MonadExceptOf.throw] at h

theorem Files.slot?_withTrouble (f : Files) (trouble : Trouble) (path : String) :
    (f.withTrouble trouble).slot? path = f.slot? path := by
  simp only [slot?, resolve_withTrouble]

theorem Files.riskWrite_empty {content : Content} (hslot : f.slot? p = some a)
    (hentry : f.entry? a = none) (h : f.riskWrite p content = (.ok (), g)) :
    g = f.afterWrite.create a content :=
  write_empty ((slot?_withTrouble f _ p).trans hslot) hentry (write_of_riskWrite h)

theorem Files.moved_of_riskRename (hp : f.slot? p = some a) (hq : f.slot? q = some b)
    (h : f.riskRename p q = (.ok (), g)) :
    ∃ entry, f.entry? a = some entry ∧ entry ≠ .directory ∧
      ((∃ id, entry = .file id ∧ f.entry? b = some (.file id) ∧ g = f.afterRename) ∨
        g.contents = f.contents ∧ g.here = f.here ∧
          ∀ l, g.entry? l = if l = b then some entry else if l = a then none else f.entry? l) :=
  rename_eq_ok ((slot?_withTrouble f _ p).trans hp) ((slot?_withTrouble f _ q).trans hq)
    (rename_of_riskRename h)

end Place

/-! Frames. -/

theorem Files.Framed.of_entry? {base f g : Files} {places : List Location}
    (h : Framed base places f) (hhere : g.here = f.here)
    (hentry : ∀ l, l ∉ places → g.entry? l = f.entry? l)
    (hplaces : ∀ l ∈ places, g.entry? l ≠ some .directory) : Framed base places g := by
  refine ⟨hhere.trans h.here, fun l hl => ?_, hplaces⟩
  rw [← h.way? l hl]
  simp only [Files.way?, hentry l hl]

theorem Files.Framed.create {base f : Files} {places : List Location} (h : Framed base places f)
    {a : Location} (hne : a ≠ []) (ha : a ∈ places) (content : Content) :
    Framed base places (f.create a content) := by
  refine h.of_entry? rfl (fun l hl => ?_) (fun l hl => ?_)
  · rw [entry?_create hne, if_neg]
    rintro rfl
    exact hl ha
  · rw [entry?_create hne]
    split
    · simp
    · exact h.entry? l hl

theorem Files.Framed.move {base f g : Files} {places : List Location} (h : Framed base places f)
    {a b : Location} (ha : a ∈ places) (hb : b ∈ places) {entry : Entry}
    (hentry : entry ≠ .directory) (hhere : g.here = f.here)
    (hmoved : ∀ l, g.entry? l = if l = b then some entry else if l = a then none else f.entry? l) :
    Framed base places g := by
  refine h.of_entry? hhere (fun l hl => ?_) (fun l hl => ?_)
  · rw [hmoved, if_neg, if_neg]
    · rintro rfl
      exact hl ha
    · rintro rfl
      exact hl hb
  · rw [hmoved]
    split
    · simpa using hentry
    · split
      · simp
      · exact h.entry? l hl

theorem Files.Grown.framed {f g : Files} (h : Grown f g) {places : List Location}
    (hplaces : ∀ l ∈ places, f.entry? l ≠ some .directory) : Framed f places g := by
  refine ⟨h.ways.here.symm, fun l _ => (h.ways.way? l).symm, fun l hl hdir => hplaces l hl ?_⟩
  exact entry?_of_way? ((h.ways.way? l).trans (way?_of_directory hdir))

/-! Staging and promoting at the places that the paths of the units named in an earlier store. A
site is the path of a working file with that of its staged file. -/

section Anchored

variable {base : Files} {places : List Location} {copies : List WorkingCopy} {f g : Files}

/-- Whether the paths of sites name the same places, which are among given ones, in all stores that
are framed by a store and these places. The working files are at different places, none of which is
that of a staged file. -/
structure Anchored (base : Files) (places : List Location) (sites : List (String × String)) :
    Prop where
  slot : ∀ f, Framed base places f → ∀ x ∈ sites,
    f.slot? x.1 = some (base.placeAt x.1) ∧ f.slot? x.2 = some (base.placeAt x.2)
  mem : ∀ x ∈ sites, base.placeAt x.1 ∈ places ∧ base.placeAt x.2 ∈ places
  working : (sites.map fun x => base.placeAt x.1).Nodup
  apart : ∀ x ∈ sites, ∀ y ∈ sites, base.placeAt x.2 ≠ base.placeAt y.1

theorem Anchored.of_cons {x : String × String} {sites : List (String × String)}
    (h : Anchored base places (x :: sites)) : Anchored base places sites where
  slot f hf y hy := h.slot f hf y (by simp [hy])
  mem y hy := h.mem y (by simp [hy])
  working := (List.nodup_cons.1 h.working).2
  apart y hy z hz := h.apart y (by simp [hy]) z (by simp [hz])

theorem Anchored.slot_copy {c : WorkingCopy}
    (h : Anchored base places (copies.map WorkingCopy.paths)) (hf : Framed base places f)
    (hc : c ∈ copies) :
    f.slot? c.path = some (base.placeAt c.path) ∧
      f.slot? c.stagedPath = some (base.placeAt c.stagedPath) :=
  h.slot f hf c.paths (List.mem_map_of_mem hc)

theorem Anchored.mem_copy {c : WorkingCopy}
    (h : Anchored base places (copies.map WorkingCopy.paths)) (hc : c ∈ copies) :
    base.placeAt c.path ∈ places ∧ base.placeAt c.stagedPath ∈ places :=
  h.mem c.paths (List.mem_map_of_mem hc)

/-- Where the places of the staged files are empty, every text is staged in a new file. -/
theorem stageFrom_anchored {earlier staged : List Staged}
    (hsites : Anchored base places (copies.map WorkingCopy.paths)) (hf : Framed base places f)
    (hwell : f.WellFormed) (hnodup : (copies.map fun c => base.placeAt c.stagedPath).Nodup)
    (hempty : ∀ c ∈ copies, f.entry? (base.placeAt c.stagedPath) = none)
    (h : stageFrom earlier copies f = (.ok staged, g)) :
    Framed base places g ∧ g.WellFormed ∧ f.contents.size ≤ g.contents.size ∧
      (∀ c ∈ copies, ∃ id, g.entry? (base.placeAt c.stagedPath) = some (.file id) ∧
        f.contents.size ≤ id ∧ g.contents[id]? = some (.text c.scratch)) ∧
      (∀ l, (∀ c ∈ copies, l ≠ base.placeAt c.stagedPath) → g.entry? l = f.entry? l) ∧
      ∀ id < f.contents.size, g.contents[id]? = f.contents[id]? := by
  induction copies generalizing earlier f with
  | nil =>
    simp only [stageFrom, Prod.mk.injEq] at h
    obtain ⟨-, rfl⟩ := h
    exact ⟨hf, hwell, Nat.le_refl _, by simp, fun _ _ => rfl, fun _ _ => rfl⟩
  | cons c copies ih =>
    obtain ⟨written, hwrite, h⟩ := stageFrom_cons_eq_ok h
    obtain ⟨hfirst, hrest⟩ := List.nodup_cons.1 hnodup
    have hslot := (hsites.slot_copy hf List.mem_cons_self).2
    have hne : base.placeAt c.stagedPath ≠ [] := (resolve_of_slot? hslot).1
    have hnext : Framed base places f.afterWrite := ⟨hf.here, hf.way?, hf.entry?⟩
    obtain rfl := Files.riskWrite_empty hslot (hempty c (by simp)) hwrite
    have hentry (l : Location) :
        Files.entry? (f.afterWrite.create (base.placeAt c.stagedPath) (.text c.scratch)) l =
          if l = base.placeAt c.stagedPath then some (.file f.contents.size) else f.entry? l :=
      entry?_create hne (.text c.scratch) l
    have hcreated := hnext.create hne (hsites.mem_copy List.mem_cons_self).2 (.text c.scratch)
    have hother : ∀ d ∈ copies, base.placeAt d.stagedPath ≠ base.placeAt c.stagedPath := by
      intro d hd heq
      exact hfirst (List.mem_map.2 ⟨d, hd, heq⟩)
    obtain ⟨hg, hgwell, hsize, hstaged, hframe, hkept⟩ := ih hsites.of_cons hcreated
      (wellFormed_create hwell hne) hrest
      (fun d hd => by
        rw [hentry, if_neg (hother d hd)]
        exact hempty d (by simp [hd])) h
    have hgrown : f.contents.size + 1 ≤ g.contents.size := by simpa [create] using hsize
    refine ⟨hg, hgwell, by omega, ?_, ?_, ?_⟩
    · intro d hd
      rcases List.mem_cons.1 hd with rfl | hd
      · refine ⟨f.contents.size, ?_, Nat.le_refl _, ?_⟩
        · rw [hframe _ fun d' hd' => (hother d' hd').symm, hentry, if_pos rfl]
        · rw [hkept _ (by simp [create])]
          simp [create]
      · obtain ⟨id, hid, hfresh, hholds⟩ := hstaged d hd
        have : f.contents.size + 1 ≤ id := by simpa [create] using hfresh
        exact ⟨id, hid, by omega, hholds⟩
    · intro l hl
      rw [hframe l fun d hd => hl d (by simp [hd]), hentry, if_neg (hl c (by simp))]
    · intro id hid
      rw [hkept id (by simp only [create, Array.size_push, contents_afterWrite]; omega)]
      simp [create, Array.getElem?_push, Nat.ne_of_lt hid]

theorem promoteAll_cons_eq_ok {c : WorkingCopy} {staged : Staged} {rest : List Staged}
    {tree? : Option Tree} {trees : List (Option Tree)} {promoted : List WorkingCopy}
    (h : promoteAll (c :: copies) (staged :: rest) (tree? :: trees) f = (.ok (), promoted, g)) :
    ∃ renamed others, f.riskRename staged.path staged.target = (.ok (), renamed) ∧
      promoteAll copies rest trees renamed = (.ok (), others, g) ∧
      promoted = c.promoted tree? :: others := by
  unfold promoteAll at h
  rcases hrename : f.riskRename staged.path staged.target with ⟨fault | _, renamed⟩
  · simp [WorkingCopy.promote, hrename] at h
  · rw [promote_eq_ok tree? hrename] at h
    rcases hrest : promoteAll copies rest trees renamed with ⟨outcome, others, final⟩
    simp only [hrest, Prod.mk.injEq] at h
    obtain ⟨rfl, rfl, rfl⟩ := h
    exact ⟨renamed, others, rfl, hrest, rfl⟩

/-- Promotions that go through move what stands at the staged places to the working ones. -/
theorem promoteAll_anchored (hsites : Anchored base places (copies.map WorkingCopy.paths))
    (hf : Framed base places f)
    (hclash : ∀ c ∈ copies, ∀ id, f.entry? (base.placeAt c.stagedPath) = some (.file id) →
      f.entry? (base.placeAt c.path) ≠ some (.file id))
    (tree? : WorkingCopy → Option Tree) {promoted : List WorkingCopy}
    (h : promoteAll copies (copies.map fun c => ⟨c.stagedPath, c.path⟩) (copies.map tree?) f =
      (.ok (), promoted, g)) :
    promoted = copies.map (fun c => c.promoted (tree? c)) ∧ Framed base places g ∧
      g.contents = f.contents ∧ (copies.map fun c => base.placeAt c.stagedPath).Nodup ∧
      (∀ c ∈ copies, g.entry? (base.placeAt c.stagedPath) = none ∧
        ∃ entry, f.entry? (base.placeAt c.stagedPath) = some entry ∧
          g.entry? (base.placeAt c.path) = some entry) ∧
      ∀ l, (∀ c ∈ copies, l ≠ base.placeAt c.stagedPath ∧ l ≠ base.placeAt c.path) →
        g.entry? l = f.entry? l := by
  induction copies generalizing f promoted with
  | nil =>
    simp only [promoteAll, Prod.mk.injEq, true_and] at h
    obtain ⟨rfl, rfl⟩ := h
    exact ⟨rfl, hf, rfl, by simp, by simp, fun _ _ => rfl⟩
  | cons c copies ih =>
    obtain ⟨renamed, others, hrename, hrest, rfl⟩ := promoteAll_cons_eq_ok h
    obtain ⟨hpath, hstaged⟩ := hsites.slot_copy hf List.mem_cons_self
    obtain ⟨hpathMem, hstagedMem⟩ := hsites.mem_copy List.mem_cons_self
    have hapart {d d' : WorkingCopy} (hd : d ∈ c :: copies) (hd' : d' ∈ c :: copies) :
        base.placeAt d.stagedPath ≠ base.placeAt d'.path :=
      hsites.apart d.paths (List.mem_map_of_mem hd) d'.paths (List.mem_map_of_mem hd')
    obtain ⟨entry, hentry, hnotdir, ⟨id, rfl, hsame, -⟩ | ⟨hcontents, hhere, hmoved⟩⟩ :=
      Files.moved_of_riskRename hstaged hpath hrename
    · exact absurd hsame (hclash c List.mem_cons_self id hentry)
    have hrenamed := hf.move hstagedMem hpathMem hnotdir hhere hmoved
    -- what the other units find
    have hfirst : ∀ d ∈ copies, base.placeAt d.path ≠ base.placeAt c.path := by
      intro d hd heq
      exact (List.nodup_cons.1 hsites.working).1
        (List.mem_map.2 ⟨d.paths, List.mem_map_of_mem hd, heq⟩)
    have hworking {d : WorkingCopy} (hd : d ∈ copies) :
        renamed.entry? (base.placeAt d.path) = f.entry? (base.placeAt d.path) := by
      have hne' : base.placeAt d.path ≠ base.placeAt c.stagedPath :=
        (hapart List.mem_cons_self (by simp [hd])).symm
      rw [hmoved, if_neg (hfirst d hd), if_neg hne']
    have hothers {d : WorkingCopy} (hd : d ∈ copies) {e : Entry}
        (he : renamed.entry? (base.placeAt d.stagedPath) = some e) :
        f.entry? (base.placeAt d.stagedPath) = some e ∧
          base.placeAt d.stagedPath ≠ base.placeAt c.stagedPath := by
      rw [hmoved, if_neg (hapart (by simp [hd]) List.mem_cons_self)] at he
      split at he
      · cases he
      · next hne => exact ⟨he, hne⟩
    obtain ⟨rfl, hg, hcontents', hnodup, hmoves, hframe⟩ := ih hsites.of_cons hrenamed
      (fun d hd id hid => by
        rw [hworking hd]
        exact hclash d (by simp [hd]) id (hothers hd hid).1) hrest
    have hstays {l : Location} (hl : ∀ d ∈ copies, l ≠ base.placeAt d.stagedPath)
        (hl' : ∀ d ∈ copies, l ≠ base.placeAt d.path) : g.entry? l = renamed.entry? l :=
      hframe l fun d hd => ⟨hl d hd, hl' d hd⟩
    have hdistinct : ∀ d ∈ copies, base.placeAt c.stagedPath ≠ base.placeAt d.stagedPath := by
      intro d hd
      obtain ⟨-, e, he, -⟩ := hmoves d hd
      exact (hothers hd he).2.symm
    refine ⟨rfl, hg, hcontents'.trans hcontents, ?_, ?_, ?_⟩
    · rw [List.map_cons, List.nodup_cons]
      refine ⟨fun hmem => ?_, hnodup⟩
      obtain ⟨d, hd, heq⟩ := List.mem_map.1 hmem
      exact hdistinct d hd heq.symm
    · intro d hd
      rcases List.mem_cons.1 hd with rfl | hd
      · refine ⟨?_, entry, hentry, ?_⟩
        · rw [hstays hdistinct fun d' hd' => hapart List.mem_cons_self (by simp [hd']),
            hmoved, if_neg (hapart List.mem_cons_self List.mem_cons_self), if_pos rfl]
        · rw [hstays (fun d' hd' => (hapart (by simp [hd']) List.mem_cons_self).symm)
            fun d' hd' => (hfirst d' hd').symm,
            hmoved, if_pos rfl]
      · obtain ⟨hnone, e, he, hfinal⟩ := hmoves d hd
        exact ⟨hnone, e, (hothers hd he).1, hfinal⟩
    · intro l hl
      obtain ⟨hls, hlp⟩ := hl c List.mem_cons_self
      rw [hframe l fun d hd => hl d (by simp [hd]), hmoved, if_neg hlp, if_neg hls]

/-- Staging grows the store, and every staged path leads to a file afterwards. -/
theorem stageFrom_grown {earlier staged : List Staged} (hf : f.WellFormed)
    (h : stageFrom earlier copies f = (.ok staged, g)) :
    Grown f g ∧ ∀ c ∈ copies, ∃ loc id, g.find c.stagedPath = .ok (.file loc id) := by
  induction copies generalizing earlier f with
  | nil =>
    simp only [stageFrom, Prod.mk.injEq] at h
    obtain ⟨-, rfl⟩ := h
    exact ⟨Grown.refl hf, by simp⟩
  | cons c copies ih =>
    obtain ⟨written, hwrite, h⟩ := stageFrom_cons_eq_ok h
    obtain ⟨loc, id, hwritten⟩ := riskWrite_spec hf hwrite
    obtain ⟨hgrown, hfound⟩ := ih hwritten.grown.wellFormed h
    refine ⟨hwritten.grown.trans hgrown, ?_⟩
    intro d hd
    rcases List.mem_cons.1 hd with rfl | hd
    · exact ⟨loc, id, hgrown.resolve_file hwritten.found⟩
    · exact hfound d hd

end Anchored

/-! Sites. -/

/-- Whether the working files of sites are at different places of a store, and no staged file has
the place of a working file or is another name of it. -/
structure SitesApart (f : Files) (sites : List (String × String)) : Prop where
  wellFormed : f.WellFormed
  leaf : ∀ x ∈ sites, IsLeaf (f.find x.1)
  working : (sites.map fun x => f.placeAt x.1).Nodup
  staged : ∀ x ∈ sites, ∀ y ∈ sites, ¬f.Coincide slot? x.2 y.1

/-- The places of all working and staged files. -/
def sitePlaces (base : Files) (sites : List (String × String)) : List Location :=
  (sites.flatMap fun x => [x.1, x.2]).map base.placeAt

/-- Whether no staged file is there, and the staged files are to be at different places. -/
structure Tidy (base : Files) (sites : List (String × String)) (f : Files) : Prop where
  anchored : Anchored base (sitePlaces base sites) sites
  framed : Framed base (sitePlaces base sites) f
  wellFormed : f.WellFormed
  staged : (sites.map fun x => base.placeAt x.2).Nodup
  empty : ∀ x ∈ sites, f.entry? (base.placeAt x.2) = none

section Sites

variable {base f g : Files} {sites : List (String × String)} {copies : List WorkingCopy}

theorem mem_sitePlaces {x : String × String} (hx : x ∈ sites) :
    base.placeAt x.1 ∈ sitePlaces base sites ∧ base.placeAt x.2 ∈ sitePlaces base sites := by
  refine ⟨List.mem_map_of_mem ?_, List.mem_map_of_mem ?_⟩ <;>
    exact List.mem_flatMap.2 ⟨x, hx, by simp⟩

theorem isLeaf_of_grown (h : Grown base f) {p : String} {loc : Location} {id : Nat}
    (hfind : f.find p = .ok (.file loc id)) : IsLeaf (base.find p) := by
  refine ⟨loc, ?_⟩
  rw [find, h.ways.goal_resolve, ← find, hfind]
  rfl

theorem SitesApart.anchored (h : SitesApart base sites)
    (hleaf : ∀ x ∈ sites, IsLeaf (base.find x.2)) :
    Anchored base (sitePlaces base sites) sites := by
  have hpaths : ∀ p ∈ sites.flatMap (fun x => [x.1, x.2]), IsLeaf (base.find p) := by
    intro p hp
    obtain ⟨x, hx, hpx⟩ := List.mem_flatMap.1 hp
    simp only [List.mem_cons, List.not_mem_nil, or_false] at hpx
    rcases hpx with rfl | rfl
    · exact h.leaf x hx
    · exact hleaf x hx
  have hslot : ∀ f, Framed base (sitePlaces base sites) f → ∀ x ∈ sites,
      f.slot? x.1 = some (base.placeAt x.1) ∧ f.slot? x.2 = some (base.placeAt x.2) := by
    intro f hf x hx
    exact ⟨slot?_eq_placeAt hpaths hf (List.mem_flatMap.2 ⟨x, hx, by simp⟩),
      slot?_eq_placeAt hpaths hf (List.mem_flatMap.2 ⟨x, hx, by simp⟩)⟩
  have hplaceAt {p : String} (hp : IsLeaf (base.find p)) :
      base.slot? p = some (base.placeAt p) := by
    obtain ⟨loc, hloc⟩ := slot?_of_isLeaf hp
    simp [placeAt, hloc]
  refine ⟨hslot, fun x hx => mem_sitePlaces hx, h.working, fun x hx y hy heq => ?_⟩
  exact h.staged x hx y hy (.inl ⟨_, heq ▸ hplaceAt (hleaf x hx), hplaceAt (h.leaf y hy)⟩)

theorem framed_of_grown (hbase : ∀ x ∈ sites, IsLeaf (base.find x.1) ∧ IsLeaf (base.find x.2))
    (hf : Grown base f) :
    Framed base (sitePlaces base sites) f := by
  refine hf.framed fun l hl => ?_
  obtain ⟨p, hp, rfl⟩ := List.mem_map.1 hl
  obtain ⟨x, hx, hpx⟩ := List.mem_flatMap.1 hp
  have hplace {q : String} (hq : IsLeaf (base.find q)) :
      base.entry? (base.placeAt q) ≠ some .directory := by
    obtain ⟨loc, hloc⟩ := slot?_of_isLeaf hq
    rw [placeAt, hloc]
    exact entry?_slot?_ne_directory hloc
  simp only [List.mem_cons, List.not_mem_nil, or_false] at hpx
  rcases hpx with rfl | rfl
  · exact hplace (hbase x hx).1
  · exact hplace (hbase x hx).2

/-- While the store only grows, no staged file becomes another name of its working file. -/
theorem SitesApart.entry?_ne (h : SitesApart base sites)
    (hanchored : Anchored base (sitePlaces base sites) sites)
    (hbase : Framed base (sitePlaces base sites) base) (hg : Grown base g) {x : String × String}
    (hx : x ∈ sites) {id : Nat} (hstaged : g.entry? (base.placeAt x.2) = some (.file id)) :
    g.entry? (base.placeAt x.1) ≠ some (.file id) := by
  intro hworking
  have hnew (hid : base.contents.size ≤ id) : False :=
    hanchored.apart x hx x hx (hg.single _ _ id hid hstaged hworking)
  have hnamed {p : String} (hslot : base.slot? p = some (base.placeAt p))
      (hentry : base.entry? (base.placeAt p) = some (.file id)) : base.fileAt? p = some id := by
    simp [fileAt?, resolve_of_slot?_file hslot hentry]
  obtain ⟨hpath, hstagedPath⟩ := hanchored.slot base hbase x hx
  rcases hg.fresh _ id hstaged with hold | hid
  · rcases hg.fresh _ id hworking with hold' | hid
    · exact h.staged x hx x hx (.inr ⟨id, hnamed hstagedPath hold, hnamed hpath hold'⟩)
    · exact hnew hid
  · exact hnew hid

/-- Moving what stands at some places to others keeps a store well formed. -/
theorem wellFormed_of_moves (hf : f.WellFormed) (hcontents : g.contents = f.contents)
    (hmoves : ∀ c ∈ copies, g.entry? (base.placeAt c.stagedPath) = none ∧
      ∃ entry, f.entry? (base.placeAt c.stagedPath) = some entry ∧
        g.entry? (base.placeAt c.path) = some entry)
    (hframe : ∀ l, (∀ c ∈ copies, l ≠ base.placeAt c.stagedPath ∧ l ≠ base.placeAt c.path) →
      g.entry? l = f.entry? l) : g.WellFormed := by
  intro l id hl
  rw [hcontents]
  by_cases hsite : ∃ c ∈ copies, l = base.placeAt c.stagedPath ∨ l = base.placeAt c.path
  · obtain ⟨c, hc, hplace⟩ := hsite
    obtain ⟨hnone, entry, hstaged, hworking⟩ := hmoves c hc
    rcases hplace with rfl | rfl
    · simp [hnone] at hl
    · obtain rfl : entry = .file id := Option.some.inj (hworking.symm.trans hl)
      exact hf _ id hstaged
  · rw [hframe l fun c hc =>
      ⟨fun heq => hsite ⟨c, hc, .inl heq⟩, fun heq => hsite ⟨c, hc, .inr heq⟩⟩] at hl
    exact hf l id hl

section Commits

variable {staged : List Staged} {written : Files} {promoted : List WorkingCopy}

/-- A first commit that goes through leaves no staged file. -/
theorem SitesApart.commit (h : SitesApart base (copies.map WorkingCopy.paths)) (hf : Grown base f)
    (tree? : WorkingCopy → Option Tree)
    (hstage : stageAll copies f = (.ok staged, written))
    (hpromote : promoteAll copies staged (copies.map tree?) written = (.ok (), promoted, g)) :
    promoted = copies.map (fun c => c.promoted (tree? c)) ∧
      Tidy base (copies.map WorkingCopy.paths) g := by
  have hstaged := stageFrom_staged hstage
  obtain ⟨hgrown, hfound⟩ := stageFrom_grown hf.wellFormed hstage
  have hwritten := hf.trans hgrown
  have hleaf : ∀ x ∈ copies.map WorkingCopy.paths, IsLeaf (base.find x.2) := by
    intro x hx
    obtain ⟨c, hc, rfl⟩ := List.mem_map.1 hx
    obtain ⟨loc, id, hfind⟩ := hfound c hc
    exact isLeaf_of_grown hwritten hfind
  have hanchored := h.anchored hleaf
  have hframed {k : Files} (hk : Grown base k) :=
    framed_of_grown (fun x hx => ⟨h.leaf x hx, hleaf x hx⟩) hk
  rw [List.nil_append] at hstaged
  rw [hstaged] at hpromote
  obtain ⟨hpromoted, hg, hcontents, hnodup, hmoves, hframe⟩ := promoteAll_anchored hanchored
    (hframed hwritten)
    (fun c hc id => h.entry?_ne hanchored (hframed (Grown.refl h.wellFormed)) hwritten
      (List.mem_map_of_mem hc)) tree? hpromote
  refine ⟨hpromoted, hanchored, hg, wellFormed_of_moves hwritten.wellFormed hcontents hmoves hframe,
    ?_, ?_⟩
  · rw [List.map_map]
    exact hnodup
  · intro x hx
    obtain ⟨c, hc, rfl⟩ := List.mem_map.1 hx
    exact (hmoves c hc).1

/-- A commit of a tidy store leaves it tidy, and each working file holds the scratch text. -/
theorem Tidy.commit (h : Tidy base (copies.map WorkingCopy.paths) f)
    (tree? : WorkingCopy → Option Tree) (hstage : stageAll copies f = (.ok staged, written))
    (hpromote : promoteAll copies staged (copies.map tree?) written = (.ok (), promoted, g)) :
    promoted = copies.map (fun c => c.promoted (tree? c)) ∧
      Tidy base (copies.map WorkingCopy.paths) g ∧
      ∀ c ∈ copies, g.readText c.path = .ok c.scratch := by
  have hnodup : (copies.map fun c => base.placeAt c.stagedPath).Nodup := by
    simpa [Function.comp_def, WorkingCopy.paths] using h.staged
  have hstaged := stageFrom_staged hstage
  obtain ⟨hwritten, hwell, -, hholds, hkept, -⟩ :=
    stageFrom_anchored h.anchored h.framed h.wellFormed hnodup
      (fun c hc => h.empty c.paths (List.mem_map_of_mem hc)) hstage
  have hworking {c : WorkingCopy} (hc : c ∈ copies) :
      written.entry? (base.placeAt c.path) = f.entry? (base.placeAt c.path) :=
    hkept _ fun d hd => (h.anchored.apart d.paths (List.mem_map_of_mem hd) c.paths
      (List.mem_map_of_mem hc)).symm
  rw [List.nil_append] at hstaged
  rw [hstaged] at hpromote
  obtain ⟨hpromoted, hg, hcontents, -, hmoves, hframe⟩ := promoteAll_anchored h.anchored hwritten
    (fun c hc id hid hid' => by
      obtain ⟨id', hentry, hfresh, -⟩ := hholds c hc
      obtain rfl : id = id' := by simpa [hid] using hentry
      rw [hworking hc] at hid'
      exact absurd (h.wellFormed _ id hid') (Nat.not_lt.2 hfresh)) tree? hpromote
  have hgwell : g.WellFormed := wellFormed_of_moves hwell hcontents hmoves hframe
  refine ⟨hpromoted, ⟨h.anchored, hg, hgwell, h.staged, ?_⟩, ?_⟩
  · intro x hx
    obtain ⟨c, hc, rfl⟩ := List.mem_map.1 hx
    exact (hmoves c hc).1
  · intro c hc
    obtain ⟨id, hentry, -, htext⟩ := hholds c hc
    obtain ⟨-, entry, hentry', hfinal⟩ := hmoves c hc
    obtain rfl : Entry.file id = entry := Option.some.inj (hentry.symm.trans hentry')
    have hres := resolve_of_slot?_file (h.anchored.slot_copy hg hc).1 hfinal
    have hfind : g.find c.path = .ok (.file (base.placeAt c.path) id) := by
      rw [find_eq_resolve (by simp [hres]), hres]
    exact (readText_found hgwell).2 ⟨_, id, hfind, by rw [hcontents, htext]⟩

end Commits

end Sites

end SourceReducer
