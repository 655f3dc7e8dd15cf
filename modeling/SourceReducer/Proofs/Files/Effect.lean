import SourceReducer.Proofs.Files.Change

/-! What writing, removing and renaming do to the files that paths name. -/
namespace SourceReducer.Files

variable {f g : Files} {p q : String} {content : Content}

/-- A path that is not a link is written at the place it names. -/
theorem write_eq_ok (hlink : f.Unlinked p) (h : f.write p content = .ok g) :
    ∃ loc, f.leaf? p = some loc ∧
      ((∃ id, f.entry? loc = some (.file id) ∧ g = f.setContent id content) ∨
        f.entry? loc = none ∧ g = f.create loc content) := by
  unfold write at h
  rw [find_eq_resolve hlink] at h
  split at h
  · cases hfind : f.find (dropSlashes p) <;> simp [hfind, bind, Except.bind, throw, throwThe,
      MonadExceptOf.throw] at h
  · cases hres : f.resolve p false with
    | error fault => simp [hres, bind, Except.bind] at h
    | ok place =>
      have hstands := stands_resolve hres
      cases place with
      | directory loc => simp [hres, bind, Except.bind, throw, throwThe,
          MonadExceptOf.throw] at h
      | link loc target => exact absurd hres (hlink loc target)
      | file loc id =>
        simp only [hres, bind, Except.bind, pure, Except.pure, Except.ok.injEq] at h
        exact ⟨loc, by simp [leaf?, hres], .inl ⟨id, hstands.2, h.symm⟩⟩
      | missing around name =>
        simp only [hres, bind, Except.bind, pure, Except.pure, Except.ok.injEq] at h
        exact ⟨around ++ [name], by simp [leaf?, hres], .inr ⟨hstands, h.symm⟩⟩

theorem sameWays_setContent (f : Files) (id : Nat) (content : Content) :
    SameWays f (f.setContent id content) :=
  sameWays_of_entry? rfl fun _ => .inl rfl

theorem wellFormed_setContent {id : Nat} (hf : f.WellFormed) :
    (f.setContent id content).WellFormed := by
  intro l i hi
  have := hf l i hi
  simpa [setContent] using this

theorem changed_setContent {loc : Location} {id : Nat} (hf : f.WellFormed)
    (hleaf : f.leaf? p = some loc) (hentry : f.entry? loc = some (.file id)) :
    Changed [p] f (f.setContent id content) where
  ways := sameWays_setContent f id content
  wellFormed := wellFormed_setContent hf
  size_le := by simp [setContent]
  entry? _ _ := rfl
  content i hi hnot := by
    have hne : id ≠ i := by
      rintro rfl
      exact hnot p (by simp) (fileAt?_eq_some.2 ⟨loc, hleaf, hentry⟩)
    simp [setContent, hne]
  named q hq i hi := by
    obtain ⟨loc', hleaf', hentry'⟩ := fileAt?_eq_some.1 hi
    rw [← (sameWays_setContent f id content).leaf?] at hleaf'
    exact .inr ⟨q, hq, fileAt?_eq_some.2 ⟨loc', hleaf', hentry'⟩⟩

theorem sameWays_create {loc : Location} (hne : loc ≠ []) (hentry : f.entry? loc = none) :
    SameWays f (f.create loc content) := by
  refine sameWays_of_entry? rfl fun l => ?_
  rw [entry?_create hne]
  by_cases hl : l = loc
  · subst hl
    exact .inr ⟨way?_of_none hentry, way?_of_file (entry?_create hne content l ▸ if_pos rfl)⟩
  · simp [hl]

theorem wellFormed_create {loc : Location} (hf : f.WellFormed) (hne : loc ≠ []) :
    (f.create loc content).WellFormed := by
  intro l i hi
  rw [entry?_create hne] at hi
  split at hi
  · cases hi
    simp [create]
  · have := hf l i hi
    simp only [create, Array.size_push]
    omega

theorem changed_create {loc : Location} (hf : f.WellFormed) (hleaf : f.leaf? p = some loc)
    (hentry : f.entry? loc = none) : Changed [p] f (f.create loc content) := by
  obtain ⟨hne, -⟩ := leaf?_eq_some hleaf
  have hways : SameWays f (f.create loc content) := sameWays_create hne hentry
  refine ⟨hways, wellFormed_create hf hne, by simp [create], ?_, ?_, ?_⟩
  · intro l hl
    rw [entry?_create hne, if_neg]
    rintro rfl
    exact hl p (by simp) hleaf
  · intro i hi _
    simp [create, Array.getElem?_push, Nat.ne_of_lt hi]
  · intro q hq i hi
    obtain rfl := List.mem_singleton.1 hq
    obtain ⟨loc', hleaf', hentry'⟩ := fileAt?_eq_some.1 hi
    rw [← hways.leaf?, hleaf] at hleaf'
    cases hleaf'
    rw [entry?_create hne, if_pos rfl] at hentry'
    cases hentry'
    exact .inl (Nat.le_refl _)

/-- Writing changes the place that the path names, which then holds what was written. -/
theorem changed_write (hf : f.WellFormed) (hlink : f.Unlinked p)
    (h : f.write p content = .ok g) : Changed [p] f g ∧ g.held? p = some content := by
  obtain ⟨loc, hleaf, ⟨id, hentry, rfl⟩ | ⟨hentry, rfl⟩⟩ := write_eq_ok hlink h
  · have hchanged : Changed [p] f (f.setContent id content) := changed_setContent hf hleaf hentry
    refine ⟨hchanged, ?_⟩
    have hfile : (f.setContent id content).fileAt? p = some id :=
      fileAt?_eq_some.2 ⟨loc, (hchanged.leaf? p).trans hleaf, hentry⟩
    rw [held?, hfile]
    simp [setContent, hf loc id hentry]
  · have hchanged : Changed [p] f (f.create loc content) := changed_create hf hleaf hentry
    refine ⟨hchanged, ?_⟩
    have hne := (leaf?_eq_some hleaf).1
    have hfile : (f.create loc content).fileAt? p = some f.contents.size :=
      fileAt?_eq_some.2 ⟨loc, (hchanged.leaf? p).trans hleaf, by rw [entry?_create hne, if_pos rfl]⟩
    rw [held?, hfile]
    simp [create]

theorem sameWays_drop {loc : Location} {id : Nat} (hne : loc ≠ [])
    (hentry : f.entry? loc = some (.file id)) : SameWays f (f.drop loc) := by
  refine sameWays_of_entry? rfl fun l => ?_
  by_cases hl : l = loc
  · subst hl
    exact .inr ⟨way?_of_file hentry, way?_of_none (by rw [entry?_drop hne, if_pos rfl])⟩
  · exact .inl (by rw [entry?_drop hne, if_neg hl])

theorem changed_drop {loc : Location} {id : Nat} (hf : f.WellFormed)
    (hleaf : f.leaf? p = some loc) (hentry : f.entry? loc = some (.file id)) :
    Changed [p] f (f.drop loc) := by
  obtain ⟨hne, -⟩ := leaf?_eq_some hleaf
  have hways := sameWays_drop hne hentry
  refine ⟨hways, ?_, Nat.le_refl _, ?_, fun _ _ _ => rfl, ?_⟩
  · intro l i hi
    rw [entry?_drop hne] at hi
    split at hi
    · cases hi
    · exact hf l i hi
  · intro l hl
    rw [entry?_drop hne, if_neg]
    rintro rfl
    exact hl p (by simp) hleaf
  · intro q hq i hi
    obtain rfl := List.mem_singleton.1 hq
    obtain ⟨loc', hleaf', hentry'⟩ := fileAt?_eq_some.1 hi
    rw [← hways.leaf?, hleaf] at hleaf'
    cases hleaf'
    rw [entry?_drop hne, if_pos rfl] at hentry'
    cases hentry'

/-- Removing a file leaves nothing at the place that the path names. -/
theorem remove_file {id : Nat} (hf : f.WellFormed) (h : f.fileAt? p = some id) :
    ∃ g, f.remove p = .ok g ∧ Changed [p] f g ∧ g.fileAt? p = none ∧
      ∀ q i, g.fileAt? q = some i → f.fileAt? q = some i := by
  obtain ⟨loc, hres⟩ := resolve_of_fileAt? h
  have hleaf := leaf?_of_resolve_file hres
  obtain ⟨hne, hentry⟩ := stands_resolve hres
  have hchanged := changed_drop hf hleaf hentry
  refine ⟨f.drop loc, ?_, hchanged, ?_, ?_⟩
  · simp [remove, hres, bind, Except.bind, pure, Except.pure]
  · exact fileAt?_eq_none ((hchanged.leaf? p).trans hleaf) (by rw [entry?_drop hne, if_pos rfl])
  · intro q i hi
    obtain ⟨l, hl, hli⟩ := fileAt?_eq_some.1 hi
    rw [entry?_drop hne] at hli
    split at hli
    · cases hli
    · exact fileAt?_eq_some.2 ⟨l, (hchanged.leaf? q).symm.trans hl, hli⟩

/-- What is neither a file nor a link is not removed. -/
theorem remove_missing (hlink : f.Unlinked p) (h : f.fileAt? p = none) :
    ∃ fault, f.remove p = .error fault := by
  unfold remove
  cases hres : f.resolve p false with
  | error fault => exact ⟨fault, rfl⟩
  | ok place =>
    cases place with
    | directory loc => exact ⟨.isDirectory, rfl⟩
    | missing around name => exact ⟨.notFound, rfl⟩
    | link loc target => exact absurd hres (hlink loc target)
    | file loc id => simp [fileAt?, hres] at h

/-- Renaming a file to a place where another one stands, or none, moves it: what stood there is
gone. -/
theorem rename_leaf {id : Nat} {b : Location} (hf : f.WellFormed) (hp : f.fileAt? p = some id)
    (hq : f.leaf? q = some b) (hdiff : f.fileAt? q ≠ some id) :
    ∃ g, f.rename p q = .ok g ∧ Changed [p, q] f g ∧ g.fileAt? p = none ∧
      g.fileAt? q = some id ∧ g.held? q = f.held? p := by
  obtain ⟨a, hresp⟩ := resolve_of_fileAt? hp
  obtain ⟨hane, haentry⟩ := stands_resolve hresp
  obtain ⟨hbne, hb⟩ := leaf?_eq_some hq
  have haleaf := leaf?_of_resolve_file hresp
  have hab : a ≠ b := by
    rintro rfl
    exact hdiff (fileAt?_eq_some.2 ⟨a, hq, haentry⟩)
  have hbway : f.way? b = none := by
    rcases hb with ⟨id', hentry, -⟩ | ⟨hentry, -⟩
    · exact way?_of_file hentry
    · exact way?_of_none hentry
  have hrename : f.rename p q = .ok ((f.drop a).put b (.file id)) := by
    rcases hb with ⟨id', -, hresq⟩ | ⟨-, around, name, rfl, hresq⟩
    · have hne : id ≠ id' := by
        rintro rfl
        exact hdiff (by simp [fileAt?, hresq])
      simp [rename, hresp, hresq, bind, Except.bind, pure, Except.pure, hne]
    · simp [rename, hresp, hresq, bind, Except.bind, pure, Except.pure]
  have hentry (l : Location) : Files.entry? ((f.drop a).put b (.file id)) l =
      if l = b then some (.file id) else if l = a then none else f.entry? l := by
    rw [entry?_put hbne, entry?_drop hane]
  have hways : SameWays f ((f.drop a).put b (.file id)) := by
    refine sameWays_of_entry? rfl fun l => ?_
    by_cases hlb : l = b
    · subst hlb
      exact .inr ⟨hbway, way?_of_file ((hentry l).trans (if_pos rfl))⟩
    · by_cases hla : l = a
      · subst hla
        exact .inr ⟨way?_of_file haentry, way?_of_none (by rw [hentry, if_neg hlb, if_pos rfl])⟩
      · exact .inl (by rw [hentry, if_neg hlb, if_neg hla])
  have hnone : ((f.drop a).put b (.file id)).fileAt? p = none :=
    fileAt?_eq_none (hways.leaf? p ▸ haleaf) (by rw [hentry, if_neg hab, if_pos rfl])
  have hmoved : ((f.drop a).put b (.file id)).fileAt? q = some id :=
    fileAt?_eq_some.2 ⟨b, hways.leaf? q ▸ hq, (hentry b).trans (if_pos rfl)⟩
  refine ⟨(f.drop a).put b (.file id), hrename,
    ⟨hways, ?_, Nat.le_refl _, ?_, fun _ _ _ => rfl, ?_⟩, hnone, hmoved, ?_⟩
  · intro l i hi
    rw [hentry] at hi
    split at hi
    · cases hi
      exact hf a id haentry
    · split at hi
      · cases hi
      · exact hf l i hi
  · intro l hl
    have hlb : l ≠ b := fun h => hl q (by simp) (h ▸ hq)
    have hla : l ≠ a := fun h => hl p (by simp) (h ▸ haleaf)
    rw [hentry, if_neg hlb, if_neg hla]
  · intro r hr i hi
    rcases List.mem_cons.1 hr with rfl | hr
    · rw [hnone] at hi
      cases hi
    · obtain rfl := List.mem_singleton.1 hr
      rw [hmoved] at hi
      cases hi
      exact .inr ⟨p, by simp, hp⟩
  · rw [held?, held?, hmoved, hp]
    rfl

/-! Paths that name different files. -/

/-- Paths none of which is a link and no two of which name one place or one file. -/
structure Apart (f : Files) (paths : List String) : Prop where
  wellFormed : f.WellFormed
  unlinked : ∀ p ∈ paths, f.Unlinked p
  separate : ∀ p ∈ paths, ∀ q ∈ paths, p ≠ q → ¬f.Coincide leaf? p q

theorem Apart.mono {paths fewer : List String} (h : f.Apart paths) (hsub : fewer ⊆ paths) :
    f.Apart fewer :=
  ⟨h.wellFormed, fun p hp => h.unlinked p (hsub hp),
    fun p hp q hq => h.separate p (hsub hp) q (hsub hq)⟩

/-- Paths stay apart in a change after which the changed ones name different files. -/
theorem Apart.changed {paths changed : List String} (h : f.Apart paths) (hg : Changed changed f g)
    (hsub : changed ⊆ paths)
    (hinner : ∀ p ∈ changed, ∀ q ∈ changed, p ≠ q → ∀ id, g.fileAt? p = some id →
      g.fileAt? q ≠ some id) : g.Apart paths := by
  -- a changed path and one that is not
  have houter : ∀ p ∈ changed, ∀ q ∈ paths, q ∉ changed → ∀ id, g.fileAt? p = some id →
      g.fileAt? q ≠ some id := by
    intro p hp q hq hnot id hpid hqid
    have hdiff : ∀ r ∈ changed, ¬f.Coincide leaf? r q := fun r hr =>
      h.separate r (hsub hr) q hq fun heq => hnot (heq ▸ hr)
    rw [hg.fileAt? hdiff] at hqid
    rcases hg.named p hp id hpid with hle | ⟨r, hr, hrid⟩
    · obtain ⟨loc, -, hentry⟩ := fileAt?_eq_some.1 hqid
      have := h.wellFormed loc id hentry
      omega
    · exact hdiff r hr (.inr ⟨id, hrid, hqid⟩)
  refine ⟨hg.wellFormed, fun p hp => hg.ways.unlinked (h.unlinked p hp), ?_⟩
  rintro p hp q hq hne (⟨loc, hpl, hql⟩ | ⟨id, hpid, hqid⟩)
  · rw [hg.leaf?] at hpl hql
    exact h.separate p hp q hq hne (.inl ⟨loc, hpl, hql⟩)
  · by_cases hpc : p ∈ changed
    · by_cases hqc : q ∈ changed
      · exact hinner p hpc q hqc hne id hpid hqid
      · exact houter p hpc q hq hqc id hpid hqid
    · by_cases hqc : q ∈ changed
      · exact houter q hqc p hp hpc id hqid hpid
      · have hsame {r : String} (hr : r ∈ paths) (hrc : r ∉ changed) :
            g.fileAt? r = f.fileAt? r :=
          hg.fileAt? fun s hs => h.separate s (hsub hs) r hr fun heq => hrc (heq ▸ hs)
        rw [hsame hp hpc] at hpid
        rw [hsame hq hqc] at hqid
        exact h.separate p hp q hq hne (.inr ⟨id, hpid, hqid⟩)

/-- Paths stay apart in a change at one of them. -/
theorem Apart.changed_one {paths : List String} (h : f.Apart paths) (hg : Changed [p] f g)
    (hp : p ∈ paths) : g.Apart paths := by
  refine h.changed hg (by simpa using hp) ?_
  intro x hx y hy hne
  simp only [List.mem_singleton] at hx hy
  exact absurd (hx.trans hy.symm) hne

/-- What other paths hold does not change. -/
theorem Apart.held? {paths changed : List String} (h : f.Apart paths) (hg : Changed changed f g)
    (hsub : changed ⊆ paths) (hq : q ∈ paths) (hnot : q ∉ changed) :
    g.fileAt? q = f.fileAt? q ∧ g.held? q = f.held? q := by
  have hdiff : ∀ p ∈ changed, ¬f.Coincide leaf? p q := fun p hp =>
    h.separate p (hsub hp) q hq fun heq => hnot (heq ▸ hp)
  exact ⟨hg.fileAt? hdiff, hg.held? h.wellFormed hdiff⟩

/-- Renaming one of these paths to another one moves what it holds and keeps them apart. -/
theorem Apart.rename {paths : List String} {loc : Location} (h : f.Apart paths) (hp : p ∈ paths)
    (hq : q ∈ paths) (hne : p ≠ q) (hheld : f.held? p = some content)
    (hleaf : f.leaf? q = some loc) :
    ∃ g, f.rename p q = .ok g ∧ g.Apart paths ∧ Changed [p, q] f g ∧ g.fileAt? p = none ∧
      g.held? q = some content := by
  obtain ⟨id, hid, -⟩ := Option.bind_eq_some_iff.1 hheld
  have hdiff : f.fileAt? q ≠ some id := fun heq => h.separate p hp q hq hne (.inr ⟨id, hid, heq⟩)
  obtain ⟨g, hrename, hchanged, hgone, hmoved, hsame⟩ := rename_leaf h.wellFormed hid hleaf hdiff
  refine ⟨g, hrename, h.changed hchanged (by simp [hp, hq]) ?_, hchanged, hgone, hsame.trans hheld⟩
  intro x hx y hy hxy i hi hyi
  simp only [List.mem_cons, List.not_mem_nil, or_false] at hx hy
  rcases hx with rfl | rfl
  · simp [hgone] at hi
  · rcases hy with rfl | rfl
    · simp [hgone] at hyi
    · exact hxy rfl

end SourceReducer.Files
