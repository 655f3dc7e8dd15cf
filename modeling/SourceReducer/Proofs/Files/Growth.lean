import SourceReducer.Proofs.Files.Effect

/-! Growing stores. A write, even through links, takes no name away: it fills a file that is there,
or creates one where nothing was. -/
namespace SourceReducer.Files

/-- The store after writes. All files have kept their names, and names for files that were not there
belong to new files, one to each. -/
structure Grown (f g : Files) : Prop where
  ways : SameWays f g
  wellFormed : g.WellFormed
  size_le : f.contents.size ≤ g.contents.size
  kept : ∀ loc id, f.entry? loc = some (.file id) → g.entry? loc = some (.file id)
  fresh : ∀ loc id, g.entry? loc = some (.file id) →
    f.entry? loc = some (.file id) ∨ f.contents.size ≤ id
  single : ∀ loc loc' id, f.contents.size ≤ id → g.entry? loc = some (.file id) →
    g.entry? loc' = some (.file id) → loc = loc'

namespace Grown

variable {f g k : Files}

theorem refl (hf : f.WellFormed) : Grown f f where
  ways := SameWays.refl f
  wellFormed := hf
  size_le := Nat.le_refl _
  kept _ _ h := h
  fresh _ _ h := .inl h
  single loc _ id hid h := absurd (hf loc id h) (Nat.not_lt.2 hid)

theorem trans (h : Grown f g) (h' : Grown g k) : Grown f k where
  ways := h.ways.trans h'.ways
  wellFormed := h'.wellFormed
  size_le := Nat.le_trans h.size_le h'.size_le
  kept loc id hentry := h'.kept loc id (h.kept loc id hentry)
  fresh loc id hentry := by
    rcases h'.fresh loc id hentry with hold | hnew
    · exact h.fresh loc id hold
    · exact .inr (Nat.le_trans h.size_le hnew)
  single loc loc' id hid hentry hentry' := by
    rcases h'.fresh loc id hentry with hold | hnew
    · rcases h'.fresh loc' id hentry' with hold' | hnew
      · exact h.single loc loc' id hid hold hold'
      · exact h'.single loc loc' id hnew hentry hentry'
    · exact h'.single loc loc' id hnew hentry hentry'

theorem resolve_file (h : Grown f g) {path : String} {follow : Bool} {loc : Location} {id : Nat}
    (hres : f.resolve path follow = .ok (.file loc id)) :
    g.resolve path follow = .ok (.file loc id) :=
  h.ways.resolve_leaf (by simp [hres, Place.goal]) (h.kept loc id (stands_resolve hres).2)

/-- A path that leads to an old file led to it before. -/
theorem resolve_old (h : Grown f g) {path : String} {follow : Bool} {loc : Location} {id : Nat}
    (hres : g.resolve path follow = .ok (.file loc id)) (hid : id < f.contents.size) :
    f.resolve path follow = .ok (.file loc id) := by
  refine h.ways.symm.resolve_leaf (by simp [hres, Place.goal]) ?_
  rcases h.fresh loc id (stands_resolve hres).2 with hold | hnew
  · exact hold
  · omega

end Grown

variable {f g : Files} {p : String} {content : Content}

theorem grown_setContent (hf : f.WellFormed) (id : Nat) :
    Grown f (f.setContent id content) where
  ways := sameWays_setContent f id content
  wellFormed := wellFormed_setContent hf
  size_le := by simp [setContent]
  kept _ _ h := h
  fresh _ _ h := .inl h
  single loc _ i hi h := absurd (hf loc i h) (Nat.not_lt.2 hi)

theorem grown_create {loc : Location} (hf : f.WellFormed) (hne : loc ≠ [])
    (hentry : f.entry? loc = none) : Grown f (f.create loc content) := by
  refine ⟨sameWays_create hne hentry, wellFormed_create hf hne, by simp [create], ?_, ?_, ?_⟩
  · intro l i hi
    rw [entry?_create hne, if_neg, hi]
    rintro rfl
    simp [hentry] at hi
  · intro l i hi
    rw [entry?_create hne] at hi
    split at hi
    · cases hi
      exact .inr (Nat.le_refl _)
    · exact .inl hi
  · intro l l' i hsize hi hi'
    rw [entry?_create hne] at hi hi'
    split at hi
    · split at hi'
      · next hl hl' => exact hl.trans hl'.symm
      · exact absurd (hf l' i hi') (Nat.not_lt.2 hsize)
    · exact absurd (hf l i hi) (Nat.not_lt.2 hsize)

/-- Where a path was written, what it leads to holds what was written, and all other files and
places are as they were. -/
structure Written (f : Files) (p : String) (content : Content) (g : Files) (loc : Location)
    (id : Nat) : Prop where
  grown : Grown f g
  found : g.find p = .ok (.file loc id)
  holds : g.contents[id]? = some content
  others : ∀ i < f.contents.size, i ≠ id → g.contents[i]? = f.contents[i]?
  places : ∀ l, l ≠ loc → g.entry? l = f.entry? l

theorem write_spec (hf : f.WellFormed) (h : f.write p content = .ok g) :
    ∃ loc id, Written f p content g loc id := by
  unfold write at h
  split at h
  · cases hfind : f.find (dropSlashes p) <;> simp [hfind, bind, Except.bind, throw, throwThe,
      MonadExceptOf.throw] at h
  · cases hfind : f.find p with
    | error fault => simp [hfind, bind, Except.bind] at h
    | ok place =>
      have hstands := stands_resolve hfind
      cases place with
      | directory loc => simp [hfind, bind, Except.bind, throw, throwThe,
          MonadExceptOf.throw] at h
      | link loc target => simp [hfind, bind, Except.bind, throw, throwThe,
          MonadExceptOf.throw] at h
      | file loc id =>
        simp only [hfind, bind, Except.bind, pure, Except.pure, Except.ok.injEq] at h
        subst h
        have hgrown : Grown f (f.setContent id content) := grown_setContent hf id
        refine ⟨loc, id, hgrown, hgrown.resolve_file hfind, ?_, ?_, fun _ _ => rfl⟩
        · simp [setContent, hf loc id hstands.2]
        · intro i _ hne
          simp [setContent, Ne.symm hne]
      | missing around name =>
        simp only [hfind, bind, Except.bind, pure, Except.pure, Except.ok.injEq] at h
        subst h
        have hne : around ++ [name] ≠ [] := by simp
        have hgrown : Grown f (f.create (around ++ [name]) content) := grown_create hf hne hstands
        refine ⟨around ++ [name], f.contents.size, hgrown, ?_, by simp [create], ?_, ?_⟩
        · refine hgrown.ways.resolve_leaf (f := f) ?_ ?_
          · exact congrArg goalOf hfind
          · rw [entry?_create hne, if_pos rfl]
        · intro i hi _
          simp [create, Array.getElem?_push, Nat.ne_of_lt hi]
        · intro l hl
          rw [entry?_create hne, if_neg hl]

/-- A copy is a write of what the source holds, unless the two are one file. -/
theorem copy_spec {source : String} (hf : f.WellFormed) (h : f.copy source p = .ok g) :
    ∃ src id loc id' content, f.find source = .ok (.file src id) ∧ Written f p content g loc id' ∧
      (id ≠ id' → f.contents[id]? = some content) := by
  unfold copy at h
  cases hfind : f.find source with
  | error fault => simp [hfind, bind, Except.bind] at h
  | ok place =>
    cases place with
    | directory loc => simp [hfind, bind, Except.bind, throw, throwThe, MonadExceptOf.throw] at h
    | link loc target => simp [hfind, bind, Except.bind, throw, throwThe, MonadExceptOf.throw] at h
    | missing around name =>
      simp [hfind, bind, Except.bind, throw, throwThe, MonadExceptOf.throw] at h
    | file src id =>
      cases hempty : f.write p (.text "") with
      | error fault => simp [hfind, hempty, bind, Except.bind] at h
      | ok emptied =>
        simp only [hfind, hempty, bind, Except.bind] at h
        obtain ⟨loc, id', hfirst⟩ := write_spec hf hempty
        obtain ⟨loc', id'', hsecond⟩ := write_spec hfirst.grown.wellFormed h
        -- the target leads to one file both times
        have hsame := hsecond.grown.resolve_file hfirst.found
        have hfound := hsecond.found
        rw [find, hsame] at hfound
        cases hfound
        have hid : id < f.contents.size := hf src id (stands_resolve hfind).2
        refine ⟨src, id, loc, id', _, rfl,
          ⟨hfirst.grown.trans hsecond.grown, hsame, hsecond.holds, ?_, ?_⟩, ?_⟩
        · intro i hi hne
          rw [hsecond.others i (Nat.lt_of_lt_of_le hi hfirst.grown.size_le) hne,
            hfirst.others i hi hne]
        · intro l hl
          rw [hsecond.places l hl, hfirst.places l hl]
        · intro hne
          rw [hfirst.others id hid hne]
          simp [hid]

end SourceReducer.Files
