import SourceReducer.Files.Operation
import SourceReducer.Proofs.Files.Walk

/-! Changes to files. Writing, renaming and removing a file change what stands at its own place and
nothing else: every other path that leads to another file still does, and that file holds what it
held. -/
namespace SourceReducer.Files

/-- Whether every file that is named has a content. -/
def WellFormed (f : Files) : Prop :=
  ∀ loc id, f.entry? loc = some (.file id) → id < f.contents.size

/-- Whether a path is not a symbolic link. -/
def Unlinked (f : Files) (path : String) : Prop :=
  ∀ loc target, f.resolve path false ≠ .ok (.link loc target)

/-- The place of the file that a path names or that could be created there. -/
def leaf? (f : Files) (path : String) : Option Location :=
  match f.resolve path false with
  | .ok (.file loc _) => some loc
  | .ok (.missing around name) => some (around ++ [name])
  | _ => none

/-- The number of the file that a path names. -/
def fileAt? (f : Files) (path : String) : Option Nat :=
  match f.resolve path false with
  | .ok (.file _ id) => some id
  | _ => none

/-- What the file holds that a path names. -/
def held? (f : Files) (path : String) : Option Content :=
  (f.fileAt? path).bind fun id => f.contents[id]?

/-- Whether two paths name one file, or one place, where `place?` says which place a path names. -/
def Coincide (f : Files) (place? : Files → String → Option Location) (p q : String) : Prop :=
  (∃ loc, place? f p = some loc ∧ place? f q = some loc) ∨
    ∃ id, f.fileAt? p = some id ∧ f.fileAt? q = some id

theorem coincide_iff {f : Files} {place? : Files → String → Option Location} {p q : String} :
    f.Coincide place? p q ↔ ((place? f p).isSome = true ∧ place? f p = place? f q) ∨
      (f.fileAt? p).isSome = true ∧ f.fileAt? p = f.fileAt? q := by
  simp only [Coincide, Option.isSome_iff_exists]
  constructor
  · rintro (⟨loc, hp, hq⟩ | ⟨id, hp, hq⟩)
    · exact .inl ⟨⟨loc, hp⟩, hp.trans hq.symm⟩
    · exact .inr ⟨⟨id, hp⟩, hp.trans hq.symm⟩
  · rintro (⟨⟨loc, hp⟩, hpq⟩ | ⟨⟨id, hp⟩, hpq⟩)
    · exact .inl ⟨loc, hp, hpq ▸ hp⟩
    · exact .inr ⟨id, hp, hpq ▸ hp⟩

instance (f : Files) (place? : Files → String → Option Location) (p q : String) :
    Decidable (f.Coincide place? p q) :=
  decidable_of_iff' _ coincide_iff

instance (f : Files) (path : String) : Decidable (f.Unlinked path) :=
  match h : f.resolve path false with
  | .ok (.link loc target) => isFalse fun hlink => hlink loc target h
  | .ok (.directory _) | .ok (.file ..) | .ok (.missing ..) | .error _ =>
      isTrue fun loc target hlink => by rw [h] at hlink; cases hlink

/-! Places of files. -/

theorem leaf?_eq_some {f : Files} {path : String} {loc : Location} (h : f.leaf? path = some loc) :
    loc ≠ [] ∧
      ((∃ id, f.entry? loc = some (.file id) ∧ f.resolve path false = .ok (.file loc id)) ∨
        f.entry? loc = none ∧
          ∃ around name, loc = around ++ [name] ∧
            f.resolve path false = .ok (.missing around name)) := by
  unfold leaf? at h
  split at h
  · next loc' id hres =>
    cases h
    obtain ⟨hne, hentry⟩ := stands_resolve hres
    exact ⟨hne, .inl ⟨id, hentry, hres⟩⟩
  · next around name hres =>
    cases h
    exact ⟨by simp, .inr ⟨stands_resolve hres, around, name, rfl, hres⟩⟩
  · cases h

theorem leaf?_of_resolve_file {f : Files} {path : String} {loc : Location} {id : Nat}
    (h : f.resolve path false = .ok (.file loc id)) : f.leaf? path = some loc := by
  simp [leaf?, h]

theorem fileAt?_eq_some {f : Files} {path : String} {id : Nat} :
    f.fileAt? path = some id ↔ ∃ loc, f.leaf? path = some loc ∧ f.entry? loc = some (.file id) := by
  constructor
  · intro h
    unfold fileAt? at h
    split at h
    · next loc id' hres =>
      cases h
      exact ⟨loc, leaf?_of_resolve_file hres, (stands_resolve hres).2⟩
    · cases h
  · rintro ⟨loc, hleaf, hentry⟩
    obtain ⟨-, ⟨id', hentry', hres⟩ | ⟨hnone, -⟩⟩ := leaf?_eq_some hleaf
    · obtain rfl : id' = id := by simpa [hentry] using hentry'.symm
      simp [fileAt?, hres]
    · simp [hnone] at hentry

theorem fileAt?_eq_none {f : Files} {path : String} {loc : Location} (h : f.leaf? path = some loc)
    (hentry : f.entry? loc = none) : f.fileAt? path = none := by
  rw [Option.eq_none_iff_forall_not_mem]
  intro id hid
  obtain ⟨loc', hleaf, hentry'⟩ := fileAt?_eq_some.1 hid
  obtain rfl : loc = loc' := Option.some.inj (h.symm.trans hleaf)
  simp [hentry] at hentry'

theorem resolve_of_fileAt? {f : Files} {path : String} {id : Nat} (h : f.fileAt? path = some id) :
    ∃ loc, f.resolve path false = .ok (.file loc id) := by
  unfold fileAt? at h
  split at h
  · next loc id' hres =>
    cases h
    exact ⟨loc, hres⟩
  · cases h

/-- Whether a path leads to a leaf can be seen from its goal. -/
theorem leaf?_eq_goal (f : Files) (path : String) :
    f.leaf? path = match goalOf (f.resolve path false) with
      | some (.leaf loc) => some loc
      | _ => none := by
  unfold leaf?
  cases f.resolve path false with
  | error fault => rfl
  | ok place => cases place <;> rfl

theorem unlinked_iff_goal (f : Files) (path : String) :
    f.Unlinked path ↔ ∀ loc target, goalOf (f.resolve path false) ≠ some (.link loc target) := by
  unfold Unlinked
  cases f.resolve path false with
  | error fault => simp
  | ok place => cases place <;> simp [Place.goal]

section Ways

variable {f g : Files}

theorem SameWays.leaf? (h : SameWays f g) (path : String) : f.leaf? path = g.leaf? path := by
  rw [leaf?_eq_goal, leaf?_eq_goal, h.goal_resolve]

theorem SameWays.unlinked (h : SameWays f g) {path : String} (hpath : f.Unlinked path) :
    g.Unlinked path := by
  rw [unlinked_iff_goal] at hpath ⊢
  rwa [← h.goal_resolve]

/-- A path that leads to a leaf leads to whatever file stands there later. -/
theorem SameWays.resolve_leaf (h : SameWays f g) {path : String} {follow : Bool} {loc : Location}
    {id : Nat} (hleaf : goalOf (f.resolve path follow) = some (.leaf loc))
    (hentry : g.entry? loc = some (.file id)) : g.resolve path follow = .ok (.file loc id) := by
  rw [h.goal_resolve] at hleaf
  cases hg : g.resolve path follow with
  | error fault => simp [hg] at hleaf
  | ok place =>
    have hstands := stands_resolve hg
    cases place with
    | directory loc' => simp [hg, Place.goal] at hleaf
    | link loc' target => simp [hg, Place.goal] at hleaf
    | file loc' id' =>
      obtain rfl : loc' = loc := by simpa [hg, Place.goal] using hleaf
      obtain rfl : id = id' := by simpa [hentry] using hstands.2
      rfl
    | missing around name =>
      obtain rfl : around ++ [name] = loc := by simpa [hg, Place.goal] using hleaf
      have hnone : g.entry? (around ++ [name]) = none := hstands
      simp [hnone] at hentry

theorem sameWays_of_entry? (hhere : f.here = g.here)
    (hentry : ∀ loc, f.entry? loc = g.entry? loc ∨ f.way? loc = none ∧ g.way? loc = none) :
    SameWays f g := by
  refine ⟨hhere, fun loc => ?_⟩
  rcases hentry loc with h | ⟨hf, hg⟩
  · simp only [way?, h]
  · rw [hf, hg]

end Ways

/-! The parts of the store after a change. -/

section Change

variable {f : Files} {loc : Location}

theorem lookup_filter_ne (entries : List (Location × Entry)) (loc l : Location) :
    (entries.filter fun e => e.1 != loc).lookup l = if l = loc then none else entries.lookup l := by
  induction entries with
  | nil => simp
  | cons e entries ih =>
    obtain ⟨k, entry⟩ := e
    by_cases hk : k = loc
    · subst hk
      rw [List.filter_cons, if_neg (by simp), ih]
      by_cases hl : l = k
      · rw [if_pos hl, if_pos hl]
      · have hlk : (l == k) = false := beq_eq_false_iff_ne.2 hl
        rw [if_neg hl, if_neg hl, List.lookup_cons, hlk]
    · rw [List.filter_cons, if_pos (by simpa using hk), List.lookup_cons, List.lookup_cons, ih]
      cases hlk : l == k with
      | true =>
        obtain rfl : l = k := by simpa using hlk
        simp [hk]
      | false => rfl

theorem entry?_drop (hloc : loc ≠ []) (l : Location) :
    Files.entry? (f.drop loc) l = if l = loc then none else f.entry? l := by
  unfold entry? drop
  by_cases hl : l = []
  · simp [hl, Ne.symm hloc]
  · simp [hl, lookup_filter_ne]

theorem entry?_put (hloc : loc ≠ []) (entry : Entry) (l : Location) :
    Files.entry? (f.put loc entry) l = if l = loc then some entry else f.entry? l := by
  unfold entry? put
  by_cases hl : l = []
  · simp [hl, Ne.symm hloc]
  · by_cases heq : l = loc
    · simp [heq, hloc, List.lookup_append, lookup_filter_ne]
    · have hlk : (l == loc) = false := beq_eq_false_iff_ne.2 heq
      simp [hl, heq, hlk, List.lookup_append, lookup_filter_ne, List.lookup_cons]

theorem entry?_create (hloc : loc ≠ []) (content : Content) (l : Location) :
    Files.entry? (f.create loc content) l =
      if l = loc then some (.file f.contents.size) else f.entry? l :=
  entry?_put hloc (.file f.contents.size) l

@[simp] theorem entry?_setContent (id : Nat) (content : Content) (l : Location) :
    Files.entry? (f.setContent id content) l = f.entry? l := rfl

/-- Whether an entry is no file or one that has a content. -/
def hasContent (f : Files) : Entry → Bool
  | .file id => id < f.contents.size
  | _ => true

theorem wellFormed_of_entries (h : ∀ e ∈ f.entries, f.hasContent e.2 = true) : f.WellFormed := by
  intro loc id hentry
  unfold entry? at hentry
  split at hentry
  · cases hentry
  · obtain ⟨before, after, happ, -⟩ := List.lookup_eq_some_iff.1 hentry
    simpa [hasContent] using h (loc, .file id) (by simp [happ])

end Change

/-- The store after a change at the places that some paths name. All else is as it was, and the
files that these paths name afterwards are new ones or were named by one of them before. -/
structure Changed (paths : List String) (f g : Files) : Prop where
  ways : SameWays f g
  wellFormed : g.WellFormed
  size_le : f.contents.size ≤ g.contents.size
  entry? : ∀ loc, (∀ p ∈ paths, f.leaf? p ≠ some loc) → g.entry? loc = f.entry? loc
  content : ∀ id < f.contents.size, (∀ p ∈ paths, f.fileAt? p ≠ some id) →
    g.contents[id]? = f.contents[id]?
  named : ∀ p ∈ paths, ∀ id, g.fileAt? p = some id →
    f.contents.size ≤ id ∨ ∃ q ∈ paths, f.fileAt? q = some id

namespace Changed

variable {paths : List String} {f g k : Files}

theorem refl (paths : List String) (hf : f.WellFormed) : Changed paths f f :=
  { ways := SameWays.refl f, wellFormed := hf, size_le := Nat.le_refl _
    entry? := fun _ _ => rfl, content := fun _ _ _ => rfl
    named := fun p hp _ hid => .inr ⟨p, hp, hid⟩ }

theorem leaf? (h : Changed paths f g) (p : String) : g.leaf? p = f.leaf? p :=
  (h.ways.leaf? p).symm

theorem trans (h : Changed paths f g) (h' : Changed paths g k) : Changed paths f k where
  ways := h.ways.trans h'.ways
  wellFormed := h'.wellFormed
  size_le := Nat.le_trans h.size_le h'.size_le
  entry? loc hloc := by
    have hlater : ∀ p ∈ paths, g.leaf? p ≠ some loc := by
      intro p hp
      rw [h.leaf? p]
      exact hloc p hp
    exact (h'.entry? loc hlater).trans (h.entry? loc hloc)
  content id hid hnot := by
    have hnot' : ∀ p ∈ paths, g.fileAt? p ≠ some id := by
      intro p hp hfile
      rcases h.named p hp id hfile with hle | ⟨q, hq, hfile'⟩
      · omega
      · exact hnot q hq hfile'
    rw [h'.content id (Nat.lt_of_lt_of_le hid h.size_le) hnot', h.content id hid hnot]
  named p hp id hfile := by
    rcases h'.named p hp id hfile with hle | ⟨q, hq, hfile'⟩
    · exact .inl (Nat.le_trans h.size_le hle)
    · exact h.named q hq id hfile'

theorem mono {more : List String} (h : Changed paths f g) (hsub : paths ⊆ more) :
    Changed more f g where
  ways := h.ways
  wellFormed := h.wellFormed
  size_le := h.size_le
  entry? loc hloc := h.entry? loc fun p hp => hloc p (hsub hp)
  content id hid hnot := h.content id hid fun p hp => hnot p (hsub hp)
  named p hp id hfile := by
    obtain ⟨loc, hleaf, hentry⟩ := fileAt?_eq_some.1 hfile
    by_cases hloc : ∃ q ∈ paths, f.leaf? q = some loc
    · obtain ⟨q, hq, hqleaf⟩ := hloc
      have hqfile : g.fileAt? q = some id :=
        fileAt?_eq_some.2 ⟨loc, (h.leaf? q).trans hqleaf, hentry⟩
      rcases h.named q hq id hqfile with hle | ⟨r, hr, hrfile⟩
      · exact .inl hle
      · exact .inr ⟨r, hsub hr, hrfile⟩
    · have hsame := h.entry? loc fun q hq hqleaf => hloc ⟨q, hq, hqleaf⟩
      exact .inr ⟨p, hp, fileAt?_eq_some.2 ⟨loc, (h.leaf? p).symm.trans hleaf, hsame ▸ hentry⟩⟩

/-- A path that leads to a file which no changed path names leads to it as before, and the file
holds what it held. -/
theorem find_file (h : Changed paths f g) (hf : f.WellFormed) {q : String} {follow : Bool}
    {loc : Location} {id : Nat} (hq : f.resolve q follow = .ok (.file loc id))
    (hnot : ∀ p ∈ paths, f.fileAt? p ≠ some id) :
    g.resolve q follow = .ok (.file loc id) ∧ g.contents[id]? = f.contents[id]? := by
  have hentry := (stands_resolve hq).2
  have hsame : g.entry? loc = f.entry? loc :=
    h.entry? loc fun p hp hleaf => hnot p hp (fileAt?_eq_some.2 ⟨loc, hleaf, hentry⟩)
  exact ⟨h.ways.resolve_leaf (by simp [hq, Place.goal]) (hsame.trans hentry),
    h.content id (hf loc id hentry) hnot⟩

theorem fileAt? (h : Changed paths f g) {q : String}
    (hq : ∀ p ∈ paths, ¬f.Coincide Files.leaf? p q) :
    g.fileAt? q = f.fileAt? q := by
  have hentry {loc : Location} (hleaf : f.leaf? q = some loc) : g.entry? loc = f.entry? loc :=
    h.entry? loc fun p hp hp' => hq p hp (.inl ⟨loc, hp', hleaf⟩)
  refine Option.ext fun id => ?_
  rw [fileAt?_eq_some, fileAt?_eq_some, h.leaf?]
  constructor
  · rintro ⟨loc, hleaf, hfile⟩
    exact ⟨loc, hleaf, (hentry hleaf) ▸ hfile⟩
  · rintro ⟨loc, hleaf, hfile⟩
    exact ⟨loc, hleaf, (hentry hleaf).trans hfile⟩

theorem held? (h : Changed paths f g) (hf : f.WellFormed) {q : String}
    (hq : ∀ p ∈ paths, ¬f.Coincide Files.leaf? p q) : g.held? q = f.held? q := by
  rw [Files.held?, Files.held?, h.fileAt? hq]
  cases hfile : f.fileAt? q with
  | none => rfl
  | some id =>
    obtain ⟨loc, -, hentry⟩ := fileAt?_eq_some.1 hfile
    exact h.content id (hf loc id hentry) fun p hp hp' => hq p hp (.inr ⟨id, hp', hfile⟩)

end Changed

end SourceReducer.Files
