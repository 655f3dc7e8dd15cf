import SourceReducer.Files.Risk
import SourceReducer.Proofs.Files.Growth

/-! Operations at risk. What is going to fail has no part in where paths lead and what files hold,
so an operation that fails or breaks off changes no more than one that succeeds: the place of the
file that it is about. -/
namespace SourceReducer

/-- Whether some trouble is what another one leaves to come. -/
structure Trouble.RestOf (rest whole : Trouble) : Prop where
  writes : rest.writes <:+ whole.writes
  removals : rest.removals <:+ whole.removals
  renames : rest.renames <:+ whole.renames

namespace Trouble.RestOf

variable {a b c : Trouble}

theorem refl (a : Trouble) : a.RestOf a :=
  ⟨List.suffix_rfl, List.suffix_rfl, List.suffix_rfl⟩

theorem trans (h : a.RestOf b) (h' : b.RestOf c) : a.RestOf c :=
  ⟨h.writes.trans h'.writes, h.removals.trans h'.removals, h.renames.trans h'.renames⟩

end Trouble.RestOf

namespace Files

variable {f g : Files} {p q : String} {content : Content} {trouble : Trouble}

/-- Whether a write to come, the next one being number 0, fails and leaves a part of its text. -/
def LeavesPart (f : Files) (number : Nat) : Prop :=
  ∃ mishap part, f.trouble.writes[number]? = some (some mishap) ∧ mishap.part = some part

/-- Whether a removal to come fails. -/
def RemovalFails (f : Files) (number : Nat) : Prop :=
  ∃ fault, f.trouble.removals[number]? = some (some fault)

/-- Whether a rename to come fails with a fault. -/
def RenameFails (f : Files) (number : Nat) (fault : FileFault) : Prop :=
  f.trouble.renames[number]? = some (some fault)

/-- Whether no rename to come fails that the store allows. -/
def RenamesSucceed (f : Files) : Prop :=
  ∀ fault? ∈ f.trouble.renames, fault? = none

instance (f : Files) : Decidable f.RenamesSucceed :=
  inferInstanceAs (Decidable (∀ fault? ∈ f.trouble.renames, fault? = none))

/-- Whether no write to come leaves a part and no removal fails. -/
structure CleansUp (f : Files) : Prop where
  writes : ∀ mishap? ∈ f.trouble.writes, mishap?.bind Mishap.part = none
  removals : ∀ fault? ∈ f.trouble.removals, fault? = none

theorem CleansUp.not_leavesPart (h : f.CleansUp) (number : Nat) : ¬f.LeavesPart number := by
  rintro ⟨mishap, part, hnext, hpart⟩
  have hnone := h.writes _ (List.mem_of_getElem? hnext)
  simp [hpart] at hnone

theorem CleansUp.not_removalFails (h : f.CleansUp) (number : Nat) : ¬f.RemovalFails number := by
  rintro ⟨fault, hnext⟩
  cases h.removals _ (List.mem_of_getElem? hnext)

/-! A store is the same whatever is going to fail. -/

@[simp] theorem entry?_withTrouble (loc : Location) :
    Files.entry? (f.withTrouble trouble) loc = f.entry? loc := rfl

theorem followNames_withTrouble (follow : Bool)
    (through : Location → String → List String → Except FileFault Place) (cur : Location)
    (names : List String) :
    (f.withTrouble trouble).followNames follow through cur names =
      f.followNames follow through cur names := by
  induction names generalizing cur with
  | nil => rfl
  | cons name rest ih => simp only [followNames, ih, entry?_withTrouble]

theorem followLinks_withTrouble (follow : Bool) (links : Nat) (cur : Location)
    (names : List String) :
    (f.withTrouble trouble).followLinks follow links cur names =
      f.followLinks follow links cur names := by
  induction links generalizing cur names with
  | zero => exact followNames_withTrouble follow _ cur names
  | succ links ih => simp only [followLinks, ih, followNames_withTrouble]

@[simp] theorem resolve_withTrouble (path : String) (follow : Bool) :
    (f.withTrouble trouble).resolve path follow = f.resolve path follow := by
  simp only [resolve, followLinks_withTrouble]
  rfl

@[simp] theorem leaf?_withTrouble (path : String) :
    Files.leaf? (f.withTrouble trouble) path = f.leaf? path := by
  simp only [leaf?, resolve_withTrouble]

@[simp] theorem fileAt?_withTrouble (path : String) :
    Files.fileAt? (f.withTrouble trouble) path = f.fileAt? path := by
  simp only [fileAt?, resolve_withTrouble]

@[simp] theorem held?_withTrouble (path : String) :
    Files.held? (f.withTrouble trouble) path = f.held? path := by
  simp only [held?, fileAt?_withTrouble]
  rfl

theorem sameWays_withTrouble (f : Files) (trouble : Trouble) :
    SameWays f (f.withTrouble trouble) :=
  sameWays_of_entry? rfl fun _ => .inl rfl

theorem changed_withTrouble (paths : List String) (hf : f.WellFormed) :
    Changed paths f (f.withTrouble trouble) where
  ways := sameWays_withTrouble f trouble
  wellFormed := hf
  size_le := Nat.le_refl _
  entry? _ _ := rfl
  content _ _ _ := rfl
  named p hp _ hid := .inr ⟨p, hp, fileAt?_withTrouble p ▸ hid⟩

theorem grown_withTrouble (hf : f.WellFormed) : Grown f (f.withTrouble trouble) where
  ways := sameWays_withTrouble f trouble
  wellFormed := hf
  size_le := Nat.le_refl _
  kept _ _ h := h
  fresh _ _ h := .inl h
  single loc _ id hid h := absurd (hf loc id h) (Nat.not_lt.2 hid)

@[simp] theorem contents_afterWrite (f : Files) : f.afterWrite.contents = f.contents := rfl

/-! What an operation at risk can do. -/

theorem getElem?_zero_of_join {α : Type} {xs : List (Option α)} {x : α}
    (h : xs.head?.join = some x) : xs[0]? = some (some x) := by
  rw [← List.head?_eq_getElem?]
  exact Option.join_eq_some_iff.1 h

theorem leave_cases (f : Files) (p : String) (mishap : Mishap) :
    f.leave p mishap = f ∨
      ∃ part g, mishap.part = some part ∧ f.write p part = .ok g ∧ f.leave p mishap = g := by
  unfold leave
  cases mishap.part with
  | none => exact .inl rfl
  | some part =>
    show (f.settle none (f.write p part)).2 = f ∨ _
    cases hwrite : f.write p part with
    | error fault => exact .inl rfl
    | ok g => exact .inr ⟨part, g, rfl, hwrite, by simp [hwrite, settle]⟩

theorem riskWrite_cases (f : Files) (p : String) (content : Content) :
    (∃ g, f.afterWrite.write p content = .ok g ∧ f.riskWrite p content = (.ok (), g)) ∨
      (∃ fault, f.riskWrite p content = (.error fault, f.afterWrite)) ∨
      ∃ fault part g, f.LeavesPart 0 ∧ f.afterWrite.write p part = .ok g ∧
        f.riskWrite p content = (.error fault, g) := by
  unfold riskWrite
  cases hnext : f.trouble.writes.head?.join with
  | none =>
    cases hwrite : f.afterWrite.write p content with
    | error fault => exact .inr (.inl ⟨fault, rfl⟩)
    | ok g => exact .inl ⟨g, rfl, rfl⟩
  | some mishap =>
    right
    rcases f.afterWrite.leave_cases p mishap with hsame | ⟨part, g, hpart, hwrite, hleave⟩
    · exact .inl ⟨mishap.fault, congrArg (Prod.mk _) hsame⟩
    · have hleaves : f.LeavesPart 0 := ⟨mishap, part, getElem?_zero_of_join hnext, hpart⟩
      exact .inr ⟨mishap.fault, part, g, hleaves, hwrite, congrArg (Prod.mk _) hleave⟩

theorem settle_cases (f : Files) (fault? : Option FileFault) (outcome : Except FileFault Files) :
    (∃ g, outcome = .ok g ∧ f.settle fault? outcome = (.ok (), g)) ∨
      ∃ fault, (outcome = .error fault ∨ fault? = some fault) ∧
        f.settle fault? outcome = (.error fault, f) := by
  cases fault? with
  | some fault => exact .inr ⟨fault, .inr rfl, rfl⟩
  | none =>
    cases outcome with
    | error fault => exact .inr ⟨fault, .inl rfl, rfl⟩
    | ok g => exact .inl ⟨g, rfl, rfl⟩

theorem riskRemove_cases (f : Files) (p : String) :
    (∃ g, f.afterRemoval.remove p = .ok g ∧ f.riskRemove p = (.ok (), g)) ∨
      ∃ fault, (f.afterRemoval.remove p = .error fault ∨ f.RemovalFails 0) ∧
        f.riskRemove p = (.error fault, f.afterRemoval) := by
  rcases f.afterRemoval.settle_cases f.trouble.removals.head?.join (f.afterRemoval.remove p) with
    hok | ⟨fault, hfault | hnext, herror⟩
  · exact .inl hok
  · exact .inr ⟨fault, .inl hfault, herror⟩
  · exact .inr ⟨fault, .inr ⟨fault, getElem?_zero_of_join hnext⟩, herror⟩

theorem riskRename_cases (f : Files) (p q : String) :
    (∃ g, f.afterRename.rename p q = .ok g ∧ f.riskRename p q = (.ok (), g)) ∨
      ∃ fault, (f.afterRename.rename p q = .error fault ∨ f.RenameFails 0 fault) ∧
        f.riskRename p q = (.error fault, f.afterRename) := by
  rcases f.afterRename.settle_cases f.trouble.renames.head?.join (f.afterRename.rename p q) with
    hok | ⟨fault, hfault | hnext, herror⟩
  · exact .inl hok
  · exact .inr ⟨fault, .inl hfault, herror⟩
  · exact .inr ⟨fault, .inr (getElem?_zero_of_join hnext), herror⟩

theorem write_of_riskWrite (h : f.riskWrite p content = (.ok (), g)) :
    f.afterWrite.write p content = .ok g := by
  rcases f.riskWrite_cases p content with ⟨k, hwrite, hrisk⟩ | ⟨fault, hrisk⟩ |
    ⟨fault, part, k, -, -, hrisk⟩
  · rw [hrisk] at h
    cases h
    exact hwrite
  · rw [hrisk] at h
    cases h
  · rw [hrisk] at h
    cases h

theorem rename_of_riskRename (h : f.riskRename p q = (.ok (), g)) :
    f.afterRename.rename p q = .ok g := by
  rcases f.riskRename_cases p q with ⟨k, hrename, hrisk⟩ | ⟨fault, -, hrisk⟩
  · rw [hrisk] at h
    cases h
    exact hrename
  · rw [hrisk] at h
    cases h

/-- Where no rename fails that the store allows, one that is allowed is made. -/
theorem riskRename_eq_ok (hsucceed : f.RenamesSucceed) (h : f.afterRename.rename p q = .ok g) :
    f.riskRename p q = (.ok (), g) := by
  have hnext : f.trouble.renames.head?.join = none := by
    cases hrenames : f.trouble.renames with
    | nil => rfl
    | cons fault? rest => exact hsucceed fault? (by simp [hrenames])
  rw [riskRename, hnext, h]
  rfl

/-! What is left to come. -/

theorem trouble_write (h : f.write p content = .ok g) : g.trouble = f.trouble := by
  unfold write at h
  split at h
  · cases hfind : f.find (dropSlashes p) <;> simp [hfind, bind, Except.bind, throw, throwThe,
      MonadExceptOf.throw] at h
  · cases hfind : f.find p with
    | error fault => simp [hfind, bind, Except.bind] at h
    | ok place =>
      simp only [hfind, bind, Except.bind, pure, Except.pure, throw, throwThe,
        MonadExceptOf.throw] at h
      cases place with
      | directory loc => cases h
      | link loc target => cases h
      | file loc id =>
        cases h
        rfl
      | missing around name =>
        cases h
        rfl

theorem trouble_remove (h : f.remove p = .ok g) : g.trouble = f.trouble := by
  unfold remove at h
  cases hres : f.resolve p false with
  | error fault => simp [hres, bind, Except.bind] at h
  | ok place =>
    simp only [hres, bind, Except.bind, pure, Except.pure, throw, throwThe,
      MonadExceptOf.throw] at h
    cases place with
    | directory loc => cases h
    | missing around name => cases h
    | file loc id =>
      cases h
      rfl
    | link loc target =>
      cases h
      rfl

/-- Renaming changes where files stand and nothing else. -/
theorem rename_keeps (h : f.rename p q = .ok g) :
    g.contents = f.contents ∧ g.trouble = f.trouble := by
  unfold rename at h
  cases hp : f.resolve p false with
  | error fault => simp [hp, bind, Except.bind] at h
  | ok moved =>
    cases hq : f.resolve q false with
    | error fault => simp [hp, hq, bind, Except.bind] at h
    | ok goal =>
      simp only [hp, hq, bind, Except.bind, pure, Except.pure, throw, throwThe,
        MonadExceptOf.throw] at h
      -- a refusal, nothing, or a change of entries
      repeat' split at h
      all_goals cases h
      all_goals exact ⟨rfl, rfl⟩

theorem trouble_riskWrite (f : Files) (p : String) (content : Content) :
    (f.riskWrite p content).2.trouble = f.afterWrite.trouble := by
  rcases f.riskWrite_cases p content with ⟨g, hwrite, hrisk⟩ | ⟨fault, hrisk⟩ |
    ⟨fault, part, g, -, hwrite, hrisk⟩
  · rw [hrisk]
    exact trouble_write hwrite
  · rw [hrisk]
  · rw [hrisk]
    exact trouble_write hwrite

theorem trouble_riskRemove (f : Files) (p : String) :
    (f.riskRemove p).2.trouble = f.afterRemoval.trouble := by
  rcases f.riskRemove_cases p with ⟨g, hremove, hrisk⟩ | ⟨fault, -, hrisk⟩
  · rw [hrisk]
    exact trouble_remove hremove
  · rw [hrisk]

theorem trouble_riskRename (f : Files) (p q : String) :
    (f.riskRename p q).2.trouble = f.afterRename.trouble := by
  rcases f.riskRename_cases p q with ⟨g, hrename, hrisk⟩ | ⟨fault, -, hrisk⟩
  · rw [hrisk]
    exact (rename_keeps hrename).2
  · rw [hrisk]

/-- No rename changes what a file holds. -/
theorem contents_riskRename (f : Files) (p q : String) :
    (f.riskRename p q).2.contents = f.contents := by
  rcases f.riskRename_cases p q with ⟨g, hrename, hrisk⟩ | ⟨fault, -, hrisk⟩
  · rw [hrisk]
    exact (rename_keeps hrename).1
  · rw [hrisk]
    rfl

theorem restOf_riskWrite (f : Files) (p : String) (content : Content) :
    (f.riskWrite p content).2.trouble.RestOf f.trouble := by
  rw [trouble_riskWrite]
  exact ⟨List.tail_suffix _, List.suffix_rfl, List.suffix_rfl⟩

theorem restOf_riskRemove (f : Files) (p : String) :
    (f.riskRemove p).2.trouble.RestOf f.trouble := by
  rw [trouble_riskRemove]
  exact ⟨List.suffix_rfl, List.tail_suffix _, List.suffix_rfl⟩

theorem restOf_riskRename (f : Files) (p q : String) :
    (f.riskRename p q).2.trouble.RestOf f.trouble := by
  rw [trouble_riskRename]
  exact ⟨List.suffix_rfl, List.suffix_rfl, List.tail_suffix _⟩

theorem RenamesSucceed.rest (h : f.RenamesSucceed) (hrest : g.trouble.RestOf f.trouble) :
    g.RenamesSucceed :=
  fun fault? hmem => h fault? (hrest.renames.subset hmem)

theorem CleansUp.rest (h : f.CleansUp) (hrest : g.trouble.RestOf f.trouble) : g.CleansUp :=
  ⟨fun mishap? hmem => h.writes mishap? (hrest.writes.subset hmem),
    fun fault? hmem => h.removals fault? (hrest.removals.subset hmem)⟩

/-! What an operation at risk changes. -/

/-- A write changes the place that its path names, unless it fails before it opened the file. -/
theorem changed_riskWrite (hf : f.WellFormed) (hlink : f.Unlinked p) (content : Content) :
    Changed [] f (f.riskWrite p content).2 ∨
      Changed [p] f (f.riskWrite p content).2 ∧
        ((f.riskWrite p content).1 = .ok () ∨ f.LeavesPart 0) := by
  have hnext (paths : List String) : Changed paths f f.afterWrite := changed_withTrouble paths hf
  have hlink' : f.afterWrite.Unlinked p := (hnext []).ways.unlinked hlink
  rcases f.riskWrite_cases p content with ⟨g, hwrite, hrisk⟩ | ⟨fault, hrisk⟩ |
    ⟨fault, part, g, hleaves, hwrite, hrisk⟩
  · rw [hrisk]
    have hg := changed_write (hnext []).wellFormed hlink' hwrite
    exact .inr ⟨(hnext [p]).trans hg.1, .inl rfl⟩
  · rw [hrisk]
    exact .inl (hnext [])
  · rw [hrisk]
    have hg := changed_write (hnext []).wellFormed hlink' hwrite
    exact .inr ⟨(hnext [p]).trans hg.1, .inr hleaves⟩

/-- A text that was written stands at the place that its path names. -/
theorem riskWrite_ok (hf : f.WellFormed) (hlink : f.Unlinked p)
    (h : f.riskWrite p content = (.ok (), g)) :
    Changed [p] f g ∧ g.held? p = some content ∧ ∃ loc, f.leaf? p = some loc := by
  have hnext : Changed [p] f f.afterWrite := changed_withTrouble [p] hf
  have hlink' : f.afterWrite.Unlinked p := hnext.ways.unlinked hlink
  have hwrite := write_of_riskWrite h
  obtain ⟨hg, hheld⟩ := changed_write hnext.wellFormed hlink' hwrite
  obtain ⟨loc, hleaf, -⟩ := write_eq_ok hlink' hwrite
  exact ⟨hnext.trans hg, hheld, loc, (hnext.leaf? p).symm.trans hleaf⟩

/-- Where a text was written, through links or not, all other files and places are as they were. -/
theorem riskWrite_spec (hf : f.WellFormed) (h : f.riskWrite p content = (.ok (), g)) :
    ∃ loc id, Written f p content g loc id := by
  have hnext : Grown f f.afterWrite := grown_withTrouble hf
  obtain ⟨loc, id, hwritten⟩ := write_spec hnext.wellFormed (write_of_riskWrite h)
  exact ⟨loc, id, hnext.trans hwritten.grown, hwritten.found, hwritten.holds, hwritten.others,
    hwritten.places⟩

/-- After a removal nothing stands at the place that the path names, unless it fails. -/
theorem changed_riskRemove (hf : f.WellFormed) (hlink : f.Unlinked p) :
    Changed [p] f (f.riskRemove p).2 ∧
      ((f.riskRemove p).2.fileAt? p = none ∨ f.RemovalFails 0) ∧
      ∀ q id, (f.riskRemove p).2.fileAt? q = some id → f.fileAt? q = some id := by
  have hnext : Changed [p] f f.afterRemoval := changed_withTrouble [p] hf
  have hfile (q : String) : f.afterRemoval.fileAt? q = f.fileAt? q := fileAt?_withTrouble q
  cases hid : f.fileAt? p with
  | none =>
    obtain ⟨fault, hremove⟩ := remove_missing (hnext.ways.unlinked hlink) ((hfile p).trans hid)
    rcases f.riskRemove_cases p with ⟨g, hremove', -⟩ | ⟨fault', -, hrisk⟩
    · rw [hremove] at hremove'
      cases hremove'
    · rw [hrisk]
      exact ⟨hnext, .inl ((hfile p).trans hid), fun q i h => (hfile q) ▸ h⟩
  | some id =>
    obtain ⟨g, hremove, hchanged, hgone, hfewer⟩ :=
      remove_file hnext.wellFormed ((hfile p).trans hid)
    rcases f.riskRemove_cases p with ⟨g', hremove', hrisk⟩ | ⟨fault, hfault | hfails, hrisk⟩
    · rw [hremove, Except.ok.injEq] at hremove'
      subst hremove'
      rw [hrisk]
      exact ⟨hnext.trans hchanged, .inl hgone, fun q i h => (hfile q) ▸ hfewer q i h⟩
    · rw [hremove] at hfault
      cases hfault
    · rw [hrisk]
      exact ⟨hnext, .inr hfails, fun q i h => (hfile q) ▸ h⟩

/-- The store allows that a file is moved to the place of another one. -/
theorem Apart.rename_next {paths : List String} {loc : Location} (h : f.Apart paths)
    (hp : p ∈ paths) (hq : q ∈ paths) (hne : p ≠ q) (hheld : f.held? p = some content)
    (hleaf : f.leaf? q = some loc) :
    ∃ g, f.afterRename.rename p q = .ok g ∧ g.Apart paths ∧ Changed [p, q] f g ∧
      g.fileAt? p = none ∧ g.held? q = some content := by
  have hnext : Changed [] f f.afterRename := changed_withTrouble [] h.wellFormed
  have hapart : f.afterRename.Apart paths := h.changed hnext (by simp) (by simp)
  obtain ⟨g, hrename, hg, hchanged, hgone, hmoved⟩ := hapart.rename hp hq hne
    ((held?_withTrouble p).trans hheld) ((hnext.leaf? q).trans hleaf)
  exact ⟨g, hrename, hg, (hnext.mono (by simp)).trans hchanged, hgone, hmoved⟩

end Files

end SourceReducer
