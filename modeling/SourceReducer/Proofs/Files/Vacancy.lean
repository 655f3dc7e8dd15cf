import SourceReducer.Proofs.Files.Growth
import SourceReducer.Proofs.Files.Names

/-! Places at which nothing stands. A link that leads to such a place is not told apart from the
place by its absolute path, so two paths may come to lead to one file although they were not taken
for the same. -/
namespace SourceReducer.Files

/-- Whether two paths lead to one place at which nothing stands. -/
def SameVacancy (f : Files) (p q : String) : Prop :=
  ∃ around name, f.find p = .ok (.missing around name) ∧ f.find q = .ok (.missing around name)

/-- Whether a path is a link that leads to a place at which nothing stands. -/
def Dangles (f : Files) (p : String) : Prop :=
  ∃ loc target around name, f.resolve p false = .ok (.link loc target) ∧
    f.find p = .ok (.missing around name)

/-- Whether two paths lead to one file. -/
def LeadTogether (f : Files) (p q : String) : Prop :=
  ∃ loc loc' id, f.find p = .ok (.file loc id) ∧ f.find q = .ok (.file loc' id)

variable {f g : Files} {p q r : String}

theorem SameVacancy.symm (h : f.SameVacancy p q) : f.SameVacancy q p := by
  obtain ⟨around, name, hp, hq⟩ := h
  exact ⟨around, name, hq, hp⟩

theorem SameVacancy.trans (h : f.SameVacancy p q) (h' : f.SameVacancy q r) : f.SameVacancy p r := by
  obtain ⟨around, name, hp, hq⟩ := h
  obtain ⟨around', name', hq', hr⟩ := h'
  rw [hq] at hq'
  cases hq'
  exact ⟨around, name, hp, hr⟩

/-- Paths that lead to one vacant place are taken for the same file, unless one of them is a
link. -/
theorem dangles_of_sameVacancy (h : f.SameVacancy p q) (hsep : f.sameFile p q = false) :
    f.Dangles p ∨ f.Dangles q := by
  obtain ⟨around, name, hp, hq⟩ := h
  by_contra hnot
  obtain ⟨hpnot, hqnot⟩ := not_or.1 hnot
  have hslot {r : String} (hr : f.find r = .ok (.missing around name)) (hrnot : ¬f.Dangles r) :
      f.slot? r = some (around ++ [name]) := by
    have hlink : ∀ loc target, f.resolve r false ≠ .ok (.link loc target) := by
      intro loc target hres
      exact hrnot ⟨loc, target, around, name, hres, hr⟩
    rw [find_eq_resolve hlink] at hr
    rw [slot?, hr]
    rfl
  have hleaf {r : String} (hr : f.find r = .ok (.missing around name)) : IsLeaf (f.find r) :=
    ⟨around ++ [name], by rw [hr]; rfl⟩
  have hsame := sameFile_of_slot? (hslot hp hpnot) (hslot hq hqnot) (hleaf hp) (hleaf hq)
  rw [hsame] at hsep
  cases hsep

/-- A path that leads to a new file led to a vacant place. -/
theorem Grown.find_new (h : Grown f g) (hf : f.WellFormed) {loc : Location} {id : Nat}
    (hp : g.find p = .ok (.file loc id)) (hid : f.contents.size ≤ id) :
    ∃ around name, loc = around ++ [name] ∧ f.find p = .ok (.missing around name) := by
  have hgoal : goalOf (f.find p) = some (.leaf loc) := by
    rw [find, h.ways.goal_resolve p true, ← find, hp]
    rfl
  cases hfind : f.find p with
  | error fault => simp [hfind] at hgoal
  | ok place =>
    cases place with
    | directory loc' => simp [hfind, Place.goal] at hgoal
    | link loc' target => simp [hfind, Place.goal] at hgoal
    | file loc' id' =>
      have hold := hf loc' id' (stands_resolve hfind).2
      rw [find, h.resolve_file hfind] at hp
      cases hp
      omega
    | missing around name =>
      simp only [hfind, goalOf_ok, Place.goal, Option.some.injEq, Goal.leaf.injEq] at hgoal
      exact ⟨around, name, hgoal.symm, rfl⟩

/-- Paths that were not taken for the same file lead to one later only if they led to one vacant
place. -/
theorem Grown.sameVacancy (h : Grown f g) (hf : f.WellFormed) (hsep : f.sameFile p q = false)
    (htogether : g.LeadTogether p q) : f.SameVacancy p q := by
  obtain ⟨loc, loc', id, hp, hq⟩ := htogether
  by_cases hid : id < f.contents.size
  · have hpold : f.find p = .ok (.file loc id) := h.resolve_old hp hid
    have hqold : f.find q = .ok (.file loc' id) := h.resolve_old hq hid
    simp [sameFile, hpold, hqold] at hsep
  · have hnew : f.contents.size ≤ id := Nat.le_of_not_lt hid
    obtain rfl := h.single loc loc' id hnew (stands_resolve hp).2 (stands_resolve hq).2
    obtain ⟨around, name, rfl, hpfind⟩ := h.find_new hf hp hnew
    obtain ⟨around', name', heq, hqfind⟩ := h.find_new hf hq hnew
    obtain ⟨rfl, hlast⟩ := List.append_inj' heq rfl
    obtain rfl : name = name' := by simpa using hlast
    exact ⟨around, name, hpfind, hqfind⟩

/-- What comes to stand at a vacant place is found by all paths that lead there. -/
theorem Grown.find_of_sameVacancy (h : Grown f g) (hvacant : f.SameVacancy p q) {loc : Location}
    {id : Nat} (hp : g.find p = .ok (.file loc id)) : g.find q = .ok (.file loc id) := by
  obtain ⟨around, name, hpfind, hqfind⟩ := hvacant
  have hgoal : goalOf (f.find p) = goalOf (g.find p) := h.ways.goal_resolve p true
  rw [hpfind, hp] at hgoal
  refine h.ways.resolve_leaf (f := f) ?_ (stands_resolve hp).2
  rw [← find, hqfind]
  exact hgoal

end SourceReducer.Files
