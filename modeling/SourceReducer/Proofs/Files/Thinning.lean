import SourceReducer.Proofs.Files.Names

/-! Stores that lose links. A link at a place that no walk passes may be replaced by a file or taken
away: all paths still name the places they named, and a path that led to a file without ending at
such a link still leads to it. -/
namespace SourceReducer.Files

/-- A path that leads somewhere through a link at its end leads where the target of the link
does. -/
theorem find_of_target {f : Files} {path : String} {around : Location} {name target : String}
    (hslot : f.slot? path = some (around ++ [name]))
    (hentry : f.entry? (around ++ [name]) = some (.link target)) (hleaf : IsLeaf (f.find path))
    {links : Nat} {place : Place}
    (h : f.followLinks true links (startOf around target) (stepsOf target) = .ok place) :
    f.find path = .ok place := by
  cases hfind : f.find path with
  | error fault => exact absurd (hfind ▸ hleaf) (not_isLeaf_error fault)
  | ok place' =>
    obtain ⟨links', hwalk⟩ := find_of_slot?_link hslot hentry hfind
    rw [followLinks_det hwalk h]

/-! Links that are gone. -/

/-- The store after links at some places were replaced or taken away. -/
structure Thinned (base : Files) (places : List Location) (f : Files) : Prop where
  here : f.here = base.here
  way? : ∀ loc, f.way? loc = base.way? loc ∨ loc ∈ places ∧ f.way? loc = none

namespace Thinned

variable {base f g : Files} {places : List Location}

theorem of_sameWays (h : SameWays base f) (places : List Location) : Thinned base places f :=
  ⟨h.here.symm, fun loc => .inl (h.way? loc).symm⟩

theorem trans_sameWays (h : Thinned base places f) (hg : SameWays f g) : Thinned base places g := by
  refine ⟨hg.here.symm.trans h.here, fun loc => ?_⟩
  rw [← hg.way? loc]
  exact h.way? loc

/-- What is still a directory or a link was one. -/
theorem entry?_way (h : Thinned base places f) {loc : Location} {entry : Entry}
    (hway : f.way? loc = some entry) : base.entry? loc = some entry := by
  rcases h.way? loc with hsame | ⟨-, hgone⟩
  · exact entry?_of_way? (hsame ▸ hway)
  · simp [hgone] at hway

variable (hblind : ∀ loc ∈ places, base.Blind loc)

include hblind

theorem framed (h : Thinned base places f) : Framed base places f := by
  refine ⟨h.here, fun loc hloc => ?_, fun loc hloc hdir => ?_⟩
  · rcases h.way? loc with hsame | ⟨hmem, -⟩
    · exact hsame
    · exact absurd hmem hloc
  · exact Blind.entry? (hblind loc hloc) (h.entry?_way (way?_of_directory hdir))

/-- Paths name the places they named. -/
theorem slot?_eq (h : Thinned base places f) (path : String) : f.slot? path = base.slot? path := by
  -- seen from the later store only the places change whose links are gone, and nothing passes these
  have hback : Framed f (places.filter fun loc => f.way? loc != base.way? loc) base := by
    refine ⟨h.here.symm, fun loc hloc => ?_, fun loc hloc => ?_⟩
    · rcases h.way? loc with hsame | ⟨hmem, -⟩
      · exact hsame.symm
      · by_contra hne
        exact hloc (List.mem_filter.2 ⟨hmem, by simpa using Ne.symm hne⟩)
    · exact Blind.entry? (hblind loc (List.mem_filter.1 hloc).1)
  have hgone :
      ∀ loc ∈ places.filter (fun loc => f.way? loc != base.way? loc), f.way? loc = none := by
    intro loc hloc
    obtain ⟨-, hne⟩ := List.mem_filter.1 hloc
    rcases h.way? loc with hsame | ⟨-, hnone⟩
    · simp [hsame] at hne
    · exact hnone
  refine Option.ext fun loc =>
    ⟨fun hslot => ?_, fun hslot => slot?_framed (h.framed hblind) hblind hslot⟩
  refine slot?_framed hback
    (fun l hl => ⟨fun hdir => ?_, fun around name target _ hlink => ?_⟩) hslot
  · have hnone := hgone l hl
    rw [way?_of_directory hdir] at hnone
    cases hnone
  · have hnone := hgone l hl
    rw [way?_of_link hlink] at hnone
    cases hnone

theorem unlinked (h : Thinned base places f) {path : String} (hpath : base.Unlinked path) :
    f.Unlinked path := by
  intro loc target hlink
  have hslot : base.slot? path = some loc := by
    rw [← h.slot?_eq hblind, slot?, hlink]
    rfl
  have hentry := h.entry?_way (way?_of_link (stands_resolve hlink))
  obtain ⟨-, ⟨id, hfile, -⟩ | ⟨target', -, hres⟩ | ⟨hnone, -⟩⟩ := resolve_of_slot? hslot
  · simp [hentry] at hfile
  · exact hpath loc target' hres
  · simp [hentry] at hnone

end Thinned

/-! Paths that lead to a file. -/

section Found

variable {base f : Files} {places : List Location} {loc : Location} {id : Nat}

theorem followNames_thinned (h : Thinned base places f)
    (hplaces : ∀ l ∈ places, base.entry? l ≠ some .directory)
    (hentry : f.entry? loc = some (.file id))
    {through through' : Location → String → List String → Except FileFault Place}
    (hthrough : ∀ cur target rest, through cur target rest = .ok (.file loc id) →
      through' cur target rest = .ok (.file loc id))
    (hpass : ∀ cur name target rest, cur ++ [name] ∈ places →
      base.entry? (cur ++ [name]) = some (.link target) →
        through cur target rest ≠ .ok (.file loc id))
    {cur : Location} {names : List String}
    (hwalk : base.followNames true through cur names = .ok (.file loc id)) :
    f.followNames true through' cur names = .ok (.file loc id) := by
  induction cur, names using names_induction_look with
  | nil cur => simp [followNames] at hwalk
  | dot cur name rest hdot ih =>
    rw [followNames_dot hdot] at hwalk ⊢
    exact ih hwalk
  | up cur name rest hdot hup ih =>
    rw [followNames_up hdot hup] at hwalk ⊢
    exact ih hwalk
  | long cur name rest hdot hup hlimit =>
    rw [followNames_long hdot hup hlimit] at hwalk
    cases hwalk
  | look cur name rest hname ih =>
    rw [followNames_followed hname] at hwalk ⊢
    cases hbase : base.entry? (cur ++ [name]) with
    | none =>
      simp only [hbase] at hwalk
      split at hwalk <;> cases hwalk
    | some entry =>
      simp only [hbase] at hwalk
      cases entry with
      | directory =>
        have hdir : f.entry? (cur ++ [name]) = some .directory := by
          rcases h.way? (cur ++ [name]) with hsame | ⟨hmem, -⟩
          · exact entry?_of_way? (hsame.trans (way?_of_directory hbase))
          · exact absurd hbase (hplaces _ hmem)
        simp only [hdir]
        exact ih hwalk
      | file id' =>
        by_cases hrest : rest.isEmpty
        · simp only [hrest, if_true, Except.ok.injEq, Place.file.injEq] at hwalk
          obtain ⟨rfl, rfl⟩ := hwalk
          simp only [hentry, hrest, if_true]
        · simp [hrest] at hwalk
      | link target =>
        rcases h.way? (cur ++ [name]) with hsame | ⟨hmem, -⟩
        · have hlink := entry?_of_way? (hsame.trans (way?_of_link hbase))
          simp only [hlink]
          exact hthrough cur target rest hwalk
        · exact absurd hwalk (hpass cur name target rest hmem hbase)

theorem followLinks_thinned (h : Thinned base places f) (hblind : ∀ l ∈ places, base.Blind l)
    (hentry : f.entry? loc = some (.file id))
    (hends : ∀ around name target links, around ++ [name] ∈ places →
      base.entry? (around ++ [name]) = some (.link target) →
        base.followLinks true links (startOf around target) (stepsOf target) ≠ .ok (.file loc id))
    {links : Nat} {cur : Location} {names : List String}
    (hwalk : base.followLinks true links cur names = .ok (.file loc id)) :
    f.followLinks true links cur names = .ok (.file loc id) := by
  induction links generalizing cur names with
  | zero =>
    exact followNames_thinned h (fun l hl => Blind.entry? (hblind l hl)) hentry
      (fun _ _ _ h => by cases h) (fun _ _ _ _ _ _ h => by cases h) hwalk
  | succ links ih =>
    refine followNames_thinned h (fun l hl => Blind.entry? (hblind l hl)) hentry
      (fun cur target rest hthrough => ?_)
      (fun cur name target rest hmem hlink hthrough => ?_) hwalk
    · split at hthrough
      · cases hthrough
      · next hempty =>
        rw [if_neg hempty]
        exact ih hthrough
    · split at hthrough
      · cases hthrough
      · by_cases hrest : rest = []
        · rw [hrest, List.append_nil] at hthrough
          exact hends cur name target links hmem hlink hthrough
        · obtain ⟨fault, hrefused⟩ :=
            (hblind _ hmem).beyond cur name target rfl hlink true links rest hrest
          rw [hrefused] at hthrough
          cases hthrough

/-- A path still leads to a file that is still there, unless it did so through a link that may be
gone. -/
theorem Thinned.find_file (h : Thinned base places f) (hblind : ∀ l ∈ places, base.Blind l)
    (hentry : f.entry? loc = some (.file id))
    (hends : ∀ around name target links, around ++ [name] ∈ places →
      base.entry? (around ++ [name]) = some (.link target) →
        base.followLinks true links (startOf around target) (stepsOf target) ≠ .ok (.file loc id))
    {path : String} (hfind : base.find path = .ok (.file loc id)) :
    f.find path = .ok (.file loc id) := by
  unfold find resolve at hfind ⊢
  split at hfind
  · cases hfind
  · next hnul =>
    rw [if_neg hnul]
    split at hfind
    · cases hfind
    · next hlong =>
      rw [if_neg hlong]
      split at hfind
      · cases hfind
      · next hempty =>
        rw [if_neg hempty, h.here]
        exact followLinks_thinned h hblind hentry hends hfind

end Found

end SourceReducer.Files
