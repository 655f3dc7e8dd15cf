import SourceReducer.Engine.Session
import SourceReducer.Proofs.Files.Risk

/-! Staging and promoting texts. If one of several texts cannot be staged, those that were are gone
again; if all of them can, promoting them puts each in its working file and leaves no staged
file. -/
namespace SourceReducer

open Files

/-! Discarding. -/

/-- Staged files that are discarded are gone, except those whose removal fails. -/
theorem discardAll_spec {staged : List Staged} {f : Files} (hf : f.WellFormed)
    (hlink : ∀ s ∈ staged, f.Unlinked s.path) :
    Changed (staged.map Staged.path) f (discardAll staged f) ∧
      (∀ (i : Nat) (s : Staged), staged[i]? = some s →
        (discardAll staged f).fileAt? s.path = none ∨ f.RemovalFails i) ∧
      ∀ q id, (discardAll staged f).fileAt? q = some id → f.fileAt? q = some id := by
  induction staged generalizing f with
  | nil => exact ⟨Changed.refl _ hf, by simp, fun _ _ h => h⟩
  | cons s rest ih =>
    obtain ⟨hfirst, hgone, hfewer⟩ := changed_riskRemove hf (hlink s (by simp))
    obtain ⟨hothers, hrest, hfewer'⟩ := ih hfirst.wellFormed fun s' hs' =>
      hfirst.ways.unlinked (hlink s' (by simp [hs']))
    have hsub : [s.path] ⊆ (s :: rest).map Staged.path := by simp
    have hsub' : rest.map Staged.path ⊆ (s :: rest).map Staged.path := by simp
    refine ⟨(hfirst.mono hsub).trans (hothers.mono hsub'), ?_,
      fun q id h => hfewer q id (hfewer' q id h)⟩
    intro i s' hs'
    cases i with
    | zero =>
      obtain rfl : s = s' := by simpa using hs'
      rcases hgone with hgone | hfails
      · left
        rw [Option.eq_none_iff_forall_not_mem] at hgone ⊢
        exact fun id hid => hgone id (hfewer' _ id hid)
      · exact .inr hfails
    | succ i =>
      rcases hrest i s' (by simpa using hs') with hgone' | ⟨fault, hfault⟩
      · exact .inl hgone'
      · refine .inr ⟨fault, ?_⟩
        rw [trouble_riskRemove] at hfault
        rwa [← List.getElem?_tail]

theorem restOf_discardAll (staged : List Staged) (f : Files) :
    (discardAll staged f).trouble.RestOf f.trouble := by
  induction staged generalizing f with
  | nil => exact .refl _
  | cons s rest ih => exact (ih _).trans (f.restOf_riskRemove s.path)

theorem apart_discardAll {paths : List String} {staged : List Staged} {f : Files}
    (hf : f.Apart paths) (hsub : ∀ s ∈ staged, s.path ∈ paths) :
    (discardAll staged f).Apart paths := by
  induction staged generalizing f with
  | nil => exact hf
  | cons s rest ih =>
    have hs := hsub s (by simp)
    obtain ⟨hfirst, -⟩ := changed_riskRemove hf.wellFormed (hf.unlinked s.path hs)
    exact ih (hf.changed_one hfirst hs) fun s' hs' => hsub s' (by simp [hs'])

/-! Staging. -/

theorem stage_eq_ok {c : WorkingCopy} {f g : Files} {staged : Staged}
    (h : c.stage f = .ok (staged, g)) :
    staged = ⟨c.stagedPath, c.path⟩ ∧ f.riskWrite c.stagedPath (.text c.scratch) = (.ok (), g) := by
  unfold WorkingCopy.stage at h
  rcases hwrite : f.riskWrite c.stagedPath (.text c.scratch) with ⟨fault | _, written⟩
  · simp [hwrite] at h
  · simp only [hwrite, Except.ok.injEq, Prod.mk.injEq] at h
    exact ⟨h.1.symm, by rw [h.2]⟩

theorem stageFrom_cons_eq_ok {earlier staged : List Staged} {c : WorkingCopy}
    {copies : List WorkingCopy} {f g : Files}
    (h : stageFrom earlier (c :: copies) f = (.ok staged, g)) :
    ∃ written, f.riskWrite c.stagedPath (.text c.scratch) = (.ok (), written) ∧
      stageFrom (earlier ++ [⟨c.stagedPath, c.path⟩]) copies written = (.ok staged, g) := by
  unfold stageFrom at h
  cases hstage : c.stage f with
  | error fault => simp [hstage, orDiscard] at h
  | ok pair =>
    obtain ⟨first, written⟩ := pair
    obtain ⟨rfl, hwrite⟩ := stage_eq_ok hstage
    simp only [hstage, orDiscard] at h
    exact ⟨written, hwrite, h⟩

theorem stageFrom_staged {earlier staged : List Staged} {copies : List WorkingCopy} {f g : Files}
    (h : stageFrom earlier copies f = (.ok staged, g)) :
    staged = earlier ++ copies.map fun c => ⟨c.stagedPath, c.path⟩ := by
  induction copies generalizing earlier f with
  | nil =>
    simp only [stageFrom, Prod.mk.injEq, Except.ok.injEq] at h
    simp [h.1]
  | cons c copies ih =>
    obtain ⟨written, -, hrest⟩ := stageFrom_cons_eq_ok h
    rw [ih hrest]
    simp

/-- Texts that are all staged change the staged files only. -/
theorem stageFrom_changed {earlier staged : List Staged} {copies : List WorkingCopy} {f g : Files}
    (hf : f.WellFormed) (hlink : ∀ c ∈ copies, f.Unlinked c.stagedPath)
    (h : stageFrom earlier copies f = (.ok staged, g)) :
    Changed (copies.map WorkingCopy.stagedPath) f g := by
  induction copies generalizing earlier f with
  | nil =>
    simp only [stageFrom, Prod.mk.injEq] at h
    obtain ⟨-, rfl⟩ := h
    exact Changed.refl _ hf
  | cons c copies ih =>
    obtain ⟨written, hwrite, h⟩ := stageFrom_cons_eq_ok h
    obtain ⟨hfirst, -⟩ := riskWrite_ok hf (hlink c (by simp)) hwrite
    have hrest := ih hfirst.wellFormed
      (fun d hd => hfirst.ways.unlinked (hlink d (by simp [hd]))) h
    exact (hfirst.mono (by simp)).trans (hrest.mono (by simp))

/-- A text that could not be staged leaves nothing unless its write leaves a part. -/
theorem changed_unstaged {c : WorkingCopy} {f : Files} {failure : Failure} (hf : f.WellFormed)
    (hc : f.Unlinked c.stagedPath) (h : c.stage f = .error failure) :
    Changed [] f (c.unstaged f) ∨
      Changed [c.stagedPath] f (c.unstaged f) ∧ f.LeavesPart 0 := by
  rcases changed_riskWrite hf hc (.text c.scratch) with hnone | ⟨hpart, hok | hleaves⟩
  · exact .inl hnone
  · rcases hwrite : f.riskWrite c.stagedPath (.text c.scratch) with ⟨fault | _, written⟩
    · simp [hwrite] at hok
    · simp [WorkingCopy.stage, hwrite] at h
  · exact .inr ⟨hpart, hleaves⟩

/-- Where staging fails, what was staged before is gone except where a removal fails. The text that
could not be staged leaves nothing unless its write leaves a part. -/
theorem stageFrom_error {earlier : List Staged} {copies : List WorkingCopy} {f g : Files}
    {failure : Failure} (hf : f.WellFormed)
    (hlink : ∀ p ∈ earlier.map Staged.path ++ copies.map WorkingCopy.stagedPath, f.Unlinked p)
    (h : stageFrom earlier copies f = (.error failure, g)) :
    ∃ done c rest, copies = done ++ c :: rest ∧
      (Changed (earlier.map Staged.path ++ done.map WorkingCopy.stagedPath) f g ∨
        Changed (earlier.map Staged.path ++ (done ++ [c]).map WorkingCopy.stagedPath) f g ∧
          f.LeavesPart done.length) ∧
      ∀ (i : Nat) (p : String),
        (earlier.map Staged.path ++ done.map WorkingCopy.stagedPath)[i]? = some p →
          g.fileAt? p = none ∨ f.RemovalFails i := by
  induction copies generalizing earlier f with
  | nil => simp [stageFrom] at h
  | cons c copies ih =>
    have hc : f.Unlinked c.stagedPath := hlink _ (by simp)
    unfold stageFrom at h
    cases hstage : c.stage f with
    | error fault =>
      simp only [hstage, orDiscard, Prod.mk.injEq] at h
      have hleft := changed_unstaged hf hc hstage
      have hways : SameWays f (c.unstaged f) := hleft.elim (·.ways) (·.1.ways)
      have hwell : (c.unstaged f).WellFormed := hleft.elim (·.wellFormed) (·.1.wellFormed)
      obtain ⟨hchanged, hgone, -⟩ := discardAll_spec hwell fun s hs =>
        hways.unlinked (hlink s.path (List.mem_append_left _ (List.mem_map_of_mem hs)))
      rw [h.2] at hchanged hgone
      refine ⟨[], c, copies, rfl, ?_, ?_⟩
      · rcases hleft with hnone | ⟨hpart, hleaves⟩
        · exact .inl ((hnone.mono (by simp)).trans (hchanged.mono (by simp)))
        · exact .inr ⟨(hpart.mono (by simp)).trans (hchanged.mono (by simp)), hleaves⟩
      · intro i p hp
        simp only [List.map_nil, List.append_nil, List.getElem?_map, Option.map_eq_some_iff] at hp
        obtain ⟨s, hs, rfl⟩ := hp
        rcases hgone i s hs with hgone | ⟨fault, hfault⟩
        · exact .inl hgone
        · rw [WorkingCopy.unstaged, trouble_riskWrite] at hfault
          exact .inr ⟨fault, hfault⟩
    | ok pair =>
      obtain ⟨staged, written⟩ := pair
      obtain ⟨rfl, hwrite⟩ := stage_eq_ok hstage
      simp only [hstage, orDiscard] at h
      obtain ⟨hfirst, -⟩ := riskWrite_ok hf hc hwrite
      have htrouble : written.trouble = f.afterWrite.trouble := by
        rw [← f.trouble_riskWrite c.stagedPath (.text c.scratch), hwrite]
      have hpaths (some : List WorkingCopy) :
          (earlier ++ [(⟨c.stagedPath, c.path⟩ : Staged)]).map Staged.path ++
            some.map WorkingCopy.stagedPath =
              earlier.map Staged.path ++ (c :: some).map WorkingCopy.stagedPath := by simp
      obtain ⟨done, d, rest, rfl, hchanged, hgone⟩ := ih hfirst.wellFormed
        (fun p hp => hfirst.ways.unlinked (hlink p (hpaths copies ▸ hp))) h
      rw [hpaths] at hchanged hgone
      refine ⟨c :: done, d, rest, rfl, ?_, ?_⟩
      · rcases hchanged with hnone | ⟨hpart, mishap, part, hnext, hleaves⟩
        · exact .inl ((hfirst.mono (by simp)).trans hnone)
        · rw [hpaths] at hpart
          refine .inr ⟨(hfirst.mono (by simp)).trans hpart, mishap, part, ?_, hleaves⟩
          rw [htrouble] at hnext
          rwa [List.length_cons, ← List.getElem?_tail]
      · intro i p hp
        rcases hgone i p hp with hgone | ⟨fault, hfault⟩
        · exact .inl hgone
        · rw [htrouble] at hfault
          exact .inr ⟨fault, hfault⟩

theorem restOf_stageFrom (earlier : List Staged) (copies : List WorkingCopy) (f : Files) :
    (stageFrom earlier copies f).2.trouble.RestOf f.trouble := by
  induction copies generalizing earlier f with
  | nil => exact .refl _
  | cons c copies ih =>
    have hfirst := f.restOf_riskWrite c.stagedPath (.text c.scratch)
    unfold stageFrom
    cases hstage : c.stage f with
    | error fault => exact (restOf_discardAll earlier _).trans hfirst
    | ok pair =>
      obtain ⟨staged, written⟩ := pair
      obtain ⟨-, hwrite⟩ := stage_eq_ok hstage
      rw [hwrite] at hfirst
      exact (ih _ written).trans hfirst

/-- Staging renames nothing. -/
theorem renames_stageFrom {earlier staged : List Staged} {copies : List WorkingCopy} {f g : Files}
    (h : stageFrom earlier copies f = (.ok staged, g)) : g.trouble.renames = f.trouble.renames := by
  induction copies generalizing earlier f with
  | nil =>
    simp only [stageFrom, Prod.mk.injEq] at h
    rw [h.2]
  | cons c copies ih =>
    obtain ⟨written, hwrite, h⟩ := stageFrom_cons_eq_ok h
    have hfirst := f.trouble_riskWrite c.stagedPath (.text c.scratch)
    rw [hwrite] at hfirst
    rw [ih h, hfirst]
    rfl

/-- Staging keeps paths apart, whether or not all texts can be staged. -/
theorem apart_stageFrom {paths : List String} {earlier : List Staged} {copies : List WorkingCopy}
    {f : Files} (hf : f.Apart paths) (hearlier : ∀ s ∈ earlier, s.path ∈ paths)
    (hsub : ∀ c ∈ copies, c.stagedPath ∈ paths) : (stageFrom earlier copies f).2.Apart paths := by
  induction copies generalizing earlier f with
  | nil => exact hf
  | cons c copies ih =>
    have hc := hsub c (by simp)
    have hfirst : (f.riskWrite c.stagedPath (.text c.scratch)).2.Apart paths := by
      rcases changed_riskWrite hf.wellFormed (hf.unlinked _ hc) (.text c.scratch) with
        hnone | ⟨hone, -⟩
      · exact hf.changed_one (hnone.mono (by simp)) hc
      · exact hf.changed_one hone hc
    unfold stageFrom
    cases hstage : c.stage f with
    | error fault => exact apart_discardAll hfirst hearlier
    | ok pair =>
      obtain ⟨staged, written⟩ := pair
      obtain ⟨rfl, hwrite⟩ := stage_eq_ok hstage
      rw [hwrite] at hfirst
      refine ih hfirst (fun s hs => ?_) fun d hd => hsub d (by simp [hd])
      rcases List.mem_append.1 hs with hs | hs
      · exact hearlier s hs
      · obtain rfl := List.mem_singleton.1 hs
        exact hc

/-- The working file and the staged file of every unit. -/
def unitPaths (copies : List WorkingCopy) : List String :=
  copies.flatMap fun c => [c.path, c.stagedPath]

theorem unitPaths_cons (c : WorkingCopy) (copies : List WorkingCopy) :
    unitPaths (c :: copies) = c.path :: c.stagedPath :: unitPaths copies := by
  simp [unitPaths]

theorem path_mem_unitPaths {c : WorkingCopy} {copies : List WorkingCopy} (h : c ∈ copies) :
    c.path ∈ unitPaths copies := by
  simp only [unitPaths, List.mem_flatMap]
  exact ⟨c, h, by simp⟩

theorem stagedPath_mem_unitPaths {c : WorkingCopy} {copies : List WorkingCopy} (h : c ∈ copies) :
    c.stagedPath ∈ unitPaths copies := by
  simp only [unitPaths, List.mem_flatMap]
  exact ⟨c, h, by simp⟩

/-- Where all texts are staged, each stands in its staged file. -/
theorem stageFrom_ok {paths : List String} {earlier staged : List Staged}
    {copies : List WorkingCopy} {f g : Files} (hf : f.Apart paths)
    (hsub : ∀ c ∈ copies, c.stagedPath ∈ paths)
    (hnodup : (copies.map WorkingCopy.stagedPath).Nodup)
    (h : stageFrom earlier copies f = (.ok staged, g)) :
    g.Apart paths ∧ Changed (copies.map WorkingCopy.stagedPath) f g ∧
      ∀ c ∈ copies, g.held? c.stagedPath = some (.text c.scratch) := by
  induction copies generalizing earlier f with
  | nil =>
    simp only [stageFrom, Prod.mk.injEq, Except.ok.injEq] at h
    obtain ⟨-, rfl⟩ := h
    exact ⟨hf, Changed.refl _ hf.wellFormed, by simp⟩
  | cons c copies ih =>
    obtain ⟨written, hwrite, h⟩ := stageFrom_cons_eq_ok h
    have hc : c.stagedPath ∈ paths := hsub c (by simp)
    obtain ⟨hnot, hrest⟩ := List.nodup_cons.1 hnodup
    obtain ⟨hfirst, hheld, -⟩ := riskWrite_ok hf.wellFormed (hf.unlinked _ hc) hwrite
    have hwritten : written.Apart paths := hf.changed_one hfirst hc
    obtain ⟨hg, hothers, hholds⟩ := ih hwritten (fun d hd => hsub d (by simp [hd])) hrest h
    refine ⟨hg, (hfirst.mono (by simp)).trans (hothers.mono (by simp)), ?_⟩
    intro d hd
    rcases List.mem_cons.1 hd with rfl | hd
    · rw [← hheld]
      refine (hwritten.held? hothers ?_ hc hnot).2
      intro p hp
      obtain ⟨d, hd, rfl⟩ := List.mem_map.1 hp
      exact hsub d (by simp [hd])
    · exact hholds d hd

/-! Promoting. -/

theorem promote_eq_ok {c : WorkingCopy} {f g : Files} {staged : Staged} (tree? : Option Tree)
    (h : f.riskRename staged.path staged.target = (.ok (), g)) :
    c.promote f staged tree? = .ok (c.promoted tree?, g) := by
  simp [WorkingCopy.promote, h]

theorem promote_eq_error (c : WorkingCopy) (staged : Staged) (tree? : Option Tree) {f g : Files}
    {fault : FileFault} (h : f.riskRename staged.path staged.target = (.error fault, g)) :
    c.promote f staged tree? = .error (.file staged.target fault) ∧ staged.unmoved f = g := by
  simp [WorkingCopy.promote, Staged.unmoved, h]

theorem rename_of_promote {c promoted : WorkingCopy} {f g : Files} {staged : Staged}
    {tree? : Option Tree} (h : c.promote f staged tree? = .ok (promoted, g)) :
    f.riskRename staged.path staged.target = (.ok (), g) ∧ promoted = c.promoted tree? := by
  rcases hrename : f.riskRename staged.path staged.target with ⟨fault | _, renamed⟩
  · simp [WorkingCopy.promote, hrename] at h
  · rw [promote_eq_ok tree? hrename] at h
    cases h
    exact ⟨rfl, rfl⟩

/-- Renaming the staged file of a unit to its working file leaves the files of the other units
alone. -/
theorem rename_unit {paths : List String} {c : WorkingCopy} {copies : List WorkingCopy} {f : Files}
    {content : Content} {loc : Location} (hf : f.Apart paths)
    (hsub : unitPaths (c :: copies) ⊆ paths) (hnodup : (unitPaths (c :: copies)).Nodup)
    (hheld : f.held? c.stagedPath = some content) (hleaf : f.leaf? c.path = some loc) :
    ∃ g, f.afterRename.rename c.stagedPath c.path = .ok g ∧ g.Apart paths ∧
      Changed [c.stagedPath, c.path] f g ∧ g.fileAt? c.stagedPath = none ∧
      g.held? c.path = some content ∧ ∀ x ∈ unitPaths copies, g.held? x = f.held? x := by
  rw [unitPaths_cons] at hsub hnodup
  obtain ⟨hpath, hnodup⟩ := List.nodup_cons.1 hnodup
  obtain ⟨hstagedPath, -⟩ := List.nodup_cons.1 hnodup
  have hp : c.path ∈ paths := hsub (by simp)
  have hq : c.stagedPath ∈ paths := hsub (by simp)
  have hne : c.stagedPath ≠ c.path := by
    intro heq
    exact hpath (by simp [heq])
  obtain ⟨g, hrename, hg, hchanged, hgone, hmoved⟩ := hf.rename_next hq hp hne hheld hleaf
  refine ⟨g, hrename, hg, hchanged, hgone, hmoved, fun x hx => ?_⟩
  refine (hf.held? hchanged (by simp [hp, hq]) (hsub (by simp [hx])) ?_).2
  simp only [List.mem_cons, List.not_mem_nil, or_false, not_or]
  constructor
  · rintro rfl
    exact hstagedPath hx
  · rintro rfl
    exact hpath (by simp [hx])

theorem restOf_promoteAll (copies : List WorkingCopy) (staged : List Staged)
    (trees : List (Option Tree)) (f : Files) :
    (promoteAll copies staged trees f).2.2.trouble.RestOf f.trouble := by
  fun_induction promoteAll copies staged trees f with
  | case1 c copies s rest tree? trees f failure hpromote => exact f.restOf_riskRename _ _
  | case2 c copies s rest tree? trees f promoted renamed hpromote outcome others final hrest ih =>
    have hrenamed := f.restOf_riskRename s.path s.target
    rw [(rename_of_promote hpromote).1] at hrenamed
    rw [hrest] at ih
    exact ih.trans hrenamed
  | case3 => exact .refl _

/-- Promoting staged texts puts each in its working file and leaves no staged file. -/
theorem promoteAll_ok {paths : List String} {copies : List WorkingCopy} {f : Files}
    (tree? : WorkingCopy → Option Tree) (hf : f.Apart paths) (hsub : unitPaths copies ⊆ paths)
    (hnodup : (unitPaths copies).Nodup) (hsucceed : f.RenamesSucceed)
    (hworking : ∀ c ∈ copies, (f.held? c.path).isSome)
    (hstaged : ∀ c ∈ copies, f.held? c.stagedPath = some (.text c.scratch)) :
    ∃ g, promoteAll copies (copies.map fun c => ⟨c.stagedPath, c.path⟩) (copies.map tree?) f =
        (.ok (), copies.map fun c => c.promoted (tree? c), g) ∧
      g.Apart paths ∧ Changed (unitPaths copies) f g ∧
      ∀ c ∈ copies, g.held? c.path = some (.text c.scratch) ∧ g.fileAt? c.stagedPath = none := by
  induction copies generalizing f with
  | nil => exact ⟨f, by simp [promoteAll], hf, Changed.refl _ hf.wellFormed, by simp⟩
  | cons c copies ih =>
    obtain ⟨old, hold⟩ := Option.isSome_iff_exists.1 (hworking c (by simp))
    obtain ⟨id, hid, -⟩ := Option.bind_eq_some_iff.1 hold
    obtain ⟨loc, hleaf, -⟩ := fileAt?_eq_some.1 hid
    obtain ⟨renamed, hrename, hrenamed, hchanged, hgone, hheld, hkeep⟩ :=
      rename_unit hf hsub hnodup (hstaged c (by simp)) hleaf
    rw [unitPaths_cons] at hsub hnodup ⊢
    obtain ⟨hpath, hnodup⟩ := List.nodup_cons.1 hnodup
    obtain ⟨hstagedPath, hnodup⟩ := List.nodup_cons.1 hnodup
    have hp : c.path ∈ paths := hsub (by simp)
    have hq : c.stagedPath ∈ paths := hsub (by simp)
    have hrest : unitPaths copies ⊆ paths := fun x hx => hsub (by simp [hx])
    have hrisk := riskRename_eq_ok hsucceed hrename
    have hsucceed' : renamed.RenamesSucceed := by
      have hleft := f.restOf_riskRename c.stagedPath c.path
      rw [hrisk] at hleft
      exact hsucceed.rest hleft
    obtain ⟨g, hpromote, hg, hothers, hholds⟩ := ih hrenamed hrest hnodup hsucceed'
      (fun d hd => by
        rw [hkeep _ (path_mem_unitPaths hd)]
        exact hworking d (by simp [hd]))
      (fun d hd => by
        rw [hkeep _ (stagedPath_mem_unitPaths hd)]
        exact hstaged d (by simp [hd]))
    refine ⟨g, ?_, hg, (hchanged.mono ?_).trans (hothers.mono (by simp)), ?_⟩
    · have hfirst : c.promote f ⟨c.stagedPath, c.path⟩ (tree? c) =
          .ok (c.promoted (tree? c), renamed) := promote_eq_ok (tree? c) hrisk
      rw [List.map_cons, List.map_cons, promoteAll, hfirst, List.map_cons]
      simp only [hpromote]
    · intro x hx
      simp only [List.mem_cons, List.not_mem_nil, or_false] at hx
      rcases hx with rfl | rfl <;> simp
    · intro d hd
      rcases List.mem_cons.1 hd with rfl | hd
      · have hw := hrenamed.held? hothers hrest hp fun h => hpath (by simp [h])
        have hs := hrenamed.held? hothers hrest hq hstagedPath
        rw [hw.2, hheld, hs.1]
        exact ⟨rfl, hgone⟩
      · exact hholds d hd

end SourceReducer
