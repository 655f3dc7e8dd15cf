import Mathlib.Tactic.Common
import SourceReducer.Files.Store

/-! Following paths. A walk passes directories and links only; files are where it ends. So a change
of the store that leaves its directories and links alone does not change where any path leads, only
what stands there. -/
namespace SourceReducer

/-- Where a path leads, whatever stands there. -/
inductive Goal
  | directory (loc : Location)
  | link (loc : Location) (target : String)
  /-- The place of a file, or a place where nothing stands. -/
  | leaf (loc : Location)

def Place.goal : Place → Goal
  | .directory loc => .directory loc
  | .link loc target => .link loc target
  | .file loc _ => .leaf loc
  | .missing around name => .leaf (around ++ [name])

/-- Where a walk ends; none if it is refused. -/
def goalOf (walk : Except FileFault Place) : Option Goal :=
  walk.toOption.map Place.goal

@[simp] theorem goalOf_ok (place : Place) : goalOf (.ok place) = some place.goal := rfl

@[simp] theorem goalOf_error (fault : FileFault) : goalOf (.error fault) = none := rfl

namespace Files

/-- The directory or link at a place. -/
def way? (f : Files) (loc : Location) : Option Entry :=
  match f.entry? loc with
  | some (.file _) => none
  | entry? => entry?

theorem entry?_of_way? {f : Files} {loc : Location} {entry : Entry} (h : f.way? loc = some entry) :
    f.entry? loc = some entry := by
  unfold way? at h
  split at h
  · cases h
  · exact h

theorem way?_of_directory {f : Files} {loc : Location} (h : f.entry? loc = some .directory) :
    f.way? loc = some .directory := by
  simp [way?, h]

theorem way?_of_link {f : Files} {loc : Location} {target : String}
    (h : f.entry? loc = some (.link target)) : f.way? loc = some (.link target) := by
  simp [way?, h]

theorem way?_of_file {f : Files} {loc : Location} {id : Nat} (h : f.entry? loc = some (.file id)) :
    f.way? loc = none := by
  simp [way?, h]

theorem way?_of_none {f : Files} {loc : Location} (h : f.entry? loc = none) :
    f.way? loc = none := by
  simp [way?, h]

/-- Whether two stores have the same directories and links. -/
structure SameWays (f g : Files) : Prop where
  here : f.here = g.here
  way? : ∀ loc, f.way? loc = g.way? loc

theorem SameWays.refl (f : Files) : SameWays f f :=
  ⟨rfl, fun _ => rfl⟩

theorem SameWays.symm {f g : Files} (h : SameWays f g) : SameWays g f :=
  ⟨h.here.symm, fun loc => (h.way? loc).symm⟩

theorem SameWays.trans {f g k : Files} (h : SameWays f g) (h' : SameWays g k) : SameWays f k :=
  ⟨h.here.trans h'.here, fun loc => (h.way? loc).trans (h'.way? loc)⟩

theorem followNames_goal {f g : Files} (hways : ∀ loc, f.way? loc = g.way? loc) {follow : Bool}
    {through through' : Location → String → List String → Except FileFault Place}
    (hthrough : ∀ cur target rest,
      goalOf (through cur target rest) = goalOf (through' cur target rest))
    (cur : Location) (names : List String) :
    goalOf (f.followNames follow through cur names) =
      goalOf (g.followNames follow through' cur names) := by
  induction names generalizing cur with
  | nil => rfl
  | cons name rest ih =>
    unfold followNames
    split
    · exact ih cur
    · split
      · exact ih cur.dropLast
      · split
        · rfl
        · have hway := hways (cur ++ [name])
          unfold way? at hway
          -- a file on one side may be nothing on the other, and all else is the same
          cases hf : f.entry? (cur ++ [name]) with
          | none =>
            cases hg : g.entry? (cur ++ [name]) with
            | none => rfl
            | some entry => cases entry <;> simp_all [apply_ite, Place.goal]
          | some entry =>
            cases hg : g.entry? (cur ++ [name]) with
            | none => cases entry <;> simp_all [apply_ite, Place.goal]
            | some entry' =>
              cases entry <;> cases entry' <;> simp_all [apply_ite, Place.goal]

theorem followLinks_goal {f g : Files} (hways : ∀ loc, f.way? loc = g.way? loc) (follow : Bool)
    (links : Nat) (cur : Location) (names : List String) :
    goalOf (f.followLinks follow links cur names) =
      goalOf (g.followLinks follow links cur names) := by
  induction links generalizing cur names with
  | zero => exact followNames_goal hways (fun _ _ _ => rfl) cur names
  | succ links ih =>
    refine followNames_goal hways (fun cur target rest => ?_) cur names
    split
    · rfl
    · exact ih _ _

/-- Stores with the same directories and links lead every path to the same place. -/
theorem SameWays.goal_resolve {f g : Files} (h : SameWays f g) (path : String) (follow : Bool) :
    goalOf (f.resolve path follow) = goalOf (g.resolve path follow) := by
  unfold resolve
  split
  · rfl
  · split
    · rfl
    · split
      · rfl
      · rw [h.here]
        exact followLinks_goal h.way? follow linkLimit _ _

/-! What stands at the end of a walk. -/

/-- Whether a place is as the store has it. -/
def Stands (f : Files) : Place → Prop
  | .file loc id => loc ≠ [] ∧ f.entry? loc = some (.file id)
  | .missing around name => f.entry? (around ++ [name]) = none
  | .link loc target => f.entry? loc = some (.link target)
  | .directory _ => True

theorem stands_followNames {f : Files} {follow : Bool}
    {through : Location → String → List String → Except FileFault Place}
    (hthrough : ∀ cur target rest place, through cur target rest = .ok place → f.Stands place)
    {cur : Location} {names : List String} {place : Place}
    (h : f.followNames follow through cur names = .ok place) : f.Stands place := by
  induction names generalizing cur with
  | nil =>
    cases h
    trivial
  | cons name rest ih =>
    unfold followNames at h
    split at h
    · exact ih h
    · split at h
      · exact ih h
      · split at h
        · cases h
        · cases hentry : f.entry? (cur ++ [name]) with
          | none =>
            simp only [hentry] at h
            split at h
            · cases h
              exact hentry
            · cases h
          | some entry =>
            cases entry with
            | directory =>
              simp only [hentry] at h
              exact ih h
            | file id =>
              simp only [hentry] at h
              split at h
              · cases h
                exact ⟨by simp, hentry⟩
              · cases h
            | link target =>
              simp only [hentry] at h
              split at h
              · cases h
                exact hentry
              · exact hthrough _ _ _ _ h

theorem stands_followLinks {f : Files} {follow : Bool} {links : Nat} {cur : Location}
    {names : List String} {place : Place} (h : f.followLinks follow links cur names = .ok place) :
    f.Stands place := by
  induction links generalizing cur names place with
  | zero => exact stands_followNames (fun _ _ _ _ h => by cases h) h
  | succ links ih =>
    refine stands_followNames (fun cur target rest place h => ?_) h
    split at h
    · cases h
    · exact ih h

theorem stands_resolve {f : Files} {path : String} {follow : Bool} {place : Place}
    (h : f.resolve path follow = .ok place) : f.Stands place := by
  unfold resolve at h
  split at h
  · cases h
  · split at h
    · cases h
    · split at h
      · cases h
      · exact stands_followLinks h

/-! A path that is not itself a link leads to the same place with its last name followed or not. -/

theorem followNames_follow {f : Files}
    {through through' : Location → String → List String → Except FileFault Place}
    (hthrough : ∀ cur target rest,
      (∀ loc t, through cur target rest ≠ .ok (.link loc t)) →
        through' cur target rest = through cur target rest)
    {cur : Location} {names : List String}
    (h : ∀ loc t, f.followNames false through cur names ≠ .ok (.link loc t)) :
    f.followNames true through' cur names = f.followNames false through cur names := by
  induction names generalizing cur with
  | nil => rfl
  | cons name rest ih =>
    unfold followNames at h ⊢
    split
    · next hdot => exact ih (by simpa only [hdot, if_true] using h)
    · next hdot =>
      simp only [hdot, Bool.false_eq_true, if_false] at h
      split
      · next hup => exact ih (by simpa only [hup, if_true] using h)
      · next hup =>
        simp only [hup, Bool.false_eq_true, if_false] at h
        split
        · rfl
        · next hlimit =>
          simp only [hlimit, if_false] at h
          cases hentry : f.entry? (cur ++ [name]) with
          | none => rfl
          | some entry =>
            cases entry with
            | directory => exact ih (by simpa [hentry] using h)
            | file id => rfl
            | link target =>
              cases rest with
              | nil =>
                have hlink := h (cur ++ [name]) target
                simp [hentry] at hlink
              | cons next rest =>
                simp only [hentry, List.isEmpty_cons, Bool.false_and, Bool.false_eq_true,
                  if_false] at h ⊢
                exact hthrough _ _ _ h

theorem followLinks_follow {f : Files} {links : Nat} {cur : Location} {names : List String}
    (h : ∀ loc t, f.followLinks false links cur names ≠ .ok (.link loc t)) :
    f.followLinks true links cur names = f.followLinks false links cur names := by
  induction links generalizing cur names with
  | zero => exact followNames_follow (fun _ _ _ _ => rfl) h
  | succ links ih =>
    refine followNames_follow (fun cur target rest hthrough => ?_) h
    split
    · rfl
    · next hempty =>
      simp only [hempty] at hthrough
      exact ih hthrough

theorem find_eq_resolve {f : Files} {path : String}
    (h : ∀ loc t, f.resolve path false ≠ .ok (.link loc t)) :
    f.find path = f.resolve path false := by
  unfold find
  unfold resolve at h ⊢
  split
  · rfl
  · next hnul =>
    simp only [hnul] at h
    split
    · rfl
    · next hlong =>
      simp only [hlong] at h
      split
      · rfl
      · next hempty =>
        simp only [hempty] at h
        exact followLinks_follow h

end Files

end SourceReducer
