import Mathlib.Data.List.Forall2
import Mathlib.Data.List.Nodup
import SourceReducer.Candidate
import SourceReducer.Proofs.Engine.Loading
import SourceReducer.Proofs.Files.Extension
import SourceReducer.Statement.Language

/-! Writing scratch texts into an empty directory. A text stands under the name of its working file,
or in a directory of its unit where an earlier unit has the name. So every text has a place of its
own, unless a working file has the name of such a directory: then the texts cannot all be
written. -/
namespace SourceReducer

open Files

/-! The names of directories for units. -/

theorem showUnit_eq (unit : Nat) : showUnit unit = "unit" ++ Nat.repr unit := rfl

theorem toList_showUnit (unit : Nat) :
    (showUnit unit).toList = "unit".toList ++ Nat.toDigits 10 unit := by
  rw [showUnit_eq, String.toList_append, Nat.toList_repr]

theorem showUnit_injective : Function.Injective showUnit := by
  intro u v h
  have hdigits : Nat.toDigits 10 u = Nat.toDigits 10 v := by
    have htexts := congrArg String.toList h
    rwa [toList_showUnit, toList_showUnit, List.append_cancel_left_eq] at htexts
  rw [← Nat.ofDigitChars_ten_toDigits (n := u), hdigits, Nat.ofDigitChars_ten_toDigits]

theorem utf8ByteSize_repr_le {digits n : Nat} (h : n < Nat.pow 10 (digits + 1)) :
    (Nat.repr n).utf8ByteSize ≤ 4 * (digits + 1) := by
  induction digits generalizing n with
  | zero =>
    rw [Nat.repr_of_lt h, String.utf8ByteSize_singleton]
    exact Char.utf8Size_le_four _
  | succ digits ih =>
    by_cases hten : n < 10
    · rw [Nat.repr_of_lt hten, String.utf8ByteSize_singleton]
      have := Char.utf8Size_le_four n.digitChar
      omega
    · have hshort : n / 10 < Nat.pow 10 (digits + 1) := by
        rw [Nat.div_lt_iff_lt_mul (by decide)]
        exact h
      rw [Nat.repr_of_ge (Nat.le_of_not_lt hten), String.utf8ByteSize_append,
        String.utf8ByteSize_singleton]
      have := Char.utf8Size_le_four (n % 10).digitChar
      have := ih hshort
      omega

/-- The numbers that units can have are shown as names of entries. -/
theorem isName_showUnit {unit : Nat} (h : unit < Nat.pow 2 64) : IsName (showUnit unit) := by
  have hdigit {c : Char} (hc : c ∈ (showUnit unit).toList) :
      c ∈ "unit".toList ∨ c.isDigit = true := by
    rw [toList_showUnit, List.mem_append] at hc
    exact hc.imp_right (Nat.isDigit_of_mem_toDigits (by decide) (by decide))
  have hfirst : (showUnit unit).toList.head? = some 'u' := by
    rw [toList_showUnit]
    rfl
  have hne {other : String} (hother : other.toList.head? ≠ some 'u') : showUnit unit ≠ other := by
    rintro rfl
    exact hother hfirst
  refine ⟨hne (by decide), ?_, ?_, ?_, ?_, ?_⟩
  · intro hslash
    rcases hdigit hslash with h | h <;> revert h <;> decide
  · intro hnul
    rcases hdigit hnul with h | h <;> revert h <;> decide
  · exact beq_eq_false_iff_ne.2 (hne (by decide))
  · exact beq_eq_false_iff_ne.2 (hne (by decide))
  · have hrepr : (Nat.repr unit).utf8ByteSize ≤ 4 * (19 + 1) :=
      utf8ByteSize_repr_le (Nat.lt_trans h (by decide))
    have hunit : "unit".utf8ByteSize = 4 := by decide
    rw [showUnit_eq, String.utf8ByteSize_append, nameLimit, hunit]
    omega

/-- A working copy that was loaded has a working file, whose name is a name of an entry. -/
theorem WorkingCopy.isName_fileName {copy given : WorkingCopy} {language : Language} {files : Files}
    (h : WorkingCopy.load language files copy.unit copy.path copy.suffix = .ok given) :
    IsName copy.fileName ∧ Path.fileName? copy.path = some copy.fileName := by
  obtain ⟨hread, -⟩ := WorkingCopy.load_eq_ok h
  obtain ⟨loc, id, hfind, -⟩ := read_eq_ok.1 (readText_eq_ok.1 hread)
  obtain ⟨slot, hslot⟩ := slot?_of_isLeaf ⟨loc, by rw [hfind]; rfl⟩
  obtain ⟨name, hfile, hname⟩ := isName_of_slot? hslot
  rw [WorkingCopy.fileName, hfile, Option.getD_some]
  exact ⟨hname, rfl⟩

/-! The places of scratch texts. -/

namespace Candidate

/-- The names below the directory that lead to a scratch text, where `used` are the names that stand
in it. -/
def placeBelow (used : List String) (copy : WorkingCopy) : List String :=
  if copy.fileName ∈ used then [showUnit copy.unit, copy.fileName] else [copy.fileName]

def placesFrom (used : List String) : List WorkingCopy → List (List String)
  | [] => []
  | copy :: rest => placeBelow used copy :: placesFrom (copy.fileName :: used) rest

/-- The names below the directory that lead to each scratch text. -/
def places (c : Candidate) : List (List String) :=
  placesFrom [] c.copies

/-- Whether a working file has the name of the directory that a later unit of two with one file name
needs. -/
def NamesClash (c : Candidate) : Prop :=
  ∃ a b, [a, b].Sublist c.copies ∧ a.fileName = b.fileName ∧
    showUnit b.unit ∈ c.copies.map WorkingCopy.fileName

/-- Whether the names of directories, of those that are `made` and of those to come, are no names of
files. -/
def Apart (used made : List String) (copies : List WorkingCopy) : Prop :=
  ∀ dir, (dir ∈ made ∨ ∃ name, [dir, name] ∈ placesFrom used copies) →
    dir ∉ used ∧ dir ∉ copies.map WorkingCopy.fileName

/-- The directories that stand once a text is written. -/
def madeWith (used made : List String) (copy : WorkingCopy) : List String :=
  if copy.fileName ∈ used then showUnit copy.unit :: made else made

section Places

variable {used made : List String} {copy : WorkingCopy} {copies rest : List WorkingCopy}

theorem mem_placesFrom {names : List String} (h : names ∈ placesFrom used copies) :
    ∃ copy ∈ copies, (names = [copy.fileName] ∧ copy.fileName ∉ used) ∨
      names = [showUnit copy.unit, copy.fileName] := by
  induction copies generalizing used with
  | nil => simp [placesFrom] at h
  | cons copy rest ih =>
    rcases List.mem_cons.1 h with rfl | h
    · refine ⟨copy, List.mem_cons_self, ?_⟩
      unfold placeBelow
      split
      · exact .inr rfl
      · next hused => exact .inl ⟨rfl, hused⟩
    · obtain ⟨other, hother, hnames⟩ := ih h
      refine ⟨other, List.mem_cons_of_mem _ hother, hnames.imp_left fun hname => ⟨hname.1, ?_⟩⟩
      exact fun hmem => hname.2 (List.mem_cons_of_mem _ hmem)

theorem eq_placeBelow {dir name : String} :
    [dir, name] = placeBelow used copy ↔
      copy.fileName ∈ used ∧ dir = showUnit copy.unit ∧ name = copy.fileName := by
  unfold placeBelow
  split <;> simp [*]

/-- A text gets a directory where its file name stands there, or an earlier text has it. -/
theorem mem_placesFrom_directory {dir name : String} :
    [dir, name] ∈ placesFrom used copies ↔
      ∃ b, (b ∈ copies ∧ b.fileName ∈ used ∨ ∃ a, [a, b].Sublist copies ∧ a.fileName = b.fileName) ∧
        dir = showUnit b.unit ∧ name = b.fileName := by
  induction copies generalizing used with
  | nil => simp [placesFrom]
  | cons copy rest ih =>
    rw [placesFrom, List.mem_cons, eq_placeBelow, ih]
    constructor
    · rintro (⟨hused, hdir⟩ | ⟨b, hb | ⟨a, hsub, hname⟩, hdir⟩)
      · exact ⟨copy, .inl ⟨List.mem_cons_self, hused⟩, hdir⟩
      · rcases List.mem_cons.1 hb.2 with hcopy | hused
        · refine ⟨b, .inr ⟨copy, ?_, hcopy.symm⟩, hdir⟩
          exact List.cons_sublist_cons.2 (List.singleton_sublist.2 hb.1)
        · exact ⟨b, .inl ⟨List.mem_cons_of_mem _ hb.1, hused⟩, hdir⟩
      · exact ⟨b, .inr ⟨a, hsub.cons _, hname⟩, hdir⟩
    · rintro ⟨b, ⟨hb, hused⟩ | ⟨a, hsub, hname⟩, hdir⟩
      · rcases List.mem_cons.1 hb with rfl | hb
        · exact .inl ⟨hused, hdir⟩
        · exact .inr ⟨b, .inl ⟨hb, List.mem_cons_of_mem _ hused⟩, hdir⟩
      · rcases List.cons_sublist_cons'.1 hsub with hsub | ⟨rfl, hb⟩
        · exact .inr ⟨b, .inr ⟨a, hsub, hname⟩, hdir⟩
        · refine .inr ⟨b, .inl ⟨List.singleton_sublist.1 hb, ?_⟩, hdir⟩
          rw [hname]
          exact List.mem_cons_self

theorem apart_iff_not_namesClash (c : Candidate) : Apart [] [] c.copies ↔ ¬c.NamesClash := by
  constructor
  · rintro hapart ⟨a, b, hsub, hname, hclash⟩
    have hplace : [showUnit b.unit, b.fileName] ∈ placesFrom [] c.copies :=
      mem_placesFrom_directory.2 ⟨b, .inr ⟨a, hsub, hname⟩, rfl, rfl⟩
    exact (hapart _ (.inr ⟨_, hplace⟩)).2 hclash
  · rintro hnot dir (hmade | ⟨name, hplace⟩)
    · exact absurd hmade List.not_mem_nil
    · obtain ⟨b, hb | ⟨a, hsub, hname⟩, rfl, -⟩ := mem_placesFrom_directory.1 hplace
      · exact absurd hb.2 List.not_mem_nil
      · exact ⟨List.not_mem_nil, fun hclash => hnot ⟨a, b, hsub, hname, hclash⟩⟩

/-- Names of directories stay apart from names of files while texts are written. -/
theorem apart_cons :
    Apart used made (copy :: rest) ↔
      Apart (copy.fileName :: used) (madeWith used made copy) rest := by
  have hsource (dir : String) :
      (dir ∈ made ∨ ∃ name, [dir, name] ∈ placesFrom used (copy :: rest)) ↔
        (dir ∈ madeWith used made copy ∨
          ∃ name, [dir, name] ∈ placesFrom (copy.fileName :: used) rest) := by
    simp only [placesFrom, List.mem_cons, eq_placeBelow]
    unfold madeWith
    split
    · next hused =>
      rw [List.mem_cons]
      constructor
      · rintro (hmade | ⟨name, ⟨-, hdir, -⟩ | hplace⟩)
        · exact .inl (.inr hmade)
        · exact .inl (.inl hdir)
        · exact .inr ⟨name, hplace⟩
      · rintro ((hdir | hmade) | ⟨name, hplace⟩)
        · exact .inr ⟨copy.fileName, .inl ⟨hused, hdir, rfl⟩⟩
        · exact .inl hmade
        · exact .inr ⟨name, .inr hplace⟩
    · next hused => simp [hused]
  have htarget (dir : String) :
      (dir ∉ used ∧ dir ∉ (copy :: rest).map WorkingCopy.fileName) ↔
        (dir ∉ copy.fileName :: used ∧ dir ∉ rest.map WorkingCopy.fileName) := by
    simp only [List.map_cons, List.mem_cons, not_or]
    tauto
  simp only [Apart, hsource, htarget]

/-- The places of texts differ, as the numbers of units do. -/
theorem nodup_placesFrom (hunits : (copies.map fun copy => showUnit copy.unit).Nodup) :
    (placesFrom used copies).Nodup := by
  induction copies generalizing used with
  | nil => exact List.nodup_nil
  | cons copy rest ih =>
    obtain ⟨hnew, hrest⟩ := List.nodup_cons.1 hunits
    refine List.nodup_cons.2 ⟨fun hmem => ?_, ih hrest⟩
    obtain ⟨other, hother, ⟨hnames, hnot⟩ | hnames⟩ := mem_placesFrom hmem
    · unfold placeBelow at hnames
      split at hnames
      · simp at hnames
      · obtain heq : copy.fileName = other.fileName := by simpa using hnames
        exact hnot (heq ▸ List.mem_cons_self)
    · unfold placeBelow at hnames
      split at hnames
      · obtain ⟨heq, -⟩ :
            showUnit copy.unit = showUnit other.unit ∧ copy.fileName = other.fileName := by
          simpa using hnames
        exact hnew (List.mem_map.2 ⟨other, hother, heq.symm⟩)
      · simp at hnames

end Places

/-! Writing texts to their places. -/

section Write

variable {f mid g : Files} {dir path : String} {loc : Location}
  {used made paths names : List String} {copy : WorkingCopy} {copies rest : List WorkingCopy}

theorem materialize_eq_ok :
    copy.materialize f path = .ok g ↔ f.write path (.text copy.scratch) = .ok g := by
  unfold WorkingCopy.materialize
  cases f.write path (.text copy.scratch) <;> simp

/-- What has to hold of a text, and of those after it, before they are written. -/
structure Ready (made : List String) (copies : List WorkingCopy) : Prop where
  file : ∀ copy ∈ copies, IsName copy.fileName
  named : ∀ copy ∈ copies, Path.fileName? copy.path = some copy.fileName
  unit : ∀ copy ∈ copies, IsName (showUnit copy.unit)
  nodup : (copies.map fun copy => showUnit copy.unit).Nodup
  fresh : ∀ copy ∈ copies, showUnit copy.unit ∉ made

theorem Ready.tail (h : Ready made (copy :: rest)) : Ready (madeWith used made copy) rest where
  file other hother := h.file other (List.mem_cons_of_mem _ hother)
  named other hother := h.named other (List.mem_cons_of_mem _ hother)
  unit other hother := h.unit other (List.mem_cons_of_mem _ hother)
  nodup := (List.nodup_cons.1 h.nodup).2
  fresh other hother := by
    have hmade := h.fresh other (List.mem_cons_of_mem _ hother)
    unfold madeWith
    split
    · refine List.mem_cons.not.2 (not_or.2 ⟨fun heq => ?_, hmade⟩)
      exact (List.nodup_cons.1 h.nodup).1 (List.mem_map.2 ⟨other, hother, heq⟩)
    · exact hmade

theorem Ready.isName_of_mem (h : Ready made copies) (hnames : names ∈ placesFrom used copies) :
    ∀ name ∈ names, IsName name := by
  intro name hname
  obtain ⟨copy, hcopy, ⟨rfl, -⟩ | rfl⟩ := mem_placesFrom hnames
  · obtain rfl : name = copy.fileName := by simpa using hname
    exact h.file copy hcopy
  · rcases List.mem_cons.1 hname with rfl | hname
    · exact h.unit copy hcopy
    · obtain rfl : name = copy.fileName := by simpa using hname
      exact h.file copy hcopy

theorem Ready.pairwise_paths (h : Ready made copies) (hdir : dir ≠ "") :
    ((placesFrom used copies).map (Path.below dir)).Pairwise fun p q => Path.same p q = false := by
  rw [List.pairwise_map]
  refine (nodup_placesFrom h.nodup).imp_of_mem fun hnames hothers hne => ?_
  have hcomponents := Path.components_below hdir (h.isName_of_mem hnames)
  have hothers' := Path.components_below hdir (h.isName_of_mem hothers)
  simp [Path.same, hcomponents, hothers', hne]

/-- Whether a text stands where names lead to below a directory, under the name of its working
file. -/
structure Placed (g : Files) (dir : String) (loc : Location) (names : List String)
    (copy : WorkingCopy) : Prop where
  named : Path.fileName? copy.path = some copy.fileName
  ends : ∃ front, names = front ++ [copy.fileName]
  holds : g.HoldsAt (Path.below dir names) (loc ++ names) copy.scratch

theorem Placed.extend (h : Placed f dir loc names copy) (hext : Extended f g) :
    Placed g dir loc names copy :=
  ⟨h.named, h.ends, hext.holdsAt h.holds⟩

/-- A text is written to its place where a path can be so long and the names that it needs are
free. -/
theorem write_step (hfilled : f.Filled dir loc used made) (hready : Ready made (copy :: rest))
    (hused : copy.fileName ∈ used → showUnit copy.unit ∉ used)
    (hmade : copy.fileName ∉ used → copy.fileName ∉ made)
    (hfits : (Path.below dir (placeBelow used copy)).utf8ByteSize ≤ pathLimit) :
    ∃ mid g, place dir used copy f = .ok (Path.below dir (placeBelow used copy), mid) ∧
      copy.materialize mid (Path.below dir (placeBelow used copy)) = .ok g ∧
      g.Filled dir loc (copy.fileName :: used) (madeWith used made copy) ∧ Extended f g ∧
      Placed g dir loc (placeBelow used copy) copy := by
  have hfile := hready.file copy List.mem_cons_self
  have hnamed := hready.named copy List.mem_cons_self
  have hunit := hready.unit copy List.mem_cons_self
  have hfresh := hready.fresh copy List.mem_cons_self
  by_cases hname : copy.fileName ∈ used
  · simp only [placeBelow, madeWith, hname, if_true, Path.below, List.foldl_cons, List.foldl_nil]
      at hfits ⊢
    obtain ⟨mid, g, hmake, hwrite, hfilled', hext, hholds⟩ :=
      hfilled.write_below hunit hfile (hused hname) hfresh hfits copy.scratch
    exact ⟨mid, g, by simp [place, hname, hmake], materialize_eq_ok.2 hwrite,
      hfilled'.cons_used hname, hext, hnamed, ⟨[showUnit copy.unit], rfl⟩, hholds⟩
  · simp only [placeBelow, madeWith, hname, if_false, Path.below, List.foldl_cons, List.foldl_nil]
      at hfits ⊢
    obtain ⟨hwrite, hfilled', hext, hholds⟩ :=
      hfilled.write_name hfile hname (hmade hname) hfits copy.scratch
    exact ⟨f, _, by simp [place, hname], materialize_eq_ok.2 hwrite, hfilled', hext, hnamed,
      ⟨[], rfl⟩, hholds⟩

/-- Nothing less will do. -/
theorem write_step_only (hfilled : f.Filled dir loc used made) (hready : Ready made (copy :: rest))
    (hplace : place dir used copy f = .ok (path, mid))
    (hwrite : copy.materialize mid path = .ok g) :
    path = Path.below dir (placeBelow used copy) ∧
      (copy.fileName ∈ used → showUnit copy.unit ∉ used) ∧
      (copy.fileName ∉ used → copy.fileName ∉ made) ∧ path.utf8ByteSize ≤ pathLimit := by
  have hfile := hready.file copy List.mem_cons_self
  have hunit := hready.unit copy List.mem_cons_self
  have hsize := size_le_of_write (materialize_eq_ok.1 hwrite)
  unfold place at hplace
  by_cases hname : copy.fileName ∈ used
  · rw [if_pos hname] at hplace
    cases hmake : f.makeDirectories (Path.join dir (showUnit copy.unit)) with
    | error fault => simp [hmake] at hplace
    | ok made' =>
      obtain ⟨hpath, -⟩ : Path.join (Path.join dir (showUnit copy.unit)) copy.fileName = path ∧
          made' = mid := by
        simpa [hmake] using hplace
      refine ⟨by simp [Path.below, placeBelow, hname, hpath], fun _ hclash => ?_,
        fun h => absurd hname h, hsize⟩
      -- a file stands where the directory is to be made
      obtain ⟨id, hentry⟩ := hfilled.file _ hclash
      have hdir := Path.join_ne_empty (walk_of_find hfilled.found).1 hunit
      have hshort := Nat.le_trans (Path.utf8ByteSize_le_join hdir hfile) (hpath ▸ hsize)
      rw [makeDirectories_join_file hfilled.found hunit hshort hentry] at hmake
      cases hmake
  · rw [if_neg hname] at hplace
    obtain ⟨hpath, rfl⟩ : Path.join dir copy.fileName = path ∧ f = mid := by simpa using hplace
    refine ⟨by simp [Path.below, placeBelow, hname, hpath], fun h => absurd h hname,
      fun _ hclash => ?_, hsize⟩
    -- a directory stands where the file is to be written
    have hentry := hfilled.directory _ hclash
    rw [materialize_eq_ok, ← hpath, write_join_directory hfilled.found hfile (hpath ▸ hsize) hentry]
      at hwrite
    cases hwrite

/-- All texts are written to their places where all paths can be so long and directories are named
apart from files. -/
theorem write_all (hfilled : f.Filled dir loc used made) (hready : Ready made copies)
    (hapart : Apart used made copies)
    (hfits : ∀ names ∈ placesFrom used copies, (Path.below dir names).utf8ByteSize ≤ pathLimit) :
    ∃ g, materializeFrom dir used copies f =
        (.ok ((placesFrom used copies).map (Path.below dir)), g) ∧
      List.Forall₂ (Placed g dir loc) (placesFrom used copies) copies ∧ Extended f g := by
  induction copies generalizing used made f with
  | nil => exact ⟨f, rfl, .nil, Extended.refl f⟩
  | cons copy rest ih =>
    have hused (hname : copy.fileName ∈ used) : showUnit copy.unit ∉ used :=
      (hapart _
        (.inr ⟨copy.fileName, List.mem_cons.2 (.inl (eq_placeBelow.2 ⟨hname, rfl, rfl⟩))⟩)).1
    have hmade (_ : copy.fileName ∉ used) : copy.fileName ∉ made := fun hmem =>
      (hapart _ (.inl hmem)).2 List.mem_cons_self
    obtain ⟨mid, g, hplace, hwrite, hfilled', hext, hplaced⟩ :=
      write_step hfilled hready hused hmade (hfits _ List.mem_cons_self)
    obtain ⟨k, hrest, hall, hext'⟩ := ih hfilled' hready.tail (apart_cons.1 hapart)
      fun names hnames => hfits names (List.mem_cons_of_mem _ hnames)
    refine ⟨k, ?_, .cons (hplaced.extend hext') hall, hext.trans hext'⟩
    simp only [materializeFrom, hplace, hwrite, hrest, placesFrom, List.map_cons]

theorem write_all_only (hfilled : f.Filled dir loc used made) (hready : Ready made copies)
    (h : materializeFrom dir used copies f = (.ok paths, g)) :
    Apart used made copies ∧
      ∀ names ∈ placesFrom used copies, (Path.below dir names).utf8ByteSize ≤ pathLimit := by
  induction copies generalizing used made f g paths with
  | nil =>
    refine ⟨?_, by simp [placesFrom]⟩
    rintro other (hmade | ⟨name, hplace⟩)
    · exact ⟨fun hused => hfilled.not_mem_made hused hmade, by simp⟩
    · simp [placesFrom] at hplace
  | cons copy rest ih =>
    unfold materializeFrom at h
    cases hplace : place dir used copy f with
    | error failure => simp [hplace] at h
    | ok placed =>
      obtain ⟨path, mid⟩ := placed
      cases hwrite : copy.materialize mid path with
      | error failure => simp [hplace, hwrite] at h
      | ok written =>
        rcases hrest : materializeFrom dir (copy.fileName :: used) rest written with
          ⟨failure | later, after⟩
        · simp [hplace, hwrite, hrest] at h
        · obtain ⟨rfl, hused, hmade, hsize⟩ := write_step_only hfilled hready hplace hwrite
          obtain ⟨mid', g', hplace', hwrite', hfilled', -⟩ :=
            write_step hfilled hready hused hmade hsize
          obtain rfl : mid = mid' := by simpa [hplace] using hplace'
          obtain rfl : written = g' := by simpa [hwrite] using hwrite'
          obtain ⟨hapart, hfits⟩ := ih hfilled' hready.tail hrest
          refine ⟨apart_cons.2 hapart, fun names hnames => ?_⟩
          rcases List.mem_cons.1 hnames with rfl | hnames
          · exact hsize
          · exact hfits names hnames

end Write

/-- Whether the units of a candidate were loaded, whatever became of their texts, under numbers of
their own. -/
structure Opened (c : Candidate) : Prop where
  loaded : ∀ copy ∈ c.copies, ∃ language files given,
    WorkingCopy.load language files copy.unit copy.path copy.suffix = .ok given
  distinct : (c.copies.map WorkingCopy.unit).Nodup
  bounded : ∀ copy ∈ c.copies, copy.unit < Nat.pow 2 64

theorem Opened.ready {c : Candidate} (h : c.Opened) : Ready [] c.copies where
  file copy hcopy := by
    obtain ⟨language, files, given, hload⟩ := h.loaded copy hcopy
    exact (WorkingCopy.isName_fileName hload).1
  named copy hcopy := by
    obtain ⟨language, files, given, hload⟩ := h.loaded copy hcopy
    exact (WorkingCopy.isName_fileName hload).2
  unit copy hcopy := isName_showUnit (h.bounded copy hcopy)
  nodup := by
    have hshown := h.distinct.map showUnit_injective
    rwa [List.map_map] at hshown
  fresh _ _ := List.not_mem_nil

/-- Whether the units of a candidate can be loaded from a store. -/
def loads (c : Candidate) (files : Files) : Bool :=
  c.copies.all fun copy =>
    (WorkingCopy.load c.language files copy.unit copy.path copy.suffix).isOk &&
      copy.unit < Nat.pow 2 64

theorem opened_of_loads {c : Candidate} (files : Files) (h : c.loads files = true)
    (hdistinct : (c.copies.map WorkingCopy.unit).Nodup) : c.Opened := by
  have hall := List.all_eq_true.1 h
  simp only [Bool.and_eq_true, decide_eq_true_eq] at hall
  refine ⟨fun copy hcopy => ⟨c.language, files, ?_⟩, hdistinct,
    fun copy hcopy => (hall copy hcopy).2⟩
  have hok := (hall copy hcopy).1
  cases hload : WorkingCopy.load c.language files copy.unit copy.path copy.suffix with
  | error failure => simp [hload, Except.isOk, Except.toBool] at hok
  | ok given => exact ⟨given, rfl⟩

/-- Every scratch text gets a file of its own below an empty directory, under the name of its
working file, if and only if no working file has the name of a directory that another unit needs,
and the paths are not too long. -/
theorem materialize_keeps_texts_apart (c : Candidate) (dir : String) (files : Files)
    (loc : Location) (hopened : c.Opened) (hdir : files.find dir = .ok (.directory loc))
    (hempty : files.isEmptyDirectory loc = true) :
    ((∃ paths after, c.materialize dir files = (.ok paths, after)) ↔
      ¬c.NamesClash ∧ ∀ names ∈ c.places, (Path.below dir names).utf8ByteSize ≤ pathLimit) ∧
    ∀ paths after, c.materialize dir files = (.ok paths, after) →
      paths.Pairwise (fun p q => Path.same p q = false) ∧
      List.Forall₂ (fun path copy =>
        Path.fileName? path = Path.fileName? copy.path ∧ (Path.fileName? path).isSome = true ∧
        after.readText path = .ok copy.scratch ∧
        ∃ names id, names ≠ [] ∧ Path.components path = Path.components dir ++ names ∧
          after.find path = .ok (.file (loc ++ names) id)) paths c.copies := by
  have hfilled := filled_of_isEmptyDirectory hdir hempty
  have hready := hopened.ready
  have hne := (walk_of_find hdir).1
  constructor
  · rw [← apart_iff_not_namesClash]
    constructor
    · rintro ⟨paths, after, hrun⟩
      exact write_all_only hfilled hready hrun
    · rintro ⟨hapart, hfits⟩
      obtain ⟨after, hrun, -⟩ := write_all hfilled hready hapart hfits
      exact ⟨_, after, hrun⟩
  · intro paths after hrun
    obtain ⟨hapart, hfits⟩ := write_all_only hfilled hready hrun
    obtain ⟨after', hrun', hplaced, -⟩ := write_all hfilled hready hapart hfits
    have hsame := hrun.symm.trans hrun'
    simp only [Prod.mk.injEq, Except.ok.injEq] at hsame
    obtain ⟨rfl, rfl⟩ := hsame
    refine ⟨hready.pairwise_paths hne, List.forall₂_map_left_iff.2 ?_⟩
    have hproper (names : List String) (hnames : names ∈ placesFrom [] c.copies) :=
      hready.isName_of_mem hnames
    refine ((List.forall₂_and_left _ _).2 ⟨hproper, hplaced⟩).imp fun names copy hall => ?_
    obtain ⟨hnames, hnamed, ⟨front, rfl⟩, hholds⟩ := hall
    have hname := Path.fileName?_below hne hnames
    have hread := hholds.readText
    obtain ⟨id, hfind, -⟩ := hholds
    exact ⟨hname.trans hnamed.symm, by rw [hname]; rfl, hread, front ++ [copy.fileName], id,
      by simp, Path.components_below hne hnames, hfind⟩

/-- Units with some working files, with a trial of each. -/
def trialsOf (paths : List String) : Candidate where
  language := Statement.language
  copies := paths.zipIdx.map fun x => (WorkingCopy.clean x.2 x.1 "s" "p;" ⟨#[]⟩).trying x.1
  forest := ⟨0, []⟩

/-- Working files, two of them of one name, and an empty directory. -/
def namesakes : Files where
  entries :=
    [(["d"], .directory), (["a"], .directory), (["b"], .directory), (["unit1"], .file 0),
      (["unit2"], .file 1), (["a", "x"], .file 2), (["b", "x"], .file 3)]
  contents := #[.text "p;", .text "p;", .text "p;", .text "p;"]
  here := []

/-- A working file may have the name of a directory that is not needed. -/
theorem materialize_apart_namesakes :
    ∃ paths after,
      (trialsOf ["unit1", "a/x", "b/x"]).materialize "d" namesakes = (.ok paths, after) ∧
      paths = ["d/unit1", "d/x", "d/unit2/x"] ∧ paths.Pairwise (fun p q => Path.same p q = false) ∧
      ¬(trialsOf ["unit1", "a/x", "b/x"]).NamesClash := by
  have hopened : (trialsOf ["unit1", "a/x", "b/x"]).Opened :=
    opened_of_loads namesakes (by decide +kernel) (by decide +kernel)
  have hfind : namesakes.find "d" = .ok (.directory ["d"]) := rfl
  have hends : ((trialsOf ["unit1", "a/x", "b/x"]).materialize "d" namesakes).1.toOption =
      some ["d/unit1", "d/x", "d/unit2/x"] := by
    decide +kernel
  obtain ⟨hiff, hall⟩ :=
    materialize_keeps_texts_apart _ "d" namesakes ["d"] hopened hfind (by decide +kernel)
  rcases hrun : (trialsOf ["unit1", "a/x", "b/x"]).materialize "d" namesakes with
    ⟨failure | paths, after⟩
  · rw [hrun] at hends
    cases hends
  · rw [hrun] at hends
    exact ⟨paths, after, rfl, Option.some.inj hends, (hall paths after hrun).1,
      (hiff.1 ⟨paths, after, hrun⟩).1⟩

/-- A file is where a directory is to be made, or a directory where a file is to be written. -/
theorem materialize_over_unit_names :
    namesakes.find "d" = .ok (.directory ["d"]) ∧ namesakes.isEmptyDirectory ["d"] = true ∧
    ∀ paths ∈ [["unit2", "a/x", "b/x"], ["a/x", "b/x", "unit1"]],
      (trialsOf paths).loads namesakes = true ∧ paths.Nodup ∧
        ((trialsOf paths).materialize "d" namesakes).1.toOption = none := by
  refine ⟨rfl, ?_, ?_⟩
  · decide +kernel
  · decide +kernel

end Candidate

end SourceReducer
