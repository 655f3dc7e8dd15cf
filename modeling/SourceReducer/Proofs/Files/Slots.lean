import SourceReducer.Proofs.Files.Change

/-! The places that paths name when their last link is not followed. A change of what stands at such
places leaves the places that paths name alone, as long as no directory stands there before or after
it and no link there leads to one. -/
namespace SourceReducer.Files

/-- The place of what a walk ends at; none if that is a directory or the walk is refused. -/
def placeOf? : Except FileFault Place → Option Location
  | .ok (.file loc _) | .ok (.link loc _) => some loc
  | .ok (.missing around name) => some (around ++ [name])
  | _ => none

/-- The place that a path names, where the last link is not followed. -/
def slot? (f : Files) (path : String) : Option Location :=
  placeOf? (f.resolve path false)

section Slot

variable {f : Files} {path : String} {loc : Location}

theorem resolve_of_slot? (h : f.slot? path = some loc) :
    loc ≠ [] ∧
      ((∃ id, f.entry? loc = some (.file id) ∧ f.resolve path false = .ok (.file loc id)) ∨
        (∃ target, f.entry? loc = some (.link target) ∧
          f.resolve path false = .ok (.link loc target)) ∨
        f.entry? loc = none ∧
          ∃ around name, loc = around ++ [name] ∧
            f.resolve path false = .ok (.missing around name)) := by
  unfold slot? at h
  cases hres : f.resolve path false with
  | error fault => simp [hres, placeOf?] at h
  | ok place =>
    have hstands := stands_resolve hres
    cases place with
    | directory loc' => simp [hres, placeOf?] at h
    | file loc' id =>
      obtain rfl : loc' = loc := by simpa [hres, placeOf?] using h
      exact ⟨hstands.1, .inl ⟨id, hstands.2, rfl⟩⟩
    | link loc' target =>
      obtain rfl : loc' = loc := by simpa [hres, placeOf?] using h
      refine ⟨?_, .inr (.inl ⟨target, hstands, rfl⟩)⟩
      rintro rfl
      simp [Stands, entry?] at hstands
    | missing around name =>
      obtain rfl : around ++ [name] = loc := by simpa [hres, placeOf?] using h
      exact ⟨by simp, .inr (.inr ⟨hstands, around, name, rfl, rfl⟩)⟩

theorem resolve_of_slot?_file {id : Nat} (h : f.slot? path = some loc)
    (hentry : f.entry? loc = some (.file id)) : f.resolve path false = .ok (.file loc id) := by
  obtain ⟨-, ⟨id', hentry', hres⟩ | ⟨target, hentry', -⟩ | ⟨hentry', -⟩⟩ := resolve_of_slot? h
  · obtain rfl : id = id' := by simpa [hentry] using hentry'
    exact hres
  · simp [hentry] at hentry'
  · simp [hentry] at hentry'

theorem resolve_of_slot?_none (h : f.slot? path = some loc) (hentry : f.entry? loc = none) :
    ∃ around name, loc = around ++ [name] ∧ f.resolve path false = .ok (.missing around name) := by
  obtain ⟨-, ⟨id', hentry', -⟩ | ⟨target', hentry', -⟩ | ⟨-, hres⟩⟩ := resolve_of_slot? h
  · simp [hentry] at hentry'
  · simp [hentry] at hentry'
  · exact hres

theorem entry?_slot?_ne_directory (h : f.slot? path = some loc) :
    f.entry? loc ≠ some .directory := by
  obtain ⟨-, ⟨id', hentry, -⟩ | ⟨target', hentry, -⟩ | ⟨hentry, -⟩⟩ := resolve_of_slot? h <;>
    simp [hentry]

end Slot

/-! A walk that has ended at a leaf cannot go on. -/

/-- Whether a walk ends at a file or where nothing stands. -/
def IsLeaf (walk : Except FileFault Place) : Prop :=
  ∃ loc, goalOf walk = some (.leaf loc)

theorem not_isLeaf_error (fault : FileFault) : ¬IsLeaf (.error fault) := by
  simp [IsLeaf]

theorem not_isLeaf_directory (loc : Location) : ¬IsLeaf (.ok (.directory loc)) := by
  simp [IsLeaf, Place.goal]

/-- Whether a walk is refused. -/
def IsRefused (walk : Except FileFault Place) : Prop :=
  ∃ fault, walk = .error fault

theorem followNames_beyond {f : Files} {follow : Bool}
    {through through' : Location → String → List String → Except FileFault Place}
    {rest : List String} (hrest : rest ≠ [])
    (hthrough : ∀ cur target names, IsLeaf (through cur target names) →
      IsRefused (through' cur target (names ++ rest)))
    {cur : Location} {names : List String} (h : IsLeaf (f.followNames true through cur names)) :
    IsRefused (f.followNames follow through' cur (names ++ rest)) := by
  induction names generalizing cur with
  | nil => exact absurd h (not_isLeaf_directory cur)
  | cons name names ih =>
    have hmore : (names ++ rest).isEmpty = false := by simp [hrest]
    rw [List.cons_append]
    unfold followNames at h ⊢
    split
    · next hdot => exact ih (by simpa only [hdot, if_true] using h)
    · next hdot =>
      simp only [hdot, Bool.false_eq_true, if_false] at h
      split
      · next hup => exact ih (by simpa only [hup, if_true] using h)
      · next hup =>
        simp only [hup, Bool.false_eq_true, if_false] at h
        split
        · exact ⟨_, rfl⟩
        · next hlimit =>
          simp only [hlimit, if_false] at h
          cases hentry : f.entry? (cur ++ [name]) with
          | none =>
            simp only [hmore, Bool.false_eq_true, if_false]
            exact ⟨_, rfl⟩
          | some entry =>
            cases entry with
            | directory =>
              simp only [hentry] at h
              exact ih h
            | file id =>
              simp only [hmore, Bool.false_eq_true, if_false]
              exact ⟨_, rfl⟩
            | link target =>
              simp only [hentry, Bool.not_true, Bool.and_false, Bool.false_eq_true, if_false] at h
              simp only [hmore, Bool.false_and, Bool.false_eq_true, if_false]
              exact hthrough _ _ _ h

theorem followLinks_beyond {f : Files} {follow : Bool} {links links' : Nat} {cur : Location}
    {names rest : List String} (hrest : rest ≠ [])
    (h : IsLeaf (f.followLinks true links cur names)) :
    IsRefused (f.followLinks follow links' cur (names ++ rest)) := by
  induction links generalizing links' cur names with
  | zero =>
    have hnone : ¬IsLeaf (.error .tooManyLinks) := not_isLeaf_error _
    cases links' with
    | zero => exact followNames_beyond hrest (fun _ _ _ h => absurd h hnone) h
    | succ links' => exact followNames_beyond hrest (fun _ _ _ h => absurd h hnone) h
  | succ links ih =>
    cases links' with
    | zero => exact followNames_beyond hrest (fun _ _ _ _ => ⟨_, rfl⟩) h
    | succ links' =>
      refine followNames_beyond hrest (fun cur target names h => ?_) h
      split
      · exact ⟨_, rfl⟩
      · next hempty =>
        simp only [hempty] at h
        rw [← List.append_assoc]
        exact ih h

/-! One name after the other. -/

/-- Whether a name is looked up: it is no dot, no two dots and not too long. -/
def IsLookedUp (name : String) : Prop :=
  (name == ".") = false ∧ (name == "..") = false ∧ ¬nameLimit < name.utf8ByteSize

section Names

variable {f : Files} {follow : Bool}
  {through : Location → String → List String → Except FileFault Place} {cur : Location}
  {name : String} {rest : List String}

theorem followNames_last (hname : IsLookedUp name) :
    placeOf? (f.followNames false through cur [name]) =
      if f.entry? (cur ++ [name]) = some .directory then none else some (cur ++ [name]) := by
  obtain ⟨hdot, hup, hlimit⟩ := hname
  simp only [followNames, hdot, hup, hlimit, Bool.false_eq_true, if_false]
  cases hentry : f.entry? (cur ++ [name]) with
  | none => simp [placeOf?]
  | some entry => cases entry <;> simp [placeOf?]

theorem followNames_further (hname : IsLookedUp name) (hrest : rest ≠ []) :
    f.followNames follow through cur (name :: rest) =
      match f.entry? (cur ++ [name]) with
      | none => .error .notFound
      | some .directory => f.followNames follow through (cur ++ [name]) rest
      | some (.file _) => .error .notDirectory
      | some (.link target) => through cur target rest := by
  obtain ⟨hdot, hup, hlimit⟩ := hname
  have hmore : rest.isEmpty = false := by simp [hrest]
  cases hentry : f.entry? (cur ++ [name]) with
  | none => simp [followNames, hdot, hup, hlimit, hmore, hentry]
  | some entry => cases entry <;> simp [followNames, hdot, hup, hlimit, hmore, hentry]

/-- A name that is looked up where the last one is followed as well. -/
theorem followNames_followed (hname : IsLookedUp name) :
    f.followNames true through cur (name :: rest) =
      match f.entry? (cur ++ [name]) with
      | none => if rest.isEmpty then .ok (.missing cur name) else .error .notFound
      | some .directory => f.followNames true through (cur ++ [name]) rest
      | some (.file id) =>
          if rest.isEmpty then .ok (.file (cur ++ [name]) id) else .error .notDirectory
      | some (.link target) => through cur target rest := by
  obtain ⟨hdot, hup, hlimit⟩ := hname
  cases hentry : f.entry? (cur ++ [name]) with
  | none => simp [followNames, hdot, hup, hlimit, hentry]
  | some entry => cases entry <;> simp [followNames, hdot, hup, hlimit, hentry]

/-- Induction over names: those that are not looked up are passed over, in the same way whatever
stands where. -/
theorem names_induction {motive : Location → List String → Prop} (nil : ∀ cur, motive cur [])
    (dot : ∀ cur name rest, (name == ".") = true → motive cur rest → motive cur (name :: rest))
    (up : ∀ cur name rest, (name == ".") = false → (name == "..") = true →
      motive cur.dropLast rest → motive cur (name :: rest))
    (long : ∀ cur name rest, (name == ".") = false → (name == "..") = false →
      nameLimit < name.utf8ByteSize → motive cur (name :: rest))
    (last : ∀ cur name, IsLookedUp name → motive cur [name])
    (further : ∀ cur name rest, IsLookedUp name → rest ≠ [] → motive (cur ++ [name]) rest →
      motive cur (name :: rest)) : ∀ cur names, motive cur names := by
  intro cur names
  induction names generalizing cur with
  | nil => exact nil cur
  | cons name rest ih =>
    cases hdot : name == "." with
    | true => exact dot cur name rest hdot (ih cur)
    | false =>
      cases hup : name == ".." with
      | true => exact up cur name rest hdot hup (ih cur.dropLast)
      | false =>
        by_cases hlimit : nameLimit < name.utf8ByteSize
        · exact long cur name rest hdot hup hlimit
        · by_cases hrest : rest = []
          · subst hrest
            exact last cur name ⟨hdot, hup, hlimit⟩
          · exact further cur name rest ⟨hdot, hup, hlimit⟩ hrest (ih (cur ++ [name]))

/-- The same where the last name is like the others. -/
theorem names_induction_look {motive : Location → List String → Prop} (nil : ∀ cur, motive cur [])
    (dot : ∀ cur name rest, (name == ".") = true → motive cur rest → motive cur (name :: rest))
    (up : ∀ cur name rest, (name == ".") = false → (name == "..") = true →
      motive cur.dropLast rest → motive cur (name :: rest))
    (long : ∀ cur name rest, (name == ".") = false → (name == "..") = false →
      nameLimit < name.utf8ByteSize → motive cur (name :: rest))
    (look : ∀ cur name rest, IsLookedUp name → motive (cur ++ [name]) rest →
      motive cur (name :: rest)) : ∀ cur names, motive cur names :=
  names_induction nil dot up long (fun cur name hname => look cur name [] hname (nil _))
    fun cur name rest hname _ ih => look cur name rest hname ih

theorem followNames_dot (hdot : (name == ".") = true) :
    f.followNames follow through cur (name :: rest) = f.followNames follow through cur rest := by
  simp only [followNames, hdot, if_true]

theorem followNames_up (hdot : (name == ".") = false) (hup : (name == "..") = true) :
    f.followNames follow through cur (name :: rest) =
      f.followNames follow through cur.dropLast rest := by
  simp only [followNames, hdot, hup, Bool.false_eq_true, if_false, if_true]

theorem followNames_long (hdot : (name == ".") = false) (hup : (name == "..") = false)
    (hlimit : nameLimit < name.utf8ByteSize) :
    f.followNames follow through cur (name :: rest) = .error .nameTooLong := by
  simp only [followNames, hdot, hup, hlimit, Bool.false_eq_true, if_false, if_true]

end Names

/-- Where names lead to the place of a link, following them goes on with the link. -/
theorem followNames_link {f : Files} {around : Location} {name target : String}
    (hentry : f.entry? (around ++ [name]) = some (.link target))
    {through through' : Location → String → List String → Except FileFault Place} {cur : Location}
    {names : List String}
    (h : placeOf? (f.followNames false through cur names) = some (around ++ [name])) :
    f.followNames true through' cur names = through' around target [] ∨
      ∃ cur' target' rest, placeOf? (through cur' target' rest) = some (around ++ [name]) ∧
        f.followNames true through' cur names = through' cur' target' rest := by
  induction cur, names using names_induction with
  | nil cur => simp [followNames, placeOf?] at h
  | dot cur x rest hdot ih =>
    rw [followNames_dot hdot] at h ⊢
    exact ih h
  | up cur x rest hdot hup ih =>
    rw [followNames_up hdot hup] at h ⊢
    exact ih h
  | long cur x rest hdot hup hlimit =>
    rw [followNames_long hdot hup hlimit] at h
    simp [placeOf?] at h
  | last cur x hx =>
    rw [followNames_last hx] at h
    split at h
    · cases h
    · obtain ⟨rfl, rfl⟩ : cur = around ∧ x = name := by simpa using h
      simp only [followNames_followed hx, hentry]
      exact .inl trivial
  | further cur x rest hx hrest ih =>
    rw [followNames_further hx hrest] at h
    rw [followNames_followed hx]
    cases hx' : f.entry? (cur ++ [x]) with
    | none => simp [hx', placeOf?] at h
    | some entry =>
      simp only [hx'] at h
      cases entry with
      | directory => exact ih h
      | file id => simp [placeOf?] at h
      | link target' => exact .inr ⟨cur, target', rest, h, rfl⟩

theorem followLinks_link {f : Files} {around : Location} {name target : String}
    (hentry : f.entry? (around ++ [name]) = some (.link target)) {links : Nat} {cur : Location}
    {names : List String}
    (h : placeOf? (f.followLinks false links cur names) = some (around ++ [name])) :
    IsRefused (f.followLinks true links cur names) ∨
      ∃ links', f.followLinks true links cur names =
        f.followLinks true links' (startOf around target) (stepsOf target) := by
  induction links generalizing cur names with
  | zero =>
    rcases followNames_link hentry h with hwalk | ⟨cur', target', rest, -, hwalk⟩
    · exact .inl ⟨_, hwalk⟩
    · exact .inl ⟨_, hwalk⟩
  | succ links ih =>
    rcases followNames_link hentry h with hwalk | ⟨cur', target', rest, hplace, hwalk⟩
    · by_cases hempty : target.isEmpty
      · exact .inl ⟨.notFound, hwalk.trans (if_pos hempty)⟩
      · refine .inr ⟨links, hwalk.trans ?_⟩
        rw [if_neg hempty, List.append_nil]
    · by_cases hempty : target'.isEmpty
      · exact .inl ⟨.notFound, hwalk.trans (if_pos hempty)⟩
      · simp only [hempty] at hplace
        have hwalk' : f.followLinks true (links + 1) cur names =
            f.followLinks true links (startOf cur' target') (stepsOf target' ++ rest) :=
          hwalk.trans (if_neg hempty)
        rw [hwalk']
        exact ih hplace

/-! Stores that differ only at some places where no walk passes. -/

/-- Whether a store has the directories and links of another one outside some places, and no
directories at these. -/
structure Framed (f : Files) (places : List Location) (g : Files) : Prop where
  here : g.here = f.here
  way? : ∀ loc, loc ∉ places → g.way? loc = f.way? loc
  entry? : ∀ loc ∈ places, g.entry? loc ≠ some .directory

/-- Whether no walk passes a place: no directory stands there, and a link that does leads nowhere
further. -/
structure Blind (f : Files) (loc : Location) : Prop where
  entry? : f.entry? loc ≠ some .directory
  beyond : ∀ around name target, loc = around ++ [name] → f.entry? loc = some (.link target) →
    ∀ follow links rest, rest ≠ [] →
      IsRefused (f.followLinks follow links (startOf around target) (stepsOf target ++ rest))

theorem followNames_framed {f g : Files} {places : List Location} (hg : Framed f places g)
    (hblind : ∀ loc ∈ places, f.entry? loc ≠ some .directory)
    {through through' : Location → String → List String → Except FileFault Place}
    (hthrough : ∀ cur target rest loc, placeOf? (through cur target rest) = some loc →
      placeOf? (through' cur target rest) = some loc)
    (hbeyond : ∀ cur name target rest, cur ++ [name] ∈ places →
      f.entry? (cur ++ [name]) = some (.link target) → rest ≠ [] →
        placeOf? (through cur target rest) = none)
    {cur loc : Location} {names : List String}
    (h : placeOf? (f.followNames false through cur names) = some loc) :
    placeOf? (g.followNames false through' cur names) = some loc := by
  induction cur, names using names_induction with
  | nil cur => simp [followNames, placeOf?] at h
  | dot cur name rest hdot ih =>
    rw [followNames_dot hdot] at h ⊢
    exact ih h
  | up cur name rest hdot hup ih =>
    rw [followNames_up hdot hup] at h ⊢
    exact ih h
  | long cur name rest hdot hup hlimit =>
    rw [followNames_long hdot hup hlimit] at h
    simp [placeOf?] at h
  | last cur name hname =>
    rw [followNames_last hname] at h ⊢
    split at h
    · cases h
    · next hentry =>
      rw [if_neg ?_, h]
      by_cases hmem : cur ++ [name] ∈ places
      · exact hg.entry? _ hmem
      · intro hdir
        exact hentry (entry?_of_way? ((hg.way? _ hmem).symm.trans (way?_of_directory hdir)))
  | further cur name rest hname hrest ih =>
    rw [followNames_further hname hrest] at h ⊢
    by_cases hmem : cur ++ [name] ∈ places
    · -- nothing goes on from here
      exfalso
      cases hf : f.entry? (cur ++ [name]) with
      | none => simp [hf, placeOf?] at h
      | some entry =>
        cases entry with
        | directory => exact hblind _ hmem hf
        | file id => simp [hf, placeOf?] at h
        | link target =>
          simp only [hf] at h
          simp [hbeyond cur name target rest hmem hf hrest] at h
    · have hway := hg.way? _ hmem
      cases hf : f.entry? (cur ++ [name]) with
      | none => simp [hf, placeOf?] at h
      | some entry =>
        cases entry with
        | directory =>
          have hdir := entry?_of_way? (hway.trans (way?_of_directory hf))
          simp only [hf] at h
          simp only [hdir]
          exact ih h
        | file id => simp [hf, placeOf?] at h
        | link target =>
          have hlink := entry?_of_way? (hway.trans (way?_of_link hf))
          simp only [hf] at h
          simp only [hlink]
          exact hthrough cur target rest loc h

theorem placeOf?_of_isRefused {walk : Except FileFault Place} (h : IsRefused walk) :
    placeOf? walk = none := by
  obtain ⟨fault, rfl⟩ := h
  rfl

theorem followLinks_framed {f g : Files} {places : List Location} (hg : Framed f places g)
    (hblind : ∀ loc ∈ places, f.Blind loc) {links : Nat} {cur loc : Location} {names : List String}
    (h : placeOf? (f.followLinks false links cur names) = some loc) :
    placeOf? (g.followLinks false links cur names) = some loc := by
  induction links generalizing cur names loc with
  | zero =>
    exact followNames_framed hg (fun l hl => Blind.entry? (hblind l hl))
      (fun _ _ _ _ h => by cases h) (fun _ _ _ _ _ _ _ => rfl) h
  | succ links ih =>
    refine followNames_framed hg (fun l hl => Blind.entry? (hblind l hl))
      (fun cur target rest l h => ?_) (fun cur name target rest hmem hentry hrest => ?_) h
    · split at h
      · cases h
      · next hempty =>
        simp only [hempty]
        exact ih h
    · split
      · rfl
      · exact placeOf?_of_isRefused ((hblind _ hmem).beyond cur name target rfl hentry false links
          rest hrest)

/-- Paths keep naming their places where what stands at blind places changes. -/
theorem slot?_framed {f g : Files} {places : List Location} (hg : Framed f places g)
    (hblind : ∀ loc ∈ places, f.Blind loc) {path : String} {loc : Location}
    (h : f.slot? path = some loc) : g.slot? path = some loc := by
  unfold slot? resolve at h ⊢
  split at h
  · simp [placeOf?] at h
  · next hnul =>
    rw [if_neg hnul]
    split at h
    · simp [placeOf?] at h
    · next hlong =>
      rw [if_neg hlong]
      split at h
      · simp [placeOf?] at h
      · next hempty =>
        rw [if_neg hempty, hg.here]
        exact followLinks_framed hg hblind h

/-- A path that leads to a file, or to where one could be, names a place. -/
theorem slot?_of_isLeaf {f : Files} {path : String} (h : IsLeaf (f.find path)) :
    ∃ loc, f.slot? path = some loc := by
  unfold slot?
  cases hres : f.resolve path false with
  | error fault =>
    rw [find_eq_resolve (by simp [hres]), hres] at h
    exact absurd h (not_isLeaf_error fault)
  | ok place =>
    cases place with
    | directory loc =>
      rw [find_eq_resolve (by simp [hres]), hres] at h
      exact absurd h (not_isLeaf_directory loc)
    | file loc id => exact ⟨loc, rfl⟩
    | link loc target => exact ⟨loc, rfl⟩
    | missing around name => exact ⟨around ++ [name], rfl⟩

/-- No walk passes the place that such a path names. -/
theorem blind_of_isLeaf {f : Files} {path : String} {loc : Location}
    (hslot : f.slot? path = some loc) (h : IsLeaf (f.find path)) : f.Blind loc := by
  refine ⟨entry?_slot?_ne_directory hslot, ?_⟩
  rintro around name target rfl hentry follow links rest hrest
  unfold slot? resolve at hslot
  unfold find resolve at h
  split at h
  · exact absurd h (not_isLeaf_error _)
  · next hnul =>
    simp only [hnul] at hslot
    split at h
    · exact absurd h (not_isLeaf_error _)
    · next hlong =>
      simp only [hlong] at hslot
      split at h
      · exact absurd h (not_isLeaf_error _)
      · next hempty =>
        simp only [hempty] at hslot
        rcases followLinks_link hentry hslot with ⟨fault, hrefused⟩ | ⟨links', hwalk⟩
        · exact absurd (hrefused ▸ h) (not_isLeaf_error fault)
        · exact followLinks_beyond hrest (hwalk ▸ h)

/-- The place that a path names; the root if it names none. -/
def placeAt (f : Files) (path : String) : Location :=
  (f.slot? path).getD []

/-- Paths that lead to files, or to where files could be, name the same places as long as only what
stands at these changes. -/
theorem slot?_eq_placeAt {f g : Files} {paths : List String}
    (hleaf : ∀ p ∈ paths, IsLeaf (f.find p)) (hg : Framed f (paths.map f.placeAt) g) {p : String}
    (hp : p ∈ paths) : g.slot? p = some (f.placeAt p) := by
  have hslot {q : String} (hq : q ∈ paths) : f.slot? q = some (f.placeAt q) := by
    obtain ⟨loc, hloc⟩ := slot?_of_isLeaf (hleaf q hq)
    simp [placeAt, hloc]
  refine slot?_framed hg (fun loc hloc => ?_) (hslot hp)
  obtain ⟨q, hq, rfl⟩ := List.mem_map.1 hloc
  exact blind_of_isLeaf (hslot hq) (hleaf q hq)

end SourceReducer.Files
