import SourceReducer.Proofs.Files.Below

/-! Stores that got more entries. Where files and directories are only added, whatever was found
before is found again, and files hold what they held. A directory that is filled so, name by name,
is known from the names of the files and of the directories that were made in it. -/
namespace SourceReducer.Files

/-- Whether a store has all entries of another one, and files that hold the same. -/
structure Extended (f g : Files) : Prop where
  here : g.here = f.here
  kept : ∀ loc entry, f.entry? loc = some entry → g.entry? loc = some entry
  content : ∀ (id : Nat) content, f.contents[id]? = some content → g.contents[id]? = some content

/-- Whether a path leads to a file that holds a text. -/
def HoldsAt (f : Files) (path : String) (loc : Location) (text : String) : Prop :=
  ∃ id, f.find path = .ok (.file loc id) ∧ f.contents[id]? = some (.text text)

section Extended

variable {f g k : Files}

theorem Extended.refl (f : Files) : Extended f f :=
  ⟨rfl, fun _ _ h => h, fun _ _ h => h⟩

theorem Extended.trans (h : Extended f g) (h' : Extended g k) : Extended f k where
  here := h'.here.trans h.here
  kept loc entry hentry := h'.kept loc entry (h.kept loc entry hentry)
  content id content hid := h'.content id content (h.content id content hid)

theorem extended_put {loc : Location} {entry : Entry} (hne : loc ≠ [])
    (hnone : f.entry? loc = none) :
    Extended f (f.put loc entry) where
  here := rfl
  kept l e h := by
    rw [entry?_put hne, if_neg, h]
    rintro rfl
    simp [hnone] at h
  content _ _ h := h

theorem extended_create {loc : Location} {content : Content} (hne : loc ≠ [])
    (hnone : f.entry? loc = none) : Extended f (f.create loc content) where
  here := rfl
  kept := (extended_put hne hnone).kept
  content id c h := by
    have hid : id < f.contents.size := (Array.getElem?_eq_some_iff.1 h).1
    simpa [create, Array.getElem?_push, Nat.ne_of_lt hid] using h

theorem Extended.followNames (h : Extended f g)
    {through through' : Location → String → List String → Except FileFault Place} {place : Place}
    (hplace : ∀ around name, place ≠ .missing around name)
    (hthrough : ∀ cur target rest, through cur target rest = .ok place →
      through' cur target rest = .ok place)
    {cur : Location} {names : List String}
    (hwalk : f.followNames true through cur names = .ok place) :
    g.followNames true through' cur names = .ok place := by
  induction cur, names using names_induction_look with
  | nil cur => exact hwalk
  | dot cur x rest hdot ih =>
    rw [followNames_dot hdot] at hwalk ⊢
    exact ih hwalk
  | up cur x rest hdot hup ih =>
    rw [followNames_up hdot hup] at hwalk ⊢
    exact ih hwalk
  | long cur x rest hdot hup hlimit =>
    rw [followNames_long hdot hup hlimit] at hwalk
    cases hwalk
  | look cur x rest hx ih =>
    rw [followNames_followed hx] at hwalk ⊢
    cases hentry : f.entry? (cur ++ [x]) with
    | none =>
      simp only [hentry] at hwalk
      split at hwalk
      · cases hwalk
        exact absurd rfl (hplace cur x)
      · cases hwalk
    | some entry =>
      rw [h.kept _ _ hentry]
      simp only [hentry] at hwalk ⊢
      cases entry with
      | directory => exact ih hwalk
      | file id => exact hwalk
      | link target => exact hthrough cur target rest hwalk

theorem Extended.followLinks (h : Extended f g) {links : Nat} {cur : Location} {names : List String}
    {place : Place} (hplace : ∀ around name, place ≠ .missing around name)
    (hwalk : f.followLinks true links cur names = .ok place) :
    g.followLinks true links cur names = .ok place := by
  induction links generalizing cur names with
  | zero => exact h.followNames hplace (fun _ _ _ h => by cases h) hwalk
  | succ links ih =>
    refine h.followNames hplace (fun cur target rest hthrough => ?_) hwalk
    split at hthrough
    · cases hthrough
    · next hempty =>
      rw [if_neg hempty]
      exact ih hthrough

/-- What a path led to is what it leads to, unless it was nothing. -/
theorem Extended.find (h : Extended f g) {path : String} {place : Place}
    (hplace : ∀ around name, place ≠ .missing around name) (hfind : f.find path = .ok place) :
    g.find path = .ok place := by
  unfold Files.find resolve at hfind ⊢
  split at hfind
  · cases hfind
  · next hnul =>
    split at hfind
    · cases hfind
    · next hlong =>
      split at hfind
      · cases hfind
      · next hempty =>
        rw [if_neg hnul, if_neg hlong, if_neg hempty, h.here]
        exact h.followLinks hplace hfind

theorem Extended.holdsAt (h : Extended f g) {path : String} {loc : Location} {text : String}
    (hholds : f.HoldsAt path loc text) : g.HoldsAt path loc text := by
  obtain ⟨id, hfind, hcontent⟩ := hholds
  exact ⟨id, h.find (by simp) hfind, h.content id _ hcontent⟩

end Extended

theorem HoldsAt.readText {f : Files} {path text : String} {loc : Location}
    (h : f.HoldsAt path loc text) : f.readText path = .ok text := by
  obtain ⟨id, hfind, hcontent⟩ := h
  simp [Files.readText, Files.read, hfind, hcontent, bind, Except.bind, pure, Except.pure]

theorem entry?_of_isEmptyDirectory {f : Files} {loc : Location} (h : f.isEmptyDirectory loc = true)
    (name : String) (below : List String) : f.entry? (loc ++ name :: below) = none := by
  unfold isEmptyDirectory at h
  unfold Files.entry?
  rw [if_neg (by simp)]
  cases hlookup : f.entries.lookup (loc ++ name :: below) with
  | none => rfl
  | some entry =>
    obtain ⟨before, after, happ, -⟩ := List.lookup_eq_some_iff.1 hlookup
    have hmem : (loc ++ name :: below, entry) ∈ f.entries := by simp [happ]
    simp only [Bool.not_eq_true', List.any_eq_false] at h
    have := h _ hmem
    simp at this

/-! Operations at a name of a directory. -/

section Operations

variable {f : Files} {dir name : String} {loc : Location}

theorem dropSlashes_eq_self {path : String} (h : Path.endsInSlash path = false) (hne : path ≠ "") :
    dropSlashes path = path := by
  have hlist : path.toList ≠ [] := fun heq => hne (String.toList_injective heq)
  obtain ⟨front, c, hsplit⟩ := (List.eq_nil_or_concat path.toList).resolve_left hlist
  rw [List.concat_eq_append] at hsplit
  have hc : (c == '/') = false := by simpa [Path.endsInSlash, hsplit] using h
  have hkept : (path.toList.reverse.dropWhile (· == '/')).reverse = path.toList := by
    simp [hsplit, hc]
  unfold dropSlashes
  simp only [hkept]
  rw [if_neg (by simpa using hlist), String.ofList_toList]

theorem size_le_of_write {path : String} {content : Content} {g : Files}
    (h : f.write path content = .ok g) : path.utf8ByteSize ≤ pathLimit := by
  unfold write at h
  split at h
  · cases hfind : f.find (dropSlashes path) <;>
      simp [hfind, bind, Except.bind, throw, throwThe, MonadExceptOf.throw] at h
  · cases hfind : f.find path with
    | error fault => simp [hfind, bind, Except.bind] at h
    | ok place => exact (walk_of_find hfind).2.2.1

variable (hdir : f.find dir = .ok (.directory loc)) (hname : IsName name)
  (hsize : (Path.join dir name).utf8ByteSize ≤ pathLimit)
include hdir hname hsize

theorem write_join_missing (hnone : f.entry? (loc ++ [name]) = none) (content : Content) :
    f.write (Path.join dir name) content = .ok (f.create (loc ++ [name]) content) := by
  have hfind : f.find (Path.join dir name) = .ok (.missing loc name) := by
    rw [find, resolve_join hdir hname hsize (by simp [hnone]), standing, hnone]
  simp [write, Path.endsInSlash_join_name (walk_of_find hdir).1 hname, hfind, bind, Except.bind,
    pure, Except.pure]

theorem write_join_directory (hentry : f.entry? (loc ++ [name]) = some .directory)
    (content : Content) :
    f.write (Path.join dir name) content = .error .isDirectory := by
  have hfind : f.find (Path.join dir name) = .ok (.directory (loc ++ [name])) := by
    rw [find, resolve_join hdir hname hsize (by simp [hentry]), standing, hentry]
  simp [write, Path.endsInSlash_join_name (walk_of_find hdir).1 hname, hfind, bind, Except.bind,
    throw, throwThe, MonadExceptOf.throw]

theorem makeDirectories_join_missing (hnone : f.entry? (loc ++ [name]) = none) :
    f.makeDirectories (Path.join dir name) = .ok (f.put (loc ++ [name]) .directory) := by
  obtain ⟨hne, -⟩ := walk_of_find hdir
  have hresolve : f.resolve (Path.join dir name) false = .ok (.missing loc name) := by
    rw [resolve_join hdir hname hsize (by simp [hnone]), standing, hnone]
  have hpath := Path.join_ne_empty hne hname
  have hslashes := dropSlashes_eq_self (Path.endsInSlash_join_name hne hname) hpath
  simp [makeDirectories, makeDirectoriesWithin, makeDirectory, hpath, hslashes, hresolve, bind,
    Except.bind, pure, Except.pure]

theorem makeDirectories_join_file {id : Nat} (hentry : f.entry? (loc ++ [name]) = some (.file id)) :
    f.makeDirectories (Path.join dir name) = .error .alreadyExists := by
  obtain ⟨hne, -⟩ := walk_of_find hdir
  have hresolve (follow : Bool) :
      f.resolve (Path.join dir name) follow = .ok (.file (loc ++ [name]) id) := by
    rw [resolve_join hdir hname hsize (by simp [hentry]), standing, hentry]
  have hpath := Path.join_ne_empty hne hname
  have hslashes := dropSlashes_eq_self (Path.endsInSlash_join_name hne hname) hpath
  simp [makeDirectories, makeDirectoriesWithin, makeDirectory, isDirectory, find, hpath, hslashes,
    hresolve, bind, Except.bind, throw, throwThe, MonadExceptOf.throw]

end Operations

/-! Directories that are filled. -/

/-- Whether a directory holds files under the names `used`, directories under the names `made`, and
nothing under any other name. -/
structure Filled (f : Files) (dir : String) (loc : Location) (used made : List String) : Prop where
  found : f.find dir = .ok (.directory loc)
  file : ∀ name ∈ used, ∃ id, f.entry? (loc ++ [name]) = some (.file id)
  directory : ∀ name ∈ made, f.entry? (loc ++ [name]) = some .directory
  free : ∀ name below, name ∉ used → name ∉ made → f.entry? (loc ++ name :: below) = none

theorem filled_of_isEmptyDirectory {f : Files} {dir : String} {loc : Location}
    (hdir : f.find dir = .ok (.directory loc)) (hempty : f.isEmptyDirectory loc = true) :
    f.Filled dir loc [] [] :=
  ⟨hdir, by simp, by simp, fun name below _ _ => entry?_of_isEmptyDirectory hempty name below⟩

namespace Filled

variable {f g : Files} {dir name unit : String} {loc : Location} {used made : List String}

theorem not_mem_made (h : f.Filled dir loc used made) (hname : name ∈ used) : name ∉ made := by
  intro hmade
  obtain ⟨id, hfile⟩ := h.file name hname
  rw [h.directory name hmade] at hfile
  cases hfile

/-- Entries are added under new names, or below directories that were made. -/
theorem extend (h : f.Filled dir loc used made) (hext : Extended f g) {used' made' : List String}
    (hfile : ∀ name ∈ used', name ∈ used ∨ ∃ id, g.entry? (loc ++ [name]) = some (.file id))
    (hdirectory : ∀ name ∈ made', name ∈ made ∨ g.entry? (loc ++ [name]) = some .directory)
    (hfree : ∀ name below, name ∉ used' → name ∉ made' → name ∉ used ∧ name ∉ made ∧
      g.entry? (loc ++ name :: below) = f.entry? (loc ++ name :: below)) :
    g.Filled dir loc used' made' where
  found := hext.find (by simp) h.found
  file name hname := by
    rcases hfile name hname with hold | hnew
    · obtain ⟨id, hid⟩ := h.file name hold
      exact ⟨id, hext.kept _ _ hid⟩
    · exact hnew
  directory name hname := by
    rcases hdirectory name hname with hold | hnew
    · exact hext.kept _ _ (h.directory name hold)
    · exact hnew
  free name below hused hmade := by
    obtain ⟨hused, hmade, hsame⟩ := hfree name below hused hmade
    rw [hsame]
    exact h.free name below hused hmade

theorem cons_used (h : f.Filled dir loc used made) (hname : name ∈ used) :
    f.Filled dir loc (name :: used) made := by
  refine h.extend (Extended.refl f) (fun other hother => .inl ?_) (fun _ hmem => .inl hmem) ?_
  · rcases List.mem_cons.1 hother with rfl | hother
    · exact hname
    · exact hother
  · intro other below hused hmade
    exact ⟨fun hmem => hused (List.mem_cons_of_mem _ hmem), hmade, rfl⟩

theorem write_name (h : f.Filled dir loc used made) (hname : IsName name) (hused : name ∉ used)
    (hmade : name ∉ made) (hsize : (Path.join dir name).utf8ByteSize ≤ pathLimit) (text : String) :
    f.write (Path.join dir name) (.text text) = .ok (f.create (loc ++ [name]) (.text text)) ∧
      (f.create (loc ++ [name]) (.text text)).Filled dir loc (name :: used) made ∧
      Extended f (f.create (loc ++ [name]) (.text text)) ∧
      (f.create (loc ++ [name]) (.text text)).HoldsAt (Path.join dir name)
        (loc ++ [name]) text := by
  have hnone : f.entry? (loc ++ [name]) = none := h.free name [] hused hmade
  have hne : loc ++ [name] ≠ [] := by simp
  have hext : Extended f (f.create (loc ++ [name]) (.text text)) := extended_create hne hnone
  have hentry : Files.entry? (f.create (loc ++ [name]) (.text text)) (loc ++ [name]) =
      some (.file f.contents.size) := by
    rw [entry?_create hne, if_pos rfl]
  have hfilled : (f.create (loc ++ [name]) (.text text)).Filled dir loc (name :: used) made := by
    refine h.extend hext ?_ (fun _ hmem => .inl hmem) ?_
    · intro other hother
      rcases List.mem_cons.1 hother with rfl | hother
      · exact .inr ⟨_, hentry⟩
      · exact .inl hother
    · intro other below hother hnot
      obtain ⟨hdiff, hother⟩ := not_or.1 (List.mem_cons.not.1 hother)
      refine ⟨hother, hnot, ?_⟩
      rw [entry?_create hne, if_neg (by simp [hdiff])]
  refine ⟨write_join_missing h.found hname hsize hnone _, hfilled, hext, f.contents.size, ?_, ?_⟩
  · rw [find, resolve_join hfilled.found hname hsize (by simp [hentry]), standing, hentry]
  · simp [create]

/-- A directory that is made is empty. -/
theorem make_directory (h : f.Filled dir loc used made) (hunit : IsName unit) (hused : unit ∉ used)
    (hmade : unit ∉ made) (hsize : (Path.join dir unit).utf8ByteSize ≤ pathLimit) :
    f.makeDirectories (Path.join dir unit) = .ok (f.put (loc ++ [unit]) .directory) ∧
      (f.put (loc ++ [unit]) .directory).Filled dir loc used (unit :: made) ∧
      Extended f (f.put (loc ++ [unit]) .directory) ∧
      (f.put (loc ++ [unit]) .directory).Filled (Path.join dir unit) (loc ++ [unit]) [] [] := by
  have hnone : f.entry? (loc ++ [unit]) = none := h.free unit [] hused hmade
  have hne : loc ++ [unit] ≠ [] := by simp
  have hext : Extended f (f.put (loc ++ [unit]) .directory) := extended_put hne hnone
  have hentry :
      Files.entry? (f.put (loc ++ [unit]) .directory) (loc ++ [unit]) = some .directory := by
    rw [entry?_put hne, if_pos rfl]
  have hfilled : (f.put (loc ++ [unit]) .directory).Filled dir loc used (unit :: made) := by
    refine h.extend hext (fun _ hmem => .inl hmem) ?_ ?_
    · intro other hother
      rcases List.mem_cons.1 hother with rfl | hother
      · exact .inr hentry
      · exact .inl hother
    · intro other below hnot hother
      obtain ⟨hdiff, hother⟩ := not_or.1 (List.mem_cons.not.1 hother)
      refine ⟨hnot, hother, ?_⟩
      rw [entry?_put hne, if_neg (by simp [hdiff])]
  refine ⟨makeDirectories_join_missing h.found hunit hsize hnone, hfilled, hext, ?_, by simp,
    by simp, ?_⟩
  · rw [find, resolve_join hfilled.found hunit hsize (by simp [hentry]), standing, hentry]
  · intro name below _ _
    rw [entry?_put hne, if_neg (by simp), List.append_assoc]
    exact h.free unit (name :: below) hused hmade

/-- A text is written into a directory that is made for it. -/
theorem write_below (h : f.Filled dir loc used made) (hunit : IsName unit) (hname : IsName name)
    (hused : unit ∉ used) (hmade : unit ∉ made)
    (hsize : (Path.join (Path.join dir unit) name).utf8ByteSize ≤ pathLimit) (text : String) :
    ∃ mid g, f.makeDirectories (Path.join dir unit) = .ok mid ∧
      mid.write (Path.join (Path.join dir unit) name) (.text text) = .ok g ∧
      g.Filled dir loc used (unit :: made) ∧ Extended f g ∧
      g.HoldsAt (Path.join (Path.join dir unit) name) (loc ++ [unit, name]) text := by
  have hdir := Path.join_ne_empty (walk_of_find h.found).1 hunit
  have hsize' := Nat.le_trans (Path.utf8ByteSize_le_join hdir hname) hsize
  obtain ⟨hmake, hfilled, hext, hinner⟩ := h.make_directory hunit hused hmade hsize'
  obtain ⟨hwrite, -, hext', hholds⟩ :=
    hinner.write_name hname List.not_mem_nil List.not_mem_nil hsize text
  refine ⟨_, _, hmake, hwrite, ?_, hext.trans hext', by simpa using hholds⟩
  refine hfilled.extend hext' (fun _ hmem => .inl hmem) (fun _ hmem => .inl hmem) ?_
  intro other below hnot hother
  have hdiff := (not_or.1 (List.mem_cons.not.1 hother)).1
  refine ⟨hnot, hother, ?_⟩
  rw [entry?_create (by simp), if_neg (by simp [hdiff])]

end Filled

end SourceReducer.Files
