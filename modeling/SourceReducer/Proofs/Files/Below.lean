import SourceReducer.Proofs.Files.Names

/-! Paths below a directory. A name that is joined to the path of a directory leads to what stands
in the directory under the name, and a store that has got more entries still leads old paths to what
they led to. -/
namespace SourceReducer

/-- Whether a text can be the name of an entry of a directory. -/
structure IsName (name : String) : Prop where
  nonempty : name ≠ ""
  slash : '/' ∉ name.toList
  nul : '\x00' ∉ name.toList
  lookedUp : Files.IsLookedUp name

theorem IsName.isIdle {name : String} (h : IsName name) : Path.isIdle name = false := by
  simp [Path.isIdle, h.nonempty, h.lookedUp.1]

theorem IsName.relative {name : String} (h : IsName name) : Path.isAbsolute name = false := by
  have hslash := h.slash
  unfold Path.isAbsolute
  cases hlist : name.toList with
  | nil => rfl
  | cons c cs =>
    have hc : c ≠ '/' := by
      rintro rfl
      exact hslash (by simp [hlist])
    simpa using hc

namespace Path

theorem filter_dropIdleEnd (xs : List String) :
    (dropIdleEnd xs).filter (fun part => !isIdle part) = xs.filter fun part => !isIdle part := by
  obtain ⟨idle, hsplit, hidle, -⟩ := dropIdleEnd_spec xs
  have hnone : idle.filter (fun part => !isIdle part) = [] := by
    simpa [List.filter_eq_nil_iff] using hidle
  conv_rhs => rw [hsplit, List.filter_append, hnone, List.append_nil]

theorem pieces_empty : pieces "" = [""] := by
  decide +kernel

theorem eq_empty_of_pieces {path : String} (h : pieces path = [""]) : path = "" := by
  rw [← join_pieces path, h]
  decide +kernel

section Parts

variable {path first : String} {rest : List String}

theorem isAbsolute_of_first (h : pieces path = first :: rest) (hne : path ≠ "") :
    isAbsolute path = (first == "") := by
  have hslash : '/' ∉ first.toList := slash_not_mem_pieces (by rw [h]; exact List.mem_cons_self)
  conv_lhs => rw [← join_pieces path, h, isAbsolute_join hslash]
  cases rest with
  | nil =>
    have hfirst : first ≠ "" := by
      rintro rfl
      exact hne (eq_empty_of_pieces h)
    simp [hfirst]
  | cons second rest => simp

/-- The parts that count are the pieces that are not idle, and the first one whatever it is. -/
theorem components_of_pieces (h : pieces path = first :: rest) (hne : path ≠ "") :
    components path =
      (if first = "" then [] else [first]) ++ rest.filter fun part => !isIdle part := by
  have habsolute := isAbsolute_of_first h hne
  by_cases hfirst : first = ""
  · simp [components, bodyParts, parts, h, habsolute, hfirst, filter_dropIdleEnd]
  · simp [components, bodyParts, parts, h, habsolute, hfirst, filter_dropIdleEnd]

end Parts

section Join

variable {dir name : String}

theorem join_name (hdir : dir ≠ "") (hname : IsName name) :
    join dir name = if endsInSlash dir then dir ++ name else dir ++ "/" ++ name := by
  simp [join, hname.relative, hdir]

/-- A joined name is the last piece. The pieces before it are those of the directory, without an
empty one at the end. -/
theorem pieces_join_name (hdir : dir ≠ "") (hname : IsName name) :
    ∃ first rest, pieces (join dir name) = first :: rest ++ [name] ∧
      (pieces dir = first :: rest ∨ pieces dir = first :: rest ++ [""]) := by
  have hsingle : "/".intercalate [name] = name := by
    apply String.toList_injective
    simp
  obtain ⟨before, last, hpieces⟩ :=
    (List.eq_nil_or_concat (pieces dir)).resolve_left (pieces_ne_nil dir)
  rw [List.concat_eq_append] at hpieces
  have hslash : ∀ x ∈ before ++ [last], '/' ∉ x.toList := fun x hx =>
    slash_not_mem_pieces (hpieces ▸ hx)
  have hends : endsInSlash dir = (last == "" && !before.isEmpty) := by
    rw [← join_pieces dir, hpieces, endsInSlash_join (hslash last (by simp))]
  -- the text of the joined path, as pieces between slashes
  have hjoined {parts : List String} (hparts : parts ≠ []) (hnone : ∀ x ∈ parts, '/' ∉ x.toList)
      (htext : (join dir name).toList = ("/".intercalate parts).toList ++ '/' :: name.toList) :
      pieces (join dir name) = parts ++ [name] := by
    have heq : join dir name = "/".intercalate (parts ++ [name]) := by
      apply String.toList_injective
      rw [htext, toList_join_append hparts (by simp), hsingle]
    rw [heq, pieces_join (by simp)]
    intro x hx
    rcases List.mem_append.1 hx with hx | hx
    · exact hnone x hx
    · obtain rfl : x = name := by simpa using hx
      exact hname.slash
  have hdirtext : dir.toList = ("/".intercalate (before ++ [last])).toList := by
    rw [← hpieces, join_pieces]
  by_cases hlast : last = ""
  · subst hlast
    cases before with
    | nil => exact absurd (eq_empty_of_pieces hpieces) hdir
    | cons first rest =>
      refine ⟨first, rest, hjoined (by simp) (fun x hx => hslash x (by simp at hx ⊢; tauto)) ?_,
        .inr hpieces⟩
      have hempty : "/".intercalate [""] = "" := by decide +kernel
      rw [toList_join_append (by simp) (by simp), hempty] at hdirtext
      simp [join_name hdir hname, hends, hdirtext]
  · obtain ⟨first, rest, hsplit⟩ : ∃ first rest, before ++ [last] = first :: rest := by
      cases before with
      | nil => exact ⟨last, [], rfl⟩
      | cons first rest => exact ⟨first, rest ++ [last], rfl⟩
    refine ⟨first, rest, hjoined (by simp) (fun x hx => hslash x (hsplit ▸ hx)) ?_,
      .inl (hpieces.trans hsplit)⟩
    rw [← hsplit, ← hdirtext]
    simp [join_name hdir hname, hends, hlast]

theorem join_ne_empty (hdir : dir ≠ "") (hname : IsName name) : join dir name ≠ "" := by
  obtain ⟨first, rest, hpieces, -⟩ := pieces_join_name hdir hname
  intro hempty
  rw [hempty, pieces_empty] at hpieces
  have := congrArg List.length hpieces
  simp at this

theorem components_join (hdir : dir ≠ "") (hname : IsName name) :
    components (join dir name) = components dir ++ [name] := by
  obtain ⟨first, rest, hpieces, hbefore⟩ := pieces_join_name hdir hname
  rw [components_of_pieces hpieces (join_ne_empty hdir hname)]
  rcases hbefore with hbefore | hbefore
  · rw [components_of_pieces hbefore hdir]
    simp [hname.isIdle]
  · rw [components_of_pieces hbefore hdir]
    simp [hname.isIdle, show isIdle "" = true from rfl]

theorem isAbsolute_join_name (hdir : dir ≠ "") (hname : IsName name) :
    isAbsolute (join dir name) = isAbsolute dir := by
  obtain ⟨first, rest, hpieces, hbefore⟩ := pieces_join_name hdir hname
  rw [isAbsolute_of_first hpieces (join_ne_empty hdir hname)]
  rcases hbefore with hbefore | hbefore
  · rw [isAbsolute_of_first hbefore hdir]
  · rw [isAbsolute_of_first hbefore hdir]

theorem endsInSlash_join_name (hdir : dir ≠ "") (hname : IsName name) :
    endsInSlash (join dir name) = false := by
  obtain ⟨first, rest, hpieces, -⟩ := pieces_join_name hdir hname
  rw [← join_pieces (join dir name), hpieces, endsInSlash_join hname.slash]
  simp [hname.nonempty]

theorem fileName?_join (hdir : dir ≠ "") (hname : IsName name) :
    fileName? (join dir name) = some name := by
  obtain ⟨first, rest, hpieces, -⟩ := pieces_join_name hdir hname
  exact fileName?_of_pieces hpieces hname.isIdle (by simpa using hname.lookedUp.2.1)

theorem nul_not_mem_join (hdir : dir ≠ "") (hname : IsName name) (hnul : '\x00' ∉ dir.toList) :
    '\x00' ∉ (join dir name).toList := by
  rw [join_name hdir hname]
  have hnul' := hname.nul
  split <;> simp [hnul, hnul']

theorem utf8ByteSize_le_join (hdir : dir ≠ "") (hname : IsName name) :
    dir.utf8ByteSize ≤ (join dir name).utf8ByteSize := by
  rw [join_name hdir hname]
  split <;> simp only [String.utf8ByteSize_append] <;> omega

end Join

/-- The path of what names lead to below a directory. -/
def below (dir : String) (names : List String) : String :=
  names.foldl join dir

section Below

variable {dir : String} {names : List String}

theorem below_ne_empty (hdir : dir ≠ "") (hnames : ∀ name ∈ names, IsName name) :
    below dir names ≠ "" := by
  induction names generalizing dir with
  | nil => exact hdir
  | cons name names ih =>
    exact ih (join_ne_empty hdir (hnames name List.mem_cons_self))
      fun other hother => hnames other (List.mem_cons_of_mem _ hother)

theorem components_below (hdir : dir ≠ "") (hnames : ∀ name ∈ names, IsName name) :
    components (below dir names) = components dir ++ names := by
  induction names generalizing dir with
  | nil => simp [below]
  | cons name names ih =>
    have hname := hnames name List.mem_cons_self
    have hrest : components (below (join dir name) names) = components (join dir name) ++ names :=
      ih (join_ne_empty hdir hname) fun other hother => hnames other (List.mem_cons_of_mem _ hother)
    rw [components_join hdir hname, List.append_assoc] at hrest
    exact hrest

theorem fileName?_below {name : String} (hdir : dir ≠ "")
    (hnames : ∀ other ∈ names ++ [name], IsName other) :
    fileName? (below dir (names ++ [name])) = some name := by
  have hfront : below dir names ≠ "" :=
    below_ne_empty hdir fun other hother => hnames other (List.mem_append_left _ hother)
  have hlast : below dir (names ++ [name]) = join (below dir names) name := by
    simp [below]
  rw [hlast, fileName?_join hfront (hnames name (by simp))]

end Below

end Path

namespace Files

section Walk

variable {f : Files}

/-- A walk that ends in a directory goes on from there. -/
theorem followNames_append {follow : Bool} {more : List String} (hmore : more ≠ [])
    {through through' : Location → String → List String → Except FileFault Place}
    (ends : Location → Except FileFault Place → Prop)
    (hends : ∀ loc, ends loc (f.followNames follow through' loc more))
    (hthrough : ∀ cur target rest loc, through cur target rest = .ok (.directory loc) →
      ends loc (through' cur target (rest ++ more)))
    {cur loc : Location} {names : List String}
    (h : f.followNames true through cur names = .ok (.directory loc)) :
    ends loc (f.followNames follow through' cur (names ++ more)) := by
  induction cur, names using names_induction_look with
  | nil cur =>
    cases h
    exact hends loc
  | dot cur x rest hdot ih =>
    rw [followNames_dot hdot] at h
    rw [List.cons_append, followNames_dot hdot]
    exact ih h
  | up cur x rest hdot hup ih =>
    rw [followNames_up hdot hup] at h
    rw [List.cons_append, followNames_up hdot hup]
    exact ih h
  | long cur x rest hdot hup hlimit =>
    rw [followNames_long hdot hup hlimit] at h
    cases h
  | look cur x rest hx ih =>
    rw [followNames_followed hx] at h
    rw [List.cons_append, followNames_further hx (by simp [hmore])]
    cases hentry : f.entry? (cur ++ [x]) with
    | none =>
      simp only [hentry] at h
      split at h <;> cases h
    | some entry =>
      simp only [hentry] at h ⊢
      cases entry with
      | directory => exact ih h
      | file id =>
        simp only at h
        split at h <;> cases h
      | link target => exact hthrough cur target rest loc h

theorem followLinks_append (follow : Bool) {more : List String} (hmore : more ≠ []) {links : Nat}
    {cur loc : Location} {names : List String}
    (h : f.followLinks true links cur names = .ok (.directory loc)) :
    ∃ links', f.followLinks follow links cur (names ++ more) =
      f.followLinks follow links' loc more := by
  induction links generalizing cur names loc with
  | zero =>
    exact followNames_append hmore
      (fun loc walk => ∃ links', walk = f.followLinks follow links' loc more)
      (fun loc => ⟨0, rfl⟩) (fun _ _ _ _ h => by cases h) h
  | succ links ih =>
    refine followNames_append hmore
      (fun loc walk => ∃ links', walk = f.followLinks follow links' loc more)
      (fun loc => ⟨links + 1, rfl⟩) (fun cur target rest loc h => ?_) h
    split at h
    · cases h
    · next hempty =>
      rw [if_neg hempty, ← List.append_assoc]
      exact ih h

theorem walk_of_find {path : String} {place : Place} (h : f.find path = .ok place) :
    path ≠ "" ∧ '\x00' ∉ path.toList ∧ path.utf8ByteSize ≤ pathLimit ∧
      f.followLinks true linkLimit (startOf f.here path) (stepsOf path) = .ok place := by
  unfold find resolve at h
  split at h
  · cases h
  · next hnul =>
    split at h
    · cases h
    · next hlong =>
      split at h
      · cases h
      · next hempty =>
        exact ⟨by simpa using hempty, by simpa using hnul, Nat.le_of_not_lt hlong, h⟩

end Walk

/-- The last part of a path that names a place is a name. -/
theorem isName_of_slot? {f : Files} {path : String} {loc : Location} (h : f.slot? path = some loc) :
    ∃ name, Path.fileName? path = some name ∧ IsName name := by
  obtain ⟨hnul, -, hwalk⟩ := walk_of_slot? h
  obtain ⟨names, name, around, hsteps, hlook, -, -⟩ := followLinks_parent hwalk
  obtain ⟨before, hpieces, -, hne⟩ := pieces_of_stepsOf hsteps (by simpa using hlook.1)
  have hslash : '/' ∉ name.toList := Path.slash_not_mem_pieces (by rw [hpieces]; simp)
  have hname : IsName name := by
    refine ⟨hne, hslash, fun hmem => ?_, hlook⟩
    have htext : '\x00' ∈ path.toList := by
      rw [← Path.join_pieces path, hpieces]
      cases before with
      | nil => simpa using hmem
      | cons first rest =>
        rw [Path.toList_join_append (by simp) (by simp)]
        simp [hmem]
    simp [htext] at hnul
  exact ⟨name, Path.fileName?_of_pieces hpieces hname.isIdle (by simpa using hlook.2.1), hname⟩

/-! What stands in a directory. -/

/-- What a name leads to in a directory, where a link is not followed. -/
def standing (f : Files) (around : Location) (name : String) : Place :=
  match f.entry? (around ++ [name]) with
  | none => .missing around name
  | some .directory => .directory (around ++ [name])
  | some (.file id) => .file (around ++ [name]) id
  | some (.link target) => .link (around ++ [name]) target

section Join

variable {f : Files} {dir name : String} {loc : Location}

theorem stepsOf_join_name (hdir : dir ≠ "") (hname : IsName name) :
    ∃ dots, (∀ x ∈ dots, x = ".") ∧ ∃ names, stepsOf dir = names ++ dots ∧
      stepsOf (Path.join dir name) = names ++ [name] := by
  obtain ⟨first, rest, hpieces, hbefore⟩ := Path.pieces_join_name hdir hname
  refine ⟨if Path.endsInSlash dir then ["."] else [], ?_, (first :: rest).filter (· != ""), ?_, ?_⟩
  · intro x hx
    split at hx
    · simpa using hx
    · simp at hx
  · unfold stepsOf
    rcases hbefore with hbefore | hbefore
    · rw [hbefore]
    · rw [hbefore, List.filter_append]
      simp
  · unfold stepsOf
    rw [hpieces, Path.endsInSlash_join_name hdir hname, List.filter_append]
    simp [hname.nonempty]

/-- A name joined to the path of a directory is looked up in the directory. -/
theorem resolve_join (hdir : f.find dir = .ok (.directory loc)) (hname : IsName name)
    (hsize : (Path.join dir name).utf8ByteSize ≤ pathLimit)
    (hlink : ∀ target, f.entry? (loc ++ [name]) ≠ some (.link target)) (follow : Bool) :
    f.resolve (Path.join dir name) follow = .ok (f.standing loc name) := by
  obtain ⟨hne, hnul, -, hwalk⟩ := walk_of_find hdir
  obtain ⟨dots, hdots, names, hsteps, hsteps'⟩ := stepsOf_join_name hne hname
  rw [hsteps] at hwalk
  obtain ⟨links, hgoes⟩ :=
    followLinks_append follow (List.cons_ne_nil name []) (followLinks_dots hdots hwalk)
  have hstart : startOf f.here (Path.join dir name) = startOf f.here dir := by
    rw [startOf, startOf, Path.isAbsolute_join_name hne hname]
  have hlast : f.followLinks follow links loc [name] = .ok (f.standing loc name) := by
    obtain ⟨hdot, hup, hlimit⟩ := hname.lookedUp
    cases links <;>
    · unfold followLinks standing
      simp only [followNames, hdot, hup, hlimit, Bool.false_eq_true, if_false]
      cases hentry : f.entry? (loc ++ [name]) with
      | none => rfl
      | some entry =>
        cases entry with
        | directory => rfl
        | file id => rfl
        | link target => exact absurd hentry (hlink target)
  have hnul' := Path.nul_not_mem_join hne hname hnul
  unfold resolve
  rw [if_neg (by simpa using hnul'), if_neg (Nat.not_lt.2 hsize),
    if_neg (by simpa using Path.join_ne_empty hne hname), hstart, hsteps', hgoes, hlast]

end Join

end Files

end SourceReducer
