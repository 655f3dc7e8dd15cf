import Mathlib.Data.List.TakeWhile
import SourceReducer.Proofs.Files.Slots

/-! Names of places. The last part of a path and the path of what is above it name the place that
the path names, so different places have different names. -/
namespace SourceReducer

namespace Path

/-! Paths as their pieces. -/

theorem slash_not_mem_splitOn {cs piece : List Char} (h : piece ∈ cs.splitOn '/') :
    '/' ∉ piece := by
  induction cs generalizing piece with
  | nil =>
    obtain rfl : piece = [] := by simpa using h
    simp
  | cons c cs ih =>
    rw [List.splitOn_cons_eq_if_modifyHead] at h
    split at h
    · rcases List.mem_cons.1 h with rfl | h
      · simp
      · exact ih h
    · next hc =>
      cases hrest : cs.splitOn '/' with
      | nil => simp [hrest] at h
      | cons first rest =>
        rw [hrest] at h ih
        rcases List.mem_cons.1 h with rfl | h
        · have := @ih first List.mem_cons_self
          simp only [List.mem_cons, not_or]
          exact ⟨fun heq => hc (by simpa using heq.symm), this⟩
        · exact ih (List.mem_cons_of_mem _ h)

theorem slash_not_mem_pieces {path piece : String} (h : piece ∈ pieces path) :
    '/' ∉ piece.toList := by
  obtain ⟨cs, hcs, rfl⟩ := List.mem_map.1 h
  rw [String.toList_ofList]
  exact slash_not_mem_splitOn hcs

theorem pieces_ne_nil (path : String) : pieces path ≠ [] := by
  simp [pieces]

theorem toList_join (xs : List String) :
    ("/".intercalate xs).toList = ['/'].intercalate (xs.map String.toList) :=
  String.toList_intercalate

theorem join_pieces (path : String) : "/".intercalate (pieces path) = path := by
  apply String.toList_injective
  have hlist : (pieces path).map String.toList = path.toList.splitOn '/' := by
    simp [pieces, Function.comp_def]
  rw [toList_join, hlist, List.intercalate_splitOn]

theorem pieces_join {xs : List String} (hne : xs ≠ []) (h : ∀ x ∈ xs, '/' ∉ x.toList) :
    pieces ("/".intercalate xs) = xs := by
  unfold pieces
  rw [toList_join, List.splitOn_intercalate, List.map_map]
  · simp [Function.comp_def]
  · intro cs hcs
    obtain ⟨x, hx, rfl⟩ := List.mem_map.1 hcs
    exact h x hx
  · simpa using hne

theorem toList_join_append {xs ys : List String} (hx : xs ≠ []) (hy : ys ≠ []) :
    ("/".intercalate (xs ++ ys)).toList =
      ("/".intercalate xs).toList ++ '/' :: ("/".intercalate ys).toList := by
  rw [toList_join, toList_join, toList_join]
  induction xs with
  | nil => exact absurd rfl hx
  | cons x xs ih =>
    cases xs with
    | nil =>
      cases ys with
      | nil => exact absurd rfl hy
      | cons y ys => simp [List.intercalate_cons_cons]
    | cons z xs =>
      have hrest := ih (by simp)
      simp only [List.cons_append, List.map_cons, List.intercalate_cons_cons, List.append_assoc]
        at hrest ⊢
      rw [hrest]

/-! Idle parts at the end. -/

theorem dropIdleEnd_spec (xs : List String) :
    ∃ idle, xs = dropIdleEnd xs ++ idle ∧ (∀ x ∈ idle, isIdle x = true) ∧
      ∀ x, (dropIdleEnd xs).getLast? = some x → isIdle x = false := by
  refine ⟨(xs.reverse.takeWhile isIdle).reverse, ?_, ?_, ?_⟩
  · rw [dropIdleEnd, ← List.reverse_append, List.takeWhile_append_dropWhile, List.reverse_reverse]
  · intro x hx
    exact List.mem_takeWhile_imp (List.mem_reverse.1 hx)
  · intro x hx
    rw [dropIdleEnd, List.getLast?_reverse] at hx
    have hhead := List.head?_dropWhile_not isIdle xs.reverse
    simp only [hx] at hhead
    simpa using hhead

/-- Of idle parts only the dots are steps. -/
theorem eq_dot_of_isIdle {idle : List String} (h : ∀ x ∈ idle, isIdle x = true) :
    ∀ x ∈ idle.filter (· != ""), x = "." := by
  intro x hx
  obtain ⟨hx, hne⟩ := List.mem_filter.1 hx
  have hidle := h x hx
  simpa [isIdle, bne_iff_ne.1 hne] using hidle

theorem dropIdleEnd_concat {xs : List String} {x : String} (h : isIdle x = false) :
    dropIdleEnd (xs ++ [x]) = xs ++ [x] := by
  simp [dropIdleEnd, h]

/-! The ends of joined pieces. -/

section Ends

variable {x : String} {xs : List String}

theorem isAbsolute_join (hx : '/' ∉ x.toList) :
    isAbsolute ("/".intercalate (x :: xs)) = (x == "" && !xs.isEmpty) := by
  unfold isAbsolute
  cases xs with
  | nil =>
    have hjoin : "/".intercalate [x] = x := by
      apply String.toList_injective
      simp
    rw [hjoin]
    cases hlist : x.toList with
    | nil => simp
    | cons c cs =>
      have hc : c ≠ '/' := by
        rintro rfl
        exact hx (by simp [hlist])
      simp [hc]
  | cons y ys =>
    have happ : x :: y :: ys = [x] ++ (y :: ys) := rfl
    rw [happ, toList_join_append (by simp) (by simp)]
    cases hlist : x.toList with
    | nil =>
      obtain rfl : x = "" := String.toList_injective hlist
      simp
    | cons c cs =>
      have hne : x ≠ "" := by
        rintro rfl
        simp at hlist
      have hc : c ≠ '/' := by
        rintro rfl
        exact hx (by simp [hlist])
      simp [hne, hc, hlist]

theorem endsInSlash_join (hx : '/' ∉ x.toList) :
    endsInSlash ("/".intercalate (xs ++ [x])) = (x == "" && !xs.isEmpty) := by
  have hsingle : "/".intercalate [x] = x := by
    apply String.toList_injective
    simp
  unfold endsInSlash
  by_cases hempty : x = ""
  · subst hempty
    cases xs with
    | nil => simp
    | cons y ys =>
      rw [toList_join_append (by simp) (by simp), hsingle]
      simp
  · have hne : x.toList ≠ [] := fun h => hempty (String.toList_injective h)
    obtain ⟨front, c, hlist⟩ := (List.eq_nil_or_concat x.toList).resolve_left hne
    rw [List.concat_eq_append] at hlist
    have hc : c ≠ '/' := by
      rintro rfl
      exact hx (by simp [hlist])
    cases xs with
    | nil =>
      rw [List.nil_append, hsingle, hlist]
      simp [hc]
    | cons y ys =>
      have happ (front' : List Char) :
          front' ++ '/' :: (front ++ [c]) = front' ++ '/' :: front ++ [c] := by
        simp
      rw [toList_join_append (by simp) (by simp), hsingle, hlist, happ, List.getLast?_concat]
      simp [hempty, hc]

end Ends

/-! The last part of a path and the path above it. -/

section Last

variable {path name : String} {before : List String}

theorem isAbsolute_of_pieces (h : pieces path = before ++ [name]) :
    isAbsolute path = (before.head? == some "") := by
  have hslash {x : String} (hx : x ∈ before ++ [name]) : '/' ∉ x.toList :=
    slash_not_mem_pieces (h ▸ hx)
  conv_lhs => rw [← join_pieces path, h]
  cases before with
  | nil =>
    rw [List.nil_append, isAbsolute_join (hslash (by simp))]
    simp
  | cons first rest =>
    rw [List.cons_append, isAbsolute_join (hslash (by simp))]
    simp

theorem bodyParts_of_pieces (h : pieces path = before ++ [name]) (hname : isIdle name = false) :
    bodyParts path = (if isAbsolute path then before.drop 1 else before) ++ [name] := by
  have habsolute := isAbsolute_of_pieces h
  unfold bodyParts parts
  cases before with
  | nil =>
    have hempty : name ≠ "" := by
      rintro rfl
      simp [isIdle] at hname
    simp [habsolute, h, hempty, dropIdleEnd]
  | cons first rest =>
    by_cases hfirst : first = ""
    · simp [habsolute, h, hfirst, dropIdleEnd_concat hname]
    · simp [habsolute, h, hfirst, dropIdleEnd_concat hname]

theorem fileName?_of_pieces (h : pieces path = before ++ [name]) (hname : isIdle name = false)
    (hup : name ≠ "..") : fileName? path = some name := by
  have hdot : name ≠ "." := by
    rintro rfl
    simp [isIdle] at hname
  have hlast : (components path).getLast? = some name := by
    unfold components
    rw [bodyParts_of_pieces h hname]
    split
    · simp [hname]
    · cases before with
      | nil => simp
      | cons first rest =>
        simp only [List.cons_append, List.filter_append, List.filter_cons, hname, Bool.not_false,
          if_true, List.filter_nil]
        rw [← List.cons_append, List.getLast?_concat]
  simp [fileName?, hlast, hdot, hup]

theorem parent?_absolute {front : List String} (h : bodyParts path = front ++ [name])
    (habsolute : isAbsolute path = true) :
    parent? path = some ("/" ++ "/".intercalate (dropIdleEnd front)) := by
  cases front with
  | nil => simp [parent?, h, habsolute]
  | cons first rest =>
    have hdrop : (first :: (rest ++ [name])).dropLast = first :: rest := by
      rw [← List.cons_append, List.dropLast_concat]
    rw [List.cons_append] at h
    simp [parent?, h, habsolute, hdrop]

theorem parent?_relative {first : String} {rest : List String}
    (h : bodyParts path = first :: rest ++ [name]) (habsolute : isAbsolute path = false) :
    parent? path = some ("/".intercalate (first :: dropIdleEnd rest)) := by
  have hdrop : (first :: (rest ++ [name])).dropLast = first :: rest := by
    rw [← List.cons_append, List.dropLast_concat]
  rw [List.cons_append] at h
  simp [parent?, h, habsolute, hdrop]

/-- The path above a path that ends with a name is empty, the root, or the parts before it without
the idle ones at their end. -/
theorem parent?_of_pieces (h : pieces path = before ++ [name]) (hname : isIdle name = false) :
    (before = [] ∧ parent? path = some "") ∨
      (∃ rest, before = "" :: rest ∧ dropIdleEnd rest = [] ∧ parent? path = some "/") ∨
      ∃ first rest, before = first :: rest ∧ (first = "" → dropIdleEnd rest ≠ []) ∧
        parent? path = some ("/".intercalate (first :: dropIdleEnd rest)) := by
  have habsolute := isAbsolute_of_pieces h
  have hbody := bodyParts_of_pieces h hname
  cases before with
  | nil => exact .inl ⟨rfl, by simp [parent?, hbody, habsolute]⟩
  | cons first rest =>
    by_cases hfirst : first = ""
    · subst hfirst
      rw [parent?_absolute (by simpa [habsolute] using hbody) (by simp [habsolute])]
      by_cases hidle : dropIdleEnd rest = []
      · exact .inr (.inl ⟨rest, rfl, hidle, by simp [hidle]⟩)
      · refine .inr (.inr ⟨"", rest, rfl, fun _ => hidle, ?_⟩)
        have happ : "" :: dropIdleEnd rest = [""] ++ dropIdleEnd rest := rfl
        congr 1
        apply String.toList_injective
        rw [happ, toList_join_append (by simp) hidle]
        simp
    · refine .inr (.inr ⟨first, rest, rfl, fun heq => absurd heq hfirst, ?_⟩)
      exact parent?_relative (by simpa [habsolute, hfirst] using hbody)
        (by simp [habsolute, hfirst])

end Last

end Path

namespace Files

/-! The directory that a walk ends in. -/

/-- The names before the last one lead to the directory of the place that names lead to. -/
theorem followNames_parent {f : Files}
    {through through' : Location → String → List String → Except FileFault Place}
    (hthrough : ∀ cur target rest loc, rest ≠ [] → placeOf? (through cur target rest) = some loc →
      ∃ before name around, rest = before ++ [name] ∧ IsLookedUp name ∧ loc = around ++ [name] ∧
        through' cur target before = .ok (.directory around))
    {cur loc : Location} {names : List String}
    (h : placeOf? (f.followNames false through cur names) = some loc) :
    ∃ before name around, names = before ++ [name] ∧ IsLookedUp name ∧ loc = around ++ [name] ∧
      f.followNames true through' cur before = .ok (.directory around) := by
  induction cur, names using names_induction with
  | nil cur => simp [followNames, placeOf?] at h
  | dot cur x rest hdot ih =>
    rw [followNames_dot hdot] at h
    obtain ⟨before, name, around, rfl, hname, hloc, hwalk⟩ := ih h
    exact ⟨x :: before, name, around, rfl, hname, hloc, by rw [followNames_dot hdot, hwalk]⟩
  | up cur x rest hdot hup ih =>
    rw [followNames_up hdot hup] at h
    obtain ⟨before, name, around, rfl, hname, hloc, hwalk⟩ := ih h
    exact ⟨x :: before, name, around, rfl, hname, hloc, by rw [followNames_up hdot hup, hwalk]⟩
  | long cur x rest hdot hup hlimit =>
    rw [followNames_long hdot hup hlimit] at h
    simp [placeOf?] at h
  | last cur x hx =>
    rw [followNames_last hx] at h
    split at h
    · cases h
    · exact ⟨[], x, cur, rfl, hx, by simpa using h.symm, rfl⟩
  | further cur x rest hx hrest ih =>
    rw [followNames_further hx hrest] at h
    cases hentry : f.entry? (cur ++ [x]) with
    | none => simp [hentry, placeOf?] at h
    | some entry =>
      simp only [hentry] at h
      cases entry with
      | directory =>
        obtain ⟨before, name, around, rfl, hname, hloc, hwalk⟩ := ih h
        refine ⟨x :: before, name, around, rfl, hname, hloc, ?_⟩
        simp only [followNames_followed hx, hentry, hwalk]
      | file id => simp [placeOf?] at h
      | link target =>
        obtain ⟨before, name, around, rfl, hname, hloc, hwalk⟩ :=
          hthrough cur target rest loc hrest h
        refine ⟨x :: before, name, around, rfl, hname, hloc, ?_⟩
        simp only [followNames_followed hx, hentry, hwalk]

theorem followLinks_parent {f : Files} {links : Nat} {cur loc : Location} {names : List String}
    (h : placeOf? (f.followLinks false links cur names) = some loc) :
    ∃ before name around, names = before ++ [name] ∧ IsLookedUp name ∧ loc = around ++ [name] ∧
      f.followLinks true links cur before = .ok (.directory around) := by
  induction links generalizing cur names loc with
  | zero => exact followNames_parent (fun _ _ _ _ _ h => by simp [placeOf?] at h) h
  | succ links ih =>
    refine followNames_parent (fun cur target rest loc hrest h => ?_) h
    split at h
    · simp [placeOf?] at h
    · next hempty =>
      obtain ⟨before, name, around, hsplit, hname, hloc, hwalk⟩ := ih h
      -- the last name is one of those behind the link
      obtain ⟨front, last, rfl⟩ := (List.eq_nil_or_concat rest).resolve_left hrest
      rw [List.concat_eq_append, ← List.append_assoc] at hsplit
      obtain ⟨hbefore, hlast⟩ := List.append_inj' hsplit rfl
      obtain rfl : last = name := by simpa using hlast
      refine ⟨front, last, around, List.concat_eq_append, hname, hloc, ?_⟩
      rw [if_neg hempty, hbefore, hwalk]

theorem followNames_only_dots {f : Files} {follow : Bool}
    {through : Location → String → List String → Except FileFault Place} {dots : List String}
    (hdots : ∀ x ∈ dots, x = ".") (cur : Location) :
    f.followNames follow through cur dots = .ok (.directory cur) := by
  induction dots with
  | nil => rfl
  | cons x dots ih =>
    obtain rfl := hdots x List.mem_cons_self
    rw [followNames_dot rfl]
    exact ih fun y hy => hdots y (List.mem_cons_of_mem _ hy)

/-- Dots at the end do not matter where a walk ends in a directory. -/
theorem followNames_dots {f : Files}
    {through through' : Location → String → List String → Except FileFault Place}
    {dots : List String} (hdots : ∀ x ∈ dots, x = ".")
    (hthrough : ∀ cur target rest loc, through cur target (rest ++ dots) = .ok (.directory loc) →
      through' cur target rest = .ok (.directory loc))
    {cur loc : Location} {names : List String}
    (h : f.followNames true through cur (names ++ dots) = .ok (.directory loc)) :
    f.followNames true through' cur names = .ok (.directory loc) := by
  induction cur, names using names_induction_look with
  | nil cur =>
    rwa [List.nil_append, followNames_only_dots hdots] at h
  | dot cur x rest hdot ih =>
    rw [List.cons_append, followNames_dot hdot] at h
    rw [followNames_dot hdot]
    exact ih h
  | up cur x rest hdot hup ih =>
    rw [List.cons_append, followNames_up hdot hup] at h
    rw [followNames_up hdot hup]
    exact ih h
  | long cur x rest hdot hup hlimit =>
    rw [List.cons_append, followNames_long hdot hup hlimit] at h
    cases h
  | look cur x rest hx ih =>
    rw [List.cons_append, followNames_followed hx] at h
    rw [followNames_followed hx]
    cases hentry : f.entry? (cur ++ [x]) with
    | none =>
      simp only [hentry] at h
      split at h <;> cases h
    | some entry =>
      simp only [hentry] at h ⊢
      cases entry with
      | directory => exact ih h
      | file id =>
        simp only at h
        split at h <;> cases h
      | link target => exact hthrough cur target rest loc h

theorem followLinks_only_dots {f : Files} {follow : Bool} {dots : List String}
    (hdots : ∀ x ∈ dots, x = ".") (links : Nat) (cur : Location) :
    f.followLinks follow links cur dots = .ok (.directory cur) := by
  cases links <;> exact followNames_only_dots hdots cur

theorem followLinks_dots {f : Files} {links : Nat} {cur loc : Location} {names dots : List String}
    (hdots : ∀ x ∈ dots, x = ".")
    (h : f.followLinks true links cur (names ++ dots) = .ok (.directory loc)) :
    f.followLinks true links cur names = .ok (.directory loc) := by
  induction links generalizing cur names loc with
  | zero => exact followNames_dots hdots (fun _ _ _ _ h => by cases h) h
  | succ links ih =>
    refine followNames_dots hdots (fun cur target rest loc h => ?_) h
    split at h
    · cases h
    · next hempty =>
      rw [← List.append_assoc] at h
      rw [if_neg hempty]
      exact ih h

/-! The steps of a path. -/

/-- Where the last step of a path is a name, it is the last piece of it. -/
theorem pieces_of_stepsOf {path name : String} {names : List String}
    (h : stepsOf path = names ++ [name]) (hdot : name ≠ ".") :
    ∃ before, Path.pieces path = before ++ [name] ∧ names = before.filter (· != "") ∧
      name ≠ "" := by
  obtain ⟨before, last, hpieces⟩ :=
    (List.eq_nil_or_concat (Path.pieces path)).resolve_left (Path.pieces_ne_nil path)
  rw [List.concat_eq_append] at hpieces
  have hslash : '/' ∉ last.toList := Path.slash_not_mem_pieces (by rw [hpieces]; simp)
  have hends : Path.endsInSlash path = (last == "" && !before.isEmpty) := by
    rw [← Path.join_pieces path, hpieces, Path.endsInSlash_join hslash]
  unfold stepsOf at h
  rw [hpieces, hends, List.filter_append] at h
  by_cases hlast : last = ""
  · subst hlast
    cases before with
    | nil => simp at h
    | cons first rest =>
      have hsplit := (List.append_inj' h (by simp)).2
      simp only [beq_self_eq_true, List.isEmpty_cons, Bool.not_false, Bool.and_self, if_true,
        List.cons.injEq, and_true] at hsplit
      exact absurd hsplit.symm hdot
  · have hkeep : [last].filter (· != "") = [last] := by simp [hlast]
    simp only [hkeep, Bool.false_and, Bool.false_eq_true, if_false, List.append_nil,
      beq_eq_false_iff_ne.2 hlast] at h
    obtain ⟨hbefore, hname⟩ := List.append_inj' h rfl
    obtain rfl : last = name := by simpa using hname
    exact ⟨before, hpieces, hbefore.symm, hlast⟩

theorem walk_of_slot? {f : Files} {path : String} {loc : Location} (h : f.slot? path = some loc) :
    path.toList.contains '\x00' = false ∧ ¬pathLimit < path.utf8ByteSize ∧
      placeOf? (f.followLinks false linkLimit (startOf f.here path) (stepsOf path)) = some loc := by
  unfold slot? resolve at h
  split at h
  · simp [placeOf?] at h
  · next hnul =>
    split at h
    · simp [placeOf?] at h
    · next hlong =>
      split at h
      · simp [placeOf?] at h
      · exact ⟨by simpa using hnul, hlong, h⟩

/-- A path of no more characters than another one that is followed is followed. -/
theorem find_of_start {f : Files} {path above : String} {rest : List Char}
    (happ : path.toList = above.toList ++ rest) (hne : above ≠ "")
    (hnul : path.toList.contains '\x00' = false) (hlong : ¬pathLimit < path.utf8ByteSize) :
    f.find above = f.followLinks true linkLimit (startOf f.here above) (stepsOf above) := by
  have hpath : path = above ++ String.ofList rest := by
    apply String.toList_injective
    simp [happ]
  have hsize : above.utf8ByteSize ≤ path.utf8ByteSize := by
    rw [hpath, String.utf8ByteSize_append]
    omega
  have hnul' : above.toList.contains '\x00' = false := by
    rw [happ, List.contains_append, Bool.or_eq_false_iff] at hnul
    exact hnul.1
  have hlong' : ¬pathLimit < above.utf8ByteSize := by omega
  unfold find resolve
  rw [hnul', if_neg (by simp), if_neg hlong', if_neg (by simpa using hne)]

theorem find_dot (f : Files) : f.find "." = .ok (.directory f.here) := by
  have hsteps : stepsOf "." = ["."] := by decide +kernel
  have hstart : startOf f.here "." = f.here := rfl
  have hself : ".".toList = ".".toList ++ [] := rfl
  rw [find_of_start hself (by decide) (by decide) (by decide), hsteps, hstart]
  exact followLinks_only_dots (by simp) _ _

theorem find_root (f : Files) : f.find "/" = .ok (.directory []) := by
  have hsteps : stepsOf "/" = ["."] := by decide +kernel
  have hstart : startOf f.here "/" = [] := rfl
  have hself : "/".toList = "/".toList ++ [] := rfl
  rw [find_of_start hself (by decide) (by decide) (by decide), hsteps, hstart]
  exact followLinks_only_dots (by simp) _ _

/-- Steps without idle parts at the end. -/
theorem stepsOf_join {first : String} {rest : List String}
    (hslash : ∀ x ∈ first :: Path.dropIdleEnd rest, '/' ∉ x.toList)
    (hfirst : first = "" → Path.dropIdleEnd rest ≠ []) :
    stepsOf ("/".intercalate (first :: Path.dropIdleEnd rest)) =
      (first :: Path.dropIdleEnd rest).filter (· != "") := by
  obtain ⟨-, -, -, hlast⟩ := Path.dropIdleEnd_spec rest
  obtain ⟨front, last, hfront⟩ :=
    (List.eq_nil_or_concat (first :: Path.dropIdleEnd rest)).resolve_left (by simp)
  rw [List.concat_eq_append] at hfront
  have hne : last ≠ "" := by
    rintro rfl
    have hgetLast : (first :: Path.dropIdleEnd rest).getLast? = some "" := by simp [hfront]
    by_cases hempty : Path.dropIdleEnd rest = []
    · simp only [hempty, List.getLast?_singleton, Option.some.injEq] at hgetLast
      exact hfirst hgetLast hempty
    · rw [List.getLast?_cons_of_ne_nil hempty] at hgetLast
      exact absurd (hlast "" hgetLast) (by simp [Path.isIdle])
  have hends : Path.endsInSlash ("/".intercalate (first :: Path.dropIdleEnd rest)) = false := by
    rw [hfront, Path.endsInSlash_join (hslash last (by simp [hfront]))]
    simp [hne]
  unfold stepsOf
  rw [hends, Path.pieces_join (by simp) hslash]
  simp

/-- The pieces of a path up to a name lead where the walk along them does, also without the idle
ones at their end. -/
theorem find_join_dropIdleEnd {f : Files} {path first name : String} {rest : List String}
    {loc : Location} (hpieces : Path.pieces path = first :: rest ++ [name])
    (hfirst : first = "" → Path.dropIdleEnd rest ≠ []) (hnul : path.toList.contains '\x00' = false)
    (hlong : ¬pathLimit < path.utf8ByteSize)
    (h : f.followLinks true linkLimit (startOf f.here path) ((first :: rest).filter (· != "")) =
      .ok (.directory loc)) :
    "/".intercalate (first :: Path.dropIdleEnd rest) ≠ "" ∧
      f.find ("/".intercalate (first :: Path.dropIdleEnd rest)) = .ok (.directory loc) := by
  obtain ⟨idle, hsplit, hidle, -⟩ := Path.dropIdleEnd_spec rest
  have hslash {x : String} (hx : x ∈ first :: rest ++ [name]) : '/' ∉ x.toList :=
    Path.slash_not_mem_pieces (hpieces ▸ hx)
  have hslash' : ∀ x ∈ first :: Path.dropIdleEnd rest, '/' ∉ x.toList := by
    intro x hx
    refine hslash ?_
    rw [hsplit]
    rcases List.mem_cons.1 hx with rfl | hx
    · simp
    · simp [hx]
  have hnonempty : "/".intercalate (first :: Path.dropIdleEnd rest) ≠ "" := by
    intro hempty
    have hpieces' := Path.pieces_join (by simp) hslash'
    have hsingle : Path.pieces "" = [""] := by decide +kernel
    rw [hempty, hsingle, List.cons.injEq] at hpieces'
    exact hfirst hpieces'.1.symm hpieces'.2.symm
  have happ : path.toList = ("/".intercalate (first :: Path.dropIdleEnd rest)).toList ++
      '/' :: ("/".intercalate (idle ++ [name])).toList := by
    rw [← Path.toList_join_append (by simp) (by simp), ← Path.join_pieces path, hpieces]
    conv_lhs => rw [hsplit]
    simp
  have hstart : startOf f.here ("/".intercalate (first :: Path.dropIdleEnd rest)) =
      startOf f.here path := by
    unfold startOf
    rw [Path.isAbsolute_of_pieces hpieces, Path.isAbsolute_join (hslash (by simp))]
    by_cases hempty : first = ""
    · simp [hempty, hfirst hempty]
    · simp [hempty]
  refine ⟨hnonempty, ?_⟩
  rw [find_of_start happ hnonempty hnul hlong, hstart, stepsOf_join hslash' hfirst]
  refine followLinks_dots (Path.eq_dot_of_isIdle hidle) ?_
  rw [← List.filter_append, List.cons_append, ← hsplit]
  exact h

/-- The path above a path that names a place leads to the directory around it. -/
theorem find_above {f : Files} {path : String} {loc : Location} (h : f.slot? path = some loc) :
    ∃ around name above, loc = around ++ [name] ∧ Path.fileName? path = some name ∧
      Path.parent? path = some above ∧
      f.find (if above.isEmpty then "." else above) = .ok (.directory around) := by
  obtain ⟨hnul, hlong, hwalk⟩ := walk_of_slot? h
  obtain ⟨names, name, around, hsteps, ⟨hdot, hup, -⟩, hloc, hbefore⟩ := followLinks_parent hwalk
  obtain ⟨before, hpieces, rfl, hne⟩ := pieces_of_stepsOf hsteps (by simpa using hdot)
  have hidle : Path.isIdle name = false := by simp [Path.isIdle, hne, hdot]
  have hname := Path.fileName?_of_pieces hpieces hidle (by simpa using hup)
  have habsolute := Path.isAbsolute_of_pieces hpieces
  refine ⟨around, name, ?_⟩
  rcases Path.parent?_of_pieces hpieces hidle with ⟨rfl, hparent⟩ | ⟨rest, rfl, hrest, hparent⟩ |
      ⟨first, rest, rfl, hfirst, hparent⟩
  · refine ⟨"", hloc, hname, hparent, ?_⟩
    have hstart : startOf f.here path = f.here := by simp [startOf, habsolute]
    rw [hstart, List.filter_nil, followLinks_only_dots (by simp)] at hbefore
    rw [← hbefore]
    exact f.find_dot
  · refine ⟨"/", hloc, hname, hparent, ?_⟩
    have hstart : startOf f.here path = [] := by simp [startOf, habsolute]
    obtain ⟨idle, hsplit, hall, -⟩ := Path.dropIdleEnd_spec rest
    rw [hrest, List.nil_append] at hsplit
    have hdots : ∀ x ∈ ("" :: rest).filter (· != ""), x = "." :=
      Path.eq_dot_of_isIdle (List.forall_mem_cons.2 ⟨by decide, hsplit ▸ hall⟩)
    rw [hstart, followLinks_only_dots hdots] at hbefore
    rw [← hbefore]
    exact f.find_root
  · obtain ⟨hnonempty, hfind⟩ := find_join_dropIdleEnd hpieces hfirst hnul hlong hbefore
    refine ⟨_, hloc, hname, hparent, ?_⟩
    rw [if_neg (by simpa using hnonempty)]
    exact hfind

/-! Paths that name one place lead to one file. -/

theorem followNames_mono {f : Files} {follow : Bool}
    {through through' : Location → String → List String → Except FileFault Place}
    (hthrough : ∀ cur target rest place, through cur target rest = .ok place →
      through' cur target rest = .ok place)
    {cur : Location} {names : List String} {place : Place}
    (h : f.followNames follow through cur names = .ok place) :
    f.followNames follow through' cur names = .ok place := by
  induction cur, names using names_induction_look with
  | nil cur => exact h
  | dot cur x rest hdot ih =>
    rw [followNames_dot hdot] at h ⊢
    exact ih h
  | up cur x rest hdot hup ih =>
    rw [followNames_up hdot hup] at h ⊢
    exact ih h
  | long cur x rest hdot hup hlimit =>
    rw [followNames_long hdot hup hlimit] at h
    cases h
  | look cur x rest hx ih =>
    obtain ⟨hdot, hup, hlimit⟩ := hx
    simp only [followNames, hdot, hup, hlimit, Bool.false_eq_true, if_false] at h ⊢
    cases hentry : f.entry? (cur ++ [x]) with
    | none => simpa only [hentry] using h
    | some entry =>
      simp only [hentry] at h ⊢
      cases entry with
      | directory => exact ih h
      | file id => exact h
      | link target =>
        simp only at h ⊢
        split
        · next hend => rwa [if_pos hend] at h
        · next hend =>
          rw [if_neg hend] at h
          exact hthrough cur target rest place h

/-- More links may be followed than are needed. -/
theorem followLinks_mono {f : Files} {follow : Bool} {links more : Nat} {cur : Location}
    {names : List String} {place : Place} (hle : links ≤ more)
    (h : f.followLinks follow links cur names = .ok place) :
    f.followLinks follow more cur names = .ok place := by
  induction links generalizing more cur names place with
  | zero =>
    cases more with
    | zero => exact h
    | succ more => exact followNames_mono (fun _ _ _ _ h => by cases h) h
  | succ links ih =>
    obtain ⟨more, rfl⟩ : ∃ n, more = n + 1 := ⟨more - 1, by omega⟩
    refine followNames_mono (fun cur target rest place h => ?_) h
    split at h
    · cases h
    · next hempty =>
      rw [if_neg hempty]
      exact ih (by omega) h

/-- Walks along the same names end alike, however many links they may follow. -/
theorem followLinks_det {f : Files} {follow : Bool} {links links' : Nat} {cur : Location}
    {names : List String} {place place' : Place}
    (h : f.followLinks follow links cur names = .ok place)
    (h' : f.followLinks follow links' cur names = .ok place') : place = place' := by
  have hmax := followLinks_mono (Nat.le_max_left links links') h
  have hmax' := followLinks_mono (Nat.le_max_right links links') h'
  exact Except.ok.inj (hmax.symm.trans hmax')

section SamePlace

variable {f : Files} {p q : String} {loc : Location}

theorem find_of_slot?_link {around : Location} {name target : String} {place : Place}
    (hslot : f.slot? p = some (around ++ [name]))
    (hentry : f.entry? (around ++ [name]) = some (.link target)) (h : f.find p = .ok place) :
    ∃ links, f.followLinks true links (startOf around target) (stepsOf target) = .ok place := by
  obtain ⟨hnul, hlong, hwalk⟩ := walk_of_slot? hslot
  have hne : p ≠ "" := by
    rintro rfl
    simp [slot?, resolve, placeOf?] at hslot
  have hself : p.toList = p.toList ++ [] := by simp
  rw [find_of_start hself hne hnul hlong] at h
  rcases followLinks_link hentry hwalk with ⟨fault, hrefused⟩ | ⟨links, hlinks⟩
  · simp [hrefused] at h
  · exact ⟨links, hlinks ▸ h⟩

/-- Paths that name one place and lead somewhere lead to the same. -/
theorem find_eq_of_slot? (hp : f.slot? p = some loc) (hq : f.slot? q = some loc) {a b : Place}
    (ha : f.find p = .ok a) (hb : f.find q = .ok b) : a = b := by
  obtain ⟨-, ⟨id, hentry, hres⟩ | ⟨target, hentry, hres⟩ | ⟨hentry, around, name, rfl, hres⟩⟩ :=
    resolve_of_slot? hp
  · have hres' := resolve_of_slot?_file hq hentry
    rw [find_eq_resolve (by simp [hres]), hres] at ha
    rw [find_eq_resolve (by simp [hres']), hres'] at hb
    exact Except.ok.inj (ha.symm.trans hb)
  · obtain ⟨around, name, -, rfl, -⟩ := find_above hp
    obtain ⟨links, hlinks⟩ := find_of_slot?_link hp hentry ha
    obtain ⟨links', hlinks'⟩ := find_of_slot?_link hq hentry hb
    exact followLinks_det hlinks hlinks'
  · obtain ⟨around', name', heq, hres'⟩ := resolve_of_slot?_none hq hentry
    obtain ⟨rfl, hname⟩ := List.append_inj' heq rfl
    obtain rfl : name = name' := by simpa using hname
    rw [find_eq_resolve (by simp [hres]), hres] at ha
    rw [find_eq_resolve (by simp [hres']), hres'] at hb
    exact Except.ok.inj (ha.symm.trans hb)

theorem absolute_of_slot? {around : Location} {name : String}
    (h : f.slot? p = some (around ++ [name])) (hnone : f.canonical? p = none) :
    f.absolute p = Path.join (pathOf around) name := by
  obtain ⟨around', name', above, heq, hname, hparent, hfind⟩ := find_above h
  obtain ⟨rfl, hlast⟩ := List.append_inj' heq rfl
  obtain rfl : name = name' := by simpa using hlast
  have habove : f.canonical? (if above.isEmpty then "." else above) = some (pathOf around) := by
    simp only [canonical?, hfind]
  simp only [absolute, hnone, hparent, habove, hname]

/-- Paths that name one place and lead to files, or to where files could be, are taken for the same
file. -/
theorem sameFile_of_slot? (hp : f.slot? p = some loc) (hq : f.slot? q = some loc)
    (hpleaf : IsLeaf (f.find p)) (hqleaf : IsLeaf (f.find q)) : f.sameFile p q = true := by
  obtain ⟨around, name, -, rfl, -⟩ := find_above hp
  obtain ⟨goal, hgoal⟩ := hpleaf
  obtain ⟨goal', hgoal'⟩ := hqleaf
  cases ha : f.find p with
  | error fault => simp [ha] at hgoal
  | ok a =>
    cases hb : f.find q with
    | error fault => simp [hb] at hgoal'
    | ok b =>
      obtain rfl := find_eq_of_slot? hp hq ha hb
      unfold sameFile
      cases a with
      | directory loc => simp [ha, Place.goal] at hgoal
      | link loc target => simp [ha, Place.goal] at hgoal
      | file loc id => simp [ha, hb]
      | missing dir last =>
        have hnone : f.canonical? p = none := by simp [canonical?, ha]
        have hnone' : f.canonical? q = none := by simp [canonical?, hb]
        simp [ha, hb, absolute_of_slot? hp hnone, absolute_of_slot? hq hnone', Path.same]

end SamePlace

end Files

end SourceReducer
