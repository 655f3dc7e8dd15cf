import SourceReducer.Proofs.Text.Lines

/-! The normal form of white space. Normalizing keeps the lines that are not blank, without the
blanks at their ends, and leaves one blank line wherever there were some between two of them. Rows
in that form are kept as they are, so that normalizing twice is the same as normalizing once. -/
namespace SourceReducer

/-- The lines that are not blank. -/
def solidLines (rows : List (List Char)) : List (List Char) :=
  rows.filter fun row => !isBlankText row

theorem solidLines_blank {row : List Char} (h : isBlankText row = true) (rows : List (List Char)) :
    solidLines (row :: rows) = solidLines rows := by
  simp [solidLines, h]

theorem solidLines_solid {row : List Char} (h : isBlankText row = false) (rows : List (List Char)) :
    solidLines (row :: rows) = row :: solidLines rows := by
  simp [solidLines, h]

/-! The rows of a layout. -/

/-- The rows that `layOut` writes. -/
def layRows (started pending : Bool) : List (List Char) → List (List Char)
  | [] => []
  | row :: rest =>
      if isBlankText row then layRows started started rest
      else (if pending then [[]] else []) ++ trimEnd row :: layRows true false rest

theorem layRows_blank {row : List Char} (h : isBlankText row = true) (started pending : Bool)
    (rest : List (List Char)) :
    layRows started pending (row :: rest) = layRows started started rest := by
  simp [layRows, h]

theorem layRows_solid {row : List Char} (h : isBlankText row = false) (started pending : Bool)
    (rest : List (List Char)) :
    layRows started pending (row :: rest) =
      (if pending then [[]] else []) ++ trimEnd row :: layRows true false rest := by
  simp [layRows, h]

theorem layOut_eq (started pending : Bool) (rows : List (List Char)) :
    layOut started pending rows = joinLines (layRows started pending rows) := by
  induction rows generalizing started pending with
  | nil => rfl
  | cons row rest ih =>
    have hempty : (trimEnd row).isEmpty = isBlankText row := by
      rw [Bool.eq_iff_iff, List.isEmpty_iff, trimEnd_eq_nil]
    cases hblank : isBlankText row with
    | true => rw [layOut, hempty, hblank, if_pos rfl, layRows_blank hblank, ih]
    | false =>
      rw [layOut, hempty, hblank, layRows_solid hblank, joinLines_append, joinLines_cons, ← ih]
      cases pending <;> simp [joinLines_cons]

/-- Induction over rows, with a case for a blank row and one for any other. -/
theorem rows_induction {motive : List (List Char) → Prop} (nil : motive [])
    (blank : ∀ row rest, isBlankText row = true → motive rest → motive (row :: rest))
    (solid : ∀ row rest, isBlankText row = false → motive rest → motive (row :: rest))
    (rows : List (List Char)) : motive rows := by
  induction rows with
  | nil => exact nil
  | cons row rest ih =>
    cases h : isBlankText row with
    | true => exact blank row rest h ih
    | false => exact solid row rest h ih

theorem solidLines_layRows (started pending : Bool) (rows : List (List Char)) :
    solidLines (layRows started pending rows) = (solidLines rows).map trimEnd := by
  induction rows using rows_induction generalizing started pending with
  | nil => rfl
  | blank row rest h ih => rw [layRows_blank h, ih, solidLines_blank h]
  | solid row rest h ih =>
    have htrim : isBlankText (trimEnd row) = false := (isBlankText_trimEnd row).trans h
    have hpending (more : List (List Char)) :
        solidLines ((if pending then [[]] else []) ++ more) = solidLines more := by
      cases pending <;> simp [solidLines, isBlankText]
    rw [layRows_solid h, hpending, solidLines_solid htrim, ih, solidLines_solid h, List.map_cons]

/-! Rows in normal form. -/

/-- Whether no row ends in a blank, no two blank rows follow each other and the last row is not
blank. -/
structure Normal (rows : List (List Char)) : Prop where
  trimmed : ∀ row ∈ rows, trimEnd row = row
  single : rows.IsChain fun a b => isBlankText a = true → isBlankText b = false
  last : ∀ row ∈ rows.getLast?, isBlankText row = false

theorem Normal.of_cons {row : List Char} {rest : List (List Char)} (h : Normal (row :: rest)) :
    Normal rest := by
  refine ⟨(List.forall_mem_cons.1 h.trimmed).2, h.single.of_cons, ?_⟩
  cases rest with
  | nil => simp
  | cons next rest => exact h.last

theorem Normal.cons {row : List Char} {rest : List (List Char)} (h : Normal rest)
    (htrim : trimEnd row = row)
    (hnext : isBlankText row = true → ∃ next ∈ rest.head?, isBlankText next = false) :
    Normal (row :: rest) := by
  cases rest with
  | nil =>
    have hsolid : isBlankText row = false := by simpa using hnext
    exact ⟨by simpa using htrim, .singleton _, by simpa using hsolid⟩
  | cons next rest =>
    refine ⟨List.forall_mem_cons.2 ⟨htrim, h.trimmed⟩, .cons_cons ?_ h.single, h.last⟩
    simpa using hnext

/-- A layout writes rows in normal form. -/
theorem normal_layRows (started pending : Bool) (rows : List (List Char)) :
    Normal (layRows started pending rows) := by
  induction rows using rows_induction generalizing started pending with
  | nil => exact ⟨by simp [layRows], .nil, by simp [layRows]⟩
  | blank row rest h ih =>
    rw [layRows_blank h]
    exact ih _ _
  | solid row rest h ih =>
    have hsolid : isBlankText (trimEnd row) = false := (isBlankText_trimEnd row).trans h
    have hrow : Normal (trimEnd row :: layRows true false rest) :=
      (ih true false).cons (trimEnd_trimEnd row) (by simp [hsolid])
    rw [layRows_solid h]
    cases pending with
    | false => exact hrow
    | true => exact hrow.cons rfl fun _ => ⟨_, rfl, hsolid⟩

/-- A layout that starts with nothing starts with a row that is not blank. -/
theorem head?_layRows (rows : List (List Char)) :
    ∀ row ∈ (layRows false false rows).head?, isBlankText row = false := by
  induction rows using rows_induction with
  | nil => simp [layRows]
  | blank row rest h ih => rwa [layRows_blank h]
  | solid row rest h ih => simpa [layRows_solid h] using (isBlankText_trimEnd row).trans h

/-- Rows in normal form are written as they are, behind a blank row if one is pending. -/
theorem layRows_of_normal {rows : List (List Char)} (h : Normal rows) (pending : Bool)
    (hpending : pending = true → ∃ next ∈ rows.head?, isBlankText next = false) :
    layRows true pending rows = (if pending then [[]] else []) ++ rows := by
  induction rows generalizing pending with
  | nil =>
    cases pending with
    | false => rfl
    | true => simp at hpending
  | cons row rest ih =>
    have htrim : trimEnd row = row := h.trimmed row List.mem_cons_self
    cases hrow : isBlankText row with
    | true =>
      -- a blank row is put off, and the row behind it is not blank
      have hnext : ∃ next ∈ rest.head?, isBlankText next = false := by
        cases rest with
        | nil => exact absurd (h.last row rfl) (by simp [hrow])
        | cons next rest => exact ⟨next, rfl, (List.isChain_cons_cons.1 h.single).1 hrow⟩
      have hno : pending = false := by
        cases pending with
        | false => rfl
        | true => simp [hrow] at hpending
      have hnil : row = [] := htrim.symm.trans (trimEnd_eq_nil.2 hrow)
      rw [layRows_blank hrow, ih h.of_cons true fun _ => hnext, hnil, hno]
      rfl
    | false =>
      rw [layRows_solid hrow, htrim, ih h.of_cons false (by simp)]
      rfl

theorem layRows_of_normal_start {rows : List (List Char)} (h : Normal rows)
    (hfirst : ∀ row ∈ rows.head?, isBlankText row = false) : layRows false false rows = rows := by
  cases rows with
  | nil => rfl
  | cons row rest =>
    have htrim : trimEnd row = row := h.trimmed row List.mem_cons_self
    rw [layRows_solid (hfirst row rfl), htrim, layRows_of_normal h.of_cons false (by simp)]
    rfl

/-! Where blank rows stand. -/

/-- Whether a blank row stands behind `m` rows that are not blank. -/
def BlankAt (rows : List (List Char)) (m : Nat) : Prop :=
  ∃ before row after, rows = before ++ row :: after ∧ isBlankText row = true ∧
    (solidLines before).length = m

/-- Whether a blank row stands between the rows number `i` and `j` of those that are not blank. -/
def BlankBetween (rows : List (List Char)) (i j : Nat) : Prop :=
  ∃ m, i < m ∧ m ≤ j ∧ BlankAt rows m

theorem not_blankAt_nil (m : Nat) : ¬BlankAt [] m := by
  rintro ⟨before, row, after, happ, -⟩
  simp at happ

theorem blankAt_blank {row : List Char} (h : isBlankText row = true) {rest : List (List Char)}
    {m : Nat} :
    BlankAt (row :: rest) m ↔ m = 0 ∨ BlankAt rest m := by
  constructor
  · rintro ⟨before, found, after, happ, hfound, hcount⟩
    cases before with
    | nil => exact .inl hcount.symm
    | cons first before =>
      obtain ⟨rfl, hrest⟩ := List.cons.inj happ
      rw [solidLines_blank h] at hcount
      exact .inr ⟨before, found, after, hrest, hfound, hcount⟩
  · rintro (rfl | ⟨before, found, after, rfl, hfound, hcount⟩)
    · exact ⟨[], row, rest, rfl, h, rfl⟩
    · refine ⟨row :: before, found, after, rfl, hfound, ?_⟩
      rwa [solidLines_blank h]

theorem blankAt_solid {row : List Char} (h : isBlankText row = false) {rest : List (List Char)}
    {m : Nat} :
    BlankAt (row :: rest) m ↔ ∃ k, m = k + 1 ∧ BlankAt rest k := by
  constructor
  · rintro ⟨before, found, after, happ, hfound, hcount⟩
    cases before with
    | nil =>
      obtain ⟨rfl, -⟩ := List.cons.inj happ
      simp [h] at hfound
    | cons first before =>
      obtain ⟨rfl, hrest⟩ := List.cons.inj happ
      rw [solidLines_solid h] at hcount
      exact ⟨_, hcount.symm, before, found, after, hrest, hfound, rfl⟩
  · rintro ⟨_, rfl, before, found, after, rfl, hfound, rfl⟩
    refine ⟨row :: before, found, after, rfl, hfound, ?_⟩
    rw [solidLines_solid h, List.length_cons]

/-- A layout has blank rows where there were some, but none behind the last row that is not blank,
and one before the first only if rows were written before. -/
theorem blankAt_layRows {started pending : Bool} (hpending : pending = true → started = true)
    (rows : List (List Char)) (m : Nat) :
    BlankAt (layRows started pending rows) m ↔
      m < (solidLines rows).length ∧
        ((m = 0 ∧ pending = true) ∨ BlankAt rows m ∧ (0 < m ∨ started = true)) := by
  induction rows using rows_induction generalizing started pending m with
  | nil => simp [layRows, solidLines, not_blankAt_nil]
  | blank row rest h ih =>
    rw [layRows_blank h, ih id, blankAt_blank h, solidLines_blank h]
    refine and_congr_right fun _ => ?_
    rcases Nat.eq_zero_or_pos m with rfl | hm
    · simp only [true_and, true_or, lt_irrefl, false_or]
      exact ⟨fun hstart => .inr (hstart.elim id And.right),
        fun hstart => .inl (hstart.elim hpending id)⟩
    · simp [hm, hm.ne']
  | solid row rest h ih =>
    have htrim : isBlankText (trimEnd row) = false := (isBlankText_trimEnd row).trans h
    have hrest : BlankAt (trimEnd row :: layRows true false rest) m ↔
        ∃ k, m = k + 1 ∧ k < (solidLines rest).length ∧ BlankAt rest k := by
      simp [blankAt_solid htrim, ih]
    rw [layRows_solid h, solidLines_solid h, List.length_cons, blankAt_solid h]
    cases pending with
    | false =>
      rw [if_neg Bool.false_ne_true, List.nil_append, hrest]
      constructor
      · rintro ⟨k, rfl, hk, hblank⟩
        exact ⟨Nat.succ_lt_succ hk, .inr ⟨⟨k, rfl, hblank⟩, .inl k.succ_pos⟩⟩
      · rintro ⟨hm, ⟨-, hfalse⟩ | ⟨⟨k, rfl, hblank⟩, -⟩⟩
        · cases hfalse
        · exact ⟨k, rfl, Nat.lt_of_succ_lt_succ hm, hblank⟩
    | true =>
      have hempty : isBlankText [] = true := rfl
      rw [if_pos rfl, List.singleton_append, blankAt_blank hempty, hrest]
      constructor
      · rintro (rfl | ⟨k, rfl, hk, hblank⟩)
        · exact ⟨Nat.succ_pos _, .inl ⟨rfl, rfl⟩⟩
        · exact ⟨Nat.succ_lt_succ hk, .inr ⟨⟨k, rfl, hblank⟩, .inl k.succ_pos⟩⟩
      · rintro ⟨hm, ⟨rfl, -⟩ | ⟨⟨k, rfl, hblank⟩, -⟩⟩
        · exact .inl rfl
        · exact .inr ⟨k, rfl, Nat.lt_of_succ_lt_succ hm, hblank⟩

/-! Normalized texts. -/

/-- The rows of a normalized text. -/
def normalRows (text : String) : List (List Char) :=
  layRows false false (lines text.toList)

theorem normalizeWhitespace_eq (text : String) :
    normalizeWhitespace text = String.ofList (joinLines (normalRows text)) := by
  rw [normalizeWhitespace, layOut_eq, normalRows]

theorem feed_not_mem_layRows {started pending : Bool} {rows : List (List Char)}
    (h : ∀ row ∈ rows, '\n' ∉ row) : ∀ row ∈ layRows started pending rows, '\n' ∉ row := by
  induction rows using rows_induction generalizing started pending with
  | nil => simp [layRows]
  | blank row rest hblank ih =>
    rw [layRows_blank hblank]
    exact ih (List.forall_mem_cons.1 h).2
  | solid row rest hsolid ih =>
    obtain ⟨hrow, hrest⟩ := List.forall_mem_cons.1 h
    rw [layRows_solid hsolid]
    refine List.forall_mem_append.2
      ⟨?_, List.forall_mem_cons.2 ⟨feed_not_mem_trimEnd hrow, ih hrest⟩⟩
    cases pending <;> simp

theorem lines_normalizeWhitespace (text : String) :
    lines (normalizeWhitespace text).toList = normalRows text := by
  have hnormal : Normal (normalRows text) := normal_layRows ..
  have hfeed : ∀ row ∈ normalRows text, '\n' ∉ row :=
    feed_not_mem_layRows fun row hrow => feed_not_mem_lines hrow
  rw [normalizeWhitespace_eq, String.toList_ofList]
  exact lines_joinLines_of_trimmed fun row hrow => ⟨hfeed row hrow, hnormal.trimmed row hrow⟩

/-- Joined rows in normal form that start with a row that is not blank are a normalized text. -/
theorem normalizeWhitespace_joinLines {rows : List (List Char)} (h : Normal rows)
    (hfirst : ∀ row ∈ rows.head?, isBlankText row = false) (hfeed : ∀ row ∈ rows, '\n' ∉ row) :
    normalizeWhitespace (String.ofList (joinLines rows)) = String.ofList (joinLines rows) := by
  have hlines : lines (joinLines rows) = rows :=
    lines_joinLines_of_trimmed fun row hrow => ⟨hfeed row hrow, h.trimmed row hrow⟩
  rw [normalizeWhitespace_eq, normalRows, String.toList_ofList, hlines,
    layRows_of_normal_start h hfirst]

/-- A normalized text is empty or ends in a line feed, no line of it ends in a blank, its first and
its last line are not blank and no two blank lines follow each other. Its lines that are not blank
are those of the text without blanks at their ends, and between two of them stands a blank line
exactly if there was one. Normalizing it again changes nothing. -/
theorem normalizeWhitespace_is_normal_form (text : String) :
    let given := lines text.toList
    let laid := lines (normalizeWhitespace text).toList
    (normalizeWhitespace text = "" ∨ (normalizeWhitespace text).toList.getLast? = some '\n') ∧
      (∀ line ∈ laid, ∀ c ∈ line.getLast?, isBlank c = false) ∧
      (∀ line ∈ laid.head?, isBlankText line = false) ∧
      (∀ line ∈ laid.getLast?, isBlankText line = false) ∧
      (laid.IsChain fun a b => isBlankText a = true → isBlankText b = false) ∧
      solidLines laid = (solidLines given).map trimEnd ∧
      (∀ i j, i < j → j < (solidLines given).length →
        (BlankBetween laid i j ↔ BlankBetween given i j)) ∧
      normalizeWhitespace (normalizeWhitespace text) = normalizeWhitespace text := by
  intro given laid
  have hlaid : laid = normalRows text := lines_normalizeWhitespace text
  have hnormal : Normal laid := hlaid ▸ normal_layRows ..
  have hfirst : ∀ line ∈ laid.head?, isBlankText line = false := hlaid ▸ head?_layRows _
  have hjoined : normalizeWhitespace text = String.ofList (joinLines laid) := by
    rw [hlaid, normalizeWhitespace_eq]
  refine ⟨?_, ?_, hfirst, hnormal.last, hnormal.single, ?_, ?_, ?_⟩
  · rw [hjoined, String.toList_ofList]
    by_cases hnil : laid = []
    · exact .inl (by rw [hnil]; rfl)
    · exact .inr (getLast?_joinLines hnil)
  · intro line hline c hc
    rw [← hnormal.trimmed line hline] at hc
    exact getLast?_trimEnd hc
  · rw [hlaid]
    exact solidLines_layRows ..
  · intro i j _ hj
    refine exists_congr fun m => and_congr_right fun him => and_congr_right fun hmj => ?_
    have hm : m < (solidLines given).length := Nat.lt_of_le_of_lt hmj hj
    have hpos : 0 < m := Nat.zero_lt_of_lt him
    rw [hlaid, normalRows, blankAt_layRows (by simp)]
    simp [hm, hpos, given]
  · rw [hjoined]
    exact normalizeWhitespace_joinLines hnormal hfirst fun row hrow => feed_not_mem_lines hrow

end SourceReducer
