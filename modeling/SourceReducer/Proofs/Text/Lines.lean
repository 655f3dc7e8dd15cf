import Mathlib.Data.List.DropRight
import Mathlib.Tactic.Common
import SourceReducer.Text.Layout

/-! Lines, and lines put together again. A text is a row of lines that end in a line feed, with one
last line that does not. Lines that hold no line feed and do not end in a carriage return can be
read back from the text that they make. -/
namespace SourceReducer

/-- Every text is reached by putting lines with their line feeds in front of a last line. -/
theorem feed_induction {motive : List Char → Prop} (last : ∀ cs, '\n' ∉ cs → motive cs)
    (feed : ∀ row rest, '\n' ∉ row → motive rest → motive (row ++ '\n' :: rest)) (cs : List Char) :
    motive cs := by
  -- the first line grows by one character, or is done
  suffices h : ∀ row, '\n' ∉ row → motive (row ++ cs) from h [] List.not_mem_nil
  induction cs with
  | nil =>
    intro row hrow
    rw [List.append_nil]
    exact last row hrow
  | cons c cs ih =>
    intro row hrow
    by_cases hc : c = '\n'
    · rw [hc]
      exact feed row cs hrow (ih [] List.not_mem_nil)
    · have hmore : '\n' ∉ row ++ [c] := by
        simp only [List.mem_append, List.mem_singleton, not_or]
        exact ⟨hrow, Ne.symm hc⟩
      rw [List.append_cons]
      exact ih _ hmore

theorem linesFrom_append {cs : List Char} (hcs : '\n' ∉ cs) (taken rest : List Char) :
    linesFrom taken (cs ++ '\n' :: rest) =
      closeLine (cs.reverse ++ taken) :: linesFrom [] rest := by
  induction cs generalizing taken with
  | nil => simp [linesFrom]
  | cons c cs ih =>
    obtain ⟨hc, hrest⟩ := not_or.1 (List.mem_cons.not.1 hcs)
    rw [List.cons_append, linesFrom, if_neg (Ne.symm hc), ih hrest]
    simp

theorem lines_append_feed {row : List Char} (hrow : '\n' ∉ row) (rest : List Char) :
    lines (row ++ '\n' :: rest) = closeLine row.reverse :: lines rest := by
  rw [lines, linesFrom_append hrow, List.append_nil, lines]

theorem linesFrom_last {cs : List Char} (hcs : '\n' ∉ cs) (taken : List Char) :
    linesFrom taken cs =
      if (cs.reverse ++ taken).isEmpty then [] else [(cs.reverse ++ taken).reverse] := by
  induction cs generalizing taken with
  | nil => rfl
  | cons c cs ih =>
    obtain ⟨hc, hrest⟩ := not_or.1 (List.mem_cons.not.1 hcs)
    rw [linesFrom, if_neg (Ne.symm hc), ih hrest]
    simp

/-- A text without a line feed is one line, unless it is empty. -/
theorem lines_last {cs : List Char} (hcs : '\n' ∉ cs) (hne : cs ≠ []) : lines cs = [cs] := by
  rw [lines, linesFrom_last hcs]
  simp [hne]

/-- At most one carriage return is missing from a line. -/
theorem closeLine_cases (row : List Char) :
    closeLine row.reverse = row ∨ row = closeLine row.reverse ++ ['\r'] := by
  unfold closeLine
  split
  · next rest hrev =>
    right
    rw [← List.reverse_cons, ← hrev, List.reverse_reverse]
  · exact .inl (List.reverse_reverse row)

theorem closeLine_of_last {row : List Char} (h : row.getLast? ≠ some '\r') :
    closeLine row.reverse = row := by
  rcases closeLine_cases row with hsame | hreturn
  · exact hsame
  · rw [hreturn] at h
    simp at h

theorem not_mem_closeLine {row : List Char} {c : Char} (h : c ∉ row) :
    c ∉ closeLine row.reverse := by
  rcases closeLine_cases row with hsame | hreturn
  · rwa [hsame]
  · rw [hreturn] at h
    exact fun hc => h (List.mem_append_left _ hc)

theorem feed_not_mem_lines {cs line : List Char} (h : line ∈ lines cs) : '\n' ∉ line := by
  induction cs using feed_induction with
  | last cs hcs =>
    by_cases hne : cs = []
    · simp [hne] at h
    · rw [lines_last hcs hne, List.mem_singleton] at h
      rwa [h]
  | feed row rest hrow ih =>
    rw [lines_append_feed hrow, List.mem_cons] at h
    rcases h with rfl | h
    · exact not_mem_closeLine hrow
    · exact ih h

/-- Rows with a line feed after each of them. -/
def joinLines (rows : List (List Char)) : List Char :=
  rows.flatMap fun row => row ++ ['\n']

@[simp] theorem joinLines_nil : joinLines [] = [] := rfl

theorem joinLines_cons (row : List Char) (rows : List (List Char)) :
    joinLines (row :: rows) = row ++ '\n' :: joinLines rows := by
  simp [joinLines]

theorem joinLines_append (rows more : List (List Char)) :
    joinLines (rows ++ more) = joinLines rows ++ joinLines more :=
  List.flatMap_append

theorem getLast?_joinLines {rows : List (List Char)} (h : rows ≠ []) :
    (joinLines rows).getLast? = some '\n' := by
  obtain ⟨front, row, rfl⟩ := (List.eq_nil_or_concat rows).resolve_left h
  rw [List.concat_eq_append, joinLines_append, joinLines_cons]
  simp

/-- Joined rows are read back with a carriage return less where there is one at the end. -/
theorem lines_joinLines {rows : List (List Char)} (h : ∀ row ∈ rows, '\n' ∉ row) :
    lines (joinLines rows) = rows.map fun row => closeLine row.reverse := by
  induction rows with
  | nil => rfl
  | cons row rows ih =>
    obtain ⟨hrow, hrows⟩ := List.forall_mem_cons.1 h
    rw [joinLines_cons, lines_append_feed hrow, ih hrows, List.map_cons]

/-! Blank characters at the end of a line. -/

theorem trimEnd_eq (cs : List Char) : trimEnd cs = cs.rdropWhile isBlank := rfl

theorem trimEnd_append_gap (cs : List Char) :
    ∃ gap : List Char, cs = trimEnd cs ++ gap ∧ ∀ c ∈ gap, isBlank c = true :=
  ⟨cs.rtakeWhile isBlank, List.rdropWhile_append_rtakeWhile.symm,
    fun _ hc => List.mem_rtakeWhile_imp hc⟩

theorem getLast?_trimEnd {cs : List Char} {c : Char} (h : c ∈ (trimEnd cs).getLast?) :
    isBlank c = false := by
  have hne : trimEnd cs ≠ [] := by
    rintro hnil
    simp [hnil] at h
  obtain rfl : (trimEnd cs).getLast hne = c := by simpa [List.getLast?_eq_some_getLast hne] using h
  exact Bool.eq_false_iff.2 (List.rdropWhile_last_not _ _ hne)

theorem trimEnd_eq_self {cs : List Char} (h : ∀ c ∈ cs.getLast?, isBlank c = false) :
    trimEnd cs = cs := by
  refine List.rdropWhile_eq_self_iff.2 fun hne => ?_
  simp [h _ (List.getLast?_eq_some_getLast hne)]

theorem trimEnd_trimEnd (cs : List Char) : trimEnd (trimEnd cs) = trimEnd cs :=
  List.rdropWhile_idempotent _ _

theorem trimEnd_eq_nil {cs : List Char} : trimEnd cs = [] ↔ isBlankText cs = true := by
  rw [trimEnd_eq, List.rdropWhile_eq_nil_iff, isBlankText, List.all_eq_true]

theorem isBlankText_trimEnd (cs : List Char) : isBlankText (trimEnd cs) = isBlankText cs := by
  rw [Bool.eq_iff_iff, ← trimEnd_eq_nil, ← trimEnd_eq_nil, trimEnd_trimEnd]

theorem feed_not_mem_trimEnd {cs : List Char} (h : '\n' ∉ cs) : '\n' ∉ trimEnd cs :=
  fun hmem => h ((List.rdropWhile_prefix _ _).subset hmem)

/-- Rows that do not end in a blank are read back as they are. -/
theorem lines_joinLines_of_trimmed {rows : List (List Char)}
    (h : ∀ row ∈ rows, '\n' ∉ row ∧ trimEnd row = row) : lines (joinLines rows) = rows := by
  have hclose : ∀ row ∈ rows, closeLine row.reverse = row := by
    intro row hrow
    refine closeLine_of_last fun hreturn => ?_
    rw [← (h row hrow).2] at hreturn
    have hblank := getLast?_trimEnd hreturn
    exact absurd hblank (by decide)
  rw [lines_joinLines fun row hrow => (h row hrow).1]
  exact (List.map_congr_left hclose).trans (List.map_id' rows)

end SourceReducer
