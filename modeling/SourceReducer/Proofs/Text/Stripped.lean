import SourceReducer.Proofs.Text.Normal

/-! Texts without blank lines. Every line that is kept gets a line feed, so that a carriage return
at its end becomes a part of the line end. Leaving blank lines out twice therefore differs from
doing it once exactly where such a line is kept. -/
namespace SourceReducer

/-- A line without the carriage return at its end, if there is one. -/
def dropReturn (row : List Char) : List Char :=
  if row.getLast? = some '\r' then row.dropLast else row

theorem dropReturn_of_last {row : List Char} (h : row.getLast? ≠ some '\r') :
    dropReturn row = row :=
  if_neg h

theorem dropReturn_append_return (row : List Char) : dropReturn (row ++ ['\r']) = row := by
  simp [dropReturn]

/-- A row loses a carriage return when it is read as a line. -/
theorem closeLine_eq_dropReturn (row : List Char) : closeLine row.reverse = dropReturn row := by
  by_cases h : row.getLast? = some '\r'
  · obtain ⟨front, rfl⟩ := List.getLast?_eq_some_iff.1 h
    rw [dropReturn_append_return, List.reverse_concat]
    exact List.reverse_reverse front
  · rw [closeLine_of_last h, dropReturn_of_last h]

theorem dropReturn_eq_self_iff {row : List Char} :
    dropReturn row = row ↔ row.getLast? ≠ some '\r' := by
  constructor
  · intro hsame hreturn
    obtain ⟨front, rfl⟩ := List.getLast?_eq_some_iff.1 hreturn
    rw [dropReturn_append_return] at hsame
    have hlength := congrArg List.length hsame
    simp at hlength
  · exact dropReturn_of_last

theorem map_dropReturn_eq_self_iff {rows : List (List Char)} :
    rows.map dropReturn = rows ↔ ∀ row ∈ rows, row.getLast? ≠ some '\r' := by
  have hmap : rows.map dropReturn = rows.map id ↔ ∀ row ∈ rows, dropReturn row = id row :=
    List.map_inj_left
  rw [List.map_id] at hmap
  exact hmap.trans (forall₂_congr fun _ _ => dropReturn_eq_self_iff)

/-- A carriage return is blank, so that a line without it is blank only if the line was. -/
theorem isBlankText_dropReturn (row : List Char) :
    isBlankText (dropReturn row) = isBlankText row := by
  by_cases h : row.getLast? = some '\r'
  · obtain ⟨front, rfl⟩ := List.getLast?_eq_some_iff.1 h
    have hblank : isBlank '\r' = true := by decide
    simp [dropReturn_append_return, isBlankText, hblank]
  · rw [dropReturn_of_last h]

/-! Rows can be read off the text that they make. -/

theorem takeWhile_append_feed {row : List Char} (hrow : '\n' ∉ row) (rest : List Char) :
    (row ++ '\n' :: rest).takeWhile (· != '\n') = row := by
  rw [List.takeWhile_append_of_pos, List.takeWhile_cons_of_neg (by simp), List.append_nil]
  intro c hc
  exact bne_iff_ne.2 fun heq => hrow (heq ▸ hc)

theorem row_eq_of_append_feed {row other rest more : List Char} (hrow : '\n' ∉ row)
    (hother : '\n' ∉ other) (h : row ++ '\n' :: rest = other ++ '\n' :: more) :
    row = other ∧ rest = more := by
  have hsame : row = other := by
    rw [← takeWhile_append_feed hrow rest, h, takeWhile_append_feed hother]
  rw [hsame] at h
  exact ⟨hsame, (List.cons.inj (List.append_cancel_left h)).2⟩

theorem joinLines_inj {rows more : List (List Char)} (hrows : ∀ row ∈ rows, '\n' ∉ row)
    (hmore : ∀ row ∈ more, '\n' ∉ row) (h : joinLines rows = joinLines more) : rows = more := by
  induction rows generalizing more with
  | nil =>
    cases more with
    | nil => rfl
    | cons row more => simp [joinLines_cons] at h
  | cons row rows ih =>
    cases more with
    | nil => simp [joinLines_cons] at h
    | cons other more =>
      obtain ⟨hrow, hbelow⟩ := List.forall_mem_cons.1 hrows
      obtain ⟨hother, hbehind⟩ := List.forall_mem_cons.1 hmore
      rw [joinLines_cons, joinLines_cons] at h
      obtain ⟨hfirst, hrest⟩ := row_eq_of_append_feed hrow hother h
      rw [hfirst, ih hbelow hbehind hrest]

/-! Stripped texts. -/

theorem stripBlankLines_eq (text : String) :
    stripBlankLines text = String.ofList (joinLines (solidLines (lines text.toList))) := rfl

theorem feed_not_mem_solidLines {cs row : List Char} (h : row ∈ solidLines (lines cs)) :
    '\n' ∉ row :=
  feed_not_mem_lines (List.mem_filter.1 h).1

theorem feed_not_mem_dropReturn {row : List Char} (h : '\n' ∉ row) : '\n' ∉ dropReturn row :=
  closeLine_eq_dropReturn row ▸ not_mem_closeLine h

theorem lines_stripBlankLines (text : String) :
    lines (stripBlankLines text).toList = (solidLines (lines text.toList)).map dropReturn := by
  rw [stripBlankLines_eq, String.toList_ofList,
    lines_joinLines fun row hrow => feed_not_mem_solidLines hrow]
  exact List.map_congr_left fun row _ => closeLine_eq_dropReturn row

theorem isBlankText_of_mem_solidLines {rows : List (List Char)} {row : List Char}
    (h : row ∈ solidLines rows) : isBlankText row = false := by
  simpa using (List.mem_filter.1 h).2

/-- No line of a stripped text is blank. -/
theorem solidLines_map_dropReturn (rows : List (List Char)) :
    solidLines ((solidLines rows).map dropReturn) = (solidLines rows).map dropReturn := by
  apply List.filter_eq_self.2
  intro line hline
  obtain ⟨row, hrow, rfl⟩ := List.mem_map.1 hline
  rw [isBlankText_dropReturn, isBlankText_of_mem_solidLines hrow]
  rfl

theorem stripBlankLines_twice (text : String) :
    stripBlankLines (stripBlankLines text) =
      String.ofList (joinLines ((solidLines (lines text.toList)).map dropReturn)) := by
  rw [stripBlankLines_eq (stripBlankLines text), lines_stripBlankLines, solidLines_map_dropReturn]

/-- The lines of a stripped text are those of the text that are not blank, each without a carriage
return at its end, and none of them is blank. Stripping a text twice is the same as stripping it
once exactly if no line of it that is not blank ends in a carriage return. -/
theorem stripBlankLines_keeps_solid_lines (text : String) :
    let given := lines text.toList
    let kept := lines (stripBlankLines text).toList
    kept = (given.filter fun line => !isBlankText line).map dropReturn ∧
      (∀ line ∈ kept, isBlankText line = false) ∧
      (stripBlankLines (stripBlankLines text) = stripBlankLines text ↔
        ∀ line ∈ given, isBlankText line = false → line.getLast? ≠ some '\r') := by
  intro given kept
  have hkept : kept = (solidLines given).map dropReturn := lines_stripBlankLines text
  constructor
  · exact hkept
  constructor
  · intro line hline
    rw [hkept, ← solidLines_map_dropReturn] at hline
    exact isBlankText_of_mem_solidLines hline
  · have hfeed : ∀ row ∈ solidLines given, '\n' ∉ row :=
      fun row hrow => feed_not_mem_solidLines hrow
    have hfeed' : ∀ row ∈ (solidLines given).map dropReturn, '\n' ∉ row :=
      List.forall_mem_map.2 fun row hrow => feed_not_mem_dropReturn (hfeed row hrow)
    -- the text is the same if its rows are, and these are if none of them gets shorter
    have hrows : stripBlankLines (stripBlankLines text) = stripBlankLines text ↔
        (solidLines given).map dropReturn = solidLines given := by
      rw [stripBlankLines_twice, stripBlankLines_eq]
      constructor
      · intro hsame
        exact joinLines_inj hfeed' hfeed (String.ofList_injective hsame)
      · exact fun hsame => congrArg (fun rows => String.ofList (joinLines rows)) hsame
    rw [hrows, map_dropReturn_eq_self_iff]
    simp [solidLines]

example : stripBlankLines "\n a\r\r\n\r\r\nb" = " a\r\nb\n" := by decide

example : stripBlankLines " a\r\nb\n" = " a\nb\n" := by decide

end SourceReducer
