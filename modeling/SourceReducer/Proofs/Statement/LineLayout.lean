import SourceReducer.Proofs.Statement.Faults
import SourceReducer.Proofs.Statement.Layout

/-! Layouts that work line by line. Lines are cut and joined at blank characters only, and what is
left out of them is blank, so that a text keeps its tokens. What it parses to, or why it does not
parse, is then the same apart from places. -/
namespace SourceReducer.Statement

/-! Tokens line by line. -/

theorem lexemes_append_blank (cs rest : List Char) {c : Char} (hc : isBlank c = true) :
    lexemes (cs ++ c :: rest) = lexemes cs ++ lexemes rest := by
  rw [lexemes_append_break _ _ (isBreak_of_isBlank hc), breakLexeme_of_isBlank hc, List.append_nil]

theorem lexemes_append_blanks (cs : List Char) {gap : List Char}
    (hgap : ∀ c ∈ gap, isBlank c = true) :
    lexemes (cs ++ gap) = lexemes cs := by
  cases gap with
  | nil => rw [List.append_nil]
  | cons c gap =>
    obtain ⟨hc, hrest⟩ := List.forall_mem_cons.1 hgap
    have hnone : lexemes gap = [] := by simpa using lexemes_blank_append hrest []
    rw [lexemes_append_blank _ _ hc, hnone, List.append_nil]

theorem lexemes_of_isBlankText {cs : List Char} (h : isBlankText cs = true) : lexemes cs = [] :=
  lexemes_append_blanks [] (List.all_eq_true.1 h)

theorem lexemes_closeLine (row : List Char) : lexemes (closeLine row.reverse) = lexemes row := by
  rcases closeLine_cases row with hsame | hreturn
  · rw [hsame]
  · have hblank : ∀ c ∈ ['\r'], isBlank c = true := List.forall_mem_singleton.2 (by decide)
    conv_rhs => rw [hreturn, lexemes_append_blanks _ hblank]

theorem lexemes_trimEnd (cs : List Char) : lexemes (trimEnd cs) = lexemes cs := by
  obtain ⟨gap, happ, hgap⟩ := trimEnd_append_gap cs
  conv_rhs => rw [happ, lexemes_append_blanks _ hgap]

/-- A text reads as its lines do. -/
theorem lexemes_lines (cs : List Char) : (lines cs).flatMap lexemes = lexemes cs := by
  induction cs using feed_induction with
  | last cs hcs =>
    by_cases hne : cs = []
    · rw [hne]
      rfl
    · rw [lines_last hcs hne, List.flatMap_singleton]
  | feed row rest hrow ih =>
    have hfeed : isBlank '\n' = true := by decide
    rw [lines_append_feed hrow, List.flatMap_cons, lexemes_closeLine, ih,
      lexemes_append_blank _ _ hfeed]

/-- Joined rows read as the rows do. -/
theorem lexemes_joinLines (rows : List (List Char)) :
    lexemes (joinLines rows) = rows.flatMap lexemes := by
  induction rows with
  | nil => rfl
  | cons row rows ih =>
    have hfeed : isBlank '\n' = true := by decide
    rw [joinLines_cons, lexemes_append_blank _ _ hfeed, ih, List.flatMap_cons]

/-- Rows read as those of them do that are not blank. -/
theorem lexemes_solidLines (rows : List (List Char)) :
    (solidLines rows).flatMap lexemes = rows.flatMap lexemes := by
  induction rows using rows_induction with
  | nil => rfl
  | blank row rest h ih =>
    rw [solidLines_blank h, ih, List.flatMap_cons, lexemes_of_isBlankText h]
    rfl
  | solid row rest h ih => rw [solidLines_solid h, List.flatMap_cons, ih, List.flatMap_cons]

theorem lexemes_stripBlankLines (text : String) :
    lexemes (stripBlankLines text).toList = lexemes text.toList := by
  have hkept : (stripBlankLines text).toList = joinLines (solidLines (lines text.toList)) :=
    String.toList_ofList
  rw [hkept, lexemes_joinLines, lexemes_solidLines, lexemes_lines]

theorem lexemes_normalizeWhitespace (text : String) :
    lexemes (normalizeWhitespace text).toList = lexemes text.toList := by
  calc lexemes (normalizeWhitespace text).toList
      = (solidLines (normalRows text)).flatMap lexemes := by
        rw [normalizeWhitespace_eq, String.toList_ofList, lexemes_joinLines, lexemes_solidLines]
    _ = ((solidLines (lines text.toList)).map trimEnd).flatMap lexemes := by
        rw [normalRows, solidLines_layRows]
    _ = lexemes text.toList := by
        rw [List.flatMap_map, ← lexemes_lines, ← lexemes_solidLines]
        exact List.flatMap_congr fun row _ => lexemes_trimEnd row

/-! Programs. -/

/-- Whether two texts have the same tokens, and so are the same program apart from where its parts
stand, or fail to be one for the same reason. -/
structure SameProgram (a b : String) : Prop where
  tokens : (tokens a.toList).map Token.text = (tokens b.toList).map Token.text
  parses : (∃ tree, language.parse a = .ok tree) ↔ ∃ tree, language.parse b = .ok tree
  outlines : ∀ ta tb, language.parse a = .ok ta → language.parse b = .ok tb →
    ta.outline a = tb.outline b
  messages : ∀ ea eb, language.parse a = .error ea → language.parse b = .error eb →
    ea.fault.message = eb.fault.message

theorem sameProgram_of_lexemes {a b : String} (h : lexemes a.toList = lexemes b.toList) :
    SameProgram a b where
  tokens := h
  parses := by
    constructor
    · rintro ⟨ta, ha⟩
      exact parse_congr h ha
    · rintro ⟨tb, hb⟩
      exact parse_congr h.symm hb
  outlines _ _ := outline_congr h
  messages ea eb ha hb := by
    have hsame := sameReading_of_lexemes h
    have hreada : readProgram a = .error ea := parse_eq_error_iff.1 ha
    have hreadb : readProgram b = .error eb := parse_eq_error_iff.1 hb
    rw [hreada, hreadb] at hsame
    exact congrArg SyntaxFault.message hsame

/-- Normalizing white space and leaving blank lines out keep the program that a text is, and the
reason for which it is none. -/
theorem line_layouts_keep_program (text : String) :
    SameProgram (normalizeWhitespace text) text ∧ SameProgram (stripBlankLines text) text :=
  ⟨sameProgram_of_lexemes (lexemes_normalizeWhitespace text),
    sameProgram_of_lexemes (lexemes_stripBlankLines text)⟩

end SourceReducer.Statement
