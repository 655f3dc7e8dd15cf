import SourceReducer.Proofs.Statement.Shape
import SourceReducer.Proofs.Text.Normal
import SourceReducer.Statement.Language

/-! The canonical layout of programs. It reads as the same tokens, laying a text out twice changes
nothing, and no line of a layout is blank. What a text parses to, and what cutting nodes out of it
leaves, depends on its tokens only. -/
namespace SourceReducer.Statement

/-- Whether a word has characters and none of them is a break. -/
def Word.Proper (w : Word) : Prop :=
  w.text ≠ [] ∧ ∀ c ∈ w.text, isBreak c = false

/-- Whether all words of items are proper. -/
def WordsProper (items : List Item) : Prop :=
  ∀ w, .word w ∈ items.flatMap Item.tokens → w.Proper

theorem wordsProper_of_readProgram {text : String} {items : List Item}
    (h : readProgram text = .ok items) : WordsProper items := by
  intro w hw
  rw [(readProgram_sound h).1] at hw
  obtain ⟨left, right, -, -, hfits⟩ := mem_tokens hw
  exact ⟨hfits.1, hfits.2.1⟩

theorem WordsProper.of_block {start close : Nat} {body rest : List Item}
    (h : WordsProper (.block start close body :: rest)) : WordsProper body ∧ WordsProper rest := by
  constructor
  · intro w hw
    exact h w (by simp_all [Item.tokens])
  · intro w hw
    exact h w (by simp_all [Item.tokens])

theorem WordsProper.of_statement {words : List Word} {close : Nat} {rest : List Item}
    (h : WordsProper (.statement words close :: rest)) :
    (∀ w ∈ words, w.Proper) ∧ WordsProper rest := by
  constructor
  · intro w hw
    exact h w (by simp_all [Item.tokens])
  · intro w hw
    exact h w (by simp_all [Item.tokens])

/-! What a layout reads as. -/

theorem joinWords_cons_cons (w v : Word) (rest : List Word) :
    joinWords (w :: v :: rest) = w.text ++ ' ' :: joinWords (v :: rest) := rfl

theorem lexemes_joinWords {words : List Word} (h : ∀ w ∈ words, w.Proper) :
    lexemes (joinWords words) = words.map Word.text := by
  induction words with
  | nil => rfl
  | cons w words ih =>
    obtain ⟨hne, hw⟩ := h w (by simp)
    have hrest := ih fun v hv => h v (by simp [hv])
    cases words with
    | nil =>
      have hone : lexemes (w.text ++ []) = w.text :: lexemes [] :=
        lexemes_word_append hw hne (by simp)
      simpa [joinWords] using hone
    | cons v words =>
      have hblank : isBlank ' ' = true := by decide
      have hspace : lexemes (' ' :: joinWords (v :: words)) = lexemes (joinWords (v :: words)) :=
        lexemes_blank_append (by simp [hblank] : ∀ c ∈ [' '], isBlank c = true) _
      rw [joinWords_cons_cons, lexemes_word_append hw hne (by simp [isBreak_of_isBlank hblank]),
        hspace, hrest]
      rfl

theorem lexemes_layout_append (row : Row) (rest : List Char) :
    lexemes (row.layout ++ rest) = lexemes row.text ++ lexemes rest := by
  have hspace : isBlank ' ' = true := by decide
  have hline : isBlank '\n' = true := by decide
  have happ : row.layout ++ rest =
      List.replicate (2 * row.depth) ' ' ++ (row.text ++ '\n' :: rest) := by simp [Row.layout]
  rw [happ, lexemes_blank_append (by simp [hspace]), lexemes_append_break _ _
    (isBreak_of_isBlank hline), breakLexeme_of_isBlank hline, List.append_nil]

theorem lexemes_rows (rows : List Row) :
    lexemes (rows.flatMap Row.layout) = rows.flatMap fun row => lexemes row.text := by
  induction rows with
  | nil => rfl
  | cons row rows ih => rw [List.flatMap_cons, lexemes_layout_append, ih, List.flatMap_cons]

theorem lexemes_itemsRows {items : List Item} (h : WordsProper items) (depth : Nat) :
    (itemsRows depth items).flatMap (fun row => lexemes row.text) =
      (items.flatMap Item.tokens).map Token.text := by
  induction items using items_induction generalizing depth with
  | nil => rfl
  | block start close body rest hbody hrest =>
    obtain ⟨hb, hr⟩ := h.of_block
    have hopen : lexemes ['{'] = [['{']] := by decide
    have hclose : lexemes ['}'] = [['}']] := by decide
    simp [itemsRows, Item.rows, Item.tokens, Token.text, hbody hb, hrest hr, hopen, hclose]
  | statement words close rest hrest =>
    obtain ⟨hw, hr⟩ := h.of_statement
    have hsemi : isBreak ';' = true := by decide
    have hend : breakLexeme ';' = [[';']] := by decide
    have hwords : lexemes (joinWords words ++ [';']) = words.map Word.text ++ [[';']] := by
      rw [lexemes_append_break _ _ hsemi, lexemes_joinWords hw, hend, lexemes_nil, List.append_nil]
    simp [itemsRows, Item.rows, Item.tokens, Token.text, hrest hr, hwords, Function.comp_def]

/-- Laying a text out does not change its tokens. -/
theorem lexemes_reformat (text : String) :
    lexemes (reformat text).toList = lexemes text.toList := by
  unfold reformat
  cases h : readProgram text with
  | error e => rfl
  | ok items =>
    simp only [String.toList_ofList]
    rw [itemsLayout, lexemes_rows, lexemes_itemsRows (wordsProper_of_readProgram h),
      (readProgram_sound h).1, lexemes]

/-! The layout depends on the tokens only. -/

theorem joinWords_map_bare (words : List Word) :
    joinWords (words.map fun w => { w with start := 0 }) = joinWords words := by
  induction words with
  | nil => rfl
  | cons w words ih =>
    cases words with
    | nil => rfl
    | cons v words =>
      rw [List.map_cons] at ih ⊢
      rw [List.map_cons, joinWords_cons_cons, joinWords_cons_cons, ih]

theorem itemsRows_map_bare (items : List Item) (depth : Nat) :
    itemsRows depth (items.map Item.bare) = itemsRows depth items := by
  induction items using items_induction generalizing depth with
  | nil => rfl
  | block start close body rest hbody hrest =>
    simp [itemsRows, Item.rows, Item.bare, hbody, hrest]
  | statement words close rest hrest =>
    simp [itemsRows, Item.rows, Item.bare, joinWords_map_bare, hrest]

theorem readProgram_congr {a b : String} {items : List Item}
    (h : lexemes a.toList = lexemes b.toList) (ha : readProgram a = .ok items) :
    ∃ items', readProgram b = .ok items' ∧ items.map Item.bare = items'.map Item.bare := by
  have hsame := sameReading_of_lexemes h
  rw [ha] at hsame
  cases hb : readProgram b with
  | error e =>
    rw [hb] at hsame
    cases hsame
  | ok items' =>
    rw [hb] at hsame
    exact ⟨items', rfl, hsame⟩

theorem reformat_congr {a b : String} {items : List Item} (h : lexemes a.toList = lexemes b.toList)
    (ha : readProgram a = .ok items) : reformat a = reformat b := by
  obtain ⟨items', hb, hbare⟩ := readProgram_congr h ha
  have hrows : itemsRows 0 items = itemsRows 0 items' := by
    rw [← itemsRows_map_bare items, hbare, itemsRows_map_bare]
  simp only [reformat, ha, hb, itemsLayout, hrows]

/-- A layout is not changed by laying it out again. -/
theorem reformat_reformat (text : String) : reformat (reformat text) = reformat text := by
  cases hread : readProgram text with
  | error e =>
    have hsame : reformat text = text := by simp only [reformat, hread]
    rw [hsame, hsame]
  | ok items => exact (reformat_congr (lexemes_reformat text).symm hread).symm

/-! Lines of a layout. -/

/-- A line that stays as it is: it has no line feed, does not end in a carriage return, and is not
blank. -/
def PlainLine (cs : List Char) : Prop :=
  (∀ c ∈ cs, c ≠ '\n') ∧ (∀ c ∈ cs.getLast?, isBlank c = false) ∧ cs ≠ []

theorem isBlankText_of_plainLine {cs : List Char} (h : PlainLine cs) : isBlankText cs = false := by
  obtain ⟨-, hlast, hne⟩ := h
  rw [Bool.eq_false_iff, Ne, ← trimEnd_eq_nil, trimEnd_eq_self hlast]
  exact hne

theorem lines_of_plainLines {rows : List (List Char)} (h : ∀ row ∈ rows, PlainLine row) :
    lines (joinLines rows) = rows :=
  lines_joinLines_of_trimmed fun row hrow =>
    ⟨fun hfeed => (h row hrow).1 _ hfeed rfl, trimEnd_eq_self (h row hrow).2.1⟩

theorem stripBlankLines_lines {rows : List (List Char)} (h : ∀ row ∈ rows, PlainLine row) :
    stripBlankLines (String.ofList (joinLines rows)) = String.ofList (joinLines rows) := by
  have hkept : (rows.filter fun row => !isBlankText row) = rows := by
    rw [List.filter_eq_self]
    intro row hrow
    simp [isBlankText_of_plainLine (h row hrow)]
  rw [stripBlankLines, String.toList_ofList, lines_of_plainLines h, hkept, joinLines]

theorem normal_of_plainLines {rows : List (List Char)} (h : ∀ row ∈ rows, PlainLine row) :
    Normal rows := by
  induction rows with
  | nil => exact ⟨by simp, .nil, by simp⟩
  | cons row rows ih =>
    obtain ⟨hrow, hrows⟩ := List.forall_mem_cons.1 h
    exact (ih hrows).cons (trimEnd_eq_self hrow.2.1) (by simp [isBlankText_of_plainLine hrow])

theorem normalizeWhitespace_lines {rows : List (List Char)} (h : ∀ row ∈ rows, PlainLine row) :
    normalizeWhitespace (String.ofList (joinLines rows)) = String.ofList (joinLines rows) :=
  normalizeWhitespace_joinLines (normal_of_plainLines h)
    (fun row hrow => isBlankText_of_plainLine (h row (List.mem_of_mem_head? hrow)))
    fun row hrow hfeed => (h row hrow).1 _ hfeed rfl

theorem not_isBreak_of_mem_joinWords {words : List Word} (h : ∀ w ∈ words, w.Proper) {c : Char}
    (hc : c ∈ joinWords words) : c = ' ' ∨ isBreak c = false := by
  induction words with
  | nil => simp [joinWords] at hc
  | cons w words ih =>
    have hw := (h w (by simp)).2
    cases words with
    | nil => exact .inr (hw c hc)
    | cons v words =>
      rw [joinWords_cons_cons, List.mem_append, List.mem_cons] at hc
      rcases hc with hc | rfl | hc
      · exact .inr (hw c hc)
      · exact .inl rfl
      · exact ih (fun u hu => h u (by simp [hu])) hc

theorem plainLine_indented (depth : Nat) (front : List Char) {c : Char}
    (hfront : ∀ x ∈ front, x ≠ '\n') (hline : c ≠ '\n') (hblank : isBlank c = false) :
    PlainLine (List.replicate (2 * depth) ' ' ++ (front ++ [c])) := by
  refine ⟨?_, ?_, by simp⟩
  · intro x hx
    simp only [List.mem_append, List.mem_replicate, List.mem_singleton] at hx
    rcases hx with ⟨-, rfl⟩ | hx | rfl
    · decide
    · exact hfront x hx
    · exact hline
  · simpa [List.getLast?_append] using hblank

theorem plainLine_of_mem_itemsRows {items : List Item} (h : WordsProper items) {depth : Nat}
    {row : Row} (hrow : row ∈ itemsRows depth items) :
    PlainLine (List.replicate (2 * row.depth) ' ' ++ row.text) := by
  induction items using items_induction generalizing depth with
  | nil => simp [itemsRows] at hrow
  | block start close body rest hbody hrest =>
    obtain ⟨hb, hr⟩ := h.of_block
    simp only [itemsRows, Item.rows, List.cons_append, List.mem_cons, List.mem_append,
      List.not_mem_nil, or_false] at hrow
    rcases hrow with rfl | (hrow | rfl) | hrow
    · exact plainLine_indented depth [] (by simp) (by decide) (by decide)
    · exact hbody hb hrow
    · exact plainLine_indented depth [] (by simp) (by decide) (by decide)
    · exact hrest hr hrow
  | statement words close rest hrest =>
    obtain ⟨hw, hr⟩ := h.of_statement
    simp only [itemsRows, Item.rows, List.cons_append, List.nil_append, List.mem_cons] at hrow
    rcases hrow with rfl | hrow
    · refine plainLine_indented depth (joinWords words) (fun x hx => ?_) (by decide) (by decide)
      rcases not_isBreak_of_mem_joinWords hw hx with rfl | hbreak
      · decide
      · rintro rfl
        exact absurd hbreak (by decide)
    · exact hrest hr hrow

/-- A layout is made of lines that stay as they are. -/
theorem exists_plainLines_of_reformat {text : String} {items : List Item}
    (h : readProgram text = .ok items) :
    ∃ rows : List (List Char), reformat text = String.ofList (joinLines rows) ∧
      ∀ row ∈ rows, PlainLine row := by
  refine ⟨(itemsRows 0 items).map fun row => List.replicate (2 * row.depth) ' ' ++ row.text, ?_, ?_⟩
  · simp only [reformat, h, itemsLayout, joinLines, List.flatMap_map]
    rfl
  · intro line hline
    obtain ⟨row, hrow, rfl⟩ := List.mem_map.1 hline
    exact plainLine_of_mem_itemsRows (wordsProper_of_readProgram h) hrow

/-- A layout has no blank lines. -/
theorem stripBlankLines_reformat {text : String} {items : List Item}
    (h : readProgram text = .ok items) : stripBlankLines (reformat text) = reformat text := by
  obtain ⟨rows, hlayout, hplain⟩ := exists_plainLines_of_reformat h
  rw [hlayout]
  exact stripBlankLines_lines hplain

/-- The white space of a layout is normalized. -/
theorem normalizeWhitespace_reformat {text : String} {items : List Item}
    (h : readProgram text = .ok items) : normalizeWhitespace (reformat text) = reformat text := by
  obtain ⟨rows, hlayout, hplain⟩ := exists_plainLines_of_reformat h
  rw [hlayout]
  exact normalizeWhitespace_lines hplain

/-! What depends on the tokens only. -/

section Congr

variable {a b : String} {ta tb : Tree}

theorem exists_parse {text : String} (h : (parse text).isOk = true) :
    ∃ tree, parse text = .ok tree := by
  cases hparse : parse text with
  | error error => simp [hparse, Except.isOk, Except.toBool] at h
  | ok tree => exact ⟨tree, rfl⟩

theorem parse_congr (h : lexemes a.toList = lexemes b.toList) (ha : parse a = .ok ta) :
    ∃ t, parse b = .ok t := by
  obtain ⟨items, hread, -⟩ := parse_eq_ok_iff.1 ha
  obtain ⟨items', hread', -⟩ := readProgram_congr h hread
  exact ⟨_, parse_eq_ok_iff.2 ⟨items', hread', rfl⟩⟩

theorem outline_congr (h : lexemes a.toList = lexemes b.toList) (ha : parse a = .ok ta)
    (hb : parse b = .ok tb) : ta.outline a = tb.outline b := by
  obtain ⟨items, hread, rfl⟩ := parse_eq_ok_iff.1 ha
  obtain ⟨items', hread', rfl⟩ := parse_eq_ok_iff.1 hb
  obtain ⟨items'', hread'', hbare⟩ := readProgram_congr h hread
  obtain rfl : items' = items'' := by simpa [hread'] using hread''
  rw [outline_of_readProgram hread, outline_of_readProgram hread', programShape_congr hbare]

theorem size_congr (h : lexemes a.toList = lexemes b.toList) (ha : parse a = .ok ta)
    (hb : parse b = .ok tb) : ta.size = tb.size := by
  have := congrArg List.length (outline_congr h ha hb)
  simpa using this

theorem isUnder_congr (h : lexemes a.toList = lexemes b.toList) (ha : parse a = .ok ta)
    (hb : parse b = .ok tb) : ta.isUnder = tb.isUnder := by
  have hparent : ta.parent? = tb.parent? := by
    funext i
    rw [ta.parent?_eq_outline a, tb.parent?_eq_outline b, outline_congr h ha hb]
  have hlineage (fuel i : Nat) : ta.lineageWithin fuel i = tb.lineageWithin fuel i := by
    induction fuel generalizing i with
    | zero => rfl
    | succ fuel ih => simp only [Tree.lineageWithin, hparent, ih]
  funext chosen i
  rw [Tree.isUnder, Tree.isUnder, Tree.lineage, Tree.lineage, size_congr h ha hb, hlineage]

@[simp] theorem Token.text_bare (tk : Token) : tk.bare.text = tk.text := by
  cases tk <;> rfl

theorem wordsOwned_map_bare (base : Nat) (words : List Word) :
    wordsOwned base (words.map fun w => { w with start := 0 }) =
      (wordsOwned base words).map (Prod.map id Token.bare) := by
  induction words generalizing base with
  | nil => rfl
  | cons w words ih => simp [wordsOwned, ih, Token.bare]

theorem itemsOwned_map_bare (base : Nat) (items : List Item) :
    itemsOwned base (items.map Item.bare) =
      (itemsOwned base items).map (Prod.map id Token.bare) := by
  induction items using items_induction generalizing base with
  | nil => rfl
  | block start close body rest hbody hrest =>
    simp [itemsOwned, Item.owned, Item.size, Item.bare, Token.bare, itemsSize_map_bare, hbody,
      hrest]
  | statement words close rest hrest =>
    simp [itemsOwned, Item.owned, Item.size, Item.bare, Token.bare, wordsOwned_map_bare, hrest]

/-- The texts of the tokens whose owners stay do not depend on where the program stands. -/
theorem keptTexts_congr {items items' : List Item} (h : items.map Item.bare = items'.map Item.bare)
    (base : Nat) (kept : Nat → Bool) :
    ((itemsOwned base items).filter fun p => kept p.1).map (fun p => p.2.text) =
      ((itemsOwned base items').filter fun p => kept p.1).map fun p => p.2.text := by
  have hbare (items : List Item) :
      ((itemsOwned base (items.map Item.bare)).filter fun p => kept p.1).map (fun p => p.2.text) =
        ((itemsOwned base items).filter fun p => kept p.1).map fun p => p.2.text := by
    rw [itemsOwned_map_bare, List.filter_map, List.map_map]
    exact List.map_congr_left fun p _ => p.2.text_bare
  rw [← hbare, h, hbare]

/-- What is left of a text after nodes were cut out reads the same for texts with the same
tokens. -/
theorem lexemes_exciseSpans_congr (h : lexemes a.toList = lexemes b.toList) (ha : parse a = .ok ta)
    (hb : parse b = .ok tb) (chosen : List Nat) :
    lexemes (exciseSpans a ta chosen).toList = lexemes (exciseSpans b tb chosen).toList := by
  have hunder := isUnder_congr h ha hb
  obtain ⟨items, hread, rfl⟩ := parse_eq_ok_iff.1 ha
  obtain ⟨items', hread', rfl⟩ := parse_eq_ok_iff.1 hb
  obtain ⟨items'', hread'', hbare⟩ := readProgram_congr h hread
  obtain rfl : items' = items'' := by simpa [hread'] using hread''
  rw [lexemes_exciseSpans hread, lexemes_exciseSpans hread', hunder]
  exact keptTexts_congr hbare 1 fun i => !Tree.isUnder _ chosen i

/-- What is left depends only on which nodes are chosen. -/
theorem lexemes_exciseSpans_chosen (ha : parse a = .ok ta) {chosen chosen' : List Nat}
    (h : ∀ i, i ∈ chosen ↔ i ∈ chosen') :
    lexemes (exciseSpans a ta chosen).toList = lexemes (exciseSpans a ta chosen').toList := by
  have hunder : ta.isUnder chosen = ta.isUnder chosen' := by
    funext i
    have hmem (j : Nat) : chosen.contains j = chosen'.contains j := by
      rw [Bool.eq_iff_iff, List.contains_iff_mem, List.contains_iff_mem, h]
    simp only [Tree.isUnder, hmem]
  obtain ⟨items, hread, rfl⟩ := parse_eq_ok_iff.1 ha
  rw [lexemes_exciseSpans hread, lexemes_exciseSpans hread, hunder]

end Congr

/-- Laying out is a canonical form of programs: a layout parses to the same tree apart from where
its nodes stand, two programs have the same layout exactly if they have the same tokens, and a
layout is changed neither by laying it out again nor by the layouts that work line by line. A text
that does not parse is not changed by laying it out a second time either. -/
theorem reformat_is_canonical (a b : String) (ta : Tree) (ha : language.parse a = .ok ta) :
    (∃ laid, language.parse (language.reformat a) = .ok laid ∧
        laid.outline (language.reformat a) = ta.outline a) ∧
      (language.reformat a = language.reformat b ↔ lexemes a.toList = lexemes b.toList) ∧
      stripBlankLines (language.reformat a) = language.reformat a ∧
      normalizeWhitespace (language.reformat a) = language.reformat a ∧
      ∀ text, language.reformat (language.reformat text) = language.reformat text := by
  have hparse : parse a = .ok ta := ha
  obtain ⟨items, hread, -⟩ := parse_eq_ok_iff.1 hparse
  have hsame : lexemes (reformat a).toList = lexemes a.toList := lexemes_reformat a
  refine ⟨?_, ?_, stripBlankLines_reformat hread, normalizeWhitespace_reformat hread,
    reformat_reformat⟩
  · obtain ⟨laid, hlaid⟩ := parse_congr hsame.symm hparse
    exact ⟨laid, hlaid, outline_congr hsame hlaid hparse⟩
  · constructor
    · intro heq
      have heq' : reformat a = reformat b := heq
      rw [← lexemes_reformat a, heq', lexemes_reformat b]
    · intro hlexemes
      exact reformat_congr hlexemes hread

/-- Two texts of one program, of which the first is on one line. -/
theorem reformat_twoSpellings :
    language.reformat "\x7bx  y;\x7dz;" = language.reformat "\n\x7b\n\n x y\n;\x7d z ;" ∧
      normalizeWhitespace (language.reformat "\x7bx  y;\x7dz;") =
        language.reformat "\x7bx  y;\x7dz;" ∧
      language.reformat "\x7bx  y;\x7dz;" = "\x7b\n  x y;\n\x7d\nz;\n" := by
  have hok : (parse "\x7bx  y;\x7dz;").isOk = true := by decide +kernel
  obtain ⟨tree, hparse⟩ := exists_parse hok
  obtain ⟨-, hiff, -, hnormal, -⟩ :=
    reformat_is_canonical "\x7bx  y;\x7dz;" "\n\x7b\n\n x y\n;\x7d z ;" tree hparse
  exact ⟨hiff.2 (by decide +kernel), hnormal, by decide +kernel⟩

end SourceReducer.Statement
