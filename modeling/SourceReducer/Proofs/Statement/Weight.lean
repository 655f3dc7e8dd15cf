import SourceReducer.Proofs.Statement.LineLayout

/-! How many nodes the tokens of a text can make. Every token but a closing brace stands for one
node: a word for itself, a semicolon for its statement and an opening brace for its block. The
number is there for texts that do not parse as well, and leaving characters out of a text never
raises it, wherever they stand. -/
namespace SourceReducer.Statement

/-- The number of tokens that stand for a node. -/
def weight (cs : List Char) : Nat :=
  (lexemes cs).countP fun lexeme => lexeme != ['}']

theorem weight_congr {cs ds : List Char} (h : lexemes cs = lexemes ds) : weight cs = weight ds := by
  rw [weight, weight, h]

/-! Programs. -/

theorem ne_closing_of_proper {w : Word} (hw : w.Proper) : w.text ≠ ['}'] := by
  intro h
  have hbreak : isBreak '}' = false := hw.2 '}' (by simp [h])
  exact absurd hbreak (by decide)

theorem countP_words {words : List Word} (h : ∀ w ∈ words, w.Proper) :
    (words.map Word.text).countP (fun lexeme => lexeme != ['}']) = words.length := by
  rw [← List.length_map Word.text, List.countP_eq_length]
  intro text htext
  obtain ⟨w, hw, rfl⟩ := List.mem_map.1 htext
  simpa using ne_closing_of_proper (h w hw)

theorem countP_tokens {items : List Item} (h : WordsProper items) :
    ((items.flatMap Item.tokens).map Token.text).countP (fun lexeme => lexeme != ['}']) =
      itemsSize items := by
  induction items using items_induction with
  | nil => rfl
  | block start close body rest hbody hrest =>
    obtain ⟨hb, hr⟩ := h.of_block
    simp only [List.flatMap_cons, Item.tokens, itemsTokens_eq_flatMap, List.map_append,
      List.map_cons, List.map_nil, Token.text, List.countP_append, List.countP_cons,
      List.countP_nil, hbody hb, hrest hr, itemsSize, Item.size]
    simp
  | statement words close rest hrest =>
    obtain ⟨hw, hr⟩ := h.of_statement
    have hwords : (words.map Token.word).map Token.text = words.map Word.text := by
      simp [Token.text]
    simp only [List.flatMap_cons, Item.tokens, List.map_append, hwords, List.map_cons, List.map_nil,
      Token.text, List.countP_append, List.countP_cons, List.countP_nil, countP_words hw, hrest hr,
      itemsSize, Item.size]
    simp

/-- The tree of a text has a node for each of these tokens, and its root. -/
theorem size_eq_weight {text : String} {tree : Tree} (h : parse text = .ok tree) :
    tree.size = weight text.toList + 1 := by
  obtain ⟨items, hread, rfl⟩ := parse_eq_ok_iff.1 h
  rw [size_treeOf, weight, lexemes, ← (readProgram_sound hread).1,
    countP_tokens (wordsProper_of_readProgram hread)]

/-! Layout. -/

theorem weight_reformat (text : String) : weight (reformat text).toList = weight text.toList :=
  weight_congr (lexemes_reformat text)

theorem weight_stripBlankLines (text : String) :
    weight (stripBlankLines text).toList = weight text.toList :=
  weight_congr (lexemes_stripBlankLines text)

/-! Leaving characters out. -/

/-- What a break adds to the weight. -/
def breakWeight (c : Char) : Nat :=
  if c = '{' ∨ c = ';' then 1 else 0

/-- The weight of a text, where a word that stands before it goes on or not. That word is not
counted. -/
def weightFrom (inWord : Bool) : List Char → Nat
  | [] => 0
  | c :: rest =>
      if isBreak c then breakWeight c + weightFrom false rest
      else (if inWord then 0 else 1) + weightFrom true rest

theorem countP_breakLexeme (c : Char) :
    (breakLexeme c).countP (fun lexeme => lexeme != ['}']) = breakWeight c := by
  unfold breakLexeme breakWeight delimiter?
  split_ifs <;> simp_all

theorem countP_closeLexeme {taken : List Char} (h : ∀ c ∈ taken, isBreak c = false) :
    (closeLexeme taken).countP (fun lexeme => lexeme != ['}']) =
      if taken.isEmpty then 0 else 1 := by
  unfold closeLexeme
  split
  · rfl
  · have hne : taken ≠ ['}'] := by
      rintro rfl
      exact absurd (h '}' (by simp)) (by decide)
    simp [hne]

theorem countP_lexemesFrom {taken : List Char} (h : ∀ c ∈ taken, isBreak c = false)
    (cs : List Char) :
    (lexemesFrom taken cs).countP (fun lexeme => lexeme != ['}']) =
      (if taken.isEmpty then 0 else 1) + weightFrom (!taken.isEmpty) cs := by
  induction cs generalizing taken with
  | nil => simp [lexemesFrom, weightFrom, countP_closeLexeme h]
  | cons c rest ih =>
    unfold lexemesFrom weightFrom
    split
    · have hfresh := @ih [] (by simp)
      simp only [List.countP_append, countP_closeLexeme h, countP_breakLexeme, hfresh,
        List.isEmpty_nil, Bool.not_true, if_true]
      omega
    · next hc =>
      have htaken : ∀ d ∈ c :: taken, isBreak d = false := by
        simpa using ⟨by simpa using hc, h⟩
      rw [ih htaken]
      cases taken <;> simp

theorem weight_eq_weightFrom (cs : List Char) : weight cs = weightFrom false cs := by
  rw [weight, lexemes_eq, countP_lexemesFrom (by simp)]
  simp

/-- A word that goes on saves the count of at most one word. -/
theorem weightFrom_inWord (cs : List Char) :
    weightFrom true cs ≤ weightFrom false cs ∧ weightFrom false cs ≤ weightFrom true cs + 1 := by
  cases cs with
  | nil => simp [weightFrom]
  | cons c rest =>
    unfold weightFrom
    split
    · exact ⟨Nat.le_refl _, Nat.le_succ _⟩
    · simp only [if_true, Bool.false_eq_true, if_false]
      omega

/-- Leaving characters out of a text does not raise its weight: where a break goes, two words become
one, and where a whole word goes, none is added. -/
theorem weightFrom_sublist {cs ds : List Char} (h : cs.Sublist ds) (inWord : Bool) :
    weightFrom inWord cs ≤ weightFrom inWord ds := by
  induction h generalizing inWord with
  | slnil => exact Nat.le_refl _
  | @cons cs ds c _ ih =>
    rw [weightFrom]
    split
    · have hfresh := ih false
      have hword := (weightFrom_inWord cs).1
      cases inWord <;> omega
    · have hword := ih true
      have hstart := (weightFrom_inWord cs).2
      cases inWord
      · simp only [Bool.false_eq_true, if_false]
        omega
      · simp only [if_true]
        omega
  | cons_cons c _ ih =>
    rw [weightFrom, weightFrom]
    split
    · exact Nat.add_le_add_left (ih false) _
    · exact Nat.add_le_add_left (ih true) _

theorem weight_sublist {cs ds : List Char} (h : cs.Sublist ds) : weight cs ≤ weight ds := by
  rw [weight_eq_weightFrom, weight_eq_weightFrom]
  exact weightFrom_sublist h false

theorem outside_sublist (gone : Nat → Bool) (offset : Nat) (cs : List Char) :
    (outside gone offset cs).Sublist cs := by
  induction cs generalizing offset with
  | nil => exact .slnil
  | cons c cs ih =>
    unfold outside
    split
    · exact (ih _).cons c
    · exact (ih _).cons_cons c

/-- The tree that gives the spans need not be that of the text. -/
theorem weight_exciseSpans_le (text : String) (tree : Tree) (chosen : List Nat) :
    weight (exciseSpans text tree chosen).toList ≤ weight text.toList := by
  rw [exciseSpans_eq, String.toList_ofList]
  exact weight_sublist (outside_sublist _ _ _)

end SourceReducer.Statement
