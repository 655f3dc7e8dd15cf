import SourceReducer.Proofs.Statement.Shape
import SourceReducer.Statement.Language

/-! The grammar of programs. A text falls into delimiters and words that are as long as they can be,
and a program is made of blocks of items and of statements of words. A text parses exactly if its
tokens are those of a program. There is only one such program, and the tree has its nodes, each
before those below it. -/
namespace SourceReducer.Statement

def delimiters : List Char :=
  ['{', '}', ';']

/-- Whether a character can stand in a word. -/
def IsPlain (c : Char) : Prop :=
  c ∉ delimiters ∧ isBlank c = false

/-- How characters fall into tokens. A word ends where no further character belongs to it. -/
inductive Lexed : List Char → List (List Char) → Prop
  | nil : Lexed [] []
  | blank {c : Char} {rest : List Char} {ls : List (List Char)} (hc : isBlank c = true)
      (hrest : Lexed rest ls) : Lexed (c :: rest) ls
  | delimiter {c : Char} {rest : List Char} {ls : List (List Char)} (hc : c ∈ delimiters)
      (hrest : Lexed rest ls) : Lexed (c :: rest) ([c] :: ls)
  | word {w rest : List Char} {ls : List (List Char)} (hne : w ≠ []) (hw : ∀ c ∈ w, IsPlain c)
      (hend : ∀ c ∈ rest.head?, ¬IsPlain c) (hrest : Lexed rest ls) : Lexed (w ++ rest) (w :: ls)

/-- An item without its place: a block of items, or a statement of words. -/
inductive Phrase
  | block (body : List Phrase)
  | statement (words : List (List Char))

/-- The grammar: `program := item*` and `item := '{' item* '}' | word+ ';'`. -/
inductive Derives : List Phrase → List (List Char) → Prop
  | nil : Derives [] []
  | block {body rest : List Phrase} {inner ls : List (List Char)} (hbody : Derives body inner)
      (hrest : Derives rest ls) :
      Derives (.block body :: rest) (['{'] :: inner ++ ['}'] :: ls)
  | statement {words : List (List Char)} {rest : List Phrase} {ls : List (List Char)}
      (hne : words ≠ []) (hwords : ∀ w ∈ words, w ∉ delimiters.map ([·]))
      (hrest : Derives rest ls) : Derives (.statement words :: rest) (words ++ [';'] :: ls)

/-! Tokens. -/

theorem isBreak_iff {c : Char} : isBreak c = true ↔ c ∈ delimiters ∨ isBlank c = true := by
  unfold isBreak delimiter? delimiters
  split_ifs with h₁ h₂ h₃
  · simp [h₁]
  · simp [h₂]
  · simp [h₃]
  · simp [h₁, h₂, h₃]

theorem isPlain_iff {c : Char} : IsPlain c ↔ isBreak c = false := by
  rw [← Bool.not_eq_true, isBreak_iff]
  simp [IsPlain]

theorem breakLexeme_of_mem_delimiters {c : Char} (hc : c ∈ delimiters) : breakLexeme c = [[c]] := by
  simp only [delimiters, List.mem_cons, List.not_mem_nil, or_false] at hc
  rcases hc with rfl | rfl | rfl <;> rfl

/-- No text falls into tokens in another way. -/
theorem Lexed.eq_lexemes {cs : List Char} {ls : List (List Char)} (h : Lexed cs ls) :
    ls = lexemes cs := by
  induction h with
  | nil => rfl
  | @blank c rest ls hc _ ih =>
    have hgap : ∀ x ∈ [c], isBlank x = true := by simpa using hc
    rw [ih]
    exact (lexemes_blank_append hgap rest).symm
  | @delimiter c rest ls hc _ ih =>
    have hsplit := lexemes_append_break [] rest (isBreak_iff.2 (.inl hc))
    rw [breakLexeme_of_mem_delimiters hc] at hsplit
    rw [ih]
    exact hsplit.symm
  | word hne hw hend _ ih =>
    rw [ih, lexemes_word_append (fun c hc => isPlain_iff.1 (hw c hc)) hne]
    intro c hc
    have := hend c hc
    rwa [isPlain_iff, Bool.not_eq_false] at this

theorem lexed_closeLexeme {taken rest : List Char} {ls : List (List Char)}
    (htaken : ∀ c ∈ taken, isBreak c = false) (hend : ∀ c ∈ rest.head?, isBreak c = true)
    (hrest : Lexed rest ls) : Lexed (taken.reverse ++ rest) (closeLexeme taken ++ ls) := by
  unfold closeLexeme
  split
  · next hempty =>
    rw [List.isEmpty_iff] at hempty
    subst hempty
    exact hrest
  · next hempty =>
    refine .word (by simpa using hempty) (fun c hc => ?_) (fun c hc => ?_) hrest
    · exact isPlain_iff.2 (htaken c (by simpa using hc))
    · rw [isPlain_iff, Bool.not_eq_false]
      exact hend c hc

theorem lexed_lexemesFrom {taken : List Char} (htaken : ∀ c ∈ taken, isBreak c = false)
    (cs : List Char) : Lexed (taken.reverse ++ cs) (lexemesFrom taken cs) := by
  induction cs generalizing taken with
  | nil => simpa [lexemesFrom] using lexed_closeLexeme htaken (by simp) .nil
  | cons c rest ih =>
    unfold lexemesFrom
    split
    · next hc =>
      have hnone : ∀ d ∈ ([] : List Char), isBreak d = false := fun d hd => by cases hd
      have hnext : Lexed rest (lexemesFrom [] rest) := ih hnone
      rw [List.append_assoc]
      refine lexed_closeLexeme htaken (by simpa using hc) ?_
      rcases isBreak_iff.1 hc with hdelim | hblank
      · rw [breakLexeme_of_mem_delimiters hdelim]
        exact .delimiter hdelim hnext
      · rw [breakLexeme_of_isBlank hblank]
        exact .blank hblank hnext
    · next hc =>
      have hmore : ∀ d ∈ c :: taken, isBreak d = false := by
        simpa [hc] using htaken
      simpa using ih hmore

/-- The lexemes are the only way in which a text falls into tokens. -/
theorem lexed_iff {cs : List Char} {ls : List (List Char)} : Lexed cs ls ↔ ls = lexemes cs := by
  constructor
  · exact Lexed.eq_lexemes
  · rintro rfl
    have hnone : ∀ d ∈ ([] : List Char), isBreak d = false := fun d hd => by cases hd
    rw [lexemes_eq]
    exact lexed_lexemesFrom hnone cs

/-! Programs and their items. -/

mutual

/-- The item of a phrase, with all its tokens at one place. -/
def Phrase.item : Phrase → Item
  | .block body => .block 0 0 (phraseItems body)
  | .statement words => .statement (words.map fun text => { start := 0, text }) 0

def phraseItems : List Phrase → List Item
  | [] => []
  | phrase :: rest => phrase.item :: phraseItems rest

end

mutual

/-- The phrase that an item is apart from its place. -/
def Item.phrase : Item → Phrase
  | .block _ _ body => .block (itemPhrases body)
  | .statement words _ => .statement (words.map Word.text)

def itemPhrases : List Item → List Phrase
  | [] => []
  | item :: rest => item.phrase :: itemPhrases rest

end

/-- What a program derives is what its items read as, and every statement has a word. -/
theorem Derives.items {program : List Phrase} {ls : List (List Char)} (h : Derives program ls) :
    (phraseItems program).flatMap Item.tokens = ls.map Token.ofText ∧
      (∀ item ∈ phraseItems program, item.Complete) ∧
      itemPhrases (phraseItems program) = program := by
  induction h with
  | nil => simp [phraseItems, itemPhrases]
  | @block body rest inner ls _ _ hbody hrest =>
    obtain ⟨htokens, hcomplete, hback⟩ := hbody
    obtain ⟨htokens', hcomplete', hback'⟩ := hrest
    refine ⟨?_, ?_, ?_⟩
    · simp [phraseItems, Phrase.item, Item.tokens, htokens, htokens', Token.ofText]
    · simpa [phraseItems, Phrase.item, Item.Complete] using ⟨hcomplete, hcomplete'⟩
    · simp [phraseItems, Phrase.item, itemPhrases, Item.phrase, hback, hback']
  | @statement words rest ls hne hwords _ hrest =>
    obtain ⟨htokens, hcomplete, hback⟩ := hrest
    have hword : ∀ w ∈ words, Token.ofText w = .word { start := 0, text := w } := by
      intro w hw
      have := hwords w hw
      simp only [delimiters, List.map_cons, List.map_nil, List.mem_cons, List.not_mem_nil,
        or_false, not_or] at this
      simp [Token.ofText, this]
    refine ⟨?_, ?_, ?_⟩
    · have hmap : words.map Token.ofText = words.map fun text => .word { start := 0, text } :=
        List.map_congr_left hword
      simp [phraseItems, Phrase.item, Item.tokens, htokens, Token.ofText, hmap, Function.comp_def]
    · simpa [phraseItems, Phrase.item, Item.Complete, hne] using hcomplete
    · simp [phraseItems, Phrase.item, itemPhrases, Item.phrase, hback, Function.comp_def]

theorem Derives.read {program : List Phrase} {ls : List (List Char)} (h : Derives program ls) :
    readItems [] [] [] (ls.map Token.ofText) = .ok (phraseItems program) := by
  obtain ⟨htokens, hcomplete, -⟩ := h.items
  have hread := readItems_tokens (phraseItems program) hcomplete [] [] []
  rw [List.append_nil, htokens] at hread
  rw [hread]
  simp [readItems]

/-- No two programs derive the same tokens. -/
theorem Derives.unique {program other : List Phrase} {ls : List (List Char)}
    (h : Derives program ls) (h' : Derives other ls) : other = program := by
  have hitems : phraseItems other = phraseItems program :=
    Except.ok.inj (h'.read.symm.trans h.read)
  rw [← h'.items.2.2, hitems, h.items.2.2]

/-- A complete program derives what its tokens read as. -/
theorem derives_itemPhrases {items : List Item} (hcomplete : ∀ item ∈ items, item.Complete)
    (hproper : ∀ t ∈ items.flatMap Item.tokens, t.Proper) :
    Derives (itemPhrases items) ((items.flatMap Item.tokens).map Token.text) := by
  induction items using items_induction with
  | nil => exact .nil
  | block start close body rest hbody hrest =>
    have hinner := hbody (by simpa [Item.Complete] using hcomplete _ List.mem_cons_self)
      (fun t ht => hproper t (by simp_all [Item.tokens]))
    have houter := hrest (fun item hi => hcomplete item (by simp [hi]))
      (fun t ht => hproper t (by simp_all))
    simpa [itemPhrases, Item.phrase, Item.tokens, Token.text] using hinner.block houter
  | statement words close rest hrest =>
    have houter := hrest (fun item hi => hcomplete item (by simp [hi]))
      (fun t ht => hproper t (by simp_all))
    have hne : words ≠ [] := by simpa [Item.Complete] using hcomplete _ List.mem_cons_self
    have hwords : ∀ w ∈ words.map Word.text, w ∉ delimiters.map ([·]) := by
      intro text htext hdelim
      obtain ⟨w, hw, rfl⟩ := List.mem_map.1 htext
      obtain ⟨c, hc, hsingle⟩ := List.mem_map.1 hdelim
      have hplain : Token.Proper (.word w) := hproper _ (by simp [Item.tokens, hw])
      have hbreak := hplain c (by simp [← hsingle])
      simp [isBreak_iff.2 (.inl hc)] at hbreak
    have := Derives.statement (by simpa using hne) hwords houter
    simpa [itemPhrases, Item.phrase, Item.tokens, Token.text, Function.comp_def] using this

theorem Token.bare_ofText (text : List Char) : (Token.ofText text).bare = Token.ofText text := by
  unfold Token.ofText
  split_ifs <;> rfl

/-- A text whose tokens a program derives is read as this program. -/
theorem read_of_derives {text : String} {program : List Phrase}
    (h : Derives program (lexemes text.toList)) :
    ∃ items, readProgram text = .ok items ∧
      items.map Item.bare = (phraseItems program).map Item.bare := by
  have hbare : (tokens text.toList).map Token.bare =
      ((lexemes text.toList).map Token.ofText).map Token.bare := by
    rw [lexemes, List.map_map, List.map_map]
    refine List.map_congr_left fun t ht => ?_
    rw [(proper_of_mem_tokens ht).bare_eq]
    exact (Token.bare_ofText t.text).symm
  have hsame : SameReading (readProgram text)
      (readItems [] [] [] ((lexemes text.toList).map Token.ofText)) :=
    readItems_bare hbare rfl rfl rfl
  rw [h.read] at hsame
  cases hread : readProgram text with
  | error error =>
    rw [hread] at hsame
    cases hsame
  | ok items =>
    rw [hread] at hsame
    exact ⟨items, rfl, hsame⟩

theorem derives_of_read {text : String} {items : List Item} (h : readProgram text = .ok items) :
    Derives (itemPhrases items) (lexemes text.toList) := by
  obtain ⟨htokens, hcomplete⟩ := readProgram_sound h
  have hderives := derives_itemPhrases hcomplete fun t ht => proper_of_mem_tokens (htokens ▸ ht)
  rwa [htokens] at hderives

/-- The nodes of a program, each before those below it. -/
def programNodes (program : List Phrase) : List NodeShape :=
  programShape (phraseItems program)

/-- A text falls into tokens in one way, and it parses exactly if a program derives them. There is
one such program then, and the tree has the nodes of this program: their kinds, parents, children
and words. -/
theorem parse_accepts_grammar (text : String) :
    ∃ ls, (∀ ls', Lexed text.toList ls' ↔ ls' = ls) ∧
      ((∃ tree, language.parse text = .ok tree) ↔ ∃ program, Derives program ls) ∧
      ∀ tree, language.parse text = .ok tree →
        ∃ program, (∀ other, Derives other ls ↔ other = program) ∧
          tree.outline text = programNodes program := by
  refine ⟨lexemes text.toList, fun _ => lexed_iff, ⟨?_, ?_⟩, ?_⟩
  · rintro ⟨tree, hparse⟩
    obtain ⟨items, hread, -⟩ := parse_eq_ok_iff.1 hparse
    exact ⟨_, derives_of_read hread⟩
  · rintro ⟨program, hprogram⟩
    obtain ⟨items, hread, -⟩ := read_of_derives hprogram
    exact ⟨_, parse_eq_ok_iff.2 ⟨items, hread, rfl⟩⟩
  · intro tree hparse
    obtain ⟨items, hread, rfl⟩ := parse_eq_ok_iff.1 hparse
    have hderives := derives_of_read hread
    refine ⟨itemPhrases items, fun other => ⟨hderives.unique, ?_⟩, ?_⟩
    · rintro rfl
      exact hderives
    · obtain ⟨items', hread', hbare⟩ := read_of_derives hderives
      obtain rfl : items = items' := Except.ok.inj (hread.symm.trans hread')
      rw [outline_of_readProgram hread, programNodes, programShape_congr hbare]

/-- The nodes of a block around a statement of two words. -/
example :
    (programNodes [.block [.statement [['a'], ['b']]]]).map
        (fun n => (n.kind, n.parent, n.children)) =
    [("program", none, [1]), ("block", some 0, [2]), ("statement", some 1, [3, 4]),
      ("word", some 2, []), ("word", some 2, [])] := by
  decide

end SourceReducer.Statement
