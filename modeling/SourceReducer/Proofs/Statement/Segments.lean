import Mathlib.Data.List.TakeWhile
import SourceReducer.Proofs.Statement.Derivation

/-! A text falls apart at each of its tokens: the tokens before and behind it are those of the parts
of the text before and behind it. Every character that is not blank belongs to a token, and how deep
a text leads in braces can be read off its tokens. -/
namespace SourceReducer.Statement

/-! Parts of a text that are read on their own. -/

/-- Characters of a word in front of a text are what the word before it already holds. -/
theorem tokensFrom_append_plain (offset : Nat) (taken : List Char) {w : List Char}
    (hw : ∀ c ∈ w, isBreak c = false) (rest : List Char) :
    tokensFrom offset taken (w ++ rest) =
      tokensFrom (offset + byteSize w) (w.reverse ++ taken) rest := by
  induction w generalizing offset taken with
  | nil => simp
  | cons c w ih =>
    have hc : isBreak c = false := hw c (by simp)
    have hrest := ih (offset + c.utf8Size) (c :: taken) fun d hd => hw d (by simp [hd])
    simp only [List.cons_append, tokensFrom, hc, Bool.false_eq_true, if_false, hrest]
    simp [Nat.add_assoc]

/-- In front of a break, or of nothing, a text falls apart. -/
theorem tokensFrom_append_of_head (offset : Nat) (taken left : List Char) {right : List Char}
    (hright : ∀ c ∈ right.head?, isBreak c = true) :
    tokensFrom offset taken (left ++ right) =
      tokensFrom offset taken left ++ tokensFrom (offset + byteSize left) [] right := by
  cases right with
  | nil => simp [tokensFrom, closeWord]
  | cons c right =>
    have hc : isBreak c = true := hright c (by simp)
    rw [tokensFrom_append_break _ _ _ _ hc]
    simp [tokensFrom, hc, closeWord]

/-- Behind a break, or behind nothing, a text falls apart. -/
theorem tokensFrom_append_of_last (offset : Nat) {left : List Char} (right : List Char)
    (hleft : ∀ c ∈ left.getLast?, isBreak c = true) :
    tokensFrom offset [] (left ++ right) =
      tokensFrom offset [] left ++ tokensFrom (offset + byteSize left) [] right := by
  rcases List.eq_nil_or_concat left with rfl | ⟨front, c, rfl⟩
  · simp [tokensFrom, closeWord]
  · have hc : isBreak c = true := hleft c (by simp)
    rw [List.concat_eq_append, List.append_assoc, List.singleton_append,
      tokensFrom_append_break _ _ _ _ hc, tokensFrom_append_break _ _ _ _ hc]
    simp [tokensFrom, closeWord, Nat.add_assoc]

theorem tokensFrom_of_blank (offset : Nat) {gap : List Char} (hgap : ∀ c ∈ gap, isBlank c = true) :
    tokensFrom offset [] gap = [] := by
  have htexts : (tokensFrom offset [] gap).map Token.text = [] := by
    have hblank := lexemes_blank_append hgap []
    rw [List.append_nil, lexemes_nil, lexemes_eq] at hblank
    rw [map_text_tokensFrom, hblank]
  simpa using htexts

/-- A token that fits between two texts is one of the tokens of the three together. -/
theorem tokensFrom_around {left right : List Char} {offset : Nat} {tk : Token}
    (hfits : tk.FitsBetween left right) (hoffset : tk.offset = offset + byteSize left) :
    tokensFrom offset [] (left ++ tk.text ++ right) =
      tokensFrom offset [] left ++ tk :: tokensFrom tk.stop [] right := by
  have hdelim {c : Char} (hc : isBreak c = true)
      (hone : delimiter? c (offset + byteSize left) = some tk) (htext : tk.text = [c]) :
      tokensFrom offset [] (left ++ tk.text ++ right) =
        tokensFrom offset [] left ++ tk :: tokensFrom tk.stop [] right := by
    rw [htext, List.append_assoc, List.singleton_append, tokensFrom_append_break _ _ _ _ hc, hone,
      Token.stop, htext, hoffset]
    simp
  cases tk with
  | opening o =>
    obtain rfl : o = offset + byteSize left := hoffset
    exact hdelim (by decide) rfl rfl
  | closing o =>
    obtain rfl : o = offset + byteSize left := hoffset
    exact hdelim (by decide) rfl rfl
  | semicolon o =>
    obtain rfl : o = offset + byteSize left := hoffset
    exact hdelim (by decide) rfl rfl
  | word w =>
    obtain ⟨hne, hplain, hleft, hright⟩ := hfits
    obtain ⟨start, text⟩ := w
    obtain rfl : start = offset + byteSize left := hoffset
    have hword : tokensFrom (offset + byteSize left) [] text =
        [.word ⟨offset + byteSize left, text⟩] := by
      have hall := tokensFrom_append_plain (offset + byteSize left) [] hplain []
      simpa [tokensFrom, closeWord, hne] using hall
    show tokensFrom offset [] (left ++ text ++ right) = _
    rw [List.append_assoc, tokensFrom_append_of_last _ _ hleft,
      tokensFrom_append_of_head _ _ _ hright, hword]
    rfl

theorem nodup_tokensFrom (offset : Nat) (cs : List Char) : (tokensFrom offset [] cs).Nodup := by
  have hsorted := @pairwise_tokensFrom offset [] cs (by simp) (by simp)
  refine hsorted.imp_of_mem fun {a b} ha _ hle heq => ?_
  obtain ⟨left, right, -, -, hfits⟩ := mem_tokensFrom (by simp) (by simp) ha
  have hpos := byteSize_pos hfits.text_ne_nil
  subst heq
  simp only [Token.stop] at hle
  omega

/-- A text falls apart at each of its tokens. -/
theorem exists_split_of_tokensFrom {offset : Nat} {cs : List Char} {before after : List Token}
    {tk : Token} (h : tokensFrom offset [] cs = before ++ tk :: after) :
    ∃ left right, cs = left ++ tk.text ++ right ∧ tk.offset = offset + byteSize left ∧
      tk.FitsBetween left right ∧ tokensFrom offset [] left = before ∧
        tokensFrom tk.stop [] right = after := by
  have hmem : tk ∈ tokensFrom offset [] cs := by simp [h]
  obtain ⟨left, right, happ, hoffset, hfits⟩ := mem_tokensFrom (by simp) (by simp) hmem
  obtain rfl : cs = left ++ tk.text ++ right := by simpa using happ
  have hoffset' : tk.offset = offset + byteSize left := by simpa using hoffset
  have haround := tokensFrom_around hfits hoffset'
  -- the token is there only once, so both ways to write the tokens are the same
  have hnodup := nodup_tokensFrom offset (left ++ tk.text ++ right)
  rw [haround] at hnodup
  have honce := (List.nodup_middle.1 hnodup).notMem
  rw [List.mem_append, not_or] at honce
  obtain ⟨rfl, -, rfl⟩ :=
    (List.append_cons_inj_of_notMem honce.1 honce.2).1 (haround.symm.trans h)
  exact ⟨left, right, rfl, hoffset', hfits, rfl, rfl⟩

/-! Which characters belong to tokens. -/

/-- A delimiter in a text is one of its tokens. -/
theorem delimiter_mem_tokensFrom {offset : Nat} {left right : List Char} {c : Char} {tk : Token}
    (htk : delimiter? c (offset + byteSize left) = some tk) :
    tk ∈ tokensFrom offset [] (left ++ c :: right) := by
  obtain ⟨htext, hoffset, hfits⟩ := delimiter?_spec htk
  have haround := tokensFrom_around (hfits left right) hoffset
  rw [htext, List.append_assoc, List.singleton_append] at haround
  simp [haround]

theorem exists_delimiter {c : Char} (hc : c ∈ delimiters) (offset : Nat) :
    ∃ tk, delimiter? c offset = some tk ∧ ∀ w, tk ≠ .word w := by
  simp only [delimiters, List.mem_cons, List.not_mem_nil, or_false] at hc
  rcases hc with rfl | rfl | rfl
  · exact ⟨.opening offset, rfl, by simp⟩
  · exact ⟨.closing offset, rfl, by simp⟩
  · exact ⟨.semicolon offset, rfl, by simp⟩

/-- A text all whose tokens are words has no delimiters. -/
theorem not_mem_delimiters_of_words {offset : Nat} {cs : List Char}
    (h : ∀ tk ∈ tokensFrom offset [] cs, ∃ w, tk = .word w) : ∀ c ∈ cs, c ∉ delimiters := by
  intro c hc hdelim
  obtain ⟨left, right, rfl⟩ := List.append_of_mem hc
  obtain ⟨tk, htk, hword⟩ := exists_delimiter hdelim (offset + byteSize left)
  obtain ⟨w, rfl⟩ := h tk (delimiter_mem_tokensFrom htk)
  exact hword w rfl

/-- A text is cut where the characters at its end stop to be of a kind. -/
theorem exists_longest_end (p : Char → Bool) (cs : List Char) :
    ∃ front run, cs = front ++ run ∧ (∀ c ∈ run, p c = true) ∧
      ∀ c ∈ front.getLast?, p c = false := by
  refine ⟨(cs.reverse.dropWhile p).reverse, (cs.reverse.takeWhile p).reverse, ?_, ?_, ?_⟩
  · rw [← List.reverse_append, List.takeWhile_append_dropWhile, List.reverse_reverse]
  · intro c hc
    exact List.mem_takeWhile_imp (List.mem_reverse.1 hc)
  · intro c hc
    rw [List.getLast?_reverse] at hc
    have hstop := List.head?_dropWhile_not p cs.reverse
    rwa [Option.mem_def.1 hc] at hstop

/-- A text is cut where the characters at its start stop to be of a kind. -/
theorem exists_longest_start (p : Char → Bool) (cs : List Char) :
    ∃ run rest, cs = run ++ rest ∧ (∀ c ∈ run, p c = true) ∧ ∀ c ∈ rest.head?, p c = false := by
  refine ⟨cs.takeWhile p, cs.dropWhile p, List.takeWhile_append_dropWhile.symm, ?_, ?_⟩
  · intro c hc
    exact List.mem_takeWhile_imp hc
  · intro c hc
    have hstop := List.head?_dropWhile_not p cs
    rwa [Option.mem_def.1 hc] at hstop

/-- Every character that is not blank is a delimiter, and then a token, or belongs to a word. -/
theorem exists_token_of_not_blank {left right : List Char} {c : Char} (hc : isBlank c = false) :
    ∃ tk ∈ tokens (left ++ c :: right), (tk.offset ≤ byteSize left ∧ byteSize left < tk.stop) ∧
      (delimiter? c (byteSize left) = some tk ∨ c ∉ delimiters ∧ ∃ w, tk = .word w) := by
  have hpos := c.utf8Size_pos
  by_cases hdelim : c ∈ delimiters
  · obtain ⟨tk, htk, -⟩ := exists_delimiter hdelim (byteSize left)
    obtain ⟨htext, hoffset, -⟩ := delimiter?_spec htk
    refine ⟨tk, delimiter_mem_tokensFrom (by rwa [Nat.zero_add]), ⟨Nat.le_of_eq hoffset, ?_⟩,
      .inl htk⟩
    simp only [Token.stop, htext, hoffset, byteSize_cons]
    omega
  · have hplain : isBreak c = false := isPlain_iff.1 ⟨hdelim, hc⟩
    obtain ⟨front, w, rfl, hw, hfront⟩ := exists_longest_end (fun c => !isBreak c) left
    obtain ⟨w', rest, rfl, hw', hrest⟩ := exists_longest_start (fun c => !isBreak c) right
    simp only [Bool.not_eq_true', Bool.not_eq_false'] at hw hw' hfront hrest
    have hfits : (Token.word ⟨byteSize front, w ++ c :: w'⟩).FitsBetween front rest := by
      refine ⟨by simp, ?_, hfront, hrest⟩
      intro d hd
      rcases List.mem_append.1 hd with hd | hd
      · exact hw d hd
      · rcases List.mem_cons.1 hd with rfl | hd
        · exact hplain
        · exact hw' d hd
    have haround := @tokensFrom_around front rest 0 _ hfits (by simp [Token.offset])
    refine ⟨.word ⟨byteSize front, w ++ c :: w'⟩, ?_, ⟨?_, ?_⟩, .inr ⟨hdelim, _, rfl⟩⟩
    · have happ : front ++ w ++ c :: (w' ++ rest) = front ++ (w ++ c :: w') ++ rest := by simp
      rw [tokens, happ]
      exact haround ▸ List.mem_append_right _ List.mem_cons_self
    · simp [Token.offset]
    · simp only [Token.stop_word, Word.stop, byteSize_append, byteSize_cons]
      omega

/-- No two tokens of a text cover the same offset. -/
theorem eq_of_covers {cs : List Char} {a b : Token} {x : Nat} (ha : a ∈ tokens cs)
    (hb : b ∈ tokens cs) (hax : a.offset ≤ x ∧ x < a.stop) (hbx : b.offset ≤ x ∧ x < b.stop) :
    a = b := by
  obtain ⟨before, after, hsplit⟩ := List.append_of_mem ha
  have hsorted := pairwise_tokens cs
  rw [hsplit] at hb hsorted
  obtain ⟨-, htail, hcross⟩ := List.pairwise_append.1 hsorted
  rcases List.mem_append.1 hb with hb | hb
  · have := hcross b hb a List.mem_cons_self
    omega
  · rcases List.mem_cons.1 hb with rfl | hb
    · rfl
    · have := (List.pairwise_cons.1 htail).1 b hb
      omega

/-! Braces. -/

/-- How deep in braces a text leads that starts at `depth`; none if it closes more than is open. -/
def nesting : Nat → List Char → Option Nat
  | depth, [] => some depth
  | depth, c :: cs =>
      if c = '{' then nesting (depth + 1) cs
      else if c = '}' then if depth = 0 then none else nesting (depth - 1) cs
      else nesting depth cs

theorem nesting_append (depth : Nat) (as bs : List Char) :
    nesting depth (as ++ bs) = (nesting depth as).bind fun d => nesting d bs := by
  induction as generalizing depth with
  | nil => rfl
  | cons c as ih =>
    simp only [List.cons_append, nesting, ih]
    split_ifs <;> rfl

@[simp] theorem nesting_opening (depth : Nat) (cs : List Char) :
    nesting depth ('{' :: cs) = nesting (depth + 1) cs := by
  simp [nesting]

@[simp] theorem nesting_closing (depth : Nat) (cs : List Char) :
    nesting (depth + 1) ('}' :: cs) = nesting depth cs := by
  simp [nesting]

/-- Characters that are not braces lead nowhere. -/
theorem nesting_of_not_brace (depth : Nat) {cs : List Char} (h : ∀ c ∈ cs, c ≠ '{' ∧ c ≠ '}') :
    nesting depth cs = some depth := by
  induction cs with
  | nil => rfl
  | cons c cs ih =>
    obtain ⟨hopen, hclose⟩ := h c (by simp)
    rw [nesting, if_neg hopen, if_neg hclose]
    exact ih fun d hd => h d (by simp [hd])

theorem not_brace_of_not_break {c : Char} (hc : isBreak c = false) : c ≠ '{' ∧ c ≠ '}' := by
  constructor
  · rintro rfl
    cases hc
  · rintro rfl
    cases hc

theorem nesting_breakLexeme (depth : Nat) {c : Char} (hc : isBreak c = true) :
    nesting depth (breakLexeme c).flatten = nesting depth [c] := by
  rcases isBreak_iff.1 hc with hdelim | hblank
  · rw [breakLexeme_of_mem_delimiters hdelim]
    rfl
  · rw [breakLexeme_of_isBlank hblank]
    refine (nesting_of_not_brace depth ?_).symm
    simp only [List.mem_singleton, forall_eq]
    constructor
    · rintro rfl
      cases hblank
    · rintro rfl
      cases hblank

theorem nesting_closeLexeme (depth : Nat) {taken : List Char}
    (htaken : ∀ c ∈ taken, isBreak c = false) :
    nesting depth (closeLexeme taken).flatten = some depth := by
  refine nesting_of_not_brace depth fun c hc => not_brace_of_not_break (htaken c ?_)
  unfold closeLexeme at hc
  split at hc
  · simp at hc
  · simpa using hc

/-- The braces of a text are those of its tokens. -/
theorem nesting_lexemesFrom (depth : Nat) {taken : List Char}
    (htaken : ∀ c ∈ taken, isBreak c = false) (cs : List Char) :
    nesting depth (lexemesFrom taken cs).flatten = nesting depth cs := by
  induction cs generalizing depth taken with
  | nil => exact nesting_closeLexeme depth htaken
  | cons c cs ih =>
    rw [lexemesFrom]
    split
    · next hc =>
      have hrest (d : Nat) : nesting d (lexemesFrom [] cs).flatten = nesting d cs := ih d (by simp)
      rw [List.flatten_append, List.flatten_append, nesting_append, nesting_append,
        nesting_closeLexeme depth htaken, Option.bind_some, nesting_breakLexeme depth hc,
        ← List.singleton_append (l := cs), nesting_append]
      simp only [hrest]
    · next hc =>
      have hplain : isBreak c = false := by simpa using hc
      obtain ⟨hopen, hclose⟩ := not_brace_of_not_break hplain
      rw [ih depth (by simpa [hplain] using htaken), nesting, if_neg hopen, if_neg hclose]

/-- Items close what they open. -/
theorem nesting_items (depth : Nat) {items : List Item}
    (hproper : ∀ tk ∈ items.flatMap Item.tokens, tk.Proper) :
    nesting depth ((items.flatMap Item.tokens).map Token.text).flatten = some depth := by
  induction items using items_induction generalizing depth with
  | nil => rfl
  | block start close body rest hbody hrest =>
    have hinner := hbody (depth + 1) fun tk htk => hproper tk (by simp_all [Item.tokens])
    have houter := hrest depth fun tk htk => hproper tk (by simp_all)
    simp [Item.tokens, Token.text, nesting_append, hinner, houter]
  | statement words close rest hrest =>
    have houter := hrest depth fun tk htk => hproper tk (by simp_all)
    have hwords : nesting depth ((words.map Token.word).map Token.text).flatten = some depth := by
      refine nesting_of_not_brace depth fun c hc => not_brace_of_not_break ?_
      obtain ⟨text, htext, hc⟩ := List.mem_flatten.1 hc
      obtain ⟨tk, htk, rfl⟩ := List.mem_map.1 htext
      obtain ⟨w, hw, rfl⟩ := List.mem_map.1 htk
      exact hproper (.word w) (by simp [Item.tokens, hw]) c hc
    rw [List.flatMap_cons, Item.tokens, List.map_append, List.map_append, List.flatten_append,
      List.flatten_append, nesting_append, nesting_append, hwords]
    exact houter

/-- A text with the tokens of items closes what it opens. -/
theorem nesting_of_items {offset : Nat} {cs : List Char} {items : List Item} (depth : Nat)
    (h : tokensFrom offset [] cs = items.flatMap Item.tokens) : nesting depth cs = some depth := by
  have hproper : ∀ tk ∈ items.flatMap Item.tokens, tk.Proper := by
    intro tk htk
    rw [← h] at htk
    obtain ⟨left, right, -, -, hfits⟩ := mem_tokensFrom (by simp) (by simp) htk
    exact hfits.proper
  rw [← nesting_lexemesFrom depth (by simp : ∀ c ∈ [], isBreak c = false) cs,
    ← map_text_tokensFrom offset, h]
  exact nesting_items depth hproper

end SourceReducer.Statement
