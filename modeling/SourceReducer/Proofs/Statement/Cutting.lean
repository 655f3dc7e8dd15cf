import SourceReducer.Proofs.Statement.Grammar
import SourceReducer.Proofs.Tree.Coverage

/-! Reading a text from which characters were left out. Where what is left out never begins right
behind a character of a word and never ends inside a word, the text reads as before without the
tokens that begin at a gone offset: no two words grow together and no word is split. -/
namespace SourceReducer.Statement

/-- Whether the gone offsets respect the words of a text: behind a character of a word nothing
begins to be gone, and the next character of the word is gone if this one is. -/
def Aligned (gone : Nat → Bool) (cs : List Char) : Prop :=
  ∀ left c d right, cs = left ++ c :: d :: right → isBreak c = false →
    (gone (byteSize left + c.utf8Size) = true → gone (byteSize left) = true) ∧
      (isBreak d = false → gone (byteSize left) = true →
        gone (byteSize left + c.utf8Size) = true)

/-- The tokens that do not begin at a gone offset. -/
def keptTokens (gone : Nat → Bool) (ts : List Token) : List Token :=
  ts.filter fun t => !gone t.offset

theorem keptTokens_append (gone : Nat → Bool) (ts ts' : List Token) :
    keptTokens gone (ts ++ ts') = keptTokens gone ts ++ keptTokens gone ts' := by
  simp [keptTokens]

/-- The part of the word before `offset` that is left. -/
def keptWord (gone : Nat → Bool) (start : Nat) (taken : List Char) : List Char :=
  if gone start then [] else taken

@[simp] theorem keptWord_nil (gone : Nat → Bool) (start : Nat) : keptWord gone start [] = [] := by
  simp [keptWord]

theorem map_text_kept_closeWord (gone : Nat → Bool) (left taken : List Char) :
    (keptTokens gone (closeWord (byteSize left + byteSize taken) taken)).map Token.text =
      closeLexeme (keptWord gone (byteSize left) taken) := by
  cases taken with
  | nil => simp [keptTokens, closeWord, closeLexeme]
  | cons c taken =>
    cases h : gone (byteSize left) <;>
      simp [keptTokens, closeWord, closeLexeme, keptWord, Token.offset, Token.text, h]

theorem map_text_kept_delimiter (gone : Nat → Bool) (c : Char) (offset : Nat) :
    (keptTokens gone (delimiter? c offset).toList).map Token.text =
      if gone offset then [] else breakLexeme c := by
  have hoffset : ∀ t ∈ (delimiter? c offset).toList, t.offset = offset := fun t ht =>
    (delimiter?_spec (Option.mem_toList.1 ht)).2.1
  cases h : gone offset with
  | true =>
    have hnil : keptTokens gone (delimiter? c offset).toList = [] := by
      simp only [keptTokens, List.filter_eq_nil_iff]
      intro t ht
      simp [hoffset t ht, h]
    simp [hnil]
  | false =>
    have hall : keptTokens gone (delimiter? c offset).toList = (delimiter? c offset).toList := by
      simp only [keptTokens, List.filter_eq_self]
      intro t ht
      simp [hoffset t ht, h]
    simp [hall, map_text_delimiter]

/-- The walk over the text, behind `left` and a word that holds `taken` so far. What is known of
that word is that its last character is gone exactly if its first one is. -/
theorem lexemesFrom_outside {gone : Nat → Bool} {text left taken cs : List Char}
    (haligned : Aligned gone text) (htext : text = left ++ taken.reverse ++ cs)
    (htaken : ∀ c ∈ taken, isBreak c = false)
    (hlast : ∀ c before, taken = c :: before →
      gone (byteSize left + byteSize before) = gone (byteSize left)) :
    lexemesFrom (keptWord gone (byteSize left) taken)
        (outside gone (byteSize left + byteSize taken) cs) =
      (keptTokens gone (tokensFrom (byteSize left + byteSize taken) taken cs)).map Token.text := by
  induction cs generalizing left taken with
  | nil => exact (map_text_kept_closeWord gone left taken).symm
  | cons c cs ih =>
    -- the pair of characters at the end of the word before `c`
    have hpair : ∀ e before, taken = e :: before →
        (gone (byteSize left + byteSize taken) = true → gone (byteSize left) = true) ∧
          (isBreak c = false → gone (byteSize left) = true →
            gone (byteSize left + byteSize taken) = true) := by
      rintro e before rfl
      have h := haligned (left ++ before.reverse) e c cs (by simp [htext]) (htaken e (by simp))
      have hsum : byteSize left + byteSize before + e.utf8Size =
          byteSize left + byteSize (e :: before) := by simp; omega
      simpa [hsum, hlast e before rfl] using h
    by_cases hc : isBreak c = true
    · have hrest := @ih (left ++ taken.reverse ++ [c]) [] (by simp [htext]) (by simp) (by simp)
      have hsum : byteSize (left ++ taken.reverse ++ [c]) + byteSize [] =
          byteSize left + byteSize taken + c.utf8Size := by simp; omega
      rw [hsum, keptWord_nil] at hrest
      simp only [outside, tokensFrom, hc, if_true, keptTokens_append, List.map_append,
        map_text_kept_closeWord, map_text_kept_delimiter, ← hrest]
      cases hgone : gone (byteSize left + byteSize taken) with
      | false => simp [lexemesFrom, hc]
      | true =>
        -- then the word before it is gone or empty
        have hword : keptWord gone (byteSize left) taken = [] := by
          cases taken with
          | nil => simp
          | cons e before => simp [keptWord, (hpair e before rfl).1 hgone]
        simp [hword, closeLexeme]
    · have hbreak : isBreak c = false := by simpa using hc
      have hsame : gone (byteSize left + byteSize taken) = gone (byteSize left) := by
        cases taken with
        | nil => simp
        | cons e before =>
          obtain ⟨h₁, h₂⟩ := hpair e before rfl
          exact Bool.eq_iff_iff.2 ⟨h₁, h₂ hbreak⟩
      have hrest := @ih left (c :: taken) (by simp [htext]) (by simpa [hbreak] using htaken) (by
        rintro d before h
        cases h
        exact hsame)
      have hsum : byteSize left + byteSize (c :: taken) =
          byteSize left + byteSize taken + c.utf8Size := by simp; omega
      rw [hsum] at hrest
      simp only [tokensFrom, hbreak, Bool.false_eq_true, if_false, ← hrest]
      cases hgone : gone (byteSize left) with
      | false => simp [outside, hsame, hgone, keptWord, lexemesFrom, hbreak]
      | true => simp [outside, hsame, hgone, keptWord]

/-- What is left of a text reads as the tokens that do not begin at a gone offset. -/
theorem lexemes_outside {gone : Nat → Bool} {cs : List Char} (h : Aligned gone cs) :
    lexemes (outside gone 0 cs) = (keptTokens gone (tokens cs)).map Token.text := by
  have := @lexemesFrom_outside gone cs [] [] cs h (by simp) (by simp) (by simp)
  simpa [lexemes_eq, tokens] using this

/-! Spans that respect words. -/

/-- Whether an offset is a place where a span may start: no word reaches up to it. -/
def StartsClean (cs : List Char) (offset : Nat) : Prop :=
  ∃ left right, cs = left ++ right ∧ byteSize left = offset ∧ ∀ c ∈ left.getLast?, isBreak c = true

/-- Whether an offset is a place where a span may stop: it is not inside a word. -/
def StopsClean (cs : List Char) (offset : Nat) : Prop :=
  ∃ left right, cs = left ++ right ∧ byteSize left = offset ∧
    ∀ c ∈ left.getLast?, isBreak c = false → ∀ d ∈ right.head?, isBreak d = true

theorem aligned_coveredBy {cs : List Char} {spans : List Span}
    (hstart : ∀ s ∈ spans, StartsClean cs s.start) (hstop : ∀ s ∈ spans, StopsClean cs s.stop) :
    Aligned (coveredBy spans) cs := by
  intro left c d right hcs hc
  have hcs' : cs = (left ++ [c]) ++ d :: right := by simp [hcs]
  simp only [coveredBy, List.any_eq_true, Span.covers_iff]
  constructor
  · rintro ⟨s, hs, hlo, hhi⟩
    obtain ⟨left', right', hsplit, hsize, hbreak⟩ := hstart s hs
    refine ⟨s, hs, ?_, by omega⟩
    rcases le_or_le_of_split (hsplit.symm.trans hcs) with h | h
    · omega
    · -- the span would start right behind `c`
      obtain ⟨rfl, -⟩ := eq_of_append_eq_append (hsplit.symm.trans hcs') (by simp; omega)
      simp [hc] at hbreak
  · rintro hd ⟨s, hs, hlo, hhi⟩
    obtain ⟨left', right', hsplit, hsize, hbreak⟩ := hstop s hs
    refine ⟨s, hs, by omega, ?_⟩
    rcases le_or_le_of_split (hsplit.symm.trans hcs) with h | h
    · omega
    · by_contra hge
      -- the span would stop between `c` and `d`
      obtain ⟨rfl, rfl⟩ := eq_of_append_eq_append (hsplit.symm.trans hcs') (by simp; omega)
      simp [hc, hd] at hbreak

end SourceReducer.Statement
