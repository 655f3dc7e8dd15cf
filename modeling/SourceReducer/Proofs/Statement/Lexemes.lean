import Mathlib.Tactic.Common
import SourceReducer.Statement.Token

/-! What the tokens of a text read as. Lexemes do not depend on where a text starts, and they can be
computed piece by piece: at a break the text falls apart into two that are read on their own. -/
namespace SourceReducer.Statement

/-- What the tokens of a text read as, in order. -/
def lexemes (cs : List Char) : List (List Char) :=
  (tokens cs).map Token.text

/-- The word that `taken`, last character first, makes; none if that is empty. -/
def closeLexeme (taken : List Char) : List (List Char) :=
  if taken.isEmpty then [] else [taken.reverse]

/-- What a break reads as: a delimiter is a lexeme and a blank is none. -/
def breakLexeme (c : Char) : List (List Char) :=
  if (delimiter? c 0).isSome then [[c]] else []

/-- The lexemes of a text, where the word before it already holds `taken`. -/
def lexemesFrom (taken : List Char) : List Char → List (List Char)
  | [] => closeLexeme taken
  | c :: rest =>
      if isBreak c then closeLexeme taken ++ breakLexeme c ++ lexemesFrom [] rest
      else lexemesFrom (c :: taken) rest

theorem map_text_closeWord (offset : Nat) (taken : List Char) :
    (closeWord offset taken).map Token.text = closeLexeme taken := by
  unfold closeWord closeLexeme
  split <;> simp [Token.text]

theorem map_text_delimiter (c : Char) (offset : Nat) :
    (delimiter? c offset).toList.map Token.text = breakLexeme c := by
  unfold breakLexeme delimiter?
  split_ifs <;> simp_all [Token.text]

theorem map_text_tokensFrom (offset : Nat) (taken cs : List Char) :
    (tokensFrom offset taken cs).map Token.text = lexemesFrom taken cs := by
  induction cs generalizing offset taken with
  | nil => exact map_text_closeWord offset taken
  | cons c rest ih =>
    simp only [tokensFrom, lexemesFrom]
    split
    · simp only [List.map_append, map_text_closeWord, map_text_delimiter, ih]
    · exact ih _ _

theorem lexemes_eq (cs : List Char) : lexemes cs = lexemesFrom [] cs :=
  map_text_tokensFrom 0 [] cs

@[simp] theorem lexemes_nil : lexemes [] = [] := rfl

theorem lexemesFrom_append_word {w : List Char} (hw : ∀ c ∈ w, isBreak c = false)
    (taken rest : List Char) :
    lexemesFrom taken (w ++ rest) = lexemesFrom (w.reverse ++ taken) rest := by
  induction w generalizing taken with
  | nil => rfl
  | cons c w ih =>
    have hc : isBreak c = false := hw c (by simp)
    have hrest : ∀ d ∈ w, isBreak d = false := fun d hd => hw d (by simp [hd])
    simp only [List.cons_append, lexemesFrom, hc, Bool.false_eq_true, if_false, ih hrest]
    simp

/-- At a break a text falls apart. -/
theorem lexemesFrom_append_break (taken cs rest : List Char) {c : Char} (hc : isBreak c = true) :
    lexemesFrom taken (cs ++ c :: rest) =
      lexemesFrom taken cs ++ breakLexeme c ++ lexemesFrom [] rest := by
  induction cs generalizing taken with
  | nil => simp [lexemesFrom, hc]
  | cons d cs ih =>
    simp only [List.cons_append, lexemesFrom]
    split <;> simp [ih]

theorem lexemes_append_break (cs rest : List Char) {c : Char} (hc : isBreak c = true) :
    lexemes (cs ++ c :: rest) = lexemes cs ++ breakLexeme c ++ lexemes rest := by
  simp only [lexemes_eq, lexemesFrom_append_break _ _ _ hc]

theorem isBreak_of_isBlank {c : Char} (hc : isBlank c = true) : isBreak c = true := by
  simp [isBreak, hc]

theorem breakLexeme_of_isBlank {c : Char} (hc : isBlank c = true) : breakLexeme c = [] := by
  have h : delimiter? c 0 = none := by
    unfold delimiter?
    split_ifs with h₁ h₂ h₃
    · subst h₁; simp [isBlank, blankRanges] at hc
    · subst h₂; simp [isBlank, blankRanges] at hc
    · subst h₃; simp [isBlank, blankRanges] at hc
    · rfl
  simp [breakLexeme, h]

/-- Blanks in front of a text make no difference. -/
theorem lexemes_blank_append {gap : List Char} (hgap : ∀ c ∈ gap, isBlank c = true)
    (rest : List Char) : lexemes (gap ++ rest) = lexemes rest := by
  induction gap with
  | nil => rfl
  | cons c gap ih =>
    have hc : isBlank c = true := hgap c (by simp)
    have h := lexemes_append_break [] (gap ++ rest) (isBreak_of_isBlank hc)
    rw [breakLexeme_of_isBlank hc] at h
    simpa [ih fun d hd => hgap d (by simp [hd])] using h

/-- A word is one lexeme where no further character belongs to it. -/
theorem lexemes_word_append {w : List Char} (hw : ∀ c ∈ w, isBreak c = false) (hne : w ≠ [])
    {rest : List Char} (hrest : ∀ c ∈ rest.head?, isBreak c = true) :
    lexemes (w ++ rest) = w :: lexemes rest := by
  rw [lexemes_eq, lexemesFrom_append_word hw]
  cases rest with
  | nil => simp [lexemesFrom, closeLexeme, hne]
  | cons c rest =>
    have hc : isBreak c = true := hrest c (by simp)
    have h := lexemes_append_break [] rest hc
    simp only [List.nil_append, lexemes_nil] at h
    simp [lexemesFrom, hc, closeLexeme, hne, h, lexemes_eq]

end SourceReducer.Statement
