import Mathlib.Tactic.Common
import SourceReducer.Statement.Token

/-! Where the tokens of a text stand. A token covers a part of the text, the characters around a
word are breaks, and no two tokens overlap. -/
namespace SourceReducer.Statement

/-- The offset behind a token. -/
def Token.stop (t : Token) : Nat :=
  t.offset + byteSize t.text

@[simp] theorem Token.stop_opening (offset : Nat) : (Token.opening offset).stop = offset + 1 := rfl

@[simp] theorem Token.stop_closing (offset : Nat) : (Token.closing offset).stop = offset + 1 := rfl

@[simp] theorem Token.stop_semicolon (offset : Nat) :
    (Token.semicolon offset).stop = offset + 1 := rfl

@[simp] theorem Token.stop_word (w : Word) : (Token.word w).stop = w.stop := rfl

/-- Whether a token fits between two texts: nothing around a word could belong to it as well. -/
def Token.FitsBetween (left right : List Char) : Token → Prop
  | .word w => w.text ≠ [] ∧ (∀ c ∈ w.text, isBreak c = false) ∧
      (∀ c ∈ left.getLast?, isBreak c = true) ∧ ∀ c ∈ right.head?, isBreak c = true
  | _ => True

theorem Token.FitsBetween.text_ne_nil {t : Token} {left right : List Char}
    (h : t.FitsBetween left right) : t.text ≠ [] := by
  cases t with
  | word w => exact h.1
  | _ => simp [Token.text]

theorem delimiter?_spec {c : Char} {offset : Nat} {t : Token} (h : delimiter? c offset = some t) :
    t.text = [c] ∧ t.offset = offset ∧ ∀ left right, t.FitsBetween left right := by
  unfold delimiter? at h
  split_ifs at h with h₁ h₂ h₃ <;> cases h <;>
    simp [Token.text, Token.offset, Token.FitsBetween, *]

theorem mem_tokensFrom {t : Token} {offset : Nat} {taken cs : List Char}
    (htaken : ∀ c ∈ taken, isBreak c = false) (hsize : byteSize taken ≤ offset)
    (h : t ∈ tokensFrom offset taken cs) :
    ∃ left right, taken.reverse ++ cs = left ++ t.text ++ right ∧
      t.offset = offset - byteSize taken + byteSize left ∧ t.FitsBetween left right := by
  induction cs generalizing offset taken with
  | nil =>
    simp only [tokensFrom, closeWord] at h
    split at h
    · simp at h
    · next hne =>
      obtain rfl := List.mem_singleton.1 h
      refine ⟨[], [], by simp [Token.text], by simp [Token.offset], ?_⟩
      simpa [Token.FitsBetween] using ⟨by simpa using hne, htaken⟩
  | cons c cs ih =>
    simp only [tokensFrom] at h
    split at h
    · next hc =>
      rcases List.mem_append.1 h with h | h
      · rcases List.mem_append.1 h with h | h
        · simp only [closeWord] at h
          split at h
          · simp at h
          · next hne =>
            obtain rfl := List.mem_singleton.1 h
            refine ⟨[], c :: cs, by simp [Token.text], by simp [Token.offset], ?_⟩
            simpa [Token.FitsBetween, hc] using ⟨by simpa using hne, htaken⟩
        · obtain ⟨htext, hoffset, hfits⟩ := delimiter?_spec (Option.mem_toList.1 h)
          refine ⟨taken.reverse, cs, by simp [htext], ?_, hfits _ _⟩
          simp only [hoffset, byteSize_reverse]
          omega
      · obtain ⟨left, right, happ, hoffset, hfits⟩ := ih (by simp) (by simp) h
        refine ⟨taken.reverse ++ c :: left, right, ?_, ?_, ?_⟩
        · simp only [List.reverse_nil, List.nil_append] at happ
          simp [happ]
        · simp only [hoffset, byteSize_nil, byteSize_append, byteSize_reverse, byteSize_cons]
          omega
        · cases t with
          | word w =>
            obtain ⟨hne, hw, hleft, hright⟩ := hfits
            refine ⟨hne, hw, ?_, hright⟩
            intro d hd
            cases left with
            | nil =>
              simp only [List.getLast?_append, List.getLast?_singleton] at hd
              simp_all
            | cons e left => exact hleft d (by simpa using hd)
          | _ => trivial
    · next hc =>
      have hbreak : isBreak c = false := by simpa using hc
      obtain ⟨left, right, happ, hoffset, hfits⟩ :=
        @ih _ (c :: taken) (by simpa [hbreak] using htaken) (by simp; omega) h
      refine ⟨left, right, by simpa using happ, ?_, hfits⟩
      rw [hoffset]
      simp only [byteSize_cons]
      omega

/-- Every token of a text is a part of it. -/
theorem mem_tokens {t : Token} {cs : List Char} (h : t ∈ tokens cs) :
    ∃ left right, cs = left ++ t.text ++ right ∧ t.offset = byteSize left ∧
      t.FitsBetween left right := by
  obtain ⟨left, right, happ, hoffset, hfits⟩ := mem_tokensFrom (by simp) (by simp) h
  exact ⟨left, right, by simpa using happ, by simpa using hoffset, hfits⟩

theorem le_offset_of_mem_tokensFrom {t : Token} {offset : Nat} {taken cs : List Char}
    (htaken : ∀ c ∈ taken, isBreak c = false) (hsize : byteSize taken ≤ offset)
    (h : t ∈ tokensFrom offset taken cs) : offset - byteSize taken ≤ t.offset := by
  obtain ⟨left, right, -, hoffset, -⟩ := mem_tokensFrom htaken hsize h
  omega

theorem mem_closeWord {t : Token} {offset : Nat} {taken : List Char}
    (hsize : byteSize taken ≤ offset) (h : t ∈ closeWord offset taken) : t.stop = offset := by
  unfold closeWord at h
  split at h
  · simp at h
  · obtain rfl := List.mem_singleton.1 h
    simp only [Token.stop, Token.offset, Token.text, byteSize_reverse]
    omega

theorem pairwise_tokensFrom {offset : Nat} {taken cs : List Char}
    (htaken : ∀ c ∈ taken, isBreak c = false) (hsize : byteSize taken ≤ offset) :
    (tokensFrom offset taken cs).Pairwise fun a b => a.stop ≤ b.offset := by
  induction cs generalizing offset taken with
  | nil =>
    unfold tokensFrom closeWord
    split <;> simp
  | cons c cs ih =>
    simp only [tokensFrom]
    split
    · have hrest := @ih (offset + c.utf8Size) [] (by simp) (by simp)
      have hclose : (closeWord offset taken).Pairwise fun a b => a.stop ≤ b.offset := by
        unfold closeWord
        split <;> simp
      have hdelim : (delimiter? c offset).toList.Pairwise fun a b : Token => a.stop ≤ b.offset := by
        cases delimiter? c offset <;> simp
      refine List.pairwise_append.2 ⟨List.pairwise_append.2 ⟨hclose, hdelim, ?_⟩, hrest, ?_⟩
      · intro a ha b hb
        have hstop := mem_closeWord hsize ha
        have hoffset := (delimiter?_spec (Option.mem_toList.1 hb)).2.1
        omega
      · intro a ha b hb
        have hle := le_offset_of_mem_tokensFrom (by simp) (by simp) hb
        rcases List.mem_append.1 ha with ha | ha
        · rw [mem_closeWord hsize ha]
          simp only [byteSize_nil] at hle
          omega
        · obtain ⟨htext, hoffset, -⟩ := delimiter?_spec (Option.mem_toList.1 ha)
          simp only [Token.stop, htext, hoffset, byteSize_cons, byteSize_nil] at hle ⊢
          omega
    · next hc =>
      have hbreak : isBreak c = false := by simpa using hc
      exact ih (by simpa [hbreak] using htaken) (by simp; omega)

theorem offset_lt_stop_of_mem_tokens {t : Token} {cs : List Char} (h : t ∈ tokens cs) :
    t.offset < t.stop := by
  obtain ⟨left, right, -, -, hfits⟩ := mem_tokens h
  have := byteSize_pos hfits.text_ne_nil
  simp only [Token.stop]
  omega

/-- The tokens of a text do not overlap and come in order. -/
theorem pairwise_tokens (cs : List Char) :
    (tokens cs).Pairwise fun a b => a.stop ≤ b.offset :=
  pairwise_tokensFrom (by simp) (by simp)

/-! Tokens around a break. -/

theorem tokensFrom_append_break (offset : Nat) (taken cs rest : List Char) {c : Char}
    (hc : isBreak c = true) :
    tokensFrom offset taken (cs ++ c :: rest) =
      tokensFrom offset taken cs ++ (delimiter? c (offset + byteSize cs)).toList ++
        tokensFrom (offset + byteSize cs + c.utf8Size) [] rest := by
  induction cs generalizing offset taken with
  | nil => simp [tokensFrom, hc]
  | cons d cs ih =>
    have hsum : offset + byteSize (d :: cs) = offset + d.utf8Size + byteSize cs := by simp; omega
    simp only [List.cons_append, tokensFrom, hsum]
    split <;> simp [ih]

/-- A text that does not end in a break has a word as its last token. -/
theorem tokensFrom_append_word (offset : Nat) (taken cs : List Char) {c : Char}
    (hc : isBreak c = false) :
    ∃ ts w, tokensFrom offset taken (cs ++ [c]) = ts ++ [.word w] := by
  induction cs generalizing offset taken with
  | nil =>
    refine ⟨[],
      { start := offset + c.utf8Size - byteSize (c :: taken), text := (c :: taken).reverse }, ?_⟩
    simp [tokensFrom, hc, closeWord]
  | cons d cs ih =>
    simp only [List.cons_append, tokensFrom]
    split
    · obtain ⟨ts, w, h⟩ := ih (offset + d.utf8Size) []
      exact ⟨_, w, by rw [h, ← List.append_assoc]⟩
    · exact ih _ _

/-- In front of a brace there is a break, unless the token before it is a word. -/
theorem opening_mem_tokens {cs : List Char} {offset : Nat} (h : .opening offset ∈ tokens cs) :
    ∃ left right, cs = left ++ right ∧ byteSize left = offset ∧
      ((∀ c ∈ left.getLast?, isBreak c = true) ∨
        ∃ ts w ts', tokens cs = ts ++ .word w :: .opening offset :: ts') := by
  obtain ⟨left, right, rfl, rfl, -⟩ := mem_tokens h
  refine ⟨left, '{' :: right, by simp [Token.text], rfl, ?_⟩
  rcases List.eq_nil_or_concat left with rfl | ⟨front, c, rfl⟩
  · simp
  · cases hc : isBreak c with
    | true => simp [hc]
    | false =>
      right
      obtain ⟨ts, w, hts⟩ := tokensFrom_append_word 0 [] front hc
      have hsplit :=
        tokensFrom_append_break 0 [] (front ++ [c]) right (by decide : isBreak '{' = true)
      refine ⟨ts, w, tokensFrom (byteSize (front ++ [c]) + '{'.utf8Size) [] right, ?_⟩
      rw [hts] at hsplit
      simpa [Token.text, tokens, delimiter?, Token.offset] using hsplit

end SourceReducer.Statement
