import SourceReducer.Proofs.Statement.Segments
import SourceReducer.Proofs.Tree.Coverage

/-! Where a text that does not parse is at fault. The reader takes one token after the other, and
what it has taken can always be closed: whatever was read so far can be continued to a program. So a
token that is refused is the first that no continuation can mend, and where no token is refused the
text only ends too early, inside a block or a statement. -/
namespace SourceReducer.Statement

/-- What was read so far: the open blocks, innermost first, the items of the innermost, last first,
and the words of the current statement, last first. -/
structure Reading where
  outer : List OpenBlock := []
  done : List Item := []
  words : List Word := []

namespace Reading

/-- Reads one token. -/
def read (s : Reading) : Token → Except ParseError Reading
  | .word w => .ok { s with words := w :: s.words }
  | .semicolon offset =>
      if s.words.isEmpty then fail .emptyStatement offset
      else .ok { s with done := .statement s.words.reverse offset :: s.done, words := [] }
  | .opening offset =>
      if s.words.isEmpty then .ok { outer := ⟨offset, s.done⟩ :: s.outer }
      else fail .missingSemicolon offset
  | .closing offset =>
      if s.words.isEmpty then
        match s.outer with
        | [] => fail .unbalancedClose offset
        | block :: around =>
            .ok {
              outer := around, done := .block block.start offset s.done.reverse :: block.before }
      else fail .missingSemicolon offset

/-- Reads on to the end. -/
def finish (s : Reading) (ts : List Token) : Except ParseError (List Item) :=
  readItems s.outer s.done s.words ts

/-- The tokens that were read. -/
def tokens (s : Reading) : List Token :=
  openTokens s.outer ++ s.done.reverse.flatMap Item.tokens ++ s.words.reverse.map .word

/-- What closes everything that is open. -/
def closers (s : Reading) : List Char :=
  (if s.words.isEmpty then [] else [';']) ++ List.replicate s.outer.length '}'

theorem finish_cons (s : Reading) (tk : Token) (ts : List Token) :
    s.finish (tk :: ts) = s.read tk >>= fun s' => s'.finish ts := by
  cases tk with
  | word w => rfl
  | semicolon offset =>
    simp only [finish, readItems, read]
    split <;> rfl
  | opening offset =>
    simp only [finish, readItems, read]
    split <;> rfl
  | closing offset =>
    simp only [finish, readItems, read]
    split
    · cases s.outer <;> rfl
    · rfl

theorem finish_append (s : Reading) (ts ts' : List Token) :
    s.finish (ts ++ ts') = ts.foldlM read s >>= fun s' => s'.finish ts' := by
  induction ts generalizing s with
  | nil => rfl
  | cons tk ts ih =>
    rw [List.cons_append, finish_cons, List.foldlM_cons, bind_assoc]
    exact congrArg (s.read tk >>= ·) (funext fun s' => ih s')

/-- Reading a token adds it to those that were read. -/
theorem tokens_read {s s' : Reading} {tk : Token} (h : s.read tk = .ok s') :
    s'.tokens = s.tokens ++ [tk] := by
  obtain ⟨outer, done, words⟩ := s
  cases tk with
  | word w =>
    cases h
    simp [tokens]
  | semicolon offset =>
    simp only [read] at h
    split at h
    · cases h
    · cases h
      simp [tokens, Item.tokens]
  | opening offset =>
    simp only [read] at h
    split at h
    · next hwords =>
      rw [List.isEmpty_iff] at hwords
      subst hwords
      cases h
      simp [tokens, openTokens]
    · cases h
  | closing offset =>
    simp only [read] at h
    split at h
    · next hwords =>
      rw [List.isEmpty_iff] at hwords
      subst hwords
      cases outer with
      | nil => cases h
      | cons block around =>
        cases h
        simp [tokens, openTokens, Item.tokens]
    · cases h

theorem tokens_run {s s' : Reading} {ts : List Token} (h : ts.foldlM read s = .ok s') :
    s'.tokens = s.tokens ++ ts := by
  induction ts generalizing s with
  | nil =>
    cases h
    simp
  | cons tk ts ih =>
    rw [List.foldlM_cons] at h
    cases hread : s.read tk with
    | error e => simp [hread, bind, Except.bind] at h
    | ok next =>
      have hrest : ts.foldlM read next = .ok s' := by simpa [hread, bind, Except.bind] using h
      rw [ih hrest, tokens_read hread, List.append_assoc, List.singleton_append]

/-- Tokens are read to the end, or up to one that is refused. -/
theorem run_cases (s : Reading) (ts : List Token) :
    (∃ s', ts.foldlM read s = .ok s') ∨
      ∃ before tk after s' e, ts = before ++ tk :: after ∧ before.foldlM read s = .ok s' ∧
        s'.read tk = .error e := by
  induction ts generalizing s with
  | nil => exact .inl ⟨s, rfl⟩
  | cons tk ts ih =>
    cases hread : s.read tk with
    | error e => exact .inr ⟨[], tk, ts, s, e, rfl, rfl, hread⟩
    | ok next =>
      have hfirst (ts' : List Token) : (tk :: ts').foldlM read s = ts'.foldlM read next := by
        simp [List.foldlM_cons, hread, bind, Except.bind]
      rcases ih next with ⟨s', hrun⟩ | ⟨before, tk', after, s', e, rfl, hrun, hrefused⟩
      · exact .inl ⟨s', (hfirst ts).trans hrun⟩
      · exact .inr ⟨tk :: before, tk', after, s', e, rfl, (hfirst before).trans hrun, hrefused⟩

/-! A token that is refused. -/

/-- What a token that is refused is, by the message about it. -/
def refusals : List (String × Char) :=
  [("unbalanced '\x7d'", '}'), ("empty statement", ';'), ("expected ';'", '{'),
    ("expected ';'", '}')]

theorem read_error {s : Reading} {tk : Token} {e : ParseError} (h : s.read tk = .error e) :
    e.offset = some tk.offset ∧ ∃ c, (e.fault.message, c) ∈ refusals ∧ tk.text = [c] ∧
      ∀ left right, tk.FitsBetween left right := by
  cases tk with
  | word w => cases h
  | semicolon offset =>
    simp only [read] at h
    split at h
    · cases h
      exact ⟨rfl, ';', by simp [refusals, SyntaxFault.message], rfl, fun _ _ => trivial⟩
    · cases h
  | opening offset =>
    simp only [read] at h
    split at h
    · cases h
    · cases h
      exact ⟨rfl, '{', by simp [refusals, SyntaxFault.message], rfl, fun _ _ => trivial⟩
  | closing offset =>
    simp only [read] at h
    split at h
    · cases houter : s.outer with
      | nil =>
        simp only [houter] at h
        cases h
        exact ⟨rfl, '}', by simp [refusals, SyntaxFault.message], rfl, fun _ _ => trivial⟩
      | cons block around => simp [houter] at h
    · cases h
      exact ⟨rfl, '}', by simp [refusals, SyntaxFault.message], rfl, fun _ _ => trivial⟩

/-! What was read can be closed. -/

theorem exists_finish_braces (outer : List OpenBlock) (done : List Item) (offset : Nat) :
    ∃ items, readItems outer done [] (tokensFrom offset [] (List.replicate outer.length '}')) =
      .ok items := by
  induction outer generalizing done offset with
  | nil => exact ⟨_, rfl⟩
  | cons block around ih =>
    have hbrace (cs : List Char) :
        tokensFrom offset [] ('}' :: cs) = .closing offset :: tokensFrom (offset + 1) [] cs := rfl
    rw [List.length_cons, List.replicate_succ, hbrace]
    exact ih _ _

theorem exists_finish_closers (s : Reading) (offset : Nat) :
    ∃ items, s.finish (tokensFrom offset [] s.closers) = .ok items := by
  obtain ⟨outer, done, words⟩ := s
  by_cases hwords : words.isEmpty = true
  · obtain rfl := List.isEmpty_iff.1 hwords
    exact exists_finish_braces outer done offset
  · have hsemicolon (cs : List Char) :
        tokensFrom offset [] (';' :: cs) = .semicolon offset :: tokensFrom (offset + 1) [] cs := rfl
    simp only [finish, closers, if_neg hwords, List.singleton_append, hsemicolon, readItems]
    exact exists_finish_braces _ _ _

theorem isBreak_head_closers (s : Reading) : ∀ c ∈ s.closers.head?, isBreak c = true := by
  intro c hc
  have hmem := List.mem_of_mem_head? hc
  unfold closers at hmem
  split at hmem <;> simp at hmem
  · obtain ⟨-, rfl⟩ := hmem
    rfl
  · rcases hmem with rfl | ⟨-, rfl⟩ <;> rfl

end Reading

/-- Whether a text can be continued to one that parses. -/
def Viable (cs : List Char) : Prop :=
  ∃ more tree, language.parse (String.ofList (cs ++ more)) = .ok tree

theorem viable_iff {cs : List Char} :
    Viable cs ↔ ∃ more items, ({} : Reading).finish (tokens (cs ++ more)) = .ok items := by
  have hread (more : List Char) : readProgram (String.ofList (cs ++ more)) =
      ({} : Reading).finish (tokens (cs ++ more)) := by
    simp [readProgram, Reading.finish]
  constructor
  · rintro ⟨more, tree, hparse⟩
    obtain ⟨items, hitems, -⟩ := parse_eq_ok_iff.1 hparse
    exact ⟨more, items, (hread more).symm.trans hitems⟩
  · rintro ⟨more, items, hitems⟩
    exact ⟨more, _, parse_eq_ok_iff.2 ⟨items, (hread more).trans hitems, rfl⟩⟩

/-- A text all whose tokens can be read can be continued to one that parses. -/
theorem viable_of_run {cs : List Char} {s : Reading}
    (h : (tokens cs).foldlM Reading.read {} = .ok s) : Viable cs := by
  obtain ⟨items, hfinish⟩ := s.exists_finish_closers (0 + byteSize cs)
  refine viable_iff.2 ⟨s.closers, items, ?_⟩
  rw [tokens, tokensFrom_append_of_head _ _ _ s.isBreak_head_closers, Reading.finish_append,
    ← tokens, h]
  exact hfinish

/-- In front of a part of a text that is not empty there is an offset of a character. -/
theorem inText_of_split {cs left right : List Char} (happ : cs = left ++ right) (hne : right ≠ []) :
    isBoundary cs (byteSize left) = true ∧ byteSize left < byteSize cs := by
  refine ⟨isBoundary_iff.2 ⟨left, right, happ, rfl⟩, ?_⟩
  have hpos := byteSize_pos hne
  rw [happ, byteSize_append]
  omega

/-- Whether a text can be continued to one that parses up to an offset, but not with the character
that stands there. -/
def StuckAt (cs : List Char) (offset : Nat) (c : Char) : Prop :=
  ∃ left right, cs = left ++ c :: right ∧ byteSize left = offset ∧ Viable left ∧
    ¬Viable (left ++ [c])

theorem StuckAt.inText {cs : List Char} {offset : Nat} {c : Char} (h : StuckAt cs offset c) :
    isBoundary cs offset = true ∧ offset < byteSize cs := by
  obtain ⟨left, right, happ, rfl, -⟩ := h
  exact inText_of_split happ (by simp)

theorem stuckAt_of_refused {cs : List Char} {before after : List Token} {tk : Token} {s : Reading}
    {e : ParseError} {c : Char} (hsplit : tokens cs = before ++ tk :: after)
    (hrun : before.foldlM Reading.read {} = .ok s) (hrefused : s.read tk = .error e)
    (htext : tk.text = [c]) (hfits : ∀ left right, tk.FitsBetween left right) :
    StuckAt cs tk.offset c := by
  obtain ⟨left, right, rfl, hoffset, -, rfl, -⟩ := exists_split_of_tokensFrom hsplit
  refine ⟨left, right, by simp [htext], by omega, viable_of_run hrun, ?_⟩
  intro hviable
  obtain ⟨more, items, hfinish⟩ := viable_iff.1 hviable
  -- the token is the same one whatever comes behind it
  have haround := tokensFrom_around (hfits left more) hoffset
  rw [htext] at haround
  rw [tokens, haround, Reading.finish_append, hrun] at hfinish
  have hstep := s.finish_cons tk (tokensFrom tk.stop [] more)
  rw [hrefused] at hstep
  have himpossible := hstep.symm.trans hfinish
  cases himpossible

/-! A text that ends too early. -/

/-- Whether the block that starts at an offset is the innermost one that is open at the end of a
text: what follows its brace closes all blocks that it opens and no other. -/
def BlockOpenAt (cs : List Char) (offset : Nat) : Prop :=
  ∃ left right, cs = left ++ '{' :: right ∧ byteSize left = offset ∧ nesting 0 right = some 0

theorem BlockOpenAt.inText {cs : List Char} {offset : Nat} (h : BlockOpenAt cs offset) :
    isBoundary cs offset = true ∧ offset < byteSize cs := by
  obtain ⟨left, right, happ, rfl, -⟩ := h
  exact inText_of_split happ (by simp)

/-- Whether an item can start behind a text: its last character that is not blank, if it has one, is
a delimiter. -/
def BetweenItems (cs : List Char) : Prop :=
  ∃ front gap, cs = front ++ gap ∧ (∀ c ∈ gap, isBlank c = true) ∧
    ∀ c ∈ front.getLast?, c ∈ delimiters

/-- Whether a statement starts at an offset and goes on to the end of a text. -/
def StatementOpenAt (cs : List Char) (offset : Nat) : Prop :=
  ∃ left right, cs = left ++ right ∧ byteSize left = offset ∧ BetweenItems left ∧
    (∃ c ∈ right.head?, IsPlain c) ∧ ∀ c ∈ right, c ∉ delimiters

theorem StatementOpenAt.inText {cs : List Char} {offset : Nat} (h : StatementOpenAt cs offset) :
    isBoundary cs offset = true ∧ offset < byteSize cs := by
  obtain ⟨left, right, happ, rfl, -, ⟨c, hc, -⟩, -⟩ := h
  refine inText_of_split happ ?_
  rintro rfl
  simp at hc

theorem betweenItems_of_last {cs : List Char}
    (h : ∀ tk ∈ (tokens cs).getLast?, ∀ w, tk ≠ .word w) : BetweenItems cs := by
  obtain ⟨front, gap, rfl, hgap, hfront⟩ := exists_longest_end isBlank cs
  refine ⟨front, gap, rfl, hgap, fun c hc => ?_⟩
  by_contra hdelim
  have hplain : isBreak c = false := isPlain_iff.1 ⟨hdelim, hfront c hc⟩
  obtain ⟨initial, rfl⟩ := List.getLast?_eq_some_iff.1 hc
  obtain ⟨ts, w, hts⟩ := tokensFrom_append_word 0 [] initial hplain
  have hhead : ∀ d ∈ gap.head?, isBreak d = true := fun d hd =>
    isBreak_of_isBlank (hgap d (List.mem_of_mem_head? hd))
  rw [tokens, tokensFrom_append_of_head _ _ _ hhead, tokensFrom_of_blank _ hgap, hts] at h
  exact h (.word w) (by simp) w rfl

theorem getLast?_itemTokens (item : Item) : ∃ tk ∈ item.tokens.getLast?, ∀ w, tk ≠ .word w := by
  cases item with
  | block start close body =>
    refine ⟨.closing close, ?_, by simp⟩
    rw [Item.tokens, List.getLast?_concat]
    rfl
  | statement words close => exact ⟨.semicolon close, by simp [Item.tokens], by simp⟩

/-- What was read before the current statement does not end in a word. -/
theorem Reading.last_before_words (s : Reading) :
    ∀ tk ∈ (openTokens s.outer ++ s.done.reverse.flatMap Item.tokens).getLast?,
      ∀ w, tk ≠ .word w := by
  obtain ⟨outer, done, words⟩ := s
  intro tk htk
  cases done with
  | cons item done =>
    obtain ⟨last, hlast, hword⟩ := getLast?_itemTokens item
    have heq : last = tk := by
      simpa [List.flatMap_append, List.getLast?_append, Option.mem_def.1 hlast] using htk
    exact heq ▸ hword
  | nil =>
    cases outer with
    | nil => simp [openTokens] at htk
    | cons block around =>
      have heq : .opening block.start = tk := by simpa [openTokens] using htk
      simp [← heq]

theorem blockOpenAt_of_run {cs : List Char} {s : Reading} {block : OpenBlock}
    {around : List OpenBlock} (hrun : (tokens cs).foldlM Reading.read {} = .ok s)
    (hwords : s.words = []) (houter : s.outer = block :: around) : BlockOpenAt cs block.start := by
  have htokens := Reading.tokens_run hrun
  simp only [Reading.tokens, hwords, houter, openTokens] at htokens
  have hsplit : tokens cs = openTokens around ++ block.before.reverse.flatMap Item.tokens ++
      .opening block.start :: s.done.reverse.flatMap Item.tokens := by
    simpa using htokens.symm
  obtain ⟨left, right, rfl, hoffset, -, -, hright⟩ := exists_split_of_tokensFrom hsplit
  refine ⟨left, right, by simp [Token.text], ?_, nesting_of_items 0 hright⟩
  simpa [Token.offset] using hoffset.symm

theorem statementOpenAt_of_run {cs : List Char} {s : Reading} {first : Word}
    (hrun : (tokens cs).foldlM Reading.read {} = .ok s) (hfirst : s.words.getLast? = some first) :
    StatementOpenAt cs first.start := by
  obtain ⟨later, hwords⟩ := List.getLast?_eq_some_iff.1 hfirst
  have htokens := Reading.tokens_run hrun
  have hsplit : tokens cs = openTokens s.outer ++ s.done.reverse.flatMap Item.tokens ++
      .word first :: later.reverse.map .word := by
    simpa [Reading.tokens, hwords, openTokens] using htokens.symm
  obtain ⟨left, right, rfl, hoffset, hfits, hleft, hright⟩ := exists_split_of_tokensFrom hsplit
  obtain ⟨hne, hplain, -, -⟩ := hfits
  refine ⟨left, first.text ++ right, by simp [Token.text], ?_, ?_, ?_, ?_⟩
  · simpa [Token.offset] using hoffset.symm
  · refine betweenItems_of_last ?_
    rw [tokens, hleft]
    exact s.last_before_words
  · obtain ⟨c, text, htext⟩ := List.exists_cons_of_ne_nil hne
    exact ⟨c, by simp [htext], isPlain_iff.2 (hplain c (by simp [htext]))⟩
  · intro c hc
    rcases List.mem_append.1 hc with hc | hc
    · exact (isPlain_iff.2 (hplain c hc)).1
    · have hlater : ∀ tk ∈ tokensFrom (Token.word first).stop [] right, ∃ w, tk = .word w := by
        rw [hright]
        simp
      exact not_mem_delimiters_of_words hlater c hc

theorem parse_eq_error_iff {text : String} {e : ParseError} :
    parse text = .error e ↔ ({} : Reading).finish (tokens text.toList) = .error e := by
  show _ ↔ readProgram text = .error e
  unfold parse
  cases readProgram text with
  | error e' => simp [bind, Except.bind]
  | ok items => simp [bind, Except.bind, programTree_eq]

/-- The end of a text that was read without a refusal. -/
theorem finish_nil_error {s : Reading} {e : ParseError} (h : s.finish [] = .error e) :
    (∃ first, s.words.getLast? = some first ∧
        e = { fault := .unterminatedStatement, offset := some first.start }) ∨
      ∃ block around, s.words = [] ∧ s.outer = block :: around ∧
        e = { fault := .unclosedBlock, offset := some block.start } := by
  obtain ⟨outer, done, words⟩ := s
  cases hlast : words.getLast? with
  | some first =>
    simp only [Reading.finish, readItems, hlast] at h
    cases h
    exact .inl ⟨first, rfl, rfl⟩
  | none =>
    have hwords : words = [] := List.getLast?_eq_none_iff.1 hlast
    cases outer with
    | nil => simp [Reading.finish, readItems, hlast] at h
    | cons block around =>
      simp only [Reading.finish, readItems, hlast] at h
      cases h
      exact .inr ⟨block, around, hwords, rfl, rfl⟩

/-- Errors are located. The offset of an error is that of a character of the text. Either it is the
first delimiter that no continuation can mend, or the text only ends too early, and it is the start
of the innermost block or of the statement that is still open there. -/
theorem parse_errors_are_located (text : String) (e : ParseError)
    (h : language.parse text = .error e) :
    ∃ offset, e.offset = some offset ∧ isBoundary text.toList offset = true ∧
      offset < byteSize text.toList ∧
      ((∃ c, (e.fault.message, c) ∈ Reading.refusals ∧ StuckAt text.toList offset c) ∨
        (e.fault.message = "unclosed block" ∧ Viable text.toList ∧
          BlockOpenAt text.toList offset) ∨
        (e.fault.message = "unterminated statement" ∧ Viable text.toList ∧
          StatementOpenAt text.toList offset)) := by
  have hfinish := parse_eq_error_iff.1 h
  rcases Reading.run_cases {} (tokens text.toList) with
    ⟨s, hrun⟩ | ⟨before, tk, after, s, e', hsplit, hrun, hrefused⟩
  · have hend : s.finish [] = .error e := by
      have happ := Reading.finish_append {} (tokens text.toList) []
      rw [List.append_nil, hrun, hfinish] at happ
      exact happ.symm
    rcases finish_nil_error hend with ⟨first, hfirst, rfl⟩ | ⟨block, around, hwords, houter, rfl⟩
    · have hopen := statementOpenAt_of_run hrun hfirst
      obtain ⟨hbound, hlt⟩ := hopen.inText
      exact ⟨_, rfl, hbound, hlt, .inr (.inr ⟨rfl, viable_of_run hrun, hopen⟩)⟩
    · have hopen := blockOpenAt_of_run hrun hwords houter
      obtain ⟨hbound, hlt⟩ := hopen.inText
      exact ⟨_, rfl, hbound, hlt, .inr (.inl ⟨rfl, viable_of_run hrun, hopen⟩)⟩
  · obtain rfl : e' = e := by
      have happ := Reading.finish_append {} before (tk :: after)
      rw [← hsplit, hfinish, hrun] at happ
      have hstep := s.finish_cons tk after
      rw [hrefused] at hstep
      exact Except.error.inj (hstep.symm.trans happ.symm)
    obtain ⟨hoffset, c, hmessage, htext, hfits⟩ := Reading.read_error hrefused
    have hstuck := stuckAt_of_refused hsplit hrun hrefused htext hfits
    obtain ⟨hbound, hlt⟩ := hstuck.inText
    exact ⟨_, hoffset, hbound, hlt, .inl ⟨c, hmessage, hstuck⟩⟩

theorem parse_errors_are_located_openBlock :
    language.parse "\x7bx;\x7b" = .error { fault := .unclosedBlock, offset := some 3 } ∧
      Viable "\x7bx;\x7b".toList ∧ BlockOpenAt "\x7bx;\x7b".toList 3 := by
  have herror :
      language.parse "\x7bx;\x7b" = .error { fault := .unclosedBlock, offset := some 3 } := by
    rfl
  refine ⟨herror, ?_⟩
  obtain ⟨offset, hoffset, -, -, ⟨c, hrefusal, -⟩ | ⟨-, hviable, hopen⟩ | ⟨hmessage, -⟩⟩ :=
    parse_errors_are_located _ _ herror
  · simp [Reading.refusals, SyntaxFault.message] at hrefusal
  · cases hoffset
    exact ⟨hviable, hopen⟩
  · simp [SyntaxFault.message] at hmessage

end SourceReducer.Statement
