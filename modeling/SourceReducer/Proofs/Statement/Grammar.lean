import SourceReducer.Proofs.Statement.Lexemes
import SourceReducer.Proofs.Statement.Places
import SourceReducer.Statement.Parse

/-! Reading programs and giving their tokens back. The tokens of a program that was read are the
tokens it was read from, and the tokens of any program in which every statement has a word are read
as this program. What is read does not depend on where the tokens stand. -/
namespace SourceReducer.Statement

/-- Induction over programs: into the body of the first item where it is a block, and over the
rest. -/
@[elab_as_elim]
theorem items_induction {motive : List Item → Prop} (nil : motive [])
    (block : ∀ start close body rest, motive body → motive rest →
      motive (.block start close body :: rest))
    (statement : ∀ words close rest, motive rest → motive (.statement words close :: rest)) :
    ∀ items, motive items
  | [] => nil
  | .block start close body :: rest =>
      block start close body rest (items_induction nil block statement body)
        (items_induction nil block statement rest)
  | .statement words close :: rest =>
      statement words close rest (items_induction nil block statement rest)

@[simp] theorem itemsTokens_eq_flatMap (items : List Item) :
    itemsTokens items = items.flatMap Item.tokens := by
  induction items with
  | nil => simp [itemsTokens]
  | cons item rest ih => simp [itemsTokens, ih]

mutual

/-- Whether every statement has a word. -/
def Item.Complete : Item → Prop
  | .block _ _ body => ItemsComplete body
  | .statement words _ => words ≠ []

def ItemsComplete : List Item → Prop
  | [] => True
  | item :: rest => item.Complete ∧ ItemsComplete rest

end

@[simp] theorem itemsComplete_iff (items : List Item) :
    ItemsComplete items ↔ ∀ item ∈ items, item.Complete := by
  induction items with
  | nil => simp [ItemsComplete]
  | cons item rest ih => simp [ItemsComplete, ih]

/-! Completeness of the reader. -/

theorem readItems_words (outer : List OpenBlock) (done : List Item) (words ws : List Word)
    (rest : List Token) :
    readItems outer done words (ws.map .word ++ rest) =
      readItems outer done (ws.reverse ++ words) rest := by
  induction ws generalizing words with
  | nil => rfl
  | cons w ws ih => simp [readItems, ih]

/-- The tokens of a complete program are read as this program. -/
theorem readItems_tokens (items : List Item) (h : ∀ item ∈ items, item.Complete)
    (outer : List OpenBlock) (done : List Item) (rest : List Token) :
    readItems outer done [] (items.flatMap Item.tokens ++ rest) =
      readItems outer (items.reverse ++ done) [] rest := by
  induction items using items_induction generalizing outer done rest with
  | nil => rfl
  | block start close body items hbody hitems =>
    have hcomplete : ∀ item ∈ body, item.Complete := by
      simpa [Item.Complete] using h _ List.mem_cons_self
    have hrest : ∀ item ∈ items, item.Complete := fun item hi => h item (List.mem_cons_of_mem _ hi)
    simp only [List.flatMap_cons, Item.tokens, itemsTokens_eq_flatMap, List.cons_append,
      List.append_assoc, List.nil_append, readItems, List.isEmpty_nil, if_true]
    rw [hbody hcomplete]
    simp [readItems, hitems hrest]
  | statement words close items hitems =>
    have hwords : words ≠ [] := by simpa [Item.Complete] using h _ List.mem_cons_self
    have hrest : ∀ item ∈ items, item.Complete := fun item hi => h item (List.mem_cons_of_mem _ hi)
    simp only [List.flatMap_cons, Item.tokens, List.append_assoc, List.cons_append,
      List.nil_append, readItems_words]
    simp [readItems, hwords, hitems hrest]

/-- The tokens of a program in which a statement has no word are not read. -/
theorem readItems_tokens_error (items : List Item) (h : ¬∀ item ∈ items, item.Complete)
    (outer : List OpenBlock) (done : List Item) (rest : List Token) :
    ∃ e, readItems outer done [] (items.flatMap Item.tokens ++ rest) = .error e := by
  induction items using items_induction generalizing outer done rest with
  | nil => simp at h
  | block start close body items hbody hitems =>
    simp only [List.flatMap_cons, Item.tokens, itemsTokens_eq_flatMap, List.cons_append,
      List.append_assoc, List.nil_append, readItems, List.isEmpty_nil, if_true]
    by_cases hc : ∀ item ∈ body, item.Complete
    · rw [readItems_tokens body hc]
      simp only [List.append_nil, readItems, List.isEmpty_nil, if_true]
      refine hitems (fun hall => h ?_) _ _ _
      simpa [Item.Complete] using And.intro hc hall
    · exact hbody hc _ _ _
  | statement words close items hitems =>
    simp only [List.flatMap_cons, Item.tokens, List.append_assoc, List.cons_append,
      List.nil_append, readItems_words, readItems]
    by_cases hw : words = []
    · simp [hw, fail]
    · simp only [List.append_nil, List.isEmpty_reverse, List.isEmpty_iff, hw, if_false]
      refine hitems (fun hall => h ?_) _ _ _
      simpa [Item.Complete, hw] using hall

/-! Soundness of the reader. -/

/-- The tokens that were read before the innermost block was opened, and its brace. -/
def openTokens : List OpenBlock → List Token
  | [] => []
  | block :: around =>
      openTokens around ++ block.before.reverse.flatMap Item.tokens ++ [.opening block.start]

theorem readItems_sound {outer : List OpenBlock} {done : List Item} {words : List Word}
    {ts : List Token} {items : List Item} (h : readItems outer done words ts = .ok items)
    (houter : ∀ block ∈ outer, ∀ item ∈ block.before, item.Complete)
    (hdone : ∀ item ∈ done, item.Complete) :
    items.flatMap Item.tokens = openTokens outer ++ done.reverse.flatMap Item.tokens ++
      words.reverse.map .word ++ ts ∧ ∀ item ∈ items, item.Complete := by
  induction ts generalizing outer done words with
  | nil =>
    cases words with
    | cons w ws => simp [readItems, fail, List.getLast?_cons] at h
    | nil =>
      cases outer with
      | cons block around => simp [readItems, fail] at h
      | nil =>
        simp only [readItems, List.getLast?_nil, Except.ok.injEq] at h
        subst h
        simpa [openTokens] using hdone
  | cons t ts ih =>
    cases t with
    | word w =>
      obtain ⟨happ, hitems⟩ := ih h houter hdone
      exact ⟨by simp [happ], hitems⟩
    | semicolon offset =>
      simp only [readItems] at h
      split at h
      · simp [fail] at h
      · next hw =>
        obtain ⟨happ, hitems⟩ := ih h houter (by
          simp only [List.mem_cons, forall_eq_or_imp]
          exact ⟨by simpa [Item.Complete] using hw, hdone⟩)
        exact ⟨by simp [happ, Item.tokens], hitems⟩
    | opening offset =>
      simp only [readItems] at h
      split at h
      · next hw =>
        obtain ⟨happ, hitems⟩ := ih h (by
          simp only [List.mem_cons, forall_eq_or_imp]
          exact ⟨hdone, houter⟩) (by simp)
        have hempty : words = [] := by simpa using hw
        exact ⟨by simp [happ, openTokens, hempty], hitems⟩
      · simp [fail] at h
    | closing offset =>
      simp only [readItems] at h
      split at h
      · next hw =>
        have hempty : words = [] := by simpa using hw
        cases outer with
        | nil => simp [fail] at h
        | cons block around =>
          simp only [List.mem_cons, forall_eq_or_imp] at houter
          obtain ⟨happ, hitems⟩ := ih h houter.2 (by
            simp only [List.mem_cons, forall_eq_or_imp]
            exact ⟨by simpa [Item.Complete] using hdone, houter.1⟩)
          exact ⟨by simp [happ, openTokens, hempty, Item.tokens], hitems⟩
      · simp [fail] at h

/-- A program that was read has the tokens of its text, and all its statements have words. -/
theorem readProgram_sound {text : String} {items : List Item} (h : readProgram text = .ok items) :
    items.flatMap Item.tokens = tokens text.toList ∧ ∀ item ∈ items, item.Complete := by
  simpa [openTokens] using readItems_sound h (by simp) (by simp)

/-- A block cannot be opened behind a word. -/
theorem readItems_word_opening (outer : List OpenBlock) (done : List Item) (words : List Word)
    (ts : List Token) (w : Word) (offset : Nat) (rest : List Token) :
    ∃ e, readItems outer done words (ts ++ .word w :: .opening offset :: rest) = .error e := by
  induction ts generalizing outer done words with
  | nil => simp [readItems, fail]
  | cons t ts ih =>
    cases t with
    | word w => exact ih _ _ _
    | semicolon offset =>
      simp only [List.cons_append, readItems]
      split
      · exact ⟨_, rfl⟩
      · exact ih _ _ _
    | opening offset =>
      simp only [List.cons_append, readItems]
      split
      · exact ih _ _ _
      · exact ⟨_, rfl⟩
    | closing offset =>
      simp only [List.cons_append, readItems]
      split
      · cases outer with
        | nil => exact ⟨_, rfl⟩
        | cons block around => exact ih _ _ _
      · exact ⟨_, rfl⟩

/-! What is read is decided by what the tokens read as. -/

/-- A token without its place. -/
def Token.bare : Token → Token
  | .opening _ => .opening 0
  | .closing _ => .closing 0
  | .semicolon _ => .semicolon 0
  | .word w => .word { w with start := 0 }

mutual

/-- An item without its place. -/
def Item.bare : Item → Item
  | .block _ _ body => .block 0 0 (itemsBare body)
  | .statement words _ => .statement (words.map fun w => { w with start := 0 }) 0

def itemsBare : List Item → List Item
  | [] => []
  | item :: rest => item.bare :: itemsBare rest

end

@[simp] theorem itemsBare_eq_map (items : List Item) : itemsBare items = items.map Item.bare := by
  induction items with
  | nil => rfl
  | cons item rest ih => simp [itemsBare, ih]

/-- Two readings that differ in places only. -/
def SameReading : Except ParseError (List Item) → Except ParseError (List Item) → Prop
  | .ok items, .ok items' => items.map Item.bare = items'.map Item.bare
  | .error e, .error e' => e.fault = e'.fault
  | _, _ => False

theorem readItems_bare {ts ts' : List Token} (hts : ts.map Token.bare = ts'.map Token.bare)
    {outer outer' : List OpenBlock} {done done' : List Item} {words words' : List Word}
    (houter : outer.map (fun b => b.before.map Item.bare) =
      outer'.map fun b => b.before.map Item.bare)
    (hdone : done.map Item.bare = done'.map Item.bare)
    (hwords : words.map Word.text = words'.map Word.text) :
    SameReading (readItems outer done words ts) (readItems outer' done' words' ts') := by
  have hnil : words.isEmpty = words'.isEmpty := by
    have := congrArg List.length hwords
    cases words <;> cases words' <;> simp_all
  have hbare : words.map (fun w => { w with start := 0 }) =
      words'.map fun w => ({ w with start := 0 } : Word) := by
    have := congrArg (List.map fun text => ({ start := 0, text } : Word)) hwords
    simpa [Function.comp_def] using this
  induction ts generalizing ts' outer outer' done done' words words' with
  | nil =>
    obtain rfl : ts' = [] := by simpa using hts.symm
    cases words with
    | cons w ws =>
      cases words' with
      | nil => simp at hnil
      | cons w' ws' => simp [readItems, fail, List.getLast?_cons, SameReading]
    | nil =>
      obtain rfl : words' = [] := by simpa using hnil
      cases outer with
      | cons block around =>
        cases outer' with
        | nil => simp at houter
        | cons block' around' => simp [readItems, fail, SameReading]
      | nil =>
        obtain rfl : outer' = [] := by simpa using houter.symm
        simpa [readItems, SameReading] using hdone
  | cons t ts ih =>
    cases ts' with
    | nil => simp at hts
    | cons t' ts' =>
      simp only [List.map_cons, List.cons.injEq] at hts
      obtain ⟨ht, hts⟩ := hts
      cases t with
      | word w =>
        cases t' <;> simp only [Token.bare, Token.word.injEq, Word.mk.injEq, reduceCtorEq] at ht
        next w' =>
        simp only [readItems]
        exact ih hts houter hdone (by simp [hwords, ht.2]) (by simp) (by simp [hbare, ht.2])
      | semicolon offset =>
        cases t' <;> simp only [Token.bare, reduceCtorEq] at ht
        simp only [readItems, ← hnil]
        split
        · simp [fail, SameReading]
        · refine ih hts houter ?_ rfl rfl rfl
          simp only [List.map_cons, Item.bare, List.map_reverse, hbare, hdone]
      | opening offset =>
        cases t' <;> simp only [Token.bare, reduceCtorEq] at ht
        simp only [readItems, ← hnil]
        split
        · exact ih hts (by simp [hdone, houter]) rfl rfl rfl rfl
        · simp [fail, SameReading]
      | closing offset =>
        cases t' <;> simp only [Token.bare, reduceCtorEq] at ht
        simp only [readItems, ← hnil]
        split
        · cases outer with
          | nil =>
            obtain rfl : outer' = [] := by simpa using houter.symm
            simp [fail, SameReading]
          | cons block around =>
            cases outer' with
            | nil => simp at houter
            | cons block' around' =>
              simp only [List.map_cons, List.cons.injEq] at houter
              refine ih hts houter.2 ?_ rfl rfl rfl
              simp [Item.bare, hdone, houter.1]
        · simp [fail, SameReading]

/-- The token without a place that reads as a text. -/
def Token.ofText (text : List Char) : Token :=
  if text = ['{'] then .opening 0
  else if text = ['}'] then .closing 0
  else if text = [';'] then .semicolon 0
  else .word { start := 0, text }

/-- Whether a token is not one of a word that holds a break. -/
def Token.Proper : Token → Prop
  | .word w => ∀ c ∈ w.text, isBreak c = false
  | _ => True

theorem Token.Proper.bare_eq {t : Token} (h : t.Proper) : t.bare = Token.ofText t.text := by
  cases t with
  | word w =>
    have hne (c : Char) (hc : isBreak c = true) : w.text ≠ [c] := by
      intro hw
      have := h c (by simp [hw])
      simp [hc] at this
    simp [bare, ofText, text, hne '{' (by decide), hne '}' (by decide), hne ';' (by decide)]
  | _ => rfl

theorem map_bare_of_map_text {ts ts' : List Token} (hts : ∀ t ∈ ts, t.Proper)
    (hts' : ∀ t ∈ ts', t.Proper) (h : ts.map Token.text = ts'.map Token.text) :
    ts.map Token.bare = ts'.map Token.bare := by
  calc ts.map Token.bare
      = (ts.map Token.text).map Token.ofText := by
        rw [List.map_map]
        exact List.map_congr_left fun t ht => (hts t ht).bare_eq
    _ = (ts'.map Token.text).map Token.ofText := by rw [h]
    _ = ts'.map Token.bare := by
        rw [List.map_map]
        exact (List.map_congr_left fun t ht => (hts' t ht).bare_eq).symm

theorem Token.FitsBetween.proper {t : Token} {left right : List Char}
    (h : t.FitsBetween left right) : t.Proper := by
  cases t with
  | word w => exact h.2.1
  | _ => trivial

theorem proper_of_mem_tokens {t : Token} {cs : List Char} (h : t ∈ tokens cs) : t.Proper := by
  obtain ⟨left, right, -, -, hfits⟩ := mem_tokens h
  exact hfits.proper

/-- Texts with the same lexemes are read in the same way. -/
theorem sameReading_of_lexemes {text text' : String}
    (h : lexemes text.toList = lexemes text'.toList) :
    SameReading (readProgram text) (readProgram text') :=
  readItems_bare (map_bare_of_map_text (fun _ => proper_of_mem_tokens)
    (fun _ => proper_of_mem_tokens) h) rfl rfl rfl

end SourceReducer.Statement
