import SourceReducer.Proofs.Statement.Segments
import SourceReducer.Proofs.Tree.Arena

/-! Where the nodes of a program's tree stand in its text. A span covers a part of the text that
reads as the kind of its node asks for. The spans of a subtree lie inside the span of its root, and
what comes later stands further behind. -/
namespace SourceReducer

/-- Whether a span lies inside another one. -/
def Span.Within (s outer : Span) : Prop :=
  outer.start ≤ s.start ∧ s.stop ≤ outer.stop

/-- What stands in a text before a span, in it and behind it. -/
structure Span.Splits (s : Span) (cs left mid right : List Char) : Prop where
  text_eq : cs = left ++ mid ++ right
  start_eq : s.start = byteSize left
  stop_eq : s.stop = byteSize left + byteSize mid

/-- Whether a character at an offset is one of a word, the semicolon of a statement or a brace of a
block. -/
def Node.Shows (node : Node) (c : Char) (offset : Nat) : Prop :=
  (node.kind = "word" ∧ node.span.covers offset = true) ∨
    (node.kind = "statement" ∧ c = ';' ∧ node.span.stop = offset + 1) ∨
    (node.kind = "block" ∧
      (c = '{' ∧ node.span.start = offset ∨ c = '}' ∧ node.span.stop = offset + 1))

/-- The text of a node is what its span covers. -/
theorem Tree.text?_of_splits {t : Tree} {i : Nat} {node : Node} {text : String}
    {left mid right : List Char} (hnode : t.node? i = some node)
    (h : node.span.Splits text.toList left mid right) :
    t.text? i text = some (String.ofList mid) := by
  have hslice := slice?_byteSize left mid right
  rw [← h.text_eq, ← h.stop_eq, ← h.start_eq] at hslice
  simp [Tree.text?, hnode, hslice]

namespace Statement

/-! Programs are built. -/

theorem exists_calls_words (b : Builder) (words : List Word) :
    ∃ calls, words.foldl (fun b w => b.leaf "word" w.start w.stop) b = b.callAll calls := by
  refine ⟨words.map fun w => .leaf "word" w.start w.stop, ?_⟩
  rw [Builder.callAll, List.foldl_map]
  rfl

theorem exists_calls_items (b : Builder) (items : List Item) :
    ∃ calls, addItems b items = b.callAll calls := by
  induction items using items_induction generalizing b with
  | nil => exact ⟨[], rfl⟩
  | block start close body rest hbody hrest =>
    obtain ⟨inner, hinner⟩ := hbody (b.start "block" start)
    obtain ⟨outer, houter⟩ := hrest ((addItems (b.start "block" start) body).finish (close + 1))
    refine ⟨.start "block" start :: inner ++ .finish (close + 1) :: outer, ?_⟩
    rw [addItems, Item.addTo, houter, hinner]
    simp [Builder.callAll, Builder.call]
  | statement words close rest hrest =>
    obtain ⟨inner, hinner⟩ :=
      exists_calls_words (b.start "statement" (firstOffset words close)) words
    obtain ⟨outer, houter⟩ := hrest (Item.addTo b (.statement words close))
    refine ⟨.start "statement" (firstOffset words close) :: inner ++ .finish (close + 1) :: outer,
      ?_⟩
    rw [addItems, houter, Item.addTo, hinner]
    simp [Builder.callAll, Builder.call]

theorem built_treeOf (size : Nat) (items : List Item) : (treeOf size items).Built := by
  obtain ⟨calls, hcalls⟩ := exists_calls_items (({} : Builder).start "program" 0) items
  refine ⟨.start "program" 0 :: calls ++ [.finish size], ?_⟩
  rw [← programTree_eq, programTree, hcalls]
  simp [Builder.callAll, Builder.call]

/-! How the spans lie to each other. -/

/-- How a node lies to a later one: around it if it is in the subtree, and before it otherwise. -/
structure Numbered.Leads (r r' : Numbered) : Prop where
  around : r.Holds r'.index → r'.node.span.Within r.node.span
  before : ¬r.Holds r'.index → r.node.span.stop ≤ r'.node.span.start

theorem Numbered.Leads.of_holds {r r' : Numbered} (hholds : r.Holds r'.index)
    (hwithin : r'.node.span.Within r.node.span) : r.Leads r' :=
  ⟨fun _ => hwithin, fun hnot => absurd hholds hnot⟩

theorem Numbered.Leads.of_behind {r r' : Numbered} (hindex : r.index + r.size ≤ r'.index)
    (hstop : r.node.span.stop ≤ r'.node.span.start) : r.Leads r' :=
  ⟨fun hholds => absurd hholds.2 (by omega), fun _ => hstop⟩

/-- A node, those in its subtree, and those behind it. -/
theorem pairwise_leads_cons {r : Numbered} {inner rest : List Numbered}
    (hinner : inner.Pairwise Numbered.Leads) (hrest : rest.Pairwise Numbered.Leads)
    (hbelow : ∀ x ∈ inner, r.index < x.index ∧ 1 ≤ x.size ∧ x.index + x.size ≤ r.index + r.size ∧
      x.node.span.Within r.node.span)
    (hbehind : ∀ x ∈ rest, r.index + r.size ≤ x.index ∧ r.node.span.stop ≤ x.node.span.start) :
    (r :: (inner ++ rest)).Pairwise Numbered.Leads := by
  refine List.pairwise_cons.2 ⟨fun x hx => ?_, List.pairwise_append.2 ⟨hinner, hrest, ?_⟩⟩
  · rcases List.mem_append.1 hx with hx | hx
    · obtain ⟨hlt, hpos, hle, hwithin⟩ := hbelow x hx
      exact .of_holds ⟨by omega, by omega⟩ hwithin
    · obtain ⟨hindex, hstop⟩ := hbehind x hx
      exact .of_behind hindex hstop
  · intro x hx y hy
    obtain ⟨-, -, hle, hwithin⟩ := hbelow x hx
    obtain ⟨hindex, hstop⟩ := hbehind y hy
    exact .of_behind (by omega) (hwithin.2.trans hstop)

theorem pairwise_wordsNumbered {parent base : Nat} {words : List Word}
    (hsorted : words.Pairwise fun v w => v.stop ≤ w.start) :
    (wordsNumbered parent base words).Pairwise Numbered.Leads := by
  induction words generalizing base with
  | nil => exact .nil
  | cons w words ih =>
    obtain ⟨hw, hwords⟩ := List.pairwise_cons.1 hsorted
    refine List.pairwise_cons.2 ⟨fun r hr => ?_, ih hwords⟩
    obtain ⟨v, hv, hstart, -⟩ := span_of_mem_wordsNumbered hr
    have hindex := mem_wordsNumbered hr
    have hle := hw v hv
    refine .of_behind hindex.1 ?_
    simp only [Span.clamped, hstart, Word.stop] at hle ⊢
    omega

theorem pairwise_itemsNumbered {parent base : Nat} {items : List Item} (hitems : Placed items) :
    (itemsNumbered parent base items).Pairwise Numbered.Leads := by
  induction items using items_induction generalizing parent base with
  | nil => exact .nil
  | block start close body rest hbody hrest =>
    obtain ⟨hpbody, hprest, hlt, hinner, houter⟩ := hitems.of_block
    simp only [itemsNumbered, Item.numbered, Item.size, List.cons_append]
    refine pairwise_leads_cons (hbody hpbody) (hrest hprest) (fun r hr => ?_) fun r hr => ?_
    · have hindex := mem_itemsNumbered hr
      have hspan := bounds_of_mem_itemsNumbered hpbody hr hinner
      simp only [Span.Within, Span.clamped]
      omega
    · have hindex := mem_itemsNumbered hr
      have hspan := lt_start_of_mem_itemsNumbered hprest hr houter
      simp only [Span.clamped]
      omega
  | statement words close rest hrest =>
    obtain ⟨hprest, -, hsorted, hwords, houter⟩ := hitems.of_statement
    have hlow := firstOffset_le_close hwords
    simp only [itemsNumbered, Item.numbered, Item.size, List.cons_append]
    refine pairwise_leads_cons (pairwise_wordsNumbered hsorted) (hrest hprest) (fun r hr => ?_)
      fun r hr => ?_
    · obtain ⟨w, hw, hstart, hstop⟩ := span_of_mem_wordsNumbered hr
      have hindex := mem_wordsNumbered hr
      have hfirst := firstOffset_le hsorted close w hw
      have hword := hwords w hw
      simp only [Span.Within, Span.clamped]
      omega
    · have hindex := mem_itemsNumbered hr
      have hspan := lt_start_of_mem_itemsNumbered hprest hr houter
      simp only [Span.clamped]
      omega

section Program

variable {text : String} {items : List Item}

theorem stop_le_of_mem_tokens {cs : List Char} {tk : Token} (h : tk ∈ tokens cs) :
    tk.stop ≤ byteSize cs := by
  obtain ⟨left, right, rfl, hoffset, -⟩ := mem_tokens h
  simp only [Token.stop, hoffset, byteSize_append]
  omega

theorem pairwise_programNumbered (h : readProgram text = .ok items) :
    (programNumbered (byteSize text.toList) items).Pairwise Numbered.Leads := by
  have hplaced := placed_of_readProgram h
  refine List.pairwise_cons.2 ⟨fun r hr => ?_, pairwise_itemsNumbered hplaced⟩
  have hindex := mem_itemsNumbered hr
  obtain ⟨first, -, last, hlast, -, hstop, -⟩ := span_of_mem_itemsNumbered hplaced hr
  rw [(readProgram_sound h).1] at hlast
  have hle := stop_le_of_mem_tokens hlast
  refine .of_holds ⟨by simp only; omega, by simp only; omega⟩ ?_
  simp only [Span.Within, Span.clamped]
  omega

/-- A node lies around those in its subtree and before all others that come later. -/
theorem leads_of_lt {r r' : Numbered} (h : readProgram text = .ok items)
    (hr : r ∈ programNumbered (byteSize text.toList) items)
    (hr' : r' ∈ programNumbered (byteSize text.toList) items) (hlt : r.index < r'.index) :
    r.Leads r' := by
  obtain ⟨i, hi⟩ := List.getElem?_of_mem hr
  obtain ⟨j, hj⟩ := List.getElem?_of_mem hr'
  obtain rfl := index_of_getElem? hi
  obtain rfl := index_of_getElem? hj
  obtain ⟨hi, hri⟩ := List.getElem?_eq_some_iff.1 hi
  obtain ⟨hj, hrj⟩ := List.getElem?_eq_some_iff.1 hj
  have hleads := List.pairwise_iff_getElem.1 (pairwise_programNumbered h) _ _ hi hj hlt
  rwa [hri, hrj] at hleads

theorem mem_itemsNumbered_of_parent {r : Numbered} {size p : Nat}
    (hr : r ∈ programNumbered size items) (hp : r.node.parent = some p) :
    r ∈ itemsNumbered 0 1 items := by
  rcases List.mem_cons.1 hr with rfl | hr
  · cases hp
  · exact hr

/-- Children lie inside their parents. -/
theorem within_of_parent {r r' : Numbered} (h : readProgram text = .ok items)
    (hr : r ∈ programNumbered (byteSize text.toList) items)
    (hr' : r' ∈ programNumbered (byteSize text.toList) items)
    (hparent : r.node.parent = some r'.index) : r.node.span.Within r'.node.span := by
  have hitem := mem_itemsNumbered_of_parent hr hparent
  obtain ⟨q, hq, hlt, -⟩ := parent_of_mem_itemsNumbered (by omega) hitem
  obtain rfl : q = r'.index := Option.some.inj (hq.symm.trans hparent)
  refine (leads_of_lt h hr' hr hlt).around ?_
  rcases List.mem_cons.1 hr' with rfl | hitem'
  · have hsize := mem_programNumbered hr
    exact ⟨by simp only; omega, by simp only; omega⟩
  · exact (holds_iff_holds_parent (by omega) hitem hitem' hparent).2 (.inr (holds_self hr'))

/-- Of two siblings the later one stands behind the other. -/
theorem behind_of_siblings {r r' : Numbered} {p : Nat} (h : readProgram text = .ok items)
    (hr : r ∈ programNumbered (byteSize text.toList) items)
    (hr' : r' ∈ programNumbered (byteSize text.toList) items) (hp : r.node.parent = some p)
    (hp' : r'.node.parent = some p) (hlt : r.index < r'.index) :
    r.node.span.stop ≤ r'.node.span.start := by
  have hitem := mem_itemsNumbered_of_parent hr hp
  have hitem' := mem_itemsNumbered_of_parent hr' hp'
  obtain ⟨q, hq, hup, -⟩ := parent_of_mem_itemsNumbered (by omega) hitem
  obtain rfl : q = p := Option.some.inj (hq.symm.trans hp)
  refine (leads_of_lt h hr hr' hlt).before fun hholds => ?_
  rcases (holds_iff_holds_parent (by omega) hitem' hitem hp').1 hholds with heq | hq
  · omega
  · have := hq.1
    omega

end Program

/-! What the spans read. -/

/-- What a node reads, between what stands before it and behind it. A word is as long as it can be,
a statement goes from its first word up to its semicolon, and a block from its brace to the one that
closes it. -/
inductive Reads (t : Tree) (node : Node) : List Char → List Char → List Char → Prop
  | program {mid : List Char} (hkind : node.kind = "program") : Reads t node [] mid []
  | word {left mid right : List Char} (hkind : node.kind = "word") (hne : mid ≠ [])
      (hmid : ∀ c ∈ mid, IsPlain c) (hleft : ∀ c ∈ left.getLast?, ¬IsPlain c)
      (hright : ∀ c ∈ right.head?, ¬IsPlain c) : Reads t node left mid right
  | statement {left body right : List Char} {first : Nat} {word : Node}
      (hkind : node.kind = "statement") (hbody : ∀ c ∈ body, c ∉ delimiters)
      (hfirst : node.children.head? = some first) (hnode : t.node? first = some word)
      (hword : word.kind = "word") (hstart : word.span.start = node.span.start) :
      Reads t node left (body ++ [';']) right
  | block {left body right : List Char} (hkind : node.kind = "block")
      (hbody : nesting 0 body = some 0) : Reads t node left ('{' :: body ++ ['}']) right

section Reads

variable {t : Tree} {cs : List Char}

theorem reads_of_mem_wordsNumbered {r : Numbered} {parent base : Nat} {words : List Word}
    (hwords : ∀ w ∈ words, .word w ∈ tokens cs) (hr : r ∈ wordsNumbered parent base words) :
    ∃ left mid right, r.node.span.Splits cs left mid right ∧ Reads t r.node left mid right := by
  obtain ⟨w, hw, hstart, hstop⟩ := span_of_mem_wordsNumbered hr
  obtain ⟨left, right, happ, hoffset, hne, hplain, hleft, hright⟩ := mem_tokens (hwords w hw)
  refine ⟨left, w.text, right, ⟨happ, hstart.trans hoffset, ?_⟩, ?_⟩
  · rw [hstop, Word.stop]
    exact congrArg (· + byteSize w.text) hoffset
  · refine .word (kind_of_mem_wordsNumbered hr) hne (fun c hc => isPlain_iff.2 (hplain c hc)) ?_ ?_
    · intro c hc
      simp [isPlain_iff, hleft c hc]
    · intro c hc
      simp [isPlain_iff, hright c hc]

theorem reads_block {start close : Nat} {body : List Item} {before after : List Token} {node : Node}
    (h : tokens cs =
      before ++ .opening start :: body.flatMap Item.tokens ++ .closing close :: after)
    (hkind : node.kind = "block") (hspan : node.span = Span.clamped start (close + 1)) :
    ∃ left mid right, node.span.Splits cs left mid right ∧ Reads t node left mid right := by
  have hopening : tokensFrom 0 [] cs =
      before ++ .opening start :: (body.flatMap Item.tokens ++ .closing close :: after) := by
    simpa [tokens] using h
  obtain ⟨left, rest, rfl, hstart, -, -, hrest⟩ := exists_split_of_tokensFrom hopening
  obtain ⟨inner, right, rfl, hclose, -, hinner, -⟩ := exists_split_of_tokensFrom hrest
  simp only [Token.offset, Token.stop_opening] at hstart hclose
  refine ⟨left, '{' :: inner ++ ['}'], right, ⟨by simp [Token.text], ?_, ?_⟩,
    .block hkind (nesting_of_items 0 hinner)⟩
  · simp [hspan, Span.clamped, hstart]
  · have hone : '{'.utf8Size = 1 ∧ '}'.utf8Size = 1 := by decide
    simp only [hspan, Span.clamped, byteSize_append, byteSize_cons, byteSize_nil, hone.1, hone.2]
    omega

theorem reads_statement {w : Word} {words : List Word} {close first : Nat}
    {before after : List Token} {node word : Node}
    (h : tokens cs = before ++ .word w :: words.map .word ++ .semicolon close :: after)
    (hkind : node.kind = "statement") (hspan : node.span = Span.clamped w.start (close + 1))
    (hfirst : node.children.head? = some first) (hnode : t.node? first = some word)
    (hword : word.kind = "word") (hstart : word.span.start = w.start) :
    ∃ left mid right, node.span.Splits cs left mid right ∧ Reads t node left mid right := by
  have hopening : tokensFrom 0 [] cs =
      before ++ .word w :: (words.map .word ++ .semicolon close :: after) := by
    simpa [tokens] using h
  obtain ⟨left, rest, rfl, hoffset, hfits, -, hrest⟩ := exists_split_of_tokensFrom hopening
  obtain ⟨inner, right, rfl, hclose, -, hinner, -⟩ := exists_split_of_tokensFrom hrest
  simp only [Token.offset, Token.stop_word, Word.stop] at hoffset hclose
  have hbody : ∀ c ∈ w.text ++ inner, c ∉ delimiters := by
    intro c hc
    rcases List.mem_append.1 hc with hc | hc
    · exact (isPlain_iff.2 (hfits.2.1 c hc)).1
    · exact not_mem_delimiters_of_words (by rw [hinner]; simp) c hc
  refine ⟨left, w.text ++ inner ++ [';'], right, ⟨by simp [Token.text], ?_, ?_⟩,
    .statement hkind hbody hfirst hnode hword (by simp [hspan, hstart, Span.clamped])⟩
  · simp [hspan, Span.clamped, hoffset]
  · have hone : ';'.utf8Size = 1 := by decide
    simp only [hspan, Span.clamped, byteSize_append, byteSize_cons, byteSize_nil, hone]
    omega

/-- The nodes of items read what their kinds ask for, wherever the items stand. -/
theorem reads_of_mem_itemsNumbered {r : Numbered} {parent base : Nat} {items : List Item}
    {before after : List Token} (h : tokens cs = before ++ items.flatMap Item.tokens ++ after)
    (hcomplete : ∀ item ∈ items, item.Complete)
    (hnodes : ∀ r ∈ itemsNumbered parent base items, t.node? r.index = some r.node)
    (hr : r ∈ itemsNumbered parent base items) :
    ∃ left mid right, r.node.span.Splits cs left mid right ∧ Reads t r.node left mid right := by
  induction items using items_induction generalizing parent base before after with
  | nil => simp [itemsNumbered] at hr
  | block start close body rest hbody hrest =>
    have hblock : ∀ item ∈ body, item.Complete := by
      simpa [Item.Complete] using hcomplete _ List.mem_cons_self
    simp only [itemsNumbered, Item.numbered, List.cons_append, List.mem_cons, List.mem_append]
      at hr hnodes
    rcases hr with rfl | hr | hr
    · exact reads_block (by simpa [Item.tokens] using h) rfl rfl
    · refine @hbody base (base + 1) (before ++ [.opening start])
        (.closing close :: rest.flatMap Item.tokens ++ after) ?_ hblock
        (fun r hr => hnodes r (.inr (.inl hr))) hr
      simpa [Item.tokens] using h
    · refine @hrest parent _ (before ++ (Item.block start close body).tokens) after ?_
        (fun item hitem => hcomplete item (by simp [hitem]))
        (fun r hr => hnodes r (.inr (.inr hr))) hr
      simpa using h
  | statement words close rest hrest =>
    have hne : words ≠ [] := by simpa [Item.Complete] using hcomplete _ List.mem_cons_self
    simp only [itemsNumbered, Item.numbered, List.cons_append, List.mem_cons, List.mem_append]
      at hr hnodes
    rcases hr with rfl | hr | hr
    · cases words with
      | nil => exact absurd rfl hne
      | cons w words =>
        have hfirst := hnodes _ (.inr (.inl List.mem_cons_self))
        exact reads_statement (by simpa [Item.tokens] using h) rfl rfl rfl hfirst rfl rfl
    · refine reads_of_mem_wordsNumbered (fun w hw => ?_) hr
      simp [h, Item.tokens, hw]
    · refine @hrest parent _ (before ++ (Item.statement words close).tokens) after ?_
        (fun item hitem => hcomplete item (by simp [hitem]))
        (fun r hr => hnodes r (.inr (.inr hr))) hr
      simpa using h

theorem reads_of_node? {text : String} {items : List Item} {i : Nat} {node : Node}
    (h : readProgram text = .ok items)
    (hnode : (treeOf (byteSize text.toList) items).node? i = some node) :
    ∃ left mid right, node.span.Splits text.toList left mid right ∧
      Reads (treeOf (byteSize text.toList) items) node left mid right := by
  obtain ⟨htokens, hcomplete⟩ := readProgram_sound h
  obtain ⟨r, hr, rfl, rfl⟩ := node?_treeOf.1 hnode
  rcases List.mem_cons.1 hr with rfl | hr
  · exact ⟨[], text.toList, [], ⟨by simp, rfl, by simp [Span.clamped]⟩, .program rfl⟩
  · have hall : tokens text.toList = [] ++ items.flatMap Item.tokens ++ [] := by simp [htokens]
    refine reads_of_mem_itemsNumbered hall hcomplete (fun r hr => ?_) hr
    exact node?_treeOf.2 ⟨r, List.mem_cons_of_mem _ hr, rfl, rfl⟩

/-! Which node a character belongs to. -/

/-- The text of a word node is a token. -/
theorem word_mem_tokens {node : Node} {left mid right : List Char}
    (hspan : node.span.Splits cs left mid right) (hreads : Reads t node left mid right)
    (hkind : node.kind = "word") : .word ⟨node.span.start, mid⟩ ∈ tokens cs := by
  cases hreads with
  | word _ hne hmid hleft hright =>
    have hfits : (Token.word ⟨node.span.start, mid⟩).FitsBetween left right := by
      simp only [isPlain_iff, Bool.not_eq_false] at hmid hleft hright
      exact ⟨hne, hmid, hleft, hright⟩
    have haround := @tokensFrom_around left right 0 _ hfits (by simp [Token.offset, hspan.start_eq])
    rw [tokens, hspan.text_eq]
    exact haround ▸ List.mem_append_right _ List.mem_cons_self
  | program hother => simp [hkind] at hother
  | statement hother => simp [hkind] at hother
  | block hother => simp [hkind] at hother

/-- A character belongs to a node exactly if its token does. -/
theorem shows_iff_belongsTo {node : Node} {left mid right front back : List Char} {c : Char}
    {tk : Token} (hspan : node.span.Splits (front ++ c :: back) left mid right)
    (hreads : Reads t node left mid right) (htk : tk ∈ tokens (front ++ c :: back))
    (hcovers : tk.offset ≤ byteSize front ∧ byteSize front < tk.stop)
    (hc : delimiter? c (byteSize front) = some tk ∨ c ∉ delimiters ∧ ∃ w, tk = .word w) :
    node.Shows c (byteSize front) ↔ tk.belongsTo node = true := by
  -- a word node that covers the character is the node of the token
  have hword (hkind : node.kind = "word") (hcov : node.span.covers (byteSize front) = true) :
      tk = .word ⟨node.span.start, mid⟩ := by
    have hmem := word_mem_tokens hspan hreads hkind
    rw [Span.covers_iff] at hcov
    refine eq_of_covers htk hmem hcovers ?_
    simp only [Token.offset, Token.stop_word, Word.stop]
    have := hspan.start_eq
    have := hspan.stop_eq
    omega
  rcases hc with hdelim | ⟨hplain, w, rfl⟩
  · have hnot : ¬(node.kind = "word" ∧ node.span.covers (byteSize front) = true) := by
      rintro ⟨hkind, hcov⟩
      rw [hword hkind hcov] at hdelim
      unfold delimiter? at hdelim
      split_ifs at hdelim <;> cases hdelim
    unfold delimiter? at hdelim
    split_ifs at hdelim with hopen hclose hsemicolon <;> cases hdelim
    · simp [Node.Shows, hnot, Token.belongsTo, hopen]
    · simp [Node.Shows, hnot, Token.belongsTo, hclose]
    · simp [Node.Shows, hnot, Token.belongsTo, hsemicolon]
  · have hother : c ≠ ';' ∧ c ≠ '{' ∧ c ≠ '}' := by
      simp only [delimiters, List.mem_cons, List.not_mem_nil, or_false, not_or] at hplain
      exact ⟨hplain.2.2, hplain.1, hplain.2.1⟩
    simp only [Node.Shows, hother.1, hother.2.1, hother.2.2, false_and, and_false, or_false,
      Token.belongsTo, Bool.and_eq_true, beq_iff_eq, and_assoc]
    apply and_congr_right
    intro hkind
    constructor
    · intro hcov
      obtain rfl := Token.word.inj (hword hkind hcov)
      exact ⟨rfl, by simp only [Word.stop, hspan.start_eq, hspan.stop_eq]⟩
    · rintro ⟨hstart, hstop⟩
      rw [Span.covers_iff, hstart, hstop]
      exact hcovers

theorem mem_owners {tk : Token} {i : Nat} :
    i ∈ owners t tk ↔ ∃ node, t.node? i = some node ∧ tk.belongsTo node = true := by
  rw [owners, List.mem_filter, Option.any_eq_true]
  refine ⟨fun h => h.2, fun h => ⟨?_, h⟩⟩
  obtain ⟨node, hnode, -⟩ := h
  exact Tree.mem_indices.2 (Array.getElem?_eq_some_iff.1 hnode).1

/-- Every character that is not blank belongs to exactly one node. -/
theorem existsUnique_shows {text : String} {items : List Item} {left right : List Char} {c : Char}
    (h : readProgram text = .ok items) (happ : text.toList = left ++ c :: right)
    (hc : isBlank c = false) :
    ∃! i, ∃ node, (treeOf (byteSize text.toList) items).node? i = some node ∧
      node.Shows c (byteSize left) := by
  obtain ⟨tk, htk, hcovers, hkind⟩ := @exists_token_of_not_blank left right c hc
  have hmem : tk ∈ (itemsOwned 1 items).map Prod.snd := by
    rw [map_snd_itemsOwned, (readProgram_sound h).1, happ]
    exact htk
  obtain ⟨⟨o, tk'⟩, howned, rfl⟩ := List.mem_map.1 hmem
  have howners := @owners_treeOf (byteSize text.toList) o tk' items (placed_of_readProgram h) howned
  have hiff (i : Nat) : (∃ node, (treeOf (byteSize text.toList) items).node? i = some node ∧
      node.Shows c (byteSize left)) ↔ i ∈ owners (treeOf (byteSize text.toList) items) tk' := by
    rw [mem_owners]
    refine exists_congr fun node => and_congr_right fun hnode => ?_
    obtain ⟨before, mid, after, hspan, hreads⟩ := reads_of_node? h hnode
    rw [happ] at hspan
    exact shows_iff_belongsTo hspan hreads htk hcovers hkind
  simp only [hiff, howners, List.mem_singleton]
  exact ⟨o, rfl, fun _ => id⟩

end Reads

/-- Spans are well formed. The root covers the whole text, every span falls between characters and
covers what the kind of its node asks for, children lie inside their parents, siblings follow each
other, and every character that is not blank belongs to exactly one word, statement or block. -/
theorem spans_are_well_formed (text : String) (tree : Tree) (h : language.parse text = .ok tree) :
    (∃ root, tree.node? 0 = some root ∧ root.parent = none ∧ root.span.start = 0 ∧
      root.span.stop = byteSize text.toList) ∧
    (∀ i node, tree.node? i = some node →
      ∃ left mid right, node.span.Splits text.toList left mid right ∧
        tree.text? i text = some (String.ofList mid) ∧ Reads tree node left mid right) ∧
    (∀ p i, i ∈ tree.children p ↔ tree.parent? i = some p) ∧
    (∀ p parent i child, tree.node? p = some parent → tree.node? i = some child →
      child.parent = some p → child.span.Within parent.span) ∧
    (∀ p, (tree.children p).Pairwise fun i j => ∀ child next, tree.node? i = some child →
      tree.node? j = some next → child.span.stop ≤ next.span.start) ∧
    (∀ left c right, text.toList = left ++ c :: right → isBlank c = false →
      ∃! i, ∃ node, tree.node? i = some node ∧ node.Shows c (byteSize left)) := by
  obtain ⟨items, hread, rfl⟩ := parse_eq_ok_iff.1 h
  have hpre := (built_treeOf (byteSize text.toList) items).preordered
  refine ⟨?_, ?_, ?_, ?_, ?_, ?_⟩
  · exact ⟨_, node?_treeOf.2 ⟨_, List.mem_cons_self, rfl, rfl⟩, rfl, rfl, by simp [Span.clamped]⟩
  · intro i node hnode
    obtain ⟨left, mid, right, hspan, hreads⟩ := reads_of_node? hread hnode
    exact ⟨left, mid, right, hspan, Tree.text?_of_splits hnode hspan, hreads⟩
  · exact fun p i => hpre.mem_children
  · intro p parent i child hparent hchild hlink
    obtain ⟨r', hr', rfl, rfl⟩ := node?_treeOf.1 hparent
    obtain ⟨r, hr, rfl, rfl⟩ := node?_treeOf.1 hchild
    exact within_of_parent hread hr hr' hlink
  · intro p
    refine (hpre.pairwise_children p).imp_of_mem fun {i j} hi hj hlt child next hchild hnext => ?_
    obtain ⟨r, hr, rfl, rfl⟩ := node?_treeOf.1 hchild
    obtain ⟨r', hr', rfl, rfl⟩ := node?_treeOf.1 hnext
    rw [hpre.mem_children, parent?_treeOf hr] at hi
    rw [hpre.mem_children, parent?_treeOf hr'] at hj
    exact behind_of_siblings hread hr hr' hi hj hlt
  · exact fun left c right happ hc => existsUnique_shows hread happ hc

theorem spans_are_well_formed_accented :
    language.parse "\x7bé x;\x7d" =
      .ok (treeOf 7 [.block 0 6 [.statement [⟨1, ['é']⟩, ⟨4, ['x']⟩] 5]]) ∧
      ∃! i, ∃ node,
        (treeOf 7 [.block 0 6 [.statement [⟨1, ['é']⟩, ⟨4, ['x']⟩] 5]]).node? i = some node ∧
          node.Shows 'x' 4 := by
  have hparse : language.parse "\x7bé x;\x7d" =
      .ok (treeOf 7 [.block 0 6 [.statement [⟨1, ['é']⟩, ⟨4, ['x']⟩] 5]]) :=
    parse_eq_ok_iff.2 ⟨_, rfl, rfl⟩
  obtain ⟨-, -, -, -, -, hunique⟩ := spans_are_well_formed _ _ hparse
  exact ⟨hparse, hunique ['{', 'é', ' '] 'x' [';', '}'] rfl rfl⟩

end Statement

end SourceReducer
