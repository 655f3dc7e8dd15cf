import Mathlib.Data.List.Nodup
import SourceReducer.Proofs.Statement.Cutting
import SourceReducer.Proofs.Statement.Subtrees

/-! Which node a token belongs to. A word belongs to the node of the word, a semicolon to its
statement and a brace to its block. The span of a node covers exactly the tokens of the nodes in its
subtree. -/
namespace SourceReducer.Statement

/-- Words with the positions of their nodes, from `base` on. -/
def wordsOwned (base : Nat) : List Word → List (Nat × Token)
  | [] => []
  | w :: rest => (base, .word w) :: wordsOwned (base + 1) rest

mutual

/-- The tokens of an item, whose nodes start at `base`, each with the position of its node. -/
def Item.owned (base : Nat) : Item → List (Nat × Token)
  | .block start close body =>
      (base, .opening start) :: itemsOwned (base + 1) body ++ [(base, .closing close)]
  | .statement words close => wordsOwned (base + 1) words ++ [(base, .semicolon close)]

def itemsOwned (base : Nat) : List Item → List (Nat × Token)
  | [] => []
  | item :: rest => item.owned base ++ itemsOwned (base + item.size) rest

end

@[simp] theorem map_snd_wordsOwned (base : Nat) (words : List Word) :
    (wordsOwned base words).map Prod.snd = words.map .word := by
  induction words generalizing base with
  | nil => rfl
  | cons w words ih => simp [wordsOwned, ih]

@[simp] theorem map_snd_itemsOwned (base : Nat) (items : List Item) :
    (itemsOwned base items).map Prod.snd = items.flatMap Item.tokens := by
  induction items using items_induction generalizing base with
  | nil => rfl
  | block start close body rest hbody hrest =>
    simp [itemsOwned, Item.owned, Item.tokens, hbody, hrest]
  | statement words close rest hrest => simp [itemsOwned, Item.owned, Item.tokens, hrest]

theorem mem_wordsOwned {o base : Nat} {tk : Token} {words : List Word}
    (h : (o, tk) ∈ wordsOwned base words) :
    base ≤ o ∧ o < base + words.length ∧ ∃ w ∈ words, tk = .word w := by
  induction words generalizing base with
  | nil => simp [wordsOwned] at h
  | cons w words ih =>
    simp only [wordsOwned, List.mem_cons, Prod.mk.injEq] at h
    rcases h with ⟨rfl, rfl⟩ | h
    · simp
    · obtain ⟨hlo, hhi, v, hv, rfl⟩ := ih h
      simp only [List.length_cons]
      exact ⟨by omega, by omega, v, by simp [hv], rfl⟩

theorem token_of_mem_itemsOwned {o base : Nat} {tk : Token} {items : List Item}
    (h : (o, tk) ∈ itemsOwned base items) : tk ∈ items.flatMap Item.tokens := by
  rw [← map_snd_itemsOwned base items]
  exact List.mem_map_of_mem h

theorem mem_itemsOwned {o base : Nat} {tk : Token} {items : List Item}
    (h : (o, tk) ∈ itemsOwned base items) : base ≤ o ∧ o < base + itemsSize items := by
  induction items using items_induction generalizing base with
  | nil => simp [itemsOwned] at h
  | block start close body rest hbody hrest =>
    simp only [itemsOwned, Item.owned, List.cons_append, List.mem_cons, List.mem_append,
      Prod.mk.injEq, List.not_mem_nil, or_false, Item.size] at h
    simp only [itemsSize, Item.size]
    rcases h with ⟨rfl, -⟩ | (h | ⟨rfl, -⟩) | h
    · omega
    · have := hbody h
      omega
    · omega
    · have := hrest h
      omega
  | statement words close rest hrest =>
    simp only [itemsOwned, Item.owned, List.mem_append, List.mem_cons, Prod.mk.injEq,
      List.not_mem_nil, or_false, Item.size] at h
    simp only [itemsSize, Item.size]
    rcases h with (h | ⟨rfl, -⟩) | h
    · have := mem_wordsOwned h
      omega
    · omega
    · have := hrest h
      omega

/-- Items as they are read: their tokens come in order and none is empty, and every statement has a
word. -/
structure Placed (items : List Item) : Prop where
  sorted : (items.flatMap Item.tokens).Pairwise fun a b => a.stop ≤ b.offset
  solid : ∀ tk ∈ items.flatMap Item.tokens, tk.offset < tk.stop
  complete : ∀ item ∈ items, item.Complete

theorem placed_of_readProgram {text : String} {items : List Item}
    (h : readProgram text = .ok items) : Placed items := by
  obtain ⟨htokens, hcomplete⟩ := readProgram_sound h
  refine ⟨?_, ?_, hcomplete⟩
  · rw [htokens]
    exact pairwise_tokens _
  · rw [htokens]
    exact fun _ => offset_lt_stop_of_mem_tokens

/-- What is known of a block and the items behind it. -/
theorem Placed.of_block {start close : Nat} {body rest : List Item}
    (h : Placed (.block start close body :: rest)) :
    Placed body ∧ Placed rest ∧ start < close ∧
      (∀ tk ∈ body.flatMap Item.tokens, start < tk.offset ∧ tk.stop ≤ close) ∧
      ∀ tk ∈ rest.flatMap Item.tokens, close < tk.offset := by
  obtain ⟨hsorted, hsolid, hcomplete⟩ := h
  simp only [List.flatMap_cons, Item.tokens, itemsTokens_eq_flatMap, List.cons_append,
    List.append_assoc, List.nil_append] at hsorted hsolid
  obtain ⟨hopen, htail⟩ := List.pairwise_cons.1 hsorted
  obtain ⟨hbody, hend, hcross⟩ := List.pairwise_append.1 htail
  obtain ⟨hclose, hrest⟩ := List.pairwise_cons.1 hend
  refine ⟨⟨hbody, ?_, ?_⟩, ⟨hrest, ?_, ?_⟩, ?_, ?_, ?_⟩
  · exact fun tk htk => hsolid tk (by simp [htk])
  · simpa [Item.Complete] using hcomplete _ List.mem_cons_self
  · exact fun tk htk => hsolid tk (by simp only [List.mem_cons, List.mem_append, htk, or_true])
  · exact fun item hi => hcomplete item (List.mem_cons_of_mem _ hi)
  · exact hopen (.closing close) (by simp)
  · intro tk htk
    exact ⟨hopen tk (by simp only [List.mem_append, htk, true_or]),
      hcross tk htk (.closing close) (by simp)⟩
  · exact hclose

/-- What is known of a statement and the items behind it. -/
theorem Placed.of_statement {words : List Word} {close : Nat} {rest : List Item}
    (h : Placed (.statement words close :: rest)) :
    Placed rest ∧ words ≠ [] ∧ words.Pairwise (fun v w => v.stop ≤ w.start) ∧
      (∀ w ∈ words, w.start < w.stop ∧ w.stop ≤ close) ∧
      ∀ tk ∈ rest.flatMap Item.tokens, close < tk.offset := by
  obtain ⟨hsorted, hsolid, hcomplete⟩ := h
  simp only [List.flatMap_cons, Item.tokens, List.append_assoc, List.cons_append,
    List.nil_append] at hsorted hsolid
  obtain ⟨hwords, hend, hcross⟩ := List.pairwise_append.1 hsorted
  obtain ⟨hclose, hrest⟩ := List.pairwise_cons.1 hend
  refine ⟨⟨hrest, ?_, ?_⟩, ?_, ?_, ?_, ?_⟩
  · exact fun tk htk => hsolid tk (by simp only [List.mem_cons, List.mem_append, htk, or_true])
  · exact fun item hi => hcomplete item (List.mem_cons_of_mem _ hi)
  · simpa [Item.Complete] using hcomplete _ List.mem_cons_self
  · exact List.pairwise_map.1 hwords
  · intro w hw
    exact ⟨hsolid (.word w) (by simp [hw]),
      hcross (.word w) (by simp [hw]) (.semicolon close) (by simp)⟩
  · exact hclose

/-! Where the nodes stand. -/

/-- Whether a node can start with a token. -/
def Token.Opens : Token → Prop
  | .opening _ | .word _ => True
  | _ => False

/-- Whether a node can stop with a token. -/
def Token.Closes : Token → Prop
  | .opening _ => False
  | _ => True

theorem span_of_mem_wordsNumbered {r : Numbered} {parent base : Nat} {words : List Word}
    (h : r ∈ wordsNumbered parent base words) :
    ∃ w ∈ words, r.node.span.start = w.start ∧ r.node.span.stop = w.stop := by
  induction words generalizing base with
  | nil => simp [wordsNumbered] at h
  | cons w words ih =>
    simp only [wordsNumbered, List.mem_cons] at h
    rcases h with rfl | h
    · exact ⟨w, by simp, rfl, by simp [Span.clamped, Word.stop]⟩
    · obtain ⟨v, hv, hspan⟩ := ih h
      exact ⟨v, by simp [hv], hspan⟩

theorem firstOffset_of_ne_nil {words : List Word} (h : words ≠ []) (close : Nat) :
    ∃ w ∈ words, firstOffset words close = w.start := by
  cases words with
  | nil => exact absurd rfl h
  | cons w words => exact ⟨w, by simp, rfl⟩

theorem firstOffset_le {words : List Word} (h : words.Pairwise fun v w => v.stop ≤ w.start)
    (close : Nat) : ∀ w ∈ words, firstOffset words close ≤ w.start := by
  intro w hw
  cases words with
  | nil => simp at hw
  | cons v words =>
    simp only [firstOffset]
    rcases List.mem_cons.1 hw with rfl | hw
    · exact Nat.le_refl _
    · have := (List.pairwise_cons.1 h).1 w hw
      simp only [Word.stop] at this
      omega

theorem firstOffset_le_close {words : List Word} {close : Nat}
    (h : ∀ w ∈ words, w.start < w.stop ∧ w.stop ≤ close) : firstOffset words close ≤ close := by
  cases words with
  | nil => exact Nat.le_refl _
  | cons w words =>
    have := h w (by simp)
    simp only [firstOffset]
    omega

/-- Every node starts where a token starts and stops where a token stops. -/
theorem span_of_mem_itemsNumbered {r : Numbered} {parent base : Nat} {items : List Item}
    (hitems : Placed items) (h : r ∈ itemsNumbered parent base items) :
    ∃ first ∈ items.flatMap Item.tokens, ∃ last ∈ items.flatMap Item.tokens,
      r.node.span.start = first.offset ∧ r.node.span.stop = last.stop ∧
        first.Opens ∧ last.Closes := by
  induction items using items_induction generalizing parent base with
  | nil => simp [itemsNumbered] at h
  | block start close body rest hbody hrest =>
    obtain ⟨hpbody, hprest, hlt, -, -⟩ := hitems.of_block
    simp only [itemsNumbered, Item.numbered, List.cons_append, List.mem_cons, List.mem_append,
      Item.size] at h
    rcases h with rfl | h | h
    · refine ⟨.opening start, by simp [Item.tokens], .closing close, by simp [Item.tokens], rfl, ?_,
        trivial, trivial⟩
      simp only [Span.clamped, Token.stop_closing]
      omega
    · obtain ⟨first, hfirst, last, hlast, hspan⟩ := hbody hpbody h
      exact ⟨first, by simp_all [Item.tokens], last, by simp_all [Item.tokens], hspan⟩
    · obtain ⟨first, hfirst, last, hlast, hspan⟩ := hrest hprest h
      exact ⟨first, by simp_all [Item.tokens], last, by simp_all [Item.tokens], hspan⟩
  | statement words close rest hrest =>
    obtain ⟨hprest, hne, -, hwords, -⟩ := hitems.of_statement
    simp only [itemsNumbered, Item.numbered, List.cons_append, List.mem_cons, List.mem_append,
      Item.size] at h
    rcases h with rfl | h | h
    · obtain ⟨w, hw, hfirst⟩ := firstOffset_of_ne_nil hne close
      have := hwords w hw
      refine ⟨.word w, by simp [Item.tokens, hw], .semicolon close, by simp [Item.tokens], hfirst,
        ?_, trivial, trivial⟩
      simp only [Span.clamped, Token.stop_semicolon, hfirst]
      omega
    · obtain ⟨w, hw, hspan⟩ := span_of_mem_wordsNumbered h
      exact ⟨.word w, by simp [Item.tokens, hw], .word w, by simp [Item.tokens, hw], hspan.1,
        hspan.2, trivial, trivial⟩
    · obtain ⟨first, hfirst, last, hlast, hspan⟩ := hrest hprest h
      exact ⟨first, by simp_all [Item.tokens], last, by simp_all [Item.tokens], hspan⟩

/-! Bounds on the tokens of items are bounds on their nodes. -/

theorem lt_start_of_mem_itemsNumbered {r : Numbered} {parent base low : Nat} {items : List Item}
    (hitems : Placed items) (h : r ∈ itemsNumbered parent base items)
    (hlow : ∀ tk ∈ items.flatMap Item.tokens, low < tk.offset) : low < r.node.span.start := by
  obtain ⟨first, hfirst, last, -, hstart, -⟩ := span_of_mem_itemsNumbered hitems h
  have := hlow first hfirst
  omega

theorem bounds_of_mem_itemsNumbered {r : Numbered} {parent base low high : Nat} {items : List Item}
    (hitems : Placed items) (h : r ∈ itemsNumbered parent base items)
    (hbounds : ∀ tk ∈ items.flatMap Item.tokens, low < tk.offset ∧ tk.stop ≤ high) :
    low < r.node.span.start ∧ r.node.span.stop ≤ high := by
  refine ⟨lt_start_of_mem_itemsNumbered hitems h fun tk htk => (hbounds tk htk).1, ?_⟩
  obtain ⟨first, -, last, hlast, -, hstop, -⟩ := span_of_mem_itemsNumbered hitems h
  have := hbounds last hlast
  omega

theorem covers_iff_holds_word {r : Numbered} {parent base o : Nat} {tk : Token} {words : List Word}
    (hsorted : words.Pairwise fun v w => v.stop ≤ w.start)
    (hsolid : ∀ w ∈ words, w.start < w.stop) (h : r ∈ wordsNumbered parent base words)
    (howned : (o, tk) ∈ wordsOwned base words) :
    r.node.span.covers tk.offset = true ↔ r.Holds o := by
  rw [Span.covers_iff, Numbered.Holds]
  induction words generalizing base with
  | nil => simp [wordsNumbered] at h
  | cons w words ih =>
    obtain ⟨hw, hwords⟩ := List.pairwise_cons.1 hsorted
    have hsolidw := hsolid w (by simp)
    have hrest := @ih (base + 1) hwords fun v hv => hsolid v (by simp [hv])
    simp only [wordsNumbered, List.mem_cons] at h
    simp only [wordsOwned, List.mem_cons, Prod.mk.injEq] at howned
    rcases h with rfl | h
    · rcases howned with ⟨rfl, rfl⟩ | howned
      · simp only [Span.clamped, Token.offset]
        omega
      · obtain ⟨hlo, -, v, hv, rfl⟩ := mem_wordsOwned howned
        have := hw v hv
        simp only [Span.clamped, Token.offset]
        omega
    · obtain ⟨v, hv, hstart, hstop⟩ := span_of_mem_wordsNumbered h
      have hindex := mem_wordsNumbered h
      rcases howned with ⟨rfl, rfl⟩ | howned
      · have := hw v hv
        simp only [Token.offset]
        omega
      · exact hrest h howned

/-- The span of a node covers exactly the tokens of the nodes in its subtree. -/
theorem covers_iff_holds {r : Numbered} {parent base o : Nat} {tk : Token} {items : List Item}
    (hitems : Placed items) (h : r ∈ itemsNumbered parent base items)
    (howned : (o, tk) ∈ itemsOwned base items) :
    r.node.span.covers tk.offset = true ↔ r.Holds o := by
  have hsolid := hitems.solid tk (token_of_mem_itemsOwned howned)
  rw [Span.covers_iff, Numbered.Holds]
  induction items using items_induction generalizing parent base with
  | nil => simp [itemsNumbered] at h
  | block start close body rest hbody hrest =>
    obtain ⟨hpbody, hprest, hlt, hinner, houter⟩ := hitems.of_block
    simp only [itemsNumbered, Item.numbered, List.cons_append, List.mem_cons, List.mem_append,
      Item.size] at h
    simp only [itemsOwned, Item.owned, List.cons_append, List.mem_cons, List.mem_append,
      Prod.mk.injEq, List.not_mem_nil, or_false, Item.size] at howned
    -- both orders agree: what comes later in the text has the higher positions
    rcases h with rfl | h | h
    · simp only [Span.clamped]
      rcases howned with ⟨rfl, rfl⟩ | (howned | ⟨rfl, rfl⟩) | howned
      · simp only [Token.offset]
        omega
      · have := mem_itemsOwned howned
        have := hinner tk (token_of_mem_itemsOwned howned)
        omega
      · simp only [Token.offset]
        omega
      · have := mem_itemsOwned howned
        have := houter tk (token_of_mem_itemsOwned howned)
        omega
    · have hindex := mem_itemsNumbered h
      have hspan := bounds_of_mem_itemsNumbered hpbody h hinner
      rcases howned with ⟨rfl, rfl⟩ | (howned | ⟨rfl, rfl⟩) | howned
      · simp only [Token.offset]
        omega
      · exact hbody hpbody h howned
      · simp only [Token.offset]
        omega
      · have := mem_itemsOwned howned
        have := houter tk (token_of_mem_itemsOwned howned)
        omega
    · have hindex := mem_itemsNumbered h
      have hspan := lt_start_of_mem_itemsNumbered hprest h houter
      rcases howned with ⟨rfl, rfl⟩ | (howned | ⟨rfl, rfl⟩) | howned
      · simp only [Token.offset]
        omega
      · have := mem_itemsOwned howned
        have := hinner tk (token_of_mem_itemsOwned howned)
        omega
      · simp only [Token.offset]
        omega
      · exact hrest hprest h howned
  | statement words close rest hrest =>
    obtain ⟨hprest, hne, hsorted, hwords, houter⟩ := hitems.of_statement
    simp only [itemsNumbered, Item.numbered, List.cons_append, List.mem_cons, List.mem_append,
      Item.size] at h
    simp only [itemsOwned, Item.owned, List.mem_append, List.mem_cons, Prod.mk.injEq,
      List.not_mem_nil, or_false, Item.size] at howned
    rcases h with rfl | h | h
    · have hfirst := firstOffset_le hsorted close
      have hlow := firstOffset_le_close hwords
      simp only [Span.clamped]
      rcases howned with (howned | ⟨rfl, rfl⟩) | howned
      · obtain ⟨hlo, hhi, w, hw, rfl⟩ := mem_wordsOwned howned
        have := hwords w hw
        have := hfirst w hw
        simp only [Token.offset]
        omega
      · simp only [Token.offset]
        omega
      · have := mem_itemsOwned howned
        have := houter tk (token_of_mem_itemsOwned howned)
        omega
    · have hindex := mem_wordsNumbered h
      obtain ⟨w, hw, hstart, hstop⟩ := span_of_mem_wordsNumbered h
      have := hwords w hw
      rcases howned with (howned | ⟨rfl, rfl⟩) | howned
      · rw [← Span.covers_iff]
        exact covers_iff_holds_word hsorted (fun v hv => (hwords v hv).1) h howned
      · simp only [Token.offset]
        omega
      · have := mem_itemsOwned howned
        have := houter tk (token_of_mem_itemsOwned howned)
        omega
    · have hindex := mem_itemsNumbered h
      have hspan := lt_start_of_mem_itemsNumbered hprest h houter
      rcases howned with (howned | ⟨rfl, rfl⟩) | howned
      · obtain ⟨hlo, hhi, w, hw, rfl⟩ := mem_wordsOwned howned
        have := hwords w hw
        simp only [Token.offset]
        omega
      · simp only [Token.offset]
        omega
      · exact hrest hprest h howned

/-! The owner of a token, found in the tree alone. -/

/-- Whether a token belongs to a node: a word to its node, a semicolon to the statement that ends in
it, and a brace to the block that it opens or closes. -/
def Token.belongsTo (tk : Token) (node : Node) : Bool :=
  match tk with
  | .word w => node.kind == "word" && node.span.start == w.start && node.span.stop == w.stop
  | .semicolon offset => node.kind == "statement" && node.span.stop == offset + 1
  | .opening offset => node.kind == "block" && node.span.start == offset
  | .closing offset => node.kind == "block" && node.span.stop == offset + 1

/-- The positions of the nodes that a token belongs to. -/
def owners (t : Tree) (tk : Token) : List Nat :=
  t.indices.filter fun i => (t.node? i).any tk.belongsTo

theorem exists_node_of_mem_wordsOwned {o base : Nat} {tk : Token} {words : List Word} (parent : Nat)
    (h : (o, tk) ∈ wordsOwned base words) :
    ∃ r ∈ wordsNumbered parent base words, r.index = o ∧ tk.belongsTo r.node = true := by
  induction words generalizing base with
  | nil => simp [wordsOwned] at h
  | cons w words ih =>
    simp only [wordsOwned, List.mem_cons, Prod.mk.injEq] at h
    rcases h with ⟨rfl, rfl⟩ | h
    · refine ⟨_, List.mem_cons_self, rfl, ?_⟩
      simp [Token.belongsTo, Span.clamped, Word.stop]
    · obtain ⟨r, hr, hindex⟩ := ih h
      exact ⟨r, List.mem_cons_of_mem _ hr, hindex⟩

theorem exists_node_of_mem_itemsOwned {o base : Nat} {tk : Token} {items : List Item}
    (hitems : Placed items) (parent : Nat) (h : (o, tk) ∈ itemsOwned base items) :
    ∃ r ∈ itemsNumbered parent base items, r.index = o ∧ tk.belongsTo r.node = true := by
  induction items using items_induction generalizing parent base with
  | nil => simp [itemsOwned] at h
  | block start close body rest hbody hrest =>
    obtain ⟨hpbody, hprest, hlt, -, -⟩ := hitems.of_block
    have hstop : max start (close + 1) = close + 1 := by omega
    simp only [itemsOwned, Item.owned, List.cons_append, List.mem_cons, List.mem_append,
      Prod.mk.injEq, List.not_mem_nil, or_false] at h
    simp only [itemsNumbered, Item.numbered, List.cons_append, List.mem_cons, List.mem_append]
    rcases h with ⟨rfl, rfl⟩ | (h | ⟨rfl, rfl⟩) | h
    · exact ⟨_, .inl rfl, rfl, by simp [Token.belongsTo, Span.clamped]⟩
    · obtain ⟨r, hr, hindex⟩ := hbody hpbody base h
      exact ⟨r, .inr (.inl hr), hindex⟩
    · exact ⟨_, .inl rfl, rfl, by simp [Token.belongsTo, Span.clamped, hstop]⟩
    · obtain ⟨r, hr, hindex⟩ := hrest hprest parent h
      exact ⟨r, .inr (.inr hr), hindex⟩
  | statement words close rest hrest =>
    obtain ⟨hprest, -, -, hwords, -⟩ := hitems.of_statement
    have hlow := firstOffset_le_close hwords
    have hstop : max (firstOffset words close) (close + 1) = close + 1 := by omega
    simp only [itemsOwned, Item.owned, List.mem_append, List.mem_cons, Prod.mk.injEq,
      List.not_mem_nil, or_false] at h
    simp only [itemsNumbered, Item.numbered, List.cons_append, List.mem_cons, List.mem_append]
    rcases h with (h | ⟨rfl, rfl⟩) | h
    · obtain ⟨r, hr, hindex⟩ := exists_node_of_mem_wordsOwned base h
      exact ⟨r, .inr (.inl hr), hindex⟩
    · exact ⟨_, .inl rfl, rfl, by simp [Token.belongsTo, Span.clamped, hstop]⟩
    · obtain ⟨r, hr, hindex⟩ := hrest hprest parent h
      exact ⟨r, .inr (.inr hr), hindex⟩

/-- A word node is in the way of no other token than its word. -/
theorem mem_wordsOwned_of_belongsTo {r : Numbered} {parent base : Nat} {tk : Token}
    {words : List Word} (hr : r ∈ wordsNumbered parent base words)
    (h : tk.belongsTo r.node = true) :
    ∃ tk', (r.index, tk') ∈ wordsOwned base words ∧ tk'.offset = tk.offset := by
  induction words generalizing base with
  | nil => simp [wordsNumbered] at hr
  | cons w words ih =>
    simp only [wordsNumbered, List.mem_cons] at hr
    simp only [wordsOwned, List.mem_cons, Prod.mk.injEq]
    rcases hr with rfl | hr
    · refine ⟨.word w, .inl ⟨rfl, rfl⟩, ?_⟩
      cases tk <;> simp_all [Token.belongsTo, Span.clamped, Token.offset]
    · obtain ⟨tk', hmem, hoffset⟩ := ih hr
      exact ⟨tk', .inr hmem, hoffset⟩

theorem mem_itemsOwned_of_belongsTo {r : Numbered} {parent base : Nat} {tk : Token}
    {items : List Item} (hitems : Placed items) (hr : r ∈ itemsNumbered parent base items)
    (h : tk.belongsTo r.node = true) :
    ∃ tk', (r.index, tk') ∈ itemsOwned base items ∧ tk'.offset = tk.offset := by
  induction items using items_induction generalizing parent base with
  | nil => simp [itemsNumbered] at hr
  | block start close body rest hbody hrest =>
    obtain ⟨hpbody, hprest, hlt, -, -⟩ := hitems.of_block
    have hstop : max start (close + 1) = close + 1 := by omega
    simp only [itemsNumbered, Item.numbered, List.cons_append, List.mem_cons, List.mem_append] at hr
    simp only [itemsOwned, Item.owned, List.cons_append, List.mem_cons, List.mem_append,
      Prod.mk.injEq, List.not_mem_nil, or_false]
    rcases hr with rfl | hr | hr
    · cases tk with
      | opening offset =>
        exact ⟨.opening start, .inl ⟨rfl, rfl⟩,
          by simpa [Token.belongsTo, Span.clamped, Token.offset] using h⟩
      | closing offset =>
        refine ⟨.closing close, .inr (.inl (.inr ⟨rfl, rfl⟩)), ?_⟩
        simpa [Token.belongsTo, Span.clamped, hstop, Token.offset] using h
      | semicolon offset => simp [Token.belongsTo] at h
      | word w => simp [Token.belongsTo] at h
    · obtain ⟨tk', hmem, hoffset⟩ := hbody hpbody hr
      exact ⟨tk', .inr (.inl (.inl hmem)), hoffset⟩
    · obtain ⟨tk', hmem, hoffset⟩ := hrest hprest hr
      exact ⟨tk', .inr (.inr hmem), hoffset⟩
  | statement words close rest hrest =>
    obtain ⟨hprest, -, -, hwords, -⟩ := hitems.of_statement
    have hlow := firstOffset_le_close hwords
    have hstop : max (firstOffset words close) (close + 1) = close + 1 := by omega
    simp only [itemsNumbered, Item.numbered, List.cons_append, List.mem_cons, List.mem_append] at hr
    simp only [itemsOwned, Item.owned, List.mem_append, List.mem_cons, Prod.mk.injEq,
      List.not_mem_nil, or_false]
    rcases hr with rfl | hr | hr
    · cases tk with
      | semicolon offset =>
        refine ⟨.semicolon close, .inl (.inr ⟨rfl, rfl⟩), ?_⟩
        simpa [Token.belongsTo, Span.clamped, hstop, Token.offset] using h
      | opening offset => simp [Token.belongsTo] at h
      | closing offset => simp [Token.belongsTo] at h
      | word w => simp [Token.belongsTo] at h
    · obtain ⟨tk', hmem, hoffset⟩ := mem_wordsOwned_of_belongsTo hr h
      exact ⟨tk', .inl (.inl hmem), hoffset⟩
    · obtain ⟨tk', hmem, hoffset⟩ := hrest hprest hr
      exact ⟨tk', .inr hmem, hoffset⟩

/-- No two tokens of a program start at the same offset. -/
theorem owner_unique {o o' base : Nat} {tk tk' : Token} {items : List Item} (hitems : Placed items)
    (h : (o, tk) ∈ itemsOwned base items) (h' : (o', tk') ∈ itemsOwned base items)
    (hoffset : tk.offset = tk'.offset) : o = o' := by
  have hsorted : ((itemsOwned base items).map Prod.snd).Pairwise
      fun a b => a.offset ≠ b.offset := by
    rw [map_snd_itemsOwned]
    refine hitems.sorted.imp_of_mem fun ha _ hle => ?_
    have := hitems.solid _ ha
    omega
  rw [List.pairwise_map] at hsorted
  have hnodup : ((itemsOwned base items).map fun p => p.2.offset).Nodup :=
    List.pairwise_map.2 hsorted
  exact congrArg Prod.fst (List.inj_on_of_nodup_map hnodup h h' hoffset)

theorem owners_treeOf {size o : Nat} {tk : Token} {items : List Item} (hitems : Placed items)
    (h : (o, tk) ∈ itemsOwned 1 items) : owners (treeOf size items) tk = [o] := by
  have howns (i : Nat) : (((treeOf size items).node? i).any tk.belongsTo) = (i == o) := by
    rw [Bool.eq_iff_iff, Option.any_eq_true, beq_iff_eq]
    constructor
    · rintro ⟨node, hnode, howns⟩
      obtain ⟨r, hr, rfl, rfl⟩ := node?_treeOf.1 hnode
      rcases List.mem_cons.1 hr with rfl | hr
      · cases tk <;> simp [Token.belongsTo] at howns
      · obtain ⟨tk', hmem, hoffset⟩ := mem_itemsOwned_of_belongsTo hitems hr howns
        exact owner_unique hitems hmem h hoffset
    · rintro rfl
      obtain ⟨r, hr, rfl, howns⟩ := exists_node_of_mem_itemsOwned hitems 0 h
      exact ⟨r.node, node?_treeOf.2 ⟨r, List.mem_cons_of_mem _ hr, rfl, rfl⟩, howns⟩
  have hbounds := mem_itemsOwned h
  simp only [owners, howns, Tree.indices, size_treeOf]
  rw [List.filter_beq, List.count_eq_one_of_mem List.nodup_range (by simp; omega)]
  rfl

/-! What is covered when nodes are cut out. -/

theorem startsClean_of_opens {text : String} {items : List Item} {tk : Token}
    (h : readProgram text = .ok items) (htk : tk ∈ tokens text.toList) (hopens : tk.Opens) :
    StartsClean text.toList tk.offset := by
  cases tk with
  | opening offset =>
    obtain ⟨left, right, happ, hsize, hbreak | ⟨ts, w, ts', hts⟩⟩ := opening_mem_tokens htk
    · exact ⟨left, right, happ, hsize, hbreak⟩
    · obtain ⟨e, he⟩ := readItems_word_opening [] [] [] ts w offset ts'
      rw [readProgram, hts, he] at h
      cases h
  | word w =>
    obtain ⟨left, right, happ, hoffset, -, -, hbreak, -⟩ := mem_tokens htk
    exact ⟨left, w.text ++ right, by simpa [Token.text] using happ, hoffset.symm, hbreak⟩
  | _ => cases hopens

theorem stopsClean_of_closes {cs : List Char} {tk : Token} (htk : tk ∈ tokens cs)
    (hcloses : tk.Closes) : StopsClean cs tk.stop := by
  obtain ⟨left, right, happ, hoffset, hfits⟩ := mem_tokens htk
  refine ⟨left ++ tk.text, right, happ, by simp [Token.stop, hoffset], ?_⟩
  cases tk with
  | opening offset => cases hcloses
  | word w => exact fun _ _ _ => hfits.2.2.2
  | closing offset => simp [Token.text, isBreak, delimiter?]
  | semicolon offset => simp [Token.text, isBreak, delimiter?]

section Cut

variable {text : String} {items : List Item}

/-- Every node starts where no word reaches up to and stops outside of words. -/
theorem clean_of_mem_programNumbered {r : Numbered} (h : readProgram text = .ok items)
    (hr : r ∈ programNumbered (byteSize text.toList) items) :
    StartsClean text.toList r.node.span.start ∧ StopsClean text.toList r.node.span.stop := by
  rcases List.mem_cons.1 hr with rfl | hr
  · exact ⟨⟨[], text.toList, by simp [Span.clamped]⟩, ⟨text.toList, [], by simp [Span.clamped]⟩⟩
  · have htokens := (readProgram_sound h).1
    obtain ⟨first, hfirst, last, hlast, hstart, hstop, hopens, hcloses⟩ :=
      span_of_mem_itemsNumbered (placed_of_readProgram h) hr
    rw [htokens] at hfirst hlast
    rw [hstart, hstop]
    exact ⟨startsClean_of_opens h hfirst hopens, stopsClean_of_closes hlast hcloses⟩

theorem fits_of_clean {cs : List Char} {s : Span} (hstart : StartsClean cs s.start)
    (hstop : StopsClean cs s.stop) : s.fits cs = true := by
  obtain ⟨left, right, rfl, hsize, -⟩ := hstart
  obtain ⟨left', right', happ, hsize', -⟩ := hstop
  rw [Span.fits, Bool.and_eq_true]
  constructor
  · rw [isBoundary, ← hsize, cutAt?_byteSize]
    rfl
  · rw [isBoundary, ← hsize', happ, cutAt?_byteSize]
    rfl

/-- Of a program's tree the spans of all chosen nodes can be cut out. -/
theorem mem_usableSpans {s : Span} (h : readProgram text = .ok items) (chosen : List Nat) :
    s ∈ usableSpans text.toList (treeOf (byteSize text.toList) items) chosen ↔
      ∃ r ∈ programNumbered (byteSize text.toList) items,
        r.index ∈ chosen ∧ r.node.span = s := by
  simp only [usableSpans, List.mem_filter, List.mem_filterMap, Option.map_eq_some_iff,
    Span.fitsMarks_boundaryMarks]
  constructor
  · rintro ⟨⟨i, hi, node, hnode, rfl⟩, -⟩
    obtain ⟨r, hr, rfl, rfl⟩ := node?_treeOf.1 hnode
    exact ⟨r, hr, hi, rfl⟩
  · rintro ⟨r, hr, hi, rfl⟩
    obtain ⟨hstart, hstop⟩ := clean_of_mem_programNumbered h hr
    exact ⟨⟨r.index, hi, r.node, node?_treeOf.2 ⟨r, hr, rfl, rfl⟩, rfl⟩, fits_of_clean hstart hstop⟩

/-- A token is cut out exactly if its owner is under a chosen node. -/
theorem coveredBy_usableSpans {o : Nat} {tk : Token} (h : readProgram text = .ok items)
    (chosen : List Nat) (howned : (o, tk) ∈ itemsOwned 1 items) :
    coveredBy (usableSpans text.toList (treeOf (byteSize text.toList) items) chosen) tk.offset =
      (treeOf (byteSize text.toList) items).isUnder chosen o := by
  have hplaced := placed_of_readProgram h
  obtain ⟨ro, hro, rfl, -⟩ := exists_node_of_mem_itemsOwned hplaced 0 howned
  -- the root covers the whole text and holds every node
  have hcovers {r : Numbered} (hr : r ∈ programNumbered (byteSize text.toList) items) :
      r.node.span.covers tk.offset = true ↔ r.Holds ro.index := by
    rcases List.mem_cons.1 hr with rfl | hr
    · have hmem := token_of_mem_itemsOwned howned
      rw [(readProgram_sound h).1] at hmem
      obtain ⟨left, right, happ, hoffset, -⟩ := mem_tokens hmem
      have hstop := offset_lt_stop_of_mem_tokens hmem
      have hsize := congrArg byteSize happ
      have hindex := mem_itemsNumbered hro
      simp only [byteSize_append] at hsize
      simp only [Token.stop] at hstop
      simp only [Span.covers_iff, Span.clamped, Numbered.Holds]
      omega
    · exact covers_iff_holds hplaced hr howned
  rw [Bool.eq_iff_iff, isUnder_treeOf (List.mem_cons_of_mem _ hro), coveredBy, List.any_eq_true]
  constructor
  · rintro ⟨s, hs, hcov⟩
    obtain ⟨r, hr, hi, rfl⟩ := (mem_usableSpans h chosen).1 hs
    exact ⟨r, hr, hi, (hcovers hr).1 hcov⟩
  · rintro ⟨r, hr, hi, hholds⟩
    exact ⟨r.node.span, (mem_usableSpans h chosen).2 ⟨r, hr, hi, rfl⟩, (hcovers hr).2 hholds⟩

/-- What a text reads as after nodes were cut out. -/
theorem lexemes_exciseSpans (h : readProgram text = .ok items) (chosen : List Nat) :
    lexemes (exciseSpans text (treeOf (byteSize text.toList) items) chosen).toList =
      ((itemsOwned 1 items).filter fun p =>
        !(treeOf (byteSize text.toList) items).isUnder chosen p.1).map fun p => p.2.text := by
  have haligned : Aligned (coveredBy (usableSpans text.toList
      (treeOf (byteSize text.toList) items) chosen)) text.toList := by
    refine aligned_coveredBy (fun s hs => ?_) fun s hs => ?_
    all_goals obtain ⟨r, hr, -, rfl⟩ := (mem_usableSpans h chosen).1 hs
    · exact (clean_of_mem_programNumbered h hr).1
    · exact (clean_of_mem_programNumbered h hr).2
  rw [exciseSpans_eq, String.toList_ofList, lexemes_outside haligned, keptTokens,
    ← (readProgram_sound h).1, ← map_snd_itemsOwned 1 items, List.filter_map, List.map_map]
  refine congrArg _ (List.filter_congr fun p hp => ?_)
  simp [coveredBy_usableSpans h chosen hp]

end Cut

end SourceReducer.Statement
