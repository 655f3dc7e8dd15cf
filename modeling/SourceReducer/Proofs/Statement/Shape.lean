import SourceReducer.Proofs.Statement.Ownership

/-! The shape of a program's tree, and what stays of a program when nodes are removed. The shape
does not depend on where the program stands in its text, and removing nodes from the program removes
them from the shape. -/
namespace SourceReducer.Statement

def wordShape (parent : Nat) (w : Word) : NodeShape :=
  { kind := "word", parent := some parent, children := [], word := some (String.ofList w.text) }

mutual

/-- The shapes of the nodes of an item, from position `base` on. -/
def Item.shape (parent base : Nat) : Item → List NodeShape
  | .block _ _ body =>
      { kind := "block", parent := some parent, children := itemsChildren (base + 1) body
        word := none } :: itemsShape base (base + 1) body
  | .statement words _ =>
      { kind := "statement", parent := some parent
        children := List.range' (base + 1) words.length, word := none } ::
        words.map (wordShape base)

def itemsShape (parent base : Nat) : List Item → List NodeShape
  | [] => []
  | item :: rest => item.shape parent base ++ itemsShape parent (base + item.size) rest

end

/-- The shapes of the nodes of a program. -/
def programShape (items : List Item) : List NodeShape :=
  { kind := "program", parent := none, children := itemsChildren 1 items, word := none } ::
    itemsShape 0 1 items

/-- The shape of a node in a text. -/
def Numbered.shape (text : String) (r : Numbered) : NodeShape :=
  { kind := r.node.kind, parent := r.node.parent, children := r.node.children
    word := if r.node.kind = "word" then
        (slice? text.toList r.node.span.start r.node.span.stop).map String.ofList
      else none }

theorem outline_treeOf (text : String) (size : Nat) (items : List Item) :
    (treeOf size items).outline text =
      (programNumbered size items).map (Numbered.shape text) := by
  have hindices :
      (treeOf size items).indices = (programNumbered size items).map Numbered.index := by
    rw [Tree.indices, size_treeOf, map_index_programNumbered]
  have hnodes :
      (treeOf size items).nodes.toList = (programNumbered size items).map Numbered.node := by
    simp [treeOf]
  rw [Tree.outline, hindices, hnodes, List.zipWith_map, List.zipWith_self]
  refine List.map_congr_left fun r hr => ?_
  have hnode : (treeOf size items).node? r.index = some r.node := node?_treeOf.2 ⟨r, hr, rfl, rfl⟩
  have htext : (treeOf size items).text? r.index text =
      (slice? text.toList r.node.span.start r.node.span.stop).map String.ofList := by
    simp only [Tree.text?, hnode, Option.bind_eq_bind, Option.bind_some]
    cases slice? text.toList r.node.span.start r.node.span.stop <;> rfl
  simp only [Numbered.shape, htext]

theorem map_shape_wordsNumbered {text : String} {words : List Word}
    (h : ∀ w ∈ words, slice? text.toList w.start w.stop = some w.text) (parent base : Nat) :
    (wordsNumbered parent base words).map (Numbered.shape text) =
      words.map (wordShape parent) := by
  induction words generalizing base with
  | nil => rfl
  | cons w words ih =>
    have hstop : max w.start w.stop = w.stop := by simp [Word.stop]
    have hrest := ih (fun v hv => h v (by simp [hv])) (base + 1)
    simp [wordsNumbered, Numbered.shape, Span.clamped, hstop, h w (by simp), wordShape, hrest]

theorem map_shape_itemsNumbered {text : String} {items : List Item}
    (h : ∀ w, .word w ∈ items.flatMap Item.tokens →
      slice? text.toList w.start w.stop = some w.text) (parent base : Nat) :
    (itemsNumbered parent base items).map (Numbered.shape text) = itemsShape parent base items := by
  induction items using items_induction generalizing parent base with
  | nil => rfl
  | block start close body rest hbody hrest =>
    have hb := hbody (fun w hw => h w (by simp_all [Item.tokens])) base (base + 1)
    have hr := hrest (fun w hw => h w (by simp_all [Item.tokens])) parent
      (base + (itemsSize body + 1))
    simp [itemsNumbered, Item.numbered, itemsShape, Item.shape, Numbered.shape, Item.size, hb, hr]
  | statement words close rest hrest =>
    have hslice : ∀ w ∈ words, slice? text.toList w.start w.stop = some w.text :=
      fun w hw => h w (by simp [Item.tokens, hw])
    have hw := map_shape_wordsNumbered hslice base (base + 1)
    have hr := hrest (fun w hw => h w (by simp_all [Item.tokens])) parent
      (base + (words.length + 1))
    simp [itemsNumbered, Item.numbered, itemsShape, Item.shape, Numbered.shape, Item.size, hw, hr]

/-- The outline of the tree of a text is the shape of the program that was read from it. -/
theorem outline_of_readProgram {text : String} {items : List Item}
    (h : readProgram text = .ok items) :
    (treeOf (byteSize text.toList) items).outline text = programShape items := by
  have hslice : ∀ w, .word w ∈ items.flatMap Item.tokens →
      slice? text.toList w.start w.stop = some w.text := by
    intro w hw
    rw [(readProgram_sound h).1] at hw
    obtain ⟨left, right, happ, hoffset, -⟩ := mem_tokens hw
    have hstart : w.start = byteSize left := hoffset
    rw [happ, Word.stop, hstart]
    exact slice?_byteSize left w.text right
  rw [outline_treeOf, programNumbered, List.map_cons, map_shape_itemsNumbered hslice]
  simp [programShape, Numbered.shape]

/-! Shapes without places. -/

theorem itemsSize_map_bare (items : List Item) :
    itemsSize (items.map Item.bare) = itemsSize items := by
  induction items using items_induction with
  | nil => rfl
  | block start close body rest hbody hrest =>
    simp [itemsSize, Item.size, Item.bare, hbody, hrest]
  | statement words close rest hrest => simp [itemsSize, Item.size, Item.bare, hrest]

theorem itemsChildren_map_bare (base : Nat) (items : List Item) :
    itemsChildren base (items.map Item.bare) = itemsChildren base items := by
  induction items using items_induction generalizing base with
  | nil => rfl
  | block start close body rest hbody hrest =>
    simp [itemsChildren, Item.size, Item.bare, itemsSize_map_bare, hrest]
  | statement words close rest hrest => simp [itemsChildren, Item.size, Item.bare, hrest]

theorem itemsShape_map_bare (parent base : Nat) (items : List Item) :
    itemsShape parent base (items.map Item.bare) = itemsShape parent base items := by
  induction items using items_induction generalizing parent base with
  | nil => rfl
  | block start close body rest hbody hrest =>
    simp [itemsShape, Item.shape, Item.size, Item.bare, itemsSize_map_bare, itemsChildren_map_bare,
      hbody, hrest]
  | statement words close rest hrest =>
    simp [itemsShape, Item.shape, Item.size, Item.bare, hrest, wordShape, Function.comp_def]

theorem programShape_congr {items items' : List Item}
    (h : items.map Item.bare = items'.map Item.bare) :
    programShape items = programShape items' := by
  rw [programShape, programShape, ← itemsChildren_map_bare 1 items, ← itemsShape_map_bare 0 1 items,
    h, itemsChildren_map_bare, itemsShape_map_bare]

/-! Programs without some of their nodes. -/

/-- Words without those whose positions, from `base` on, are gone. -/
def pruneWords (gone : Nat → Bool) (base : Nat) : List Word → List Word
  | [] => []
  | w :: rest => (if gone base then [] else [w]) ++ pruneWords gone (base + 1) rest

mutual

/-- What stays of an item at position `base`. -/
def Item.prune (gone : Nat → Bool) (base : Nat) : Item → List Item
  | .block start close body =>
      if gone base then [] else [.block start close (pruneItems gone (base + 1) body)]
  | .statement words close =>
      if gone base then [] else [.statement (pruneWords gone (base + 1) words) close]

def pruneItems (gone : Nat → Bool) (base : Nat) : List Item → List Item
  | [] => []
  | item :: rest => item.prune gone base ++ pruneItems gone (base + item.size) rest

end

/-- Whether all nodes below a gone one are gone as well. -/
def DownClosed (gone : Nat → Bool) (rows : List Numbered) : Prop :=
  ∀ r ∈ rows, gone r.index = true → ∀ i, r.Holds i → gone i = true

theorem DownClosed.mono {gone : Nat → Bool} {rows rows' : List Numbered} (h : DownClosed gone rows)
    (hsub : rows' ⊆ rows) : DownClosed gone rows' :=
  fun r hr => h r (hsub hr)

theorem DownClosed.of_block {gone : Nat → Bool} {parent base start close : Nat}
    {body rest : List Item}
    (h : DownClosed gone (itemsNumbered parent base (.block start close body :: rest))) :
    DownClosed gone (itemsNumbered base (base + 1) body) ∧
      DownClosed gone (itemsNumbered parent (base + (itemsSize body + 1)) rest) ∧
      (gone base = true → ∀ i, base ≤ i → i < base + (itemsSize body + 1) → gone i = true) := by
  simp only [itemsNumbered, Item.numbered, Item.size] at h
  refine ⟨h.mono ?_, h.mono ?_, fun hgone i hlo hhi => h _ List.mem_cons_self hgone i ⟨hlo, hhi⟩⟩
  · exact fun r hr => List.mem_cons_of_mem _ (List.mem_append_left _ hr)
  · exact fun r hr => List.mem_append_right _ hr

theorem DownClosed.of_statement {gone : Nat → Bool} {parent base close : Nat} {words : List Word}
    {rest : List Item}
    (h : DownClosed gone (itemsNumbered parent base (.statement words close :: rest))) :
    DownClosed gone (itemsNumbered parent (base + (words.length + 1)) rest) ∧
      (gone base = true → ∀ i, base ≤ i → i < base + (words.length + 1) → gone i = true) := by
  simp only [itemsNumbered, Item.numbered, Item.size] at h
  refine ⟨h.mono ?_, fun hgone i hlo hhi => h _ List.mem_cons_self hgone i ⟨hlo, hhi⟩⟩
  exact fun r hr => List.mem_append_right _ hr

/-- The tokens whose owners stay. -/
def keptOwned (gone : Nat → Bool) (owned : List (Nat × Token)) : List Token :=
  (owned.filter fun p => !gone p.1).map Prod.snd

theorem keptOwned_append (gone : Nat → Bool) (ps qs : List (Nat × Token)) :
    keptOwned gone (ps ++ qs) = keptOwned gone ps ++ keptOwned gone qs := by
  simp [keptOwned]

theorem keptOwned_cons (gone : Nat → Bool) (o : Nat) (tk : Token) (qs : List (Nat × Token)) :
    keptOwned gone ((o, tk) :: qs) = (if gone o then [] else [tk]) ++ keptOwned gone qs := by
  cases h : gone o <;> simp [keptOwned, h]

theorem keptOwned_eq_nil {gone : Nat → Bool} {owned : List (Nat × Token)}
    (h : ∀ p ∈ owned, gone p.1 = true) : keptOwned gone owned = [] := by
  simp only [keptOwned, List.map_eq_nil_iff, List.filter_eq_nil_iff]
  intro p hp
  simp [h p hp]

theorem keptOwned_wordsOwned (gone : Nat → Bool) (base : Nat) (words : List Word) :
    keptOwned gone (wordsOwned base words) = (pruneWords gone base words).map .word := by
  induction words generalizing base with
  | nil => rfl
  | cons w words ih =>
    simp only [wordsOwned, keptOwned_cons, pruneWords, ih, List.map_append]
    split <;> rfl

/-- The tokens whose owners stay are the tokens of what stays. -/
theorem keptOwned_itemsOwned {gone : Nat → Bool} {parent base : Nat} {items : List Item}
    (h : DownClosed gone (itemsNumbered parent base items)) :
    keptOwned gone (itemsOwned base items) =
      (pruneItems gone base items).flatMap Item.tokens := by
  induction items using items_induction generalizing parent base with
  | nil => rfl
  | block start close body rest hbody hrest =>
    obtain ⟨hb, hr, hall⟩ := h.of_block
    simp only [itemsOwned, Item.owned, Item.size, pruneItems, Item.prune, keptOwned_append,
      keptOwned_cons, hbody hb, hrest hr, List.flatMap_append]
    cases hgone : gone base with
    | false => simp [Item.tokens, keptOwned]
    | true =>
      have hnil : keptOwned gone (itemsOwned (base + 1) body) = [] := by
        refine keptOwned_eq_nil fun p hp => ?_
        have := mem_itemsOwned hp
        exact hall hgone p.1 (by omega) (by omega)
      rw [hbody hb] at hnil
      simp [hnil, keptOwned]
  | statement words close rest hrest =>
    obtain ⟨hr, hall⟩ := h.of_statement
    simp only [itemsOwned, Item.owned, Item.size, pruneItems, Item.prune, keptOwned_append,
      keptOwned_cons, keptOwned_wordsOwned, hrest hr, List.flatMap_append]
    cases hgone : gone base with
    | false => simp [Item.tokens, keptOwned]
    | true =>
      have hnil : keptOwned gone (wordsOwned (base + 1) words) = [] := by
        refine keptOwned_eq_nil fun p hp => ?_
        have := mem_wordsOwned hp
        exact hall hgone p.1 (by omega) (by omega)
      rw [keptOwned_wordsOwned] at hnil
      simp [hnil, keptOwned]

/-! Positions and shapes of what stays. -/

theorem renumber_pruneWords (gone : Nat → Bool) (base : Nat) (words : List Word) :
    renumber gone (base + words.length) =
      renumber gone base + (pruneWords gone base words).length := by
  induction words generalizing base with
  | nil => rfl
  | cons w words ih =>
    have hsum : base + (w :: words).length = base + 1 + words.length := by simp; omega
    rw [hsum, ih, renumber_succ, pruneWords]
    cases h : gone base with
    | true => simp
    | false =>
      simp
      omega

theorem renumber_pruneItems {gone : Nat → Bool} {parent base : Nat} {items : List Item}
    (h : DownClosed gone (itemsNumbered parent base items)) :
    renumber gone (base + itemsSize items) =
      renumber gone base + itemsSize (pruneItems gone base items) := by
  induction items using items_induction generalizing parent base with
  | nil => rfl
  | block start close body rest hbody hrest =>
    obtain ⟨hb, hr, hall⟩ := h.of_block
    have hsum : base + itemsSize (.block start close body :: rest) =
        base + (itemsSize body + 1) + itemsSize rest := by simp [itemsSize, Item.size]; omega
    rw [hsum, hrest hr, pruneItems, Item.size, Item.prune]
    cases hgone : gone base with
    | true => simp [renumber_add_of_gone (hall hgone)]
    | false =>
      have hinner := hbody hb
      have hcomm : base + (itemsSize body + 1) = base + 1 + itemsSize body := by omega
      rw [hcomm, hinner, renumber_succ, hgone]
      simp [itemsSize, Item.size]
      omega
  | statement words close rest hrest =>
    obtain ⟨hr, hall⟩ := h.of_statement
    have hsum : base + itemsSize (.statement words close :: rest) =
        base + (words.length + 1) + itemsSize rest := by simp [itemsSize, Item.size]; omega
    rw [hsum, hrest hr, pruneItems, Item.size, Item.prune]
    cases hgone : gone base with
    | true => simp [renumber_add_of_gone (hall hgone)]
    | false =>
      have hinner := renumber_pruneWords gone (base + 1) words
      have hcomm : base + (words.length + 1) = base + 1 + words.length := by omega
      rw [hcomm, hinner, renumber_succ, hgone]
      simp [itemsSize, Item.size]
      omega

theorem Item.prune_of_gone {gone : Nat → Bool} {base : Nat} (h : gone base = true) (item : Item) :
    item.prune gone base = [] := by
  cases item <;> simp [Item.prune, h]

theorem Item.prune_of_kept {gone : Nat → Bool} {base : Nat} (h : gone base = false) (item : Item) :
    ∃ item', item.prune gone base = [item'] := by
  cases item <;> simp [Item.prune, h]

theorem DownClosed.of_cons {gone : Nat → Bool} {parent base : Nat} {item : Item} {rest : List Item}
    (h : DownClosed gone (itemsNumbered parent base (item :: rest))) :
    DownClosed gone (itemsNumbered parent base [item]) ∧
      DownClosed gone (itemsNumbered parent (base + item.size) rest) := by
  simp only [itemsNumbered, List.append_nil] at h ⊢
  exact ⟨h.mono (List.subset_append_left _ _), h.mono (List.subset_append_right _ _)⟩

theorem renumber_prune {gone : Nat → Bool} {parent base : Nat} {item : Item}
    (h : DownClosed gone (itemsNumbered parent base [item])) :
    renumber gone (base + item.size) = renumber gone base + itemsSize (item.prune gone base) := by
  simpa [itemsSize, pruneItems] using renumber_pruneItems h

theorem itemsChildren_pruneItems {gone : Nat → Bool} {parent base : Nat} {items : List Item}
    (h : DownClosed gone (itemsNumbered parent base items)) :
    ((itemsChildren base items).filter fun j => !gone j).map (renumber gone) =
      itemsChildren (renumber gone base) (pruneItems gone base items) := by
  induction items generalizing base with
  | nil => rfl
  | cons item rest ih =>
    obtain ⟨hitem, hrest⟩ := h.of_cons
    have hsize := renumber_prune hitem
    have htail := ih hrest
    cases hgone : gone base with
    | true =>
      have hnil := item.prune_of_gone hgone
      rw [hnil] at hsize
      simp only [itemsChildren, pruneItems, hnil, hgone, List.filter_cons, Bool.not_true,
        Bool.false_eq_true, if_false, List.nil_append, htail, hsize]
      rfl
    | false =>
      obtain ⟨item', hone⟩ := item.prune_of_kept hgone
      rw [hone] at hsize
      simp only [itemsSize, Nat.add_zero] at hsize
      simp only [itemsChildren, pruneItems, hone, hgone, List.filter_cons, Bool.not_false, if_true,
        List.map_cons, List.cons_append, List.nil_append, htail, hsize]

theorem range'_pruneWords (gone : Nat → Bool) (base : Nat) (words : List Word) :
    ((List.range' base words.length).filter fun j => !gone j).map (renumber gone) =
      List.range' (renumber gone base) (pruneWords gone base words).length := by
  induction words generalizing base with
  | nil => rfl
  | cons w words ih =>
    have hsucc := renumber_succ gone base
    rw [List.length_cons, List.range'_succ, List.filter_cons, pruneWords]
    cases h : gone base with
    | true =>
      rw [h] at hsucc
      simpa [hsucc] using ih (base + 1)
    | false =>
      rw [h] at hsucc
      simpa [hsucc, List.range'_succ] using ih (base + 1)

@[simp] theorem length_itemsShape (parent base : Nat) (items : List Item) :
    (itemsShape parent base items).length = itemsSize items := by
  induction items using items_induction generalizing parent base with
  | nil => rfl
  | block start close body rest hbody hrest =>
    simp only [itemsShape, Item.shape, itemsSize, Item.size, List.length_append, List.length_cons,
      hbody, hrest]
  | statement words close rest hrest =>
    simp only [itemsShape, Item.shape, itemsSize, Item.size, List.length_append, List.length_cons,
      List.length_map, hrest]

theorem pruneFrom_words (gone : Nat → Bool) (parent base : Nat) (words : List Word) :
    pruneFrom gone base (words.map (wordShape parent)) =
      (pruneWords gone base words).map (wordShape (renumber gone parent)) := by
  induction words generalizing base with
  | nil => rfl
  | cons w words ih =>
    rw [List.map_cons, pruneFrom_cons, ih, pruneWords, List.map_append]
    cases gone base <;> simp [NodeShape.prune, wordShape]

/-- Removing nodes from the shape of a program gives the shape of what stays of the program. -/
theorem pruneFrom_itemsShape {gone : Nat → Bool} {parent base : Nat} {items : List Item}
    (h : DownClosed gone (itemsNumbered parent base items)) :
    pruneFrom gone base (itemsShape parent base items) =
      itemsShape (renumber gone parent) (renumber gone base) (pruneItems gone base items) := by
  induction items using items_induction generalizing parent base with
  | nil => rfl
  | block start close body rest hbody hrest =>
    obtain ⟨hb, hr, hall⟩ := h.of_block
    have hsize := renumber_prune h.of_cons.1
    have hsucc := renumber_succ gone base
    rw [itemsShape, Item.shape, List.cons_append, pruneFrom_cons, pruneFrom_append, pruneItems,
      length_itemsShape]
    have hcomm : base + 1 + itemsSize body = base + (itemsSize body + 1) := by omega
    rw [hcomm, Item.size, hrest hr]
    cases hgone : gone base with
    | true =>
      have hnil : pruneFrom gone (base + 1) (itemsShape base (base + 1) body) = [] := by
        refine pruneFrom_eq_nil fun i hlo hhi => hall hgone i (by omega) ?_
        rw [length_itemsShape] at hhi
        omega
      rw [hnil, renumber_add_of_gone (hall hgone), Item.prune_of_gone hgone]
      rfl
    | false =>
      rw [hgone] at hsucc
      rw [Item.prune, hgone] at hsize ⊢
      simp only [Bool.false_eq_true, if_false, itemsSize, Item.size, Nat.add_zero] at hsize hsucc ⊢
      rw [hbody hb, hsize, hsucc]
      simp only [NodeShape.prune, itemsChildren_pruneItems hb, hsucc, Option.map_some,
        List.cons_append, List.nil_append, itemsShape, Item.shape, Item.size]
  | statement words close rest hrest =>
    obtain ⟨hr, hall⟩ := h.of_statement
    have hsize := renumber_prune h.of_cons.1
    have hsucc := renumber_succ gone base
    rw [itemsShape, Item.shape, List.cons_append, pruneFrom_cons, pruneFrom_append, pruneItems,
      List.length_map]
    have hcomm : base + 1 + words.length = base + (words.length + 1) := by omega
    rw [hcomm, Item.size, hrest hr]
    cases hgone : gone base with
    | true =>
      have hnil : pruneFrom gone (base + 1) (words.map (wordShape base)) = [] := by
        refine pruneFrom_eq_nil fun i hlo hhi => hall hgone i (by omega) ?_
        rw [List.length_map] at hhi
        omega
      rw [hnil, renumber_add_of_gone (hall hgone), Item.prune_of_gone hgone]
      rfl
    | false =>
      rw [hgone] at hsucc
      rw [Item.prune, hgone] at hsize ⊢
      simp only [Bool.false_eq_true, if_false, itemsSize, Item.size, Nat.add_zero] at hsize hsucc ⊢
      rw [pruneFrom_words, hsize]
      simp only [NodeShape.prune, range'_pruneWords, hsucc, Option.map_some,
        List.cons_append, List.nil_append, itemsShape, Item.shape, Item.size]

/-! Which statements keep a word. -/

theorem pruneWords_ne_nil {gone : Nat → Bool} {base : Nat} {words : List Word} :
    pruneWords gone base words ≠ [] ↔ ∃ j ∈ List.range' base words.length, gone j = false := by
  induction words generalizing base with
  | nil => simp [pruneWords]
  | cons w words ih =>
    have hrest := @ih (base + 1)
    cases h : gone base <;> simp [pruneWords, h, List.range'_succ, hrest]

theorem pruneItems_eq_nil {gone : Nat → Bool} {base : Nat} {items : List Item}
    (h : ∀ i, base ≤ i → i < base + itemsSize items → gone i = true) :
    pruneItems gone base items = [] := by
  induction items generalizing base with
  | nil => rfl
  | cons item rest ih =>
    have hpos : 1 ≤ item.size := by cases item <;> simp [Item.size]
    simp only [itemsSize] at h
    rw [pruneItems, item.prune_of_gone (h base (by omega) (by omega)),
      ih fun i hlo hhi => h i (by omega) (by omega)]
    rfl

theorem kind_of_mem_wordsNumbered {r : Numbered} {parent base : Nat} {words : List Word}
    (h : r ∈ wordsNumbered parent base words) : r.node.kind = "word" := by
  induction words generalizing base with
  | nil => simp [wordsNumbered] at h
  | cons w words ih =>
    simp only [wordsNumbered, List.mem_cons] at h
    rcases h with rfl | h
    · rfl
    · exact ih h

/-- What stays of a program is complete exactly if every statement that stays keeps a child. -/
theorem complete_pruneItems {gone : Nat → Bool} {parent base : Nat} {items : List Item}
    (h : DownClosed gone (itemsNumbered parent base items)) :
    (∀ item ∈ pruneItems gone base items, item.Complete) ↔
      ∀ r ∈ itemsNumbered parent base items, r.node.kind = "statement" → gone r.index = false →
        ∃ j ∈ r.node.children, gone j = false := by
  induction items using items_induction generalizing parent base with
  | nil => simp [pruneItems, itemsNumbered]
  | block start close body rest hbody hrest =>
    obtain ⟨hb, hr, hall⟩ := h.of_block
    simp only [pruneItems, Item.prune, Item.size, itemsNumbered, Item.numbered, List.cons_append,
      List.mem_append, List.mem_cons, or_imp, forall_and, forall_eq, hrest hr, ← hbody hb]
    cases hgone : gone base with
    | false => simp [Item.Complete]
    | true =>
      have hnone : pruneItems gone (base + 1) body = [] :=
        pruneItems_eq_nil fun i hlo hhi => hall hgone i (by omega) (by omega)
      simp [hnone]
  | statement words close rest hrest =>
    obtain ⟨hr, hall⟩ := h.of_statement
    have hwords : ∀ r ∈ wordsNumbered base (base + 1) words, r.node.kind = "statement" →
        gone r.index = false → ∃ j ∈ r.node.children, gone j = false := by
      intro r hr hkind
      rw [kind_of_mem_wordsNumbered hr] at hkind
      exact absurd hkind (by decide)
    simp only [pruneItems, Item.prune, Item.size, itemsNumbered, Item.numbered, List.cons_append,
      List.mem_append, List.mem_cons, or_imp, forall_and, forall_eq, hrest hr]
    cases hgone : gone base with
    | false => simpa [Item.Complete, pruneWords_ne_nil] using fun _ _ _ _ _ => hwords
    | true => simpa using fun _ => hwords

end SourceReducer.Statement
