import SourceReducer.Proofs.Statement.Shape
import SourceReducer.Statement.Language

/-! Cutting nodes out of a program is removing their subtrees from its tree. The text that is left
reads as the tokens whose owners are not under a chosen node; it parses exactly if every statement
that stays keeps a word, and then to the tree without the removed nodes. -/
namespace SourceReducer

theorem Tree.mem_lineage_trans {t : Tree} (ht : t.ParentsFirst) {i j k : Nat}
    (hj : j ∈ t.lineage i) (hk : k ∈ t.lineage j) : k ∈ t.lineage i := by
  induction i using Nat.strongRecOn with
  | _ i ih =>
    rcases (Tree.mem_lineage ht).1 hj with rfl | ⟨p, hp, hmem⟩
    · exact hk
    · exact (Tree.mem_lineage ht).2 (.inr ⟨p, hp, ih p (ht i p hp) hmem⟩)

/-- What stands under a node that is under the chosen ones is so itself. -/
theorem Tree.isUnder_of_mem_lineage {t : Tree} (ht : t.ParentsFirst) {chosen : List Nat} {i j : Nat}
    (hj : j ∈ t.lineage i) (hunder : t.isUnder chosen j = true) : t.isUnder chosen i = true := by
  simp only [Tree.isUnder, List.any_eq_true] at hunder ⊢
  obtain ⟨k, hk, hchosen⟩ := hunder
  exact ⟨k, Tree.mem_lineage_trans ht hj hk, hchosen⟩

/-- Whether a node goes when the chosen ones are cut out. The root stays: an empty text has one. -/
def Tree.isRemoved (t : Tree) (chosen : List Nat) (i : Nat) : Bool :=
  i != 0 && t.isUnder chosen i

namespace Statement

section Removal

variable {text : String} {items : List Item}

theorem downClosed_isRemoved (size : Nat) (items : List Item) (chosen : List Nat) :
    DownClosed ((treeOf size items).isRemoved chosen) (itemsNumbered 0 1 items) := by
  intro r hr hgone i hholds
  have hindex := mem_itemsNumbered hr
  have hi : i < itemsSize items + 1 := by
    have := hholds.2
    omega
  obtain ⟨ri, hri, rfl⟩ := @exists_numbered size items i hi
  have hlineage : r.index ∈ (treeOf size items).lineage ri.index :=
    (mem_lineage_treeOf hri).2 ⟨r, List.mem_cons_of_mem _ hr, rfl, hholds⟩
  simp only [Tree.isRemoved, Bool.and_eq_true, bne_iff_ne] at hgone ⊢
  refine ⟨?_, Tree.isUnder_of_mem_lineage (parentsFirst_treeOf size items) hlineage hgone.2⟩
  have := hholds.1
  omega

/-- What a text reads as after nodes were cut out, as the program without them. -/
theorem lexemes_exciseSpans_prune (h : readProgram text = .ok items) (chosen : List Nat) :
    lexemes (exciseSpans text (treeOf (byteSize text.toList) items) chosen).toList =
      ((pruneItems ((treeOf (byteSize text.toList) items).isRemoved chosen) 1 items).flatMap
        Item.tokens).map Token.text := by
  rw [lexemes_exciseSpans h, ← keptOwned_itemsOwned (downClosed_isRemoved _ items chosen),
    keptOwned, List.map_map]
  congr 1
  refine List.filter_congr fun p hp => ?_
  have hne : p.1 ≠ 0 := by
    have := mem_itemsOwned hp
    omega
  simp [Tree.isRemoved, hne]

theorem proper_of_mem_pruneItems {gone : Nat → Bool} {parent base : Nat} {tk : Token}
    (hclosed : DownClosed gone (itemsNumbered parent base items))
    (hproper : ∀ tk ∈ items.flatMap Item.tokens, tk.Proper)
    (h : tk ∈ (pruneItems gone base items).flatMap Item.tokens) : tk.Proper := by
  rw [← keptOwned_itemsOwned hclosed] at h
  obtain ⟨p, hp, rfl⟩ := List.mem_map.1 h
  exact hproper p.2 (token_of_mem_itemsOwned (List.mem_filter.1 hp).1)

/-- A text from which nodes were cut out is read as the tokens of the program without them. -/
theorem sameReading_exciseSpans (h : readProgram text = .ok items) (chosen : List Nat) :
    SameReading
      (readProgram (exciseSpans text (treeOf (byteSize text.toList) items) chosen))
      (readItems [] [] []
        ((pruneItems ((treeOf (byteSize text.toList) items).isRemoved chosen) 1 items).flatMap
          Item.tokens)) := by
  have hproper : ∀ tk ∈ items.flatMap Item.tokens, tk.Proper := by
    rw [(readProgram_sound h).1]
    exact fun _ => proper_of_mem_tokens
  refine readItems_bare (map_bare_of_map_text (fun _ => proper_of_mem_tokens) ?_ ?_) rfl rfl rfl
  · exact fun tk => proper_of_mem_pruneItems (downClosed_isRemoved _ items chosen) hproper
  · exact lexemes_exciseSpans_prune h chosen

/-- The text that is left can be read exactly if what stays of the program is complete, and then
what is read is that, apart from places. -/
theorem readProgram_exciseSpans (h : readProgram text = .ok items) (chosen : List Nat) :
    let kept := pruneItems ((treeOf (byteSize text.toList) items).isRemoved chosen) 1 items
    let cut := exciseSpans text (treeOf (byteSize text.toList) items) chosen
    ((∃ items', readProgram cut = .ok items') ↔ ∀ item ∈ kept, item.Complete) ∧
      ∀ items', readProgram cut = .ok items' → items'.map Item.bare = kept.map Item.bare := by
  intro kept cut
  have hsame : SameReading (readProgram cut) (readItems [] [] [] (kept.flatMap Item.tokens)) :=
    sameReading_exciseSpans h chosen
  by_cases hcomplete : ∀ item ∈ kept, item.Complete
  · have hread : readItems [] [] [] (kept.flatMap Item.tokens) = .ok kept := by
      simpa [readItems] using readItems_tokens kept hcomplete [] [] []
    rw [hread] at hsame
    cases hcut : readProgram cut with
    | error e =>
      rw [hcut] at hsame
      cases hsame
    | ok items' =>
      rw [hcut] at hsame
      refine ⟨⟨fun _ => hcomplete, fun _ => ⟨items', rfl⟩⟩, ?_⟩
      intro items'' heq
      cases heq
      exact hsame
  · obtain ⟨e, he⟩ := readItems_tokens_error kept hcomplete [] [] []
    rw [List.append_nil] at he
    rw [he] at hsame
    cases hcut : readProgram cut with
    | error e' => simpa using hcomplete
    | ok items' =>
      rw [hcut] at hsame
      cases hsame

/-- The children of a statement are words, and it is their parent. -/
theorem children_of_statement {r : Numbered} {parent base j : Nat}
    (hr : r ∈ itemsNumbered parent base items) (hkind : r.node.kind = "statement")
    (hj : j ∈ r.node.children) :
    ∃ r' ∈ itemsNumbered parent base items, r'.index = j ∧ r'.node.kind = "word" ∧
      r'.node.parent = some r.index := by
  induction items using items_induction generalizing parent base with
  | nil => simp [itemsNumbered] at hr
  | block start close body rest hbody hrest =>
    simp only [itemsNumbered, Item.numbered, List.cons_append, List.mem_cons, List.mem_append]
      at hr ⊢
    rcases hr with rfl | hr | hr
    · simp at hkind
    · obtain ⟨r', hr', hindex⟩ := hbody hr
      exact ⟨r', .inr (.inl hr'), hindex⟩
    · obtain ⟨r', hr', hindex⟩ := hrest hr
      exact ⟨r', .inr (.inr hr'), hindex⟩
  | statement words close rest hrest =>
    simp only [itemsNumbered, Item.numbered, List.cons_append, List.mem_cons, List.mem_append]
      at hr ⊢
    rcases hr with rfl | hr | hr
    · rw [← map_index_wordsNumbered base] at hj
      obtain ⟨r', hr', rfl⟩ := List.mem_map.1 hj
      exact ⟨r', .inr (.inl hr'), rfl, kind_of_mem_wordsNumbered hr', (mem_wordsNumbered hr').2.2.2⟩
    · rw [kind_of_mem_wordsNumbered hr] at hkind
      exact absurd hkind (by decide)
    · obtain ⟨r', hr', hindex⟩ := hrest hr
      exact ⟨r', .inr (.inr hr'), hindex⟩

/-- Whether every statement that is not under the chosen nodes keeps a word. -/
def KeepsWords (t : Tree) (chosen : List Nat) : Prop :=
  ∀ i node, t.node? i = some node → node.kind = "statement" → t.isUnder chosen i = false →
    ∃ j ∈ node.children, (t.node? j).map Node.kind = some "word" ∧ t.isUnder chosen j = false

theorem isRemoved_eq_isUnder {t : Tree} {chosen : List Nat} {i : Nat} (h : i ≠ 0) :
    t.isRemoved chosen i = t.isUnder chosen i := by
  simp [Tree.isRemoved, h]

theorem complete_pruneItems_iff_keepsWords (size : Nat) (items : List Item) (chosen : List Nat) :
    (∀ item ∈ pruneItems ((treeOf size items).isRemoved chosen) 1 items, item.Complete) ↔
      KeepsWords (treeOf size items) chosen := by
  rw [complete_pruneItems (downClosed_isRemoved size items chosen)]
  constructor
  · intro hkeeps i node hnode hkind hunder
    obtain ⟨r, hr, rfl, rfl⟩ := node?_treeOf.1 hnode
    rcases List.mem_cons.1 hr with rfl | hr
    · simp at hkind
    · have hindex := mem_itemsNumbered hr
      obtain ⟨j, hj, hstays⟩ := hkeeps r hr hkind (by rwa [isRemoved_eq_isUnder (by omega)])
      obtain ⟨r', hr', rfl, hword, -⟩ := children_of_statement hr hkind hj
      have hindex' := mem_itemsNumbered hr'
      have hnode' : (treeOf size items).node? r'.index = some r'.node :=
        node?_treeOf.2 ⟨r', List.mem_cons_of_mem _ hr', rfl, rfl⟩
      refine ⟨r'.index, hj, by simp [hnode', hword], ?_⟩
      rwa [isRemoved_eq_isUnder (by omega)] at hstays
  · intro hkeeps r hr hkind hstays
    have hindex := mem_itemsNumbered hr
    rw [isRemoved_eq_isUnder (by omega)] at hstays
    obtain ⟨j, hj, -, hword⟩ := hkeeps r.index r.node
      (node?_treeOf.2 ⟨r, List.mem_cons_of_mem _ hr, rfl, rfl⟩) hkind hstays
    exact ⟨j, hj, by simp [Tree.isRemoved, hword]⟩

/-- The shape of what stays of a program is the shape of the program without the removed nodes. -/
theorem programShape_pruneItems {gone : Nat → Bool} (hroot : gone 0 = false)
    (hclosed : DownClosed gone (itemsNumbered 0 1 items)) :
    programShape (pruneItems gone 1 items) = pruneFrom gone 0 (programShape items) := by
  have hzero : renumber gone 0 = 0 := rfl
  have hone : renumber gone 1 = 1 := by
    rw [renumber_succ, hzero, hroot]
    rfl
  have hchildren := itemsChildren_pruneItems hclosed
  have hshape := pruneFrom_itemsShape hclosed
  rw [hone] at hchildren hshape
  rw [hzero] at hshape
  rw [programShape, programShape, pruneFrom_cons, hroot, hshape]
  simp [NodeShape.prune, hchildren]

theorem itemsSize_pruneItems {gone : Nat → Bool} (hroot : gone 0 = false)
    (hclosed : DownClosed gone (itemsNumbered 0 1 items)) :
    itemsSize (pruneItems gone 1 items) + 1 + (List.range (itemsSize items + 1)).countP gone =
      itemsSize items + 1 := by
  have hone : renumber gone 1 = 1 := by
    rw [renumber_succ, hroot]
    rfl
  have hsize := renumber_pruneItems hclosed
  rw [hone, Nat.add_comm 1, renumber] at hsize
  have hcount := List.length_eq_countP_add_countP gone (l := List.range (itemsSize items + 1))
  simp only [List.length_range, Bool.not_eq_true, Bool.decide_eq_false] at hcount
  omega

theorem size_exciseSpans {t t' : Tree} {chosen : List Nat} (h : parse text = .ok t)
    (h' : parse (exciseSpans text t chosen) = .ok t') :
    t'.size + t.indices.countP (t.isRemoved chosen) = t.size := by
  obtain ⟨items, hread, rfl⟩ := parse_eq_ok_iff.1 h
  obtain ⟨items', hread', rfl⟩ := parse_eq_ok_iff.1 h'
  have hbare := (readProgram_exciseSpans hread chosen).2 items' hread'
  have hsize : itemsSize items' = itemsSize
      (pruneItems ((treeOf (byteSize text.toList) items).isRemoved chosen) 1 items) := by
    rw [← itemsSize_map_bare, hbare, itemsSize_map_bare]
  rw [size_treeOf, hsize, Tree.indices, size_treeOf]
  exact itemsSize_pruneItems rfl (downClosed_isRemoved _ items chosen)

/-- A text from which a node below the root was cut out has a smaller tree. -/
theorem size_exciseSpans_lt {t t' : Tree} {chosen : List Nat} {i : Nat} (h : parse text = .ok t)
    (h' : parse (exciseSpans text t chosen) = .ok t') (hi : i ∈ chosen) (hpos : 0 < i)
    (hlt : i < t.size) : t'.size < t.size := by
  have hremoved : t.isRemoved chosen i = true := by
    obtain ⟨items, -, rfl⟩ := parse_eq_ok_iff.1 h
    have hself : i ∈ (treeOf (byteSize text.toList) items).lineage i :=
      (Tree.mem_lineage (parentsFirst_treeOf _ items)).2 (.inl rfl)
    simp only [Tree.isRemoved, Bool.and_eq_true, bne_iff_ne, Tree.isUnder, List.any_eq_true]
    exact ⟨by omega, i, hself, by simpa using hi⟩
  have hcount : 0 < t.indices.countP (t.isRemoved chosen) :=
    List.countP_pos_iff.2 ⟨i, by simpa [Tree.indices] using hlt, hremoved⟩
  have := size_exciseSpans h h'
  omega

/-- The nodes of a parsed text that have a parent are those below the root. -/
theorem parent?_isSome_iff {t : Tree} (h : parse text = .ok t) (i : Nat) :
    (t.parent? i).isSome = true ↔ 0 < i ∧ i < t.size := by
  obtain ⟨items, -, rfl⟩ := parse_eq_ok_iff.1 h
  rw [size_treeOf]
  constructor
  · intro hparent
    obtain ⟨p, hp⟩ := Option.isSome_iff_exists.1 hparent
    obtain ⟨node, hnode, -⟩ := Option.bind_eq_some_iff.1 hp
    obtain ⟨r, hr, rfl, -⟩ := node?_treeOf.1 hnode
    have := mem_programNumbered hr
    have := parentsFirst_treeOf _ items _ p hp
    omega
  · rintro ⟨hpos, hlt⟩
    obtain ⟨r, hr, rfl⟩ := @exists_numbered (byteSize text.toList) items i hlt
    rw [parent?_treeOf hr]
    rcases List.mem_cons.1 hr with rfl | hr
    · simp at hpos
    · obtain ⟨q, hq, -⟩ := parent_of_mem_itemsNumbered (by omega) hr
      simp [hq]

/-- Cutting nodes out of a text that parses removes their subtrees: the text reads as the tokens
that belong to no removed node, it parses exactly if every statement that stays keeps a word, and
then its tree is the old one without the removed nodes. -/
theorem excise_removes_subtrees {text : String} {t : Tree} (h : language.parse text = .ok t)
    (chosen : List Nat) :
    (∀ tk ∈ tokens text.toList, ∃ i, owners t tk = [i]) ∧
      lexemes (language.excise text t chosen).toList =
        ((tokens text.toList).filter fun tk => !(owners t tk).any (t.isUnder chosen)).map
          Token.text ∧
      ((∃ t', language.parse (language.excise text t chosen) = .ok t') ↔ KeepsWords t chosen) ∧
      ∀ t', language.parse (language.excise text t chosen) = .ok t' →
        t'.outline (language.excise text t chosen) =
            pruneFrom (t.isRemoved chosen) 0 (t.outline text) ∧
          t'.size + t.indices.countP (t.isRemoved chosen) = t.size := by
  obtain ⟨items, hread, rfl⟩ := parse_eq_ok_iff.1 h
  have hplaced := placed_of_readProgram hread
  have hroot : (treeOf (byteSize text.toList) items).isRemoved chosen 0 = false := rfl
  have hclosed := downClosed_isRemoved (byteSize text.toList) items chosen
  have htokens : tokens text.toList = (itemsOwned 1 items).map Prod.snd := by
    rw [map_snd_itemsOwned, (readProgram_sound hread).1]
  obtain ⟨hreads, hsame⟩ := readProgram_exciseSpans hread chosen
  refine ⟨?_, ?_, ?_, ?_⟩
  · intro tk htk
    rw [htokens] at htk
    obtain ⟨⟨o, tk⟩, hmem, rfl⟩ := List.mem_map.1 htk
    exact ⟨o, owners_treeOf hplaced hmem⟩
  · rw [htokens, List.filter_map, List.map_map]
    refine (lexemes_exciseSpans hread chosen).trans (congrArg _ (List.filter_congr fun p hp => ?_))
    simp [owners_treeOf hplaced hp]
  · rw [← complete_pruneItems_iff_keepsWords, ← hreads]
    constructor
    · rintro ⟨t', ht'⟩
      obtain ⟨items', hread', -⟩ := parse_eq_ok_iff.1 ht'
      exact ⟨items', hread'⟩
    · rintro ⟨items', hread'⟩
      exact ⟨_, parse_eq_ok_iff.2 ⟨items', hread', rfl⟩⟩
  · intro t' ht'
    obtain ⟨items', hread', rfl⟩ := parse_eq_ok_iff.1 ht'
    refine ⟨?_, size_exciseSpans h ht'⟩
    rw [outline_of_readProgram hread, ← programShape_pruneItems hroot hclosed,
      ← programShape_congr (hsame items' hread')]
    exact outline_of_readProgram hread'

end Removal

/-- A block of two statements and a statement behind it, with a word of two bytes. -/
def nestedText : String :=
  String.ofList ['{', 'é', ' ', 'a', ';', 'b', ';', '}', 'c', ' ', 'd', ';']

def nestedItems : List Item :=
  [.block 0 8 [.statement [⟨1, ['é']⟩, ⟨4, ['a']⟩] 5, .statement [⟨6, ['b']⟩] 7],
    .statement [⟨9, ['c']⟩, ⟨11, ['d']⟩] 12]

theorem parse_nestedText : language.parse nestedText = .ok (treeOf 13 nestedItems) := by
  have hsize : byteSize nestedText.toList = 13 := by
    rw [nestedText, String.toList_ofList]
    rfl
  refine parse_eq_ok_iff.2 ⟨nestedItems, ?_, by rw [hsize]⟩
  rw [readProgram, nestedText, String.toList_ofList]
  rfl

theorem keepsWords_nestedItems : KeepsWords (treeOf 13 nestedItems) [3, 7, 8, 42, 3] := by
  have hkept : pruneItems ((treeOf 13 nestedItems).isRemoved [3, 7, 8, 42, 3]) 1 nestedItems =
      [.block 0 8 [.statement [⟨4, ['a']⟩] 5, .statement [⟨6, ['b']⟩] 7]] := rfl
  rw [← complete_pruneItems_iff_keepsWords, hkept]
  simp [Item.Complete]

theorem excise_nestedText :
    ∃ t t', language.parse nestedText = .ok t ∧
      lexemes (language.excise nestedText t [3, 7, 8, 42, 3]).toList =
        [['{'], ['a'], [';'], ['b'], [';'], ['}']] ∧
      language.parse (language.excise nestedText t [3, 7, 8, 42, 3]) = .ok t' ∧ t'.size = 6 := by
  obtain ⟨-, hlexemes, hparses, hshape⟩ :=
    excise_removes_subtrees parse_nestedText [3, 7, 8, 42, 3]
  obtain ⟨t', ht'⟩ := hparses.2 keepsWords_nestedItems
  refine ⟨_, t', parse_nestedText, hlexemes.trans ?_, ht', ?_⟩
  · rw [nestedText, String.toList_ofList]
    decide
  · have hsize := (hshape t' ht').2
    have hcount : (treeOf 13 nestedItems).indices.countP
        ((treeOf 13 nestedItems).isRemoved [3, 7, 8, 42, 3]) = 4 := by decide
    have htotal : (treeOf 13 nestedItems).size = 10 := rfl
    omega

end Statement

end SourceReducer
