import SourceReducer.Proofs.Statement.Numbering
import SourceReducer.Proofs.Tree.Pruning

/-! Subtrees of a program's tree. A subtree takes up a range of positions, and a node stands in the
subtree of another exactly if the other is found on the way up from it. -/
namespace SourceReducer.Statement

/-- Whether a position belongs to the subtree of a node. -/
def Numbered.Holds (r : Numbered) (i : Nat) : Prop :=
  r.index ≤ i ∧ i < r.index + r.size

theorem mem_wordsNumbered {r : Numbered} {parent base : Nat} {words : List Word}
    (h : r ∈ wordsNumbered parent base words) :
    base ≤ r.index ∧ r.index < base + words.length ∧ r.size = 1 ∧ r.node.parent = some parent := by
  induction words generalizing base with
  | nil => simp [wordsNumbered] at h
  | cons w words ih =>
    simp only [wordsNumbered, List.mem_cons] at h
    simp only [List.length_cons]
    rcases h with rfl | h
    · simp
    · obtain ⟨hlo, hhi, hsize, hparent⟩ := ih h
      exact ⟨by omega, by omega, hsize, hparent⟩

/-- The subtree of a node of a program stays within the program. -/
theorem mem_itemsNumbered {r : Numbered} {parent base : Nat} {items : List Item}
    (h : r ∈ itemsNumbered parent base items) :
    base ≤ r.index ∧ 1 ≤ r.size ∧ r.index + r.size ≤ base + itemsSize items := by
  induction items using items_induction generalizing parent base with
  | nil => simp [itemsNumbered] at h
  | block start close body rest hbody hrest =>
    simp only [itemsNumbered, Item.numbered, List.cons_append, List.mem_cons, List.mem_append,
      Item.size] at h
    simp only [itemsSize, Item.size]
    rcases h with rfl | h | h
    · simp only
      omega
    · have := hbody h
      omega
    · have := hrest h
      omega
  | statement words close rest hrest =>
    simp only [itemsNumbered, Item.numbered, List.cons_append, List.mem_cons, List.mem_append,
      Item.size] at h
    simp only [itemsSize, Item.size]
    rcases h with rfl | h | h
    · simp only
      omega
    · have := mem_wordsNumbered h
      omega
    · have := hrest h
      omega

/-- The parent of a node of a program is a node of it or the node above it. -/
theorem parent_of_mem_itemsNumbered {r : Numbered} {parent base : Nat} {items : List Item}
    (hparent : parent < base) (h : r ∈ itemsNumbered parent base items) :
    ∃ q, r.node.parent = some q ∧ q < r.index ∧ (q = parent ∨ base ≤ q) := by
  induction items using items_induction generalizing parent base with
  | nil => simp [itemsNumbered] at h
  | block start close body rest hbody hrest =>
    simp only [itemsNumbered, Item.numbered, List.cons_append, List.mem_cons, List.mem_append,
      Item.size] at h
    rcases h with rfl | h | h
    · exact ⟨parent, rfl, hparent, .inl rfl⟩
    · obtain ⟨q, hq, hlt, hor⟩ := hbody (by omega) h
      exact ⟨q, hq, hlt, .inr (by omega)⟩
    · obtain ⟨q, hq, hlt, hor⟩ := hrest (by omega) h
      exact ⟨q, hq, hlt, by omega⟩
  | statement words close rest hrest =>
    simp only [itemsNumbered, Item.numbered, List.cons_append, List.mem_cons, List.mem_append,
      Item.size] at h
    rcases h with rfl | h | h
    · exact ⟨parent, rfl, hparent, .inl rfl⟩
    · obtain ⟨hlo, -, -, hq⟩ := mem_wordsNumbered h
      exact ⟨base, hq, by omega, .inr (by omega)⟩
    · obtain ⟨q, hq, hlt, hor⟩ := hrest (by omega) h
      exact ⟨q, hq, hlt, by omega⟩

/-- A subtree holds a node exactly if it is the node's own or holds its parent. -/
theorem holds_iff_holds_parent {r r' : Numbered} {parent base q : Nat} {items : List Item}
    (hparent : parent < base) (h : r ∈ itemsNumbered parent base items)
    (h' : r' ∈ itemsNumbered parent base items) (hq : r.node.parent = some q) :
    r'.Holds r.index ↔ r'.index = r.index ∨ r'.Holds q := by
  induction items using items_induction generalizing parent base with
  | nil => simp [itemsNumbered] at h
  | block start close body rest hbody hrest =>
    simp only [itemsNumbered, Item.numbered, List.cons_append, List.mem_cons, List.mem_append,
      Item.size] at h h'
    rcases h with rfl | h | h
    · cases hq
      rcases h' with rfl | h' | h'
      · simp [Numbered.Holds]
      · have := mem_itemsNumbered h'
        simp only [Numbered.Holds]
        omega
      · have := mem_itemsNumbered h'
        simp only [Numbered.Holds]
        omega
    · obtain ⟨p, hp, hlt, hor⟩ := parent_of_mem_itemsNumbered (by omega) h
      obtain rfl : p = q := Option.some.inj (hp.symm.trans hq)
      have hr := mem_itemsNumbered h
      rcases h' with rfl | h' | h'
      · simp only [Numbered.Holds]
        omega
      · exact hbody (by omega) h h'
      · have := mem_itemsNumbered h'
        simp only [Numbered.Holds]
        omega
    · obtain ⟨p, hp, hlt, hor⟩ := parent_of_mem_itemsNumbered (by omega) h
      obtain rfl : p = q := Option.some.inj (hp.symm.trans hq)
      have hr := mem_itemsNumbered h
      rcases h' with rfl | h' | h'
      · simp only [Numbered.Holds]
        omega
      · have := mem_itemsNumbered h'
        simp only [Numbered.Holds]
        omega
      · exact hrest (by omega) h h'
  | statement words close rest hrest =>
    simp only [itemsNumbered, Item.numbered, List.cons_append, List.mem_cons, List.mem_append,
      Item.size] at h h'
    rcases h with rfl | h | h
    · cases hq
      rcases h' with rfl | h' | h'
      · simp [Numbered.Holds]
      · have := mem_wordsNumbered h'
        simp only [Numbered.Holds]
        omega
      · have := mem_itemsNumbered h'
        simp only [Numbered.Holds]
        omega
    · obtain ⟨hlo, hhi, hsize, hp⟩ := mem_wordsNumbered h
      obtain rfl : base = q := Option.some.inj (hp.symm.trans hq)
      rcases h' with rfl | h' | h'
      · simp only [Numbered.Holds]
        omega
      · have := mem_wordsNumbered h'
        simp only [Numbered.Holds]
        omega
      · have := mem_itemsNumbered h'
        simp only [Numbered.Holds]
        omega
    · obtain ⟨p, hp, hlt, hor⟩ := parent_of_mem_itemsNumbered (by omega) h
      obtain rfl : p = q := Option.some.inj (hp.symm.trans hq)
      have hr := mem_itemsNumbered h
      rcases h' with rfl | h' | h'
      · simp only [Numbered.Holds]
        omega
      · have := mem_wordsNumbered h'
        simp only [Numbered.Holds]
        omega
      · exact hrest (by omega) h h'

section Program

variable {size : Nat} {items : List Item}

theorem mem_programNumbered {r : Numbered} (h : r ∈ programNumbered size items) :
    1 ≤ r.size ∧ r.index + r.size ≤ itemsSize items + 1 := by
  rcases List.mem_cons.1 h with rfl | h
  · simp
  · have := mem_itemsNumbered h
    omega

theorem exists_numbered {i : Nat} (h : i < itemsSize items + 1) :
    ∃ r ∈ programNumbered size items, r.index = i := by
  have hmem : i ∈ (programNumbered size items).map Numbered.index := by
    rw [map_index_programNumbered]
    simpa using h
  simpa using hmem

theorem parent?_treeOf {r : Numbered} (h : r ∈ programNumbered size items) :
    (treeOf size items).parent? r.index = r.node.parent := by
  have hnode : (treeOf size items).node? r.index = some r.node := node?_treeOf.2 ⟨r, h, rfl, rfl⟩
  simp [Tree.parent?, hnode]

theorem parentsFirst_treeOf (size : Nat) (items : List Item) :
    (treeOf size items).ParentsFirst := by
  intro i p hp
  obtain ⟨node, hnode, hparent⟩ := Option.bind_eq_some_iff.1 hp
  obtain ⟨r, hr, rfl, rfl⟩ := node?_treeOf.1 hnode
  rcases List.mem_cons.1 hr with rfl | hr
  · cases hparent
  · obtain ⟨q, hq, hlt, -⟩ := parent_of_mem_itemsNumbered (by omega) hr
    obtain rfl : q = p := Option.some.inj (hq.symm.trans hparent)
    exact hlt

theorem holds_self {r : Numbered} (h : r ∈ programNumbered size items) : r.Holds r.index := by
  have := mem_programNumbered h
  exact ⟨Nat.le_refl _, by omega⟩

/-- The nodes above a node are those whose subtrees hold it. -/
theorem mem_lineage_treeOf {r : Numbered} {j : Nat} (h : r ∈ programNumbered size items) :
    j ∈ (treeOf size items).lineage r.index ↔
      ∃ r' ∈ programNumbered size items, r'.index = j ∧ r'.Holds r.index := by
  induction hi : r.index using Nat.strongRecOn generalizing r with
  | _ i ih =>
    subst hi
    rw [Tree.mem_lineage (parentsFirst_treeOf size items), parent?_treeOf h]
    have hsize := mem_programNumbered h
    rcases List.mem_cons.1 h with rfl | hr
    · simp only [reduceCtorEq, false_and, exists_false, or_false]
      constructor
      · rintro rfl
        exact ⟨_, h, rfl, holds_self h⟩
      · rintro ⟨r', -, rfl, hle, -⟩
        exact Nat.le_zero.1 hle
    · obtain ⟨q, hq, hlt, -⟩ := parent_of_mem_itemsNumbered (by omega) hr
      obtain ⟨rq, hrq, rfl⟩ := @exists_numbered size items q (by omega)
      -- one step up the tree, seen from the subtree of any other node
      have hup {r' : Numbered} (hr' : r' ∈ programNumbered size items) :
          r'.Holds r.index ↔ r'.index = r.index ∨ r'.Holds rq.index := by
        rcases List.mem_cons.1 hr' with rfl | hr'
        · simp only [Numbered.Holds] at hsize ⊢
          omega
        · exact holds_iff_holds_parent (by omega) hr hr' hq
      simp only [hq, Option.some.injEq, exists_eq_left', ih rq.index hlt hrq rfl]
      constructor
      · rintro (rfl | ⟨r', hr', rfl, hholds⟩)
        · exact ⟨r, h, rfl, holds_self h⟩
        · exact ⟨r', hr', rfl, (hup hr').2 (.inr hholds)⟩
      · rintro ⟨r', hr', rfl, hholds⟩
        rcases (hup hr').1 hholds with heq | hq
        · exact .inl heq
        · exact .inr ⟨r', hr', rfl, hq⟩

/-- A node is under the chosen ones exactly if one of their subtrees holds it. -/
theorem isUnder_treeOf {chosen : List Nat} {r : Numbered} (h : r ∈ programNumbered size items) :
    (treeOf size items).isUnder chosen r.index = true ↔
      ∃ r' ∈ programNumbered size items, r'.index ∈ chosen ∧ r'.Holds r.index := by
  simp only [Tree.isUnder, List.any_eq_true, List.contains_iff_mem]
  constructor
  · rintro ⟨j, hj, hchosen⟩
    obtain ⟨r', hr', rfl, hholds⟩ := (mem_lineage_treeOf h).1 hj
    exact ⟨r', hr', hchosen, hholds⟩
  · rintro ⟨r', hr', hchosen, hholds⟩
    exact ⟨r'.index, (mem_lineage_treeOf h).2 ⟨r', hr', rfl, hholds⟩, hchosen⟩

end Program

end SourceReducer.Statement
