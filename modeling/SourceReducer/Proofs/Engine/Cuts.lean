import Mathlib
import SourceReducer.Proofs.Engine.Coherence
import SourceReducer.Proofs.Engine.Promotion
import SourceReducer.Proofs.Statement.Layout
import SourceReducer.Proofs.Statement.Removal
import SourceReducer.Proofs.Strategy.Offers

/-! Removing nodes from the texts of sessions for statements. Whatever the invariant says and
whatever depends on what, a removal of a node below a root that is committed leaves fewer nodes, and
a layout leaves as many. -/
namespace SourceReducer

variable {σ : Type}

/-- Whether a language reads, cuts and lays out texts as statements. Which nodes depend on each
other is left open. -/
structure Language.OfStatements (language : Language) : Prop where
  parse : language.parse = Statement.parse
  excise : language.excise = exciseSpans
  reformat : language.reformat = Statement.reformat

theorem Statement.ofStatements_language : Statement.language.OfStatements :=
  ⟨rfl, rfl, rfl⟩

theorem Engine.texts_proposal_cleanup {e : Engine σ} (hlang : e.language.OfStatements)
    (s : Session σ) :
    (e.proposal .cleanup s).texts = s.committed.map Statement.reformat := by
  simp only [Session.texts, Engine.proposal, Session.rollback, List.map_map]
  refine List.map_congr_left fun c _ => ?_
  simp [WorkingCopy.reformat, hlang.reformat]

/-! Counting nodes. -/

/-- The number of nodes of the tree of a text; 0 if it does not parse. -/
def nodesOf (text : String) : Nat :=
  ((Statement.parse text).toOption.map Tree.size).getD 0

theorem nodesOf_eq {text : String} {tree : Tree} (h : Statement.parse text = .ok tree) :
    nodesOf text = tree.size := by
  simp [nodesOf, h, Except.toOption]

theorem nodesOf_reformat {text : String} {tree : Tree} (h : Statement.parse text = .ok tree) :
    nodesOf (Statement.reformat text) = nodesOf text := by
  have hsame := Statement.lexemes_reformat text
  obtain ⟨tree', h'⟩ := Statement.parse_congr hsame.symm h
  rw [nodesOf_eq h, nodesOf_eq h', Statement.size_congr hsame h' h]

section Cut

variable {language : Language} {c : WorkingCopy} {indices : List Nat}

theorem nodesOf_cut_le (hlang : language.OfStatements)
    (hc : Statement.parse c.committed = .ok c.tree)
    (hok : (Statement.parse (c.cut language indices)).isOk = true) :
    nodesOf (c.cut language indices) ≤ nodesOf c.committed := by
  unfold WorkingCopy.cut at hok ⊢
  rw [hlang.excise] at hok ⊢
  split
  · exact Nat.le_refl _
  · next hempty =>
    rw [if_neg hempty] at hok
    obtain ⟨tree, hparse⟩ := Statement.exists_parse hok
    rw [nodesOf_eq hparse, nodesOf_eq hc]
    have := Statement.size_exciseSpans hc hparse
    omega

theorem nodesOf_cut_lt (hlang : language.OfStatements)
    (hc : Statement.parse c.committed = .ok c.tree)
    (hok : (Statement.parse (c.cut language indices)).isOk = true) {i : Nat} (hi : i ∈ indices)
    (hpos : 0 < i) (hlt : i < c.tree.size) :
    nodesOf (c.cut language indices) < nodesOf c.committed := by
  have hne : ¬indices.isEmpty = true := by
    intro hempty
    simp [List.isEmpty_iff.1 hempty] at hi
  unfold WorkingCopy.cut at hok ⊢
  rw [if_neg hne, hlang.excise] at hok ⊢
  obtain ⟨tree, hparse⟩ := Statement.exists_parse hok
  rw [nodesOf_eq hparse, nodesOf_eq hc]
  exact Statement.size_exciseSpans_lt hc hparse hi hpos hlt

end Cut

/-- Cutting nodes out of texts leaves fewer of them if one of them is below a root. -/
theorem sum_nodesOf_cutTexts {language : Language} (hlang : language.OfStatements)
    {copies : List WorkingCopy} {perUnit : List (List Nat)}
    (hparsed : ∀ c ∈ copies, Statement.parse c.committed = .ok c.tree)
    (hlength : perUnit.length = copies.length)
    (hok : ∀ text ∈ cutTexts language copies perUnit, (Statement.parse text).isOk = true) :
    ((cutTexts language copies perUnit).map nodesOf).sum ≤
        ((copies.map WorkingCopy.committed).map nodesOf).sum ∧
      ∀ (k : Nat) (c : WorkingCopy) (indices : List Nat) (i : Nat), copies[k]? = some c →
        perUnit[k]? = some indices → i ∈ indices → 0 < i → i < c.tree.size →
          ((cutTexts language copies perUnit).map nodesOf).sum <
            ((copies.map WorkingCopy.committed).map nodesOf).sum := by
  induction copies generalizing perUnit with
  | nil => simp [cutTexts]
  | cons c copies ih =>
    rcases perUnit with _ | ⟨indices, perUnit⟩
    · simp at hlength
    have hcut : cutTexts language (c :: copies) (indices :: perUnit) =
        c.cut language indices :: cutTexts language copies perUnit := rfl
    rw [hcut] at hok ⊢
    have hc := hparsed c List.mem_cons_self
    have hfirst := hok (c.cut language indices) List.mem_cons_self
    obtain ⟨hle, hlt⟩ := ih (fun d hd => hparsed d (by simp [hd])) (by simpa using hlength)
      (fun text htext => hok text (by simp [htext]))
    have hcutle := nodesOf_cut_le hlang hc hfirst
    simp only [List.map_cons, List.sum_cons]
    refine ⟨by omega, ?_⟩
    intro k d chosen i hd hchosen hi hpos hsize
    cases k with
    | zero =>
      simp only [List.getElem?_cons_zero, Option.some.injEq] at hd hchosen
      subst hd hchosen
      have := nodesOf_cut_lt hlang hc hfirst hi hpos hsize
      omega
    | succ k =>
      rw [List.getElem?_cons_succ] at hd hchosen
      have := hlt k d chosen i hd hchosen hi hpos hsize
      omega

/-! The nodes of each unit. -/

theorem Partition.matched_eq_sum (p : Partition) : p.matched = (p.perUnit.map List.length).sum :=
  rfl

theorem Forest.nodeCount_eq_sum (f : Forest) : f.nodeCount = (f.trees.map Tree.size).sum :=
  rfl

namespace Forest

variable {f : Forest} {nodes : RefSet}

theorem isInner_iff {r : NodeRef} :
    f.isInner r = true ↔ r.generation = f.generation ∧
      ∃ t, f.trees[r.unit]? = some t ∧ (t.parent? r.index).isSome = true := by
  unfold isInner parent? resolve? tree?
  by_cases hgen : r.generation = f.generation
  · cases htree : f.trees[r.unit]? with
    | none => simp [hgen]
    | some t => cases hnode : t.node? r.index <;> simp [hgen, Tree.parent?, hnode]
  · simp [hgen]

theorem eq_refTo_of_contains {r : NodeRef} (h : f.contains r = true) :
    r = f.refTo r.unit r.index := by
  unfold contains resolve? at h
  split at h
  · next hgen => simp [refTo, ← hgen]
  · simp at h

theorem mem_perUnit {k : Nat} {indices : List Nat}
    (h : (f.partition nodes).perUnit[k]? = some indices) {i : Nat} :
    i ∈ indices ↔ f.refTo k i ∈ nodes ∧ f.contains (f.refTo k i) = true := by
  simp only [partition, List.getElem?_map] at h
  obtain ⟨unit, hunit, rfl⟩ := Option.map_eq_some_iff.1 h
  obtain rfl : k = unit := by
    obtain ⟨hlt, heq⟩ := List.getElem?_eq_some_iff.1 hunit
    simpa using heq
  simp only [List.mem_map, List.mem_filter, RefSet.mem_toList, beq_iff_eq]
  constructor
  · rintro ⟨r, ⟨⟨hr, hcontains⟩, rfl⟩, rfl⟩
    rw [← eq_refTo_of_contains hcontains]
    exact ⟨hr, hcontains⟩
  · rintro ⟨hmem, hcontains⟩
    exact ⟨f.refTo k i, ⟨⟨hmem, hcontains⟩, rfl⟩, rfl⟩

theorem perUnit_getElem? (f : Forest) (nodes : RefSet) {k : Nat} (hk : k < f.unitCount) :
    ∃ indices, (f.partition nodes).perUnit[k]? = some indices := by
  have hlt : k < (f.partition nodes).perUnit.length := by
    rw [Engine.length_perUnit]
    exact hk
  exact ⟨_, List.getElem?_eq_getElem hlt⟩

/-- Something is matched exactly if some unit has a node to remove. -/
theorem matched_ne_zero : (f.partition nodes).matched ≠ 0 ↔
    ∃ (k : Nat) (indices : List Nat) (i : Nat),
      (f.partition nodes).perUnit[k]? = some indices ∧ i ∈ indices := by
  rw [Partition.matched_eq_sum, ← Nat.pos_iff_ne_zero, List.sum_pos_iff_exists_pos_nat]
  constructor
  · rintro ⟨n, hn, hpos⟩
    obtain ⟨indices, hmem, rfl⟩ := List.mem_map.1 hn
    obtain ⟨k, hk⟩ := List.mem_iff_getElem?.1 hmem
    obtain ⟨i, hi⟩ := List.exists_mem_of_length_pos hpos
    exact ⟨k, indices, i, hk, hi⟩
  · rintro ⟨k, indices, i, hk, hi⟩
    exact ⟨_, List.mem_map_of_mem (List.mem_of_getElem? hk), List.length_pos_of_mem hi⟩

end Forest

/-! Sessions whose forest is that of their texts. -/

/-- Whether the forest of a session has the trees that its committed texts parse to. -/
structure Session.Tracked (s : Session σ) : Prop where
  forest : s.forest.trees = s.copies.map WorkingCopy.tree
  parsed : s.Parsed Statement.language

namespace Session.Tracked

variable {s t : Session σ}

theorem unitCount (h : s.Tracked) : s.forest.unitCount = s.copies.length := by
  simp [Forest.unitCount, h.forest]

theorem of_sameCommitted (h : s.Tracked) (hst : s.SameCommitted t) : t.Tracked where
  forest := by
    have htrees := congrArg (List.map WorkingCopy.tree) hst.copies
    rw [hst.forest, h.forest]
    simpa [Function.comp_def] using htrees.symm
  parsed := h.parsed.of_sameCommitted hst

theorem parses (h : s.Tracked) : ∀ text ∈ s.committed, (Statement.parse text).isOk = true := by
  intro text htext
  obtain ⟨c, hc, rfl⟩ := List.mem_map.1 htext
  have hparse : Statement.parse c.committed = .ok c.tree := h.parsed c hc
  rw [hparse]
  rfl

theorem nodeCount (h : s.Tracked) : s.forest.nodeCount = (s.committed.map nodesOf).sum := by
  rw [Forest.nodeCount_eq_sum, h.forest, List.map_map, List.map_map]
  congr 1
  exact List.map_congr_left fun c hc => (nodesOf_eq (h.parsed c hc)).symm

/-- Every unit has a root. -/
theorem unitCount_le_nodeCount (h : s.Tracked) : s.forest.unitCount ≤ s.forest.nodeCount := by
  have hroot : ∀ tree ∈ s.forest.trees, 1 ≤ tree.size := by
    intro tree htree
    rw [h.forest] at htree
    obtain ⟨c, hc, rfl⟩ := List.mem_map.1 htree
    obtain ⟨items, -, htree⟩ := Statement.parse_eq_ok_iff.1 (h.parsed c hc)
    rw [htree, Statement.size_treeOf]
    omega
  rw [Forest.unitCount, Forest.nodeCount_eq_sum]
  have := List.length_le_sum_of_one_le (s.forest.trees.map Tree.size) (by simpa using hroot)
  simpa using this

theorem tree_getElem? (h : s.Tracked) {k : Nat} {tree : Tree} :
    s.forest.trees[k]? = some tree ↔ ∃ c, s.copies[k]? = some c ∧ c.tree = tree := by
  rw [h.forest, List.getElem?_map, Option.map_eq_some_iff]

/-- The nodes below the roots. -/
theorem isInner_refTo (h : s.Tracked) {unit i : Nat} :
    s.forest.isInner (s.forest.refTo unit i) = true ↔
      ∃ c, s.copies[unit]? = some c ∧ 0 < i ∧ i < c.tree.size := by
  rw [Forest.isInner_iff]
  constructor
  · rintro ⟨-, tree, htree, hparent⟩
    obtain ⟨c, hc, rfl⟩ := h.tree_getElem?.1 htree
    have hparse := h.parsed c (List.mem_of_getElem? hc)
    exact ⟨c, hc, (Statement.parent?_isSome_iff hparse i).1 hparent⟩
  · rintro ⟨c, hc, hi⟩
    have hparse := h.parsed c (List.mem_of_getElem? hc)
    exact ⟨rfl, c.tree, h.tree_getElem?.2 ⟨c, hc, rfl⟩,
      (Statement.parent?_isSome_iff hparse i).2 hi⟩

/-- A removal of a node below a root leaves fewer nodes. -/
theorem nodeCount_lt {e : Engine σ} (hlang : e.language.OfStatements) (hs : s.Tracked)
    (ht : t.Tracked) {nodes : RefSet} {r : NodeRef} (hr : r ∈ nodes)
    (hinner : s.forest.isInner r = true) (htexts : t.committed = e.textsWithout nodes s) :
    t.forest.nodeCount < s.forest.nodeCount := by
  have hlength : (s.forest.partition nodes).perUnit.length = s.copies.length := by
    rw [Engine.length_perUnit, hs.unitCount]
  have hcontains := Forest.contains_of_isInner hinner
  have href := Forest.eq_refTo_of_contains hcontains
  rw [href] at hr hinner hcontains
  obtain ⟨c, hc, hpos, hsize⟩ := hs.isInner_refTo.1 hinner
  obtain ⟨indices, hindices⟩ := s.forest.perUnit_getElem? nodes
    (hs.unitCount ▸ (List.getElem?_eq_some_iff.1 hc).1)
  have hmem : r.index ∈ indices := (Forest.mem_perUnit hindices).2 ⟨hr, hcontains⟩
  have hok := ht.parses
  rw [htexts] at hok
  rw [hs.nodeCount, ht.nodeCount, htexts]
  exact (sum_nodesOf_cutTexts hlang hs.parsed hlength hok).2 r.unit c indices r.index hc hindices
    hmem hpos hsize

/-- A layout has as many nodes as before. -/
theorem nodeCount_layout (hs : s.Tracked) (ht : t.Tracked)
    (htexts : t.committed = s.committed.map Statement.reformat) :
    t.forest.nodeCount = s.forest.nodeCount := by
  rw [hs.nodeCount, ht.nodeCount, htexts, List.map_map]
  congr 1
  refine List.map_congr_left fun text htext => ?_
  obtain ⟨tree, hparse⟩ := Statement.exists_parse (hs.parses text htext)
  exact nodesOf_reformat hparse

end Session.Tracked

/-- What an attempt that is checked comes to, whatever the invariant says. -/
theorem Engine.attempt_tracked {e : Engine σ} (hlang : e.language.OfStatements) {s : Session σ}
    (hs : s.Tracked) {a : Attempt} (ha : a.isChecked = true) :
    (∃ failure, (e.attempt a s).1 = .error failure ∧ (e.attempt a s).2.forest = s.forest) ∨
      (∃ reason, (e.attempt a s).1 = .ok (.failed reason) ∧ s.SameCommitted (e.attempt a s).2) ∨
      (e.attempt a s).1 = .ok .proceed ∧ (e.attempt a s).2.Tracked ∧
        (e.attempt a s).2.committed = (e.proposal a s).texts := by
  cases e.attempt_leaves a hs.unitCount with
  | refused reason houtcome hsame => exact .inr (.inl ⟨reason, houtcome, hsame⟩)
  | failed failure count houtcome _ _ hforest _ => exact .inl ⟨failure, houtcome, hforest⟩
  | committed houtcome happroves hcopies hforest _ =>
    have hproceed : answerTo a = .proceed := by simp [answerTo, ha]
    refine .inr (.inr ⟨hproceed ▸ houtcome, ⟨hforest, ?_⟩, ?_⟩)
    · intro d hd
      rw [hcopies] at hd
      obtain ⟨c, hc, rfl⟩ := List.mem_map.1 hd
      have hparse := parse_promoted ((happroves ha).2 c.scratch (List.mem_map_of_mem hc))
      rw [hlang.parse] at hparse
      exact hparse
    · rw [Session.committed, hcopies, List.map_map]
      rfl

end SourceReducer
