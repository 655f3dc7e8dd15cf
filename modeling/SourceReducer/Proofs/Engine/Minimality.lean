import SourceReducer.Proofs.Engine.Decision

/-! Minimal texts. Where every node by itself was refused, no single node can be cut out. -/
namespace SourceReducer

variable {σ : Type}

/-- Whether no node below a root can be cut out of texts by itself so that they stay acceptable. -/
def OneMinimal (P : List String → Bool) (texts : List String) : Prop :=
  ∀ (unit : Nat) (text : String) (tree : Tree), texts[unit]? = some text →
    Statement.parse text = .ok tree → ∀ i, 0 < i → i < tree.size →
      ¬Accepted Statement.language P (texts.set unit (exciseSpans text tree [i]))

/-- Texts with the tokens of minimal ones are minimal. -/
theorem OneMinimal.congr {P : List String → Bool} (hP : TokensDecide P) {texts texts' : List String}
    (hsame : texts.map (fun text => Statement.lexemes text.toList) =
      texts'.map fun text => Statement.lexemes text.toList)
    (h : OneMinimal P texts) : OneMinimal P texts' := by
  intro unit text' tree' htext' hparse' i hpos hlt haccepted
  have hunit := congrArg (fun lexemes => lexemes[unit]?) hsame
  simp only [List.getElem?_map, htext', Option.map_some] at hunit
  obtain ⟨text, htext, hlexemes⟩ := Option.map_eq_some_iff.1 hunit
  obtain ⟨tree, hparse⟩ := Statement.parse_congr hlexemes.symm hparse'
  have hsize := Statement.size_congr hlexemes hparse hparse'
  refine h unit text tree htext hparse i hpos (by omega) (accepted_congr hP ?_ haccepted)
  rw [List.map_set, List.map_set, hsame,
    Statement.lexemes_exciseSpans_congr hlexemes hparse hparse' [i]]

namespace Sound

open Files

variable {base : Files} {sites : List (String × String)} {P : List String → Bool} {s : Session σ}

/-- Removing one node cuts it out of its unit and leaves the other texts. -/
theorem lexemes_cutTexts_single (hs : Sound base sites P s) {unit i : Nat} {c : WorkingCopy}
    {nodes : RefSet} (hc : s.copies[unit]? = some c) (hpos : 0 < i) (hlt : i < c.tree.size)
    (hnodes : ∀ x, x ∈ nodes ↔ x = s.forest.refTo unit i) :
    (cutTexts Statement.language s.copies (s.forest.partition nodes).perUnit).map
        (fun text => Statement.lexemes text.toList) =
      ((s.copies.map WorkingCopy.committed).set unit (exciseSpans c.committed c.tree [i])).map
        fun text => Statement.lexemes text.toList := by
  have hinner := hs.isInner_refTo.2 ⟨c, hc, hpos, hlt⟩
  refine List.ext_getElem? fun k => ?_
  simp only [cutTexts, List.getElem?_map, List.getElem?_zipWith, List.getElem?_set]
  cases hd : s.copies[k]? with
  | none =>
    have hne : unit ≠ k := by
      rintro rfl
      simp [hc] at hd
    simp [hne]
  | some d =>
    have hk : k < s.copies.length := (List.getElem?_eq_some_iff.1 hd).1
    obtain ⟨indices, hindices⟩ := s.forest.perUnit_getElem? nodes (hs.unitCount ▸ hk)
    have hmem (j : Nat) : j ∈ indices ↔ s.forest.refTo k j = s.forest.refTo unit i := by
      rw [Forest.mem_perUnit hindices, hnodes]
      constructor
      · exact And.left
      · intro heq
        exact ⟨heq, heq ▸ Forest.contains_of_isInner hinner⟩
    by_cases hunit : unit = k
    · subst hunit
      obtain rfl : c = d := Option.some.inj (hc.symm.trans hd)
      have hself : i ∈ indices := (hmem i).2 rfl
      have hcut : c.cut Statement.language indices = exciseSpans c.committed c.tree indices := by
        rw [WorkingCopy.cut, if_neg]
        · rfl
        intro hempty
        simp [List.isEmpty_iff.1 hempty] at hself
      have hchosen (j : Nat) : j ∈ indices ↔ j ∈ [i] := by
        rw [hmem, List.mem_singleton]
        simp [Forest.refTo]
      have hsame :=
        Statement.lexemes_exciseSpans_chosen (hs.parsed c (List.mem_of_getElem? hc)) hchosen
      simp [hindices, hcut, hsame, hk]
    · have hnone : indices = [] := by
        refine List.eq_nil_iff_forall_not_mem.2 fun j hj => ?_
        have heq := (hmem j).1 hj
        simp only [Forest.refTo, NodeRef.mk.injEq] at heq
        exact hunit heq.2.1.symm
      simp [hindices, hnone, hunit, WorkingCopy.cut]

/-- Where sets that cover the nodes of a forest were all refused, the committed texts are
minimal. -/
theorem oneMinimal {e : Engine σ} (he : e.language = Statement.language)
    (hs : Sound base sites P s) (hP : TokensDecide P) {sets : List RefSet}
    (hcovered : s.forest.Covered sets)
    (hrefused : ∀ nodes ∈ sets, (s.forest.partition nodes).matched = 0 ∨
      ¬Accepted Statement.language P (e.textsWithout nodes s)) :
    OneMinimal P (s.copies.map WorkingCopy.committed) := by
  intro unit text tree htext hparse i hpos hlt haccepted
  rw [List.getElem?_map, Option.map_eq_some_iff] at htext
  obtain ⟨c, hc, rfl⟩ := htext
  obtain rfl : c.tree = tree := by
    have hparsed := hs.parsed c (List.mem_of_getElem? hc)
    exact Except.ok.inj (hparsed.symm.trans hparse)
  have hinner := hs.isInner_refTo.2 ⟨c, hc, hpos, hlt⟩
  obtain ⟨nodes, hmem, hnodes⟩ := hcovered.single _ hinner
  rcases hrefused nodes hmem with hzero | hnot
  · obtain ⟨indices, hindices⟩ := s.forest.perUnit_getElem? nodes
      (hs.unitCount ▸ (List.getElem?_eq_some_iff.1 hc).1)
    refine Forest.matched_ne_zero.2 ⟨unit, indices, i, hindices, ?_⟩ hzero
    exact (Forest.mem_perUnit hindices).2 ⟨(hnodes _).2 rfl, Forest.contains_of_isInner hinner⟩
  · rw [Engine.textsWithout, he] at hnot
    exact hnot (accepted_congr hP (hs.lexemes_cutTexts_single hc hpos hlt hnodes).symm haccepted)

end Sound

end SourceReducer
