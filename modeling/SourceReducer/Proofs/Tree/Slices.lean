import SourceReducer.Proofs.Tree.Coverage

/-! Cutting nodes out of a text by slices. The parts between the spans that are left out always lie
on character boundaries of the text, in order, and put together they are the bytes of the text that
no usable span covers. -/
namespace SourceReducer

/-- What is left of a text from `cursor` on around spans, slice by slice; none if a slice does not
lie between two character boundaries of the text. -/
def sliceAround? (cs : List Char) (cursor : Nat) : List Span → Option (List Char)
  | [] => slice? cs cursor (byteSize cs)
  | s :: rest => do
      let kept ← slice? cs cursor s.start
      let behind ← sliceAround? cs s.stop rest
      return kept ++ behind

/-- The text without what the chosen nodes cover, put together from slices. -/
def exciseSlices? (text : String) (t : Tree) (chosen : List Nat) : Option String :=
  (sliceAround? text.toList 0 (separateSpans (usableSpans text.toList t chosen))).map String.ofList

/-! Slices lie on character boundaries. -/

theorem outside_append (gone : Nat → Bool) (offset : Nat) (as bs : List Char) :
    outside gone offset (as ++ bs) =
      outside gone offset as ++ outside gone (offset + byteSize as) bs := by
  induction as generalizing offset with
  | nil => simp [outside]
  | cons c as ih =>
    simp only [List.cons_append, outside, ih, byteSize_cons, Nat.add_assoc]
    split <;> rfl

theorem outside_of_gone {gone : Nat → Bool} {offset : Nat} {cs : List Char}
    (h : ∀ x, offset ≤ x → x < offset + byteSize cs → gone x = true) :
    outside gone offset cs = [] := by
  induction cs generalizing offset with
  | nil => rfl
  | cons c cs ih =>
    have hpos := c.utf8Size_pos
    simp only [byteSize_cons] at h
    rw [outside, if_pos (h offset (Nat.le_refl _) (by omega))]
    exact ih fun x hlo hhi => h x (by omega) (by omega)

theorem coveredBy_cons (s : Span) (spans : List Span) (x : Nat) :
    coveredBy (s :: spans) x = (s.covers x || coveredBy spans x) :=
  List.any_cons

theorem coveredBy_of_lt {spans : List Span} {x : Nat} (h : ∀ s ∈ spans, x < s.start) :
    coveredBy spans x = false := by
  simp only [coveredBy, List.any_eq_false, Span.covers_iff]
  intro s hs
  have := h s hs
  omega

/-- The text up to the first of separate spans stays, and what this span covers goes. -/
theorem outside_first {s : Span} {rest : List Span} (hsep : Separate (s :: rest)) {offset : Nat}
    {kept cut : List Char} (hstart : offset + byteSize kept = s.start)
    (hstop : s.start + byteSize cut = s.stop) (after : List Char) :
    outside (coveredBy (s :: rest)) offset (kept ++ (cut ++ after)) =
      kept ++ outside (coveredBy rest) s.stop after := by
  have hapart := (List.pairwise_cons.1 hsep).1
  have hkept : outside (coveredBy (s :: rest)) offset kept = kept := by
    refine outside_of_not_gone fun x _ hx => coveredBy_of_lt fun s' hs' => ?_
    rcases List.mem_cons.1 hs' with rfl | hs'
    · omega
    · have := hapart s' hs'
      omega
  have hcut : outside (coveredBy (s :: rest)) s.start cut = [] := by
    refine outside_of_gone fun x hlo hhi => ?_
    have hcov : s.covers x = true := by
      rw [Span.covers_iff]
      omega
    rw [coveredBy_cons, hcov, Bool.true_or]
  have hafter : outside (coveredBy (s :: rest)) s.stop after =
      outside (coveredBy rest) s.stop after := by
    refine outside_congr _ fun x hx => ?_
    have hcov : s.covers x = false := by
      simp only [Span.covers, Bool.and_eq_false_iff, decide_eq_false_iff_not]
      omega
    rw [coveredBy_cons, hcov, Bool.false_or]
  rw [outside_append, outside_append, hstart, hstop, hkept, hcut, hafter, List.nil_append]

/-- Around separate spans that fit, no slice fails, and the slices leave what the spans do not
cover. -/
theorem sliceAround?_eq {cs left right : List Char} {spans : List Span} (hcs : cs = left ++ right)
    (hsep : Separate spans) (hlow : ∀ s ∈ spans, byteSize left ≤ s.start)
    (hfits : ∀ s ∈ spans, s.fits cs = true) :
    sliceAround? cs (byteSize left) spans =
      some (outside (coveredBy spans) (byteSize left) right) := by
  induction spans generalizing left right with
  | nil =>
    have hslice := slice?_byteSize left right []
    rw [List.append_nil, ← hcs, ← byteSize_append, ← hcs] at hslice
    have hall : outside (coveredBy []) (byteSize left) right = right :=
      outside_of_not_gone fun _ _ _ => rfl
    rw [sliceAround?, hslice, hall]
  | cons s rest ih =>
    obtain ⟨hapart, hrest⟩ := List.pairwise_cons.1 hsep
    have hbounds := hfits s List.mem_cons_self
    rw [Span.fits, Bool.and_eq_true, isBoundary_iff, isBoundary_iff] at hbounds
    obtain ⟨⟨upto, behind, hstart, hupto⟩, through, after, hstop, hthrough⟩ := hbounds
    -- the text is `left`, what is kept, what the span covers and what comes after it
    obtain ⟨kept, rfl, rfl⟩ := exists_between_splits (hcs.symm.trans hstart)
      (hupto ▸ hlow s List.mem_cons_self)
    obtain ⟨cut, rfl, rfl⟩ := exists_between_splits (hstart.symm.trans hstop)
      (by rw [hupto, hthrough]; exact s.start_le_stop)
    have hnext := ih hstop hrest
      (fun s' hs' => by have := hapart s' hs'; omega)
      fun s' hs' => hfits s' (List.mem_cons_of_mem _ hs')
    have hslice := slice?_byteSize left kept (cut ++ after)
    rw [← hstart, ← byteSize_append, hupto] at hslice
    rw [hthrough] at hnext
    rw [byteSize_append, hupto] at hthrough
    rw [byteSize_append] at hupto
    rw [sliceAround?, hslice, hnext, outside_first hsep hupto hthrough]
    rfl

/-- A joined span starts where one of the spans starts and stops where one of them stops. -/
theorem ends_of_mem_joinSpans {current s : Span} {spans : List Span}
    (h : s ∈ joinSpans current spans) :
    (∃ a ∈ current :: spans, s.start = a.start) ∧ ∃ b ∈ current :: spans, s.stop = b.stop := by
  induction spans generalizing current with
  | nil =>
    obtain rfl := List.mem_singleton.1 h
    exact ⟨⟨s, by simp, rfl⟩, s, by simp, rfl⟩
  | cons next spans ih =>
    unfold joinSpans at h
    split at h
    · obtain ⟨⟨a, ha, hstart⟩, b, hb, hstop⟩ := ih h
      constructor
      · rcases List.mem_cons.1 ha with rfl | ha
        · rcases Nat.le_total current.start next.start with hle | hle
          · exact ⟨current, by simp, by simp [hstart, Span.join, hle]⟩
          · exact ⟨next, by simp, by simp [hstart, Span.join, hle]⟩
        · exact ⟨a, by simp [ha], hstart⟩
      · rcases List.mem_cons.1 hb with rfl | hb
        · rcases Nat.le_total current.stop next.stop with hle | hle
          · exact ⟨next, by simp, by simp [hstop, Span.join, hle]⟩
          · exact ⟨current, by simp, by simp [hstop, Span.join, hle]⟩
        · exact ⟨b, by simp [hb], hstop⟩
    · rcases List.mem_cons.1 h with rfl | h
      · exact ⟨⟨s, by simp, rfl⟩, s, by simp, rfl⟩
      · obtain ⟨⟨a, ha, hstart⟩, b, hb, hstop⟩ := ih h
        exact ⟨⟨a, List.mem_cons_of_mem _ ha, hstart⟩, b, List.mem_cons_of_mem _ hb, hstop⟩

theorem fits_of_mem_separateSpans {cs : List Char} {spans : List Span} {s : Span}
    (hfits : ∀ a ∈ spans, a.fits cs = true) (h : s ∈ separateSpans spans) : s.fits cs = true := by
  unfold separateSpans at h
  split at h
  · cases h
  · next first rest hsorted =>
    have hmem (a : Span) (ha : a ∈ first :: rest) : a ∈ spans := by
      rw [← hsorted] at ha
      exact (List.mergeSort_perm spans Span.before).mem_iff.1 ha
    obtain ⟨⟨a, ha, hstart⟩, b, hb, hstop⟩ := ends_of_mem_joinSpans h
    have hfa := hfits a (hmem a ha)
    have hfb := hfits b (hmem b hb)
    simp only [Span.fits, Bool.and_eq_true] at hfa hfb ⊢
    exact ⟨hstart ▸ hfa.1, hstop ▸ hfb.2⟩

theorem fits_of_mem_usableSpans {cs : List Char} {t : Tree} {chosen : List Nat} {s : Span}
    (h : s ∈ usableSpans cs t chosen) : s.fits cs = true := by
  have := (List.mem_filter.1 h).2
  rwa [Span.fitsMarks_boundaryMarks] at this

theorem exciseSlices?_eq (text : String) (t : Tree) (chosen : List Nat) :
    exciseSlices? text t chosen = some (exciseSpans text t chosen) := by
  obtain ⟨hsep, -⟩ := separateSpans_spec (usableSpans text.toList t chosen)
  have hslices := sliceAround?_eq (List.nil_append text.toList).symm hsep (by simp)
    fun s hs => fits_of_mem_separateSpans (fun a => fits_of_mem_usableSpans) hs
  rw [exciseSlices?, exciseSpans, dropSpans_eq_outside hsep]
  exact congrArg (Option.map String.ofList) hslices

/-! The bytes that are left. -/

theorem toUTF8_ofList (cs : List Char) :
    (String.ofList cs).toUTF8.data.toList = cs.flatMap String.utf8EncodeChar := by
  rw [String.toUTF8, String.toByteArray_ofList, List.utf8Encode, List.toList_data_toByteArray]

theorem toUTF8_eq (text : String) :
    text.toUTF8.data.toList = text.toList.flatMap String.utf8EncodeChar := by
  rw [← toUTF8_ofList, String.ofList_toList]

theorem byteSize_toList (text : String) : byteSize text.toList = text.utf8ByteSize := by
  have hlength (cs : List Char) : (cs.flatMap String.utf8EncodeChar).length = byteSize cs := by
    induction cs with
    | nil => rfl
    | cons c cs ih => simp [ih]
  rw [← hlength, ← toUTF8_eq, ← String.size_toByteArray]
  rfl

/-- The bytes, the first of which stands at `offset`, whose positions are not gone. -/
def bytesOutside (gone : Nat → Bool) (offset : Nat) (bytes : List UInt8) : List UInt8 :=
  ((bytes.zipIdx offset).filter fun b => !gone b.2).map Prod.fst

theorem bytesOutside_append (gone : Nat → Bool) (offset : Nat) (as bs : List UInt8) :
    bytesOutside gone offset (as ++ bs) =
      bytesOutside gone offset as ++ bytesOutside gone (offset + as.length) bs := by
  simp [bytesOutside, List.zipIdx_append]

/-- Bytes that stay or go together. -/
theorem bytesOutside_of_const {gone : Nat → Bool} {offset : Nat} {bytes : List UInt8} {g : Bool}
    (h : ∀ x, offset ≤ x → x < offset + bytes.length → gone x = g) :
    bytesOutside gone offset bytes = if g then [] else bytes := by
  induction bytes generalizing offset with
  | nil => simp [bytesOutside]
  | cons b bytes ih =>
    have hrest := @ih (offset + 1) fun x hlo hhi => h x (by omega) (by simp; omega)
    have hfirst : gone offset = g := h offset (Nat.le_refl _) (by simp)
    unfold bytesOutside at hrest ⊢
    rw [List.zipIdx_cons, List.filter_cons, hfirst]
    cases g <;> simp [hrest]

/-- Where characters stay or go as wholes, the bytes that are left are those of the characters that
are left. -/
theorem utf8_outside {gone : Nat → Bool} {text left right : List Char}
    (htext : text = left ++ right)
    (hwhole : ∀ front c rest, text = front ++ c :: rest →
      ∀ x, byteSize front ≤ x → x < byteSize front + c.utf8Size →
        gone x = gone (byteSize front)) :
    (outside gone (byteSize left) right).flatMap String.utf8EncodeChar =
      bytesOutside gone (byteSize left) (right.flatMap String.utf8EncodeChar) := by
  induction right generalizing left with
  | nil => rfl
  | cons c right ih =>
    have hrest := @ih (left ++ [c]) (by simp [htext])
    simp only [byteSize_append, byteSize_cons, byteSize_nil, Nat.add_zero] at hrest
    have hconst := @bytesOutside_of_const gone (byteSize left) (String.utf8EncodeChar c)
      (gone (byteSize left)) (by
        rw [String.length_utf8EncodeChar]
        exact hwhole left c right htext)
    rw [List.flatMap_cons, bytesOutside_append, String.length_utf8EncodeChar, ← hrest, hconst]
    simp only [outside]
    split <;> simp

/-- Usable spans cover characters as wholes. -/
theorem coveredBy_whole {cs front rest : List Char} {c : Char} {spans : List Span}
    (hfits : ∀ s ∈ spans, s.fits cs = true) (hcs : cs = front ++ c :: rest) {x : Nat}
    (hlo : byteSize front ≤ x) (hhi : x < byteSize front + c.utf8Size) :
    coveredBy spans x = coveredBy spans (byteSize front) := by
  have hsame (s : Span) (hs : s ∈ spans) : s.covers x = s.covers (byteSize front) := by
    have hbounds := hfits s hs
    rw [Span.fits, Bool.and_eq_true, isBoundary_iff, isBoundary_iff] at hbounds
    obtain ⟨⟨upto, behind, hstart, hupto⟩, through, after, hstop, hthrough⟩ := hbounds
    have hfirst := le_or_le_of_split (hstart.symm.trans hcs)
    have hlast := le_or_le_of_split (hstop.symm.trans hcs)
    rw [Bool.eq_iff_iff, Span.covers_iff, Span.covers_iff]
    omega
  rw [Bool.eq_iff_iff]
  simp only [coveredBy, List.any_eq_true]
  exact exists_congr fun s => and_congr_right fun hs => by rw [hsame s hs]

/-! What the result depends on. -/

theorem mem_usableSpans_iff {text : String} {t : Tree} {chosen : List Nat} {s : Span} :
    s ∈ usableSpans text.toList t chosen ↔ ∃ i ∈ chosen, ∃ node, t.node? i = some node ∧
      node.span = s ∧ s.stop ≤ text.utf8ByteSize ∧ SplitsAt text.toList s.start ∧
        SplitsAt text.toList s.stop := by
  have hend (h : SplitsAt text.toList s.stop) : s.stop ≤ text.utf8ByteSize := by
    obtain ⟨left, right, hsplit, hsize⟩ := h
    rw [← byteSize_toList, hsplit, byteSize_append]
    omega
  simp only [usableSpans, List.mem_filter, List.mem_filterMap, Option.map_eq_some_iff,
    Span.fitsMarks_boundaryMarks, Span.fits, Bool.and_eq_true, isBoundary_iff]
  constructor
  · rintro ⟨⟨i, hi, node, hnode, hspan⟩, hstart, hstop⟩
    exact ⟨i, hi, node, hnode, hspan, hend hstop, hstart, hstop⟩
  · rintro ⟨i, hi, node, hnode, hspan, -, hstart, hstop⟩
    exact ⟨⟨i, hi, node, hnode, hspan⟩, hstart, hstop⟩

theorem exciseSpans_congr {text : String} {t t' : Tree} {chosen chosen' : List Nat}
    (h : ∀ x, coveredBy (usableSpans text.toList t' chosen') x =
      coveredBy (usableSpans text.toList t chosen) x) :
    exciseSpans text t' chosen' = exciseSpans text t chosen := by
  rw [exciseSpans_eq, exciseSpans_eq, outside_congr _ fun x _ => h x]

/-- Cutting nodes out of a text, whatever their spans are: no slice fails, what is left are the
bytes of the text that no usable span of a chosen node covers, and so it is decided by the set of
these spans, to which a span inside another one adds nothing. -/
theorem excision_is_exact (text : String) (t : Tree) (chosen : List Nat) :
    exciseSlices? text t chosen = some (exciseSpans text t chosen) ∧
      (exciseSpans text t chosen).toUTF8.data.toList =
        ((text.toUTF8.data.toList.zipIdx).filter fun b =>
          !coveredBy (usableSpans text.toList t chosen) b.2).map Prod.fst ∧
      (∀ s, s ∈ usableSpans text.toList t chosen ↔ ∃ i ∈ chosen, ∃ node, t.node? i = some node ∧
        node.span = s ∧ s.stop ≤ text.utf8ByteSize ∧ SplitsAt text.toList s.start ∧
          SplitsAt text.toList s.stop) ∧
      (∀ (t' : Tree) (chosen' : List Nat),
        (∀ s, s ∈ usableSpans text.toList t' chosen' ↔ s ∈ usableSpans text.toList t chosen) →
          exciseSpans text t' chosen' = exciseSpans text t chosen) ∧
      ∀ i node, t.node? i = some node →
        (∃ s ∈ usableSpans text.toList t chosen,
          s.start ≤ node.span.start ∧ node.span.stop ≤ s.stop) →
          exciseSpans text t (i :: chosen) = exciseSpans text t chosen := by
  refine ⟨exciseSlices?_eq text t chosen, ?_, fun _ => mem_usableSpans_iff, ?_, ?_⟩
  · rw [exciseSpans_eq, toUTF8_ofList, toUTF8_eq]
    refine utf8_outside (List.nil_append text.toList).symm ?_
    exact fun front c rest hsplit x => coveredBy_whole (fun s => fits_of_mem_usableSpans) hsplit
  · intro t' chosen' hsame
    refine exciseSpans_congr fun x => ?_
    rw [Bool.eq_iff_iff]
    simp only [coveredBy, List.any_eq_true, hsame]
  · rintro i node hnode ⟨s, hs, hstart, hstop⟩
    refine exciseSpans_congr fun x => ?_
    rw [Bool.eq_iff_iff]
    simp only [coveredBy, List.any_eq_true]
    constructor
    · rintro ⟨a, ha, hcov⟩
      obtain ⟨j, hj, node', hnode', hspan, hfits⟩ := mem_usableSpans_iff.1 ha
      rcases List.mem_cons.1 hj with rfl | hj
      · -- the span of the inner node is `a`
        obtain rfl : node = node' := Option.some.inj (hnode.symm.trans hnode')
        subst hspan
        refine ⟨s, hs, ?_⟩
        rw [Span.covers_iff] at hcov ⊢
        omega
      · exact ⟨a, mem_usableSpans_iff.2 ⟨j, hj, node', hnode', hspan, hfits⟩, hcov⟩
    · rintro ⟨a, ha, hcov⟩
      obtain ⟨j, hj, rest⟩ := mem_usableSpans_iff.1 ha
      exact ⟨a, mem_usableSpans_iff.2 ⟨j, List.mem_cons_of_mem _ hj, rest⟩, hcov⟩

end SourceReducer
