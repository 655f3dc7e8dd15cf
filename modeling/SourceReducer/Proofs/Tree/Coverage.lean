import Mathlib.Tactic.Common
import SourceReducer.Tree.Excision

/-! What cutting spans out of a text leaves: exactly the characters that no span covers. Sorting the
spans and joining those that touch changes neither which offsets are covered nor, therefore, the
result. -/
namespace SourceReducer

/-! Character boundaries. -/

/-- Whether a text falls into two parts at an offset. -/
def SplitsAt (cs : List Char) (offset : Nat) : Prop :=
  ∃ left right, cs = left ++ right ∧ byteSize left = offset

theorem isBoundary_iff {cs : List Char} {offset : Nat} :
    isBoundary cs offset = true ↔ SplitsAt cs offset := by
  rw [isBoundary, Option.isSome_iff_exists]
  constructor
  · rintro ⟨⟨left, right⟩, hcut⟩
    obtain ⟨happ, hsize⟩ := cutAt?_append hcut
    exact ⟨left, right, happ.symm, hsize⟩
  · rintro ⟨left, right, rfl, rfl⟩
    exact ⟨_, cutAt?_byteSize left right⟩

/-- Of two splits of a text the later one adds a part to the earlier one. -/
theorem exists_between_splits {left right left' right' : List Char}
    (h : left ++ right = left' ++ right') (hle : byteSize left ≤ byteSize left') :
    ∃ mid, left' = left ++ mid ∧ right = mid ++ right' := by
  rcases List.append_eq_append_iff.1 h with ⟨mid, hleft, hright⟩ | ⟨mid, hleft, hright⟩
  · exact ⟨mid, hleft, hright⟩
  · cases mid with
    | nil => exact ⟨[], by simpa using hleft.symm, by simpa using hright.symm⟩
    | cons c mid =>
      have := c.utf8Size_pos
      simp only [hleft, byteSize_append, byteSize_cons] at hle
      omega

theorem eq_of_append_eq_append {left right left' right' : List Char}
    (h : left ++ right = left' ++ right') (hsize : byteSize left = byteSize left') :
    left = left' ∧ right = right' := by
  obtain ⟨mid, rfl, rfl⟩ := exists_between_splits h (Nat.le_of_eq hsize)
  have hmid : mid = [] := by
    by_contra hne
    have := byteSize_pos hne
    simp only [byteSize_append] at hsize
    omega
  simp [hmid]

/-- No split of a text lies inside one of its characters. -/
theorem le_or_le_of_split {left right left' right' : List Char} {c : Char}
    (h : left ++ right = left' ++ c :: right') :
    byteSize left ≤ byteSize left' ∨ byteSize left' + c.utf8Size ≤ byteSize left := by
  rcases List.append_eq_append_iff.1 h with ⟨mid, rfl, -⟩ | ⟨mid, rfl, hright⟩
  · left
    simp
  · cases mid with
    | nil => simp
    | cons d mid =>
      simp only [List.cons_append, List.cons.injEq] at hright
      right
      simp [hright.1]

/-! What is covered and what is left. -/

def Span.covers (s : Span) (offset : Nat) : Bool :=
  s.start ≤ offset && offset < s.stop

theorem Span.covers_iff {s : Span} {offset : Nat} :
    s.covers offset = true ↔ s.start ≤ offset ∧ offset < s.stop := by
  simp [Span.covers]

/-- Whether one of the spans covers an offset. -/
def coveredBy (spans : List Span) (offset : Nat) : Bool :=
  spans.any fun s => s.covers offset

/-- The characters of a text, which starts at `offset`, whose offsets are not gone. -/
def outside (gone : Nat → Bool) (offset : Nat) : List Char → List Char
  | [] => []
  | c :: cs =>
      if gone offset then outside gone (offset + c.utf8Size) cs
      else c :: outside gone (offset + c.utf8Size) cs

theorem outside_congr {gone gone' : Nat → Bool} {offset : Nat} (cs : List Char)
    (h : ∀ x, offset ≤ x → gone x = gone' x) :
    outside gone offset cs = outside gone' offset cs := by
  induction cs generalizing offset with
  | nil => rfl
  | cons c cs ih =>
    have hrest := @ih (offset + c.utf8Size) fun x hx => h x (by omega)
    simp only [outside, h offset (Nat.le_refl _), hrest]

theorem outside_of_not_gone {gone : Nat → Bool} {offset : Nat} {cs : List Char}
    (h : ∀ x, offset ≤ x → x < offset + byteSize cs → gone x = false) :
    outside gone offset cs = cs := by
  induction cs generalizing offset with
  | nil => rfl
  | cons c cs ih =>
    have hpos := c.utf8Size_pos
    simp only [byteSize_cons] at h
    have hrest := @ih (offset + c.utf8Size) fun x hlo hhi => h x (by omega) (by omega)
    simp [outside, h offset (Nat.le_refl _) (by omega), hrest]

/-- Spans in increasing order, apart from one another. -/
def Separate (spans : List Span) : Prop :=
  spans.Pairwise fun a b => a.stop < b.start

theorem coveredBy_dropWhile {spans : List Span} {offset x : Nat} (h : offset ≤ x) :
    coveredBy (spans.dropWhile fun s => s.stop ≤ offset) x = coveredBy spans x := by
  induction spans with
  | nil => rfl
  | cons s spans ih =>
    by_cases hs : s.stop ≤ offset
    · have hnot : s.covers x = false := by
        simp only [Span.covers, Bool.and_eq_false_iff, decide_eq_false_iff_not]
        omega
      have hdrop : (s :: spans).dropWhile (fun s => s.stop ≤ offset) =
          spans.dropWhile fun s => s.stop ≤ offset := by simp [hs]
      simp only [hdrop, ih]
      simp [coveredBy, hnot]
    · simp [hs]

/-- One walk over the text leaves out what separate spans cover. -/
theorem dropSpans_eq_outside {spans : List Span} (h : Separate spans) (offset : Nat)
    (cs : List Char) : dropSpans offset cs spans = outside (coveredBy spans) offset cs := by
  induction cs generalizing offset spans with
  | nil => simp [dropSpans, outside]
  | cons c cs ih =>
    have hcongr : outside _ offset (c :: cs) = outside (coveredBy spans) offset (c :: cs) :=
      outside_congr _ fun x hx => coveredBy_dropWhile hx
    rw [← hcongr, dropSpans]
    have hsub : (spans.dropWhile fun s => decide (s.stop ≤ offset)).Sublist spans :=
      List.dropWhile_sublist _
    have hsep : Separate (spans.dropWhile fun s => s.stop ≤ offset) := h.sublist hsub
    cases hrest : spans.dropWhile fun s => s.stop ≤ offset with
    | nil => exact (outside_of_not_gone fun _ _ _ => rfl).symm
    | cons s rest =>
      have hstop : offset < s.stop := by
        have := List.head?_dropWhile_not (fun s : Span => decide (s.stop ≤ offset)) spans
        simpa [hrest] using this
      rw [hrest] at hsep
      have hlater : ∀ s' ∈ rest, s.stop < s'.start := (List.pairwise_cons.1 hsep).1
      simp only [outside, ih hsep]
      by_cases hstart : offset < s.start
      · have hnot : coveredBy (s :: rest) offset = false := by
          simp only [coveredBy, List.any_eq_false, List.mem_cons, Span.covers]
          rintro s' (rfl | hs')
          · simp; omega
          · have := hlater s' hs'
            simp; omega
        simp [hstart, hnot]
      · have hcov : coveredBy (s :: rest) offset = true := by
          simp [coveredBy, Span.covers]
          omega
        simp [hstart, hcov]

/-! Sorting and joining. -/

theorem Span.before_trans (a b c : Span) (hab : a.before b = true) (hbc : b.before c = true) :
    a.before c = true := by
  simp only [Span.before, Bool.or_eq_true, decide_eq_true_eq, Bool.and_eq_true, beq_iff_eq] at *
  omega

theorem Span.before_total (a b : Span) : (a.before b || b.before a) = true := by
  simp only [Span.before, Bool.or_eq_true, decide_eq_true_eq, Bool.and_eq_true, beq_iff_eq]
  omega

theorem Span.covers_join {a b : Span} (hstart : a.start ≤ b.start) (htouch : b.start ≤ a.stop)
    (x : Nat) : (a.join b).covers x = (a.covers x || b.covers x) := by
  have ha := a.start_le_stop
  have hb := b.start_le_stop
  have hmax : x < max a.stop b.stop ↔ x < a.stop ∨ x < b.stop := by omega
  rw [Bool.eq_iff_iff]
  simp only [Span.covers, Span.join, Nat.min_eq_left hstart, Bool.and_eq_true, Bool.or_eq_true,
    decide_eq_true_eq, hmax]
  omega

theorem joinSpans_spec {current : Span} {spans : List Span}
    (hcurrent : ∀ s ∈ spans, current.start ≤ s.start)
    (hsorted : spans.Pairwise fun a b => a.start ≤ b.start) :
    Separate (joinSpans current spans) ∧
      (∀ s ∈ joinSpans current spans, current.start ≤ s.start) ∧
      ∀ x, coveredBy (joinSpans current spans) x = coveredBy (current :: spans) x := by
  induction spans generalizing current with
  | nil => simp [joinSpans, Separate]
  | cons s spans ih =>
    obtain ⟨hhead, htail⟩ := List.pairwise_cons.1 hsorted
    have hs : current.start ≤ s.start := hcurrent s (by simp)
    unfold joinSpans
    split
    · next htouch =>
      have hmin : (current.join s).start = current.start := by simp [Span.join, hs]
      obtain ⟨hsep, hlow, hcov⟩ := @ih (current.join s)
        (fun s' hs' => by rw [hmin]; exact hcurrent s' (by simp [hs'])) htail
      refine ⟨hsep, fun s' hs' => by rw [← hmin]; exact hlow s' hs', fun x => ?_⟩
      rw [hcov x]
      simp [coveredBy, Span.covers_join hs htouch, Bool.or_assoc]
    · next hapart =>
      obtain ⟨hsep, hlow, hcov⟩ := ih hhead htail
      refine ⟨?_, ?_, fun x => ?_⟩
      · refine List.pairwise_cons.2 ⟨fun s' hs' => ?_, hsep⟩
        have := hlow s' hs'
        omega
      · intro s' hs'
        rcases List.mem_cons.1 hs' with rfl | hs'
        · exact Nat.le_refl _
        · exact Nat.le_trans hs (hlow s' hs')
      · have := hcov x
        simp only [coveredBy, List.any_cons] at this ⊢
        rw [this]

theorem separateSpans_spec (spans : List Span) :
    Separate (separateSpans spans) ∧
      ∀ x, coveredBy (separateSpans spans) x = coveredBy spans x := by
  have hperm := List.mergeSort_perm spans Span.before
  have hcovered (x : Nat) : coveredBy (spans.mergeSort Span.before) x = coveredBy spans x := by
    rw [Bool.eq_iff_iff]
    simp [coveredBy, hperm.mem_iff]
  have hsorted : (spans.mergeSort Span.before).Pairwise fun a b => a.start ≤ b.start := by
    refine (List.pairwise_mergeSort Span.before_trans Span.before_total spans).imp ?_
    intro a b hab
    simp only [Span.before, Bool.or_eq_true, decide_eq_true_eq, Bool.and_eq_true,
      beq_iff_eq] at hab
    omega
  unfold separateSpans
  split
  · next hnil =>
    refine ⟨List.Pairwise.nil, fun x => ?_⟩
    rw [← hcovered x, hnil]
  · next s rest hcons =>
    rw [hcons] at hsorted
    obtain ⟨hhead, htail⟩ := List.pairwise_cons.1 hsorted
    obtain ⟨hsep, -, hcov⟩ := joinSpans_spec hhead htail
    refine ⟨hsep, fun x => ?_⟩
    rw [hcov x, ← hcons, hcovered x]

/-- Cutting nodes out leaves the characters that none of their usable spans covers. -/
theorem exciseSpans_eq (text : String) (t : Tree) (chosen : List Nat) :
    exciseSpans text t chosen =
      String.ofList (outside (coveredBy (usableSpans text.toList t chosen)) 0 text.toList) := by
  obtain ⟨hsep, hcov⟩ := separateSpans_spec (usableSpans text.toList t chosen)
  rw [exciseSpans, dropSpans_eq_outside hsep]
  congr 1
  exact outside_congr _ fun x _ => hcov x

end SourceReducer
