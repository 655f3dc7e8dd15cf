/-! Byte offsets in a text. Positions count the bytes of the UTF-8 form, so an offset is usable only
where a character starts or the text ends. -/
namespace SourceReducer

/-- The number of bytes of a text in UTF-8. -/
def byteSize : List Char → Nat
  | [] => 0
  | c :: cs => c.utf8Size + byteSize cs

@[simp] theorem byteSize_nil : byteSize [] = 0 := rfl

@[simp] theorem byteSize_cons (c : Char) (cs : List Char) :
    byteSize (c :: cs) = c.utf8Size + byteSize cs := rfl

@[simp] theorem byteSize_append (as bs : List Char) :
    byteSize (as ++ bs) = byteSize as + byteSize bs := by
  induction as with
  | nil => simp
  | cons a as ih => simp [ih, Nat.add_assoc]

@[simp] theorem byteSize_reverse (cs : List Char) : byteSize cs.reverse = byteSize cs := by
  induction cs with
  | nil => rfl
  | cons c cs ih => simp [ih, Nat.add_comm]

theorem byteSize_pos {cs : List Char} (h : cs ≠ []) : 0 < byteSize cs := by
  cases cs with
  | nil => exact absurd rfl h
  | cons c cs =>
    have := c.utf8Size_pos
    simp only [byteSize_cons]
    omega

/-- Cuts a text at a byte offset, where the offset is a character boundary. -/
def cutAt? : List Char → Nat → Option (List Char × List Char)
  | cs, 0 => some ([], cs)
  | [], _ + 1 => none
  | c :: cs, n + 1 =>
      if c.utf8Size ≤ n + 1 then
        (cutAt? cs (n + 1 - c.utf8Size)).map fun (left, right) => (c :: left, right)
      else none

def isBoundary (cs : List Char) (offset : Nat) : Bool :=
  (cutAt? cs offset).isSome

/-- For each byte of a text, and for its end, whether the offset is a character boundary. -/
def boundaryMarks : List Char → List Bool
  | [] => [true]
  | c :: cs => true :: (List.replicate (c.utf8Size - 1) false ++ boundaryMarks cs)

theorem getD_boundaryMarks (cs : List Char) (offset : Nat) :
    (boundaryMarks cs)[offset]?.getD false = isBoundary cs offset := by
  induction cs generalizing offset with
  | nil => cases offset <;> simp [boundaryMarks, isBoundary, cutAt?]
  | cons c cs ih =>
    cases offset with
    | zero => simp [boundaryMarks, isBoundary, cutAt?]
    | succ n =>
      have hpos := c.utf8Size_pos
      simp only [boundaryMarks, isBoundary, cutAt?, List.getElem?_cons_succ]
      by_cases h : c.utf8Size ≤ n + 1
      · rw [List.getElem?_append_right (by simp; omega)]
        have hn : n - (c.utf8Size - 1) = n + 1 - c.utf8Size := by omega
        simp [h, ih, hn, isBoundary]
      · rw [List.getElem?_append_left (by simp; omega)]
        have hn : n < c.utf8Size - 1 := by omega
        simp [h, hn]

/-- The part of a text between two byte offsets, where both are character boundaries. -/
def slice? (cs : List Char) (start stop : Nat) : Option (List Char) := do
  guard (start ≤ stop)
  let (_, right) ← cutAt? cs start
  let (middle, _) ← cutAt? right (stop - start)
  return middle

theorem cutAt?_append {cs left right : List Char} {n : Nat} (h : cutAt? cs n = some (left, right)) :
    left ++ right = cs ∧ byteSize left = n := by
  induction cs generalizing left right n with
  | nil =>
    cases n with
    | zero =>
      cases h
      exact ⟨rfl, rfl⟩
    | succ n => simp [cutAt?] at h
  | cons c cs ih =>
    cases n with
    | zero =>
      cases h
      exact ⟨rfl, rfl⟩
    | succ n =>
      simp only [cutAt?] at h
      split at h
      · obtain ⟨⟨l, r⟩, hcut, heq⟩ := Option.map_eq_some_iff.1 h
        obtain ⟨happ, hsize⟩ := ih hcut
        cases heq
        constructor
        · simp [happ]
        · simp only [byteSize, hsize]; omega
      · cases h

theorem cutAt?_byteSize (left right : List Char) :
    cutAt? (left ++ right) (byteSize left) = some (left, right) := by
  induction left with
  | nil => cases right <;> rfl
  | cons c left ih =>
    have hpos := c.utf8Size_pos
    obtain ⟨n, hn⟩ : ∃ n, byteSize (c :: left) = n + 1 := ⟨byteSize (c :: left) - 1, by simp; omega⟩
    have hrest : n + 1 - c.utf8Size = byteSize left := by simp only [byteSize_cons] at hn; omega
    have hle : c.utf8Size ≤ n + 1 := by simp only [byteSize_cons] at hn; omega
    simp [hn, cutAt?, hle, hrest, ih]

theorem slice?_byteSize (left middle right : List Char) :
    slice? (left ++ middle ++ right) (byteSize left) (byteSize left + byteSize middle) =
      some middle := by
  have hordered :
      (guard (byteSize left ≤ byteSize left + byteSize middle) : Option Unit) = some () :=
    if_pos (Nat.le_add_right _ _)
  rw [List.append_assoc, slice?, hordered]
  simp [cutAt?_byteSize]

end SourceReducer
