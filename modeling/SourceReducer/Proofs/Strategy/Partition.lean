import Mathlib.Algebra.Order.Floor.Div
import SourceReducer.Proofs.Strategy.Levels

/-! Chunks are a partition. A list is cut at the multiples of one size, the least for which the
chunks are not too many. A chunk is left out of the list by leaving out the elements between two
such cuts. -/
namespace SourceReducer

variable {α : Type}

/-! Slices of one size. -/

section Slices

variable {size : Nat} (hsize : 1 ≤ size)
include hsize

theorem flatten_slices {fuel : Nat} {xs : List α} (hfuel : xs.length ≤ fuel) :
    (slices size fuel xs).flatten = xs := by
  induction fuel generalizing xs with
  | zero =>
    obtain rfl : xs = [] := List.eq_nil_of_length_eq_zero (by omega)
    rfl
  | succ fuel ih =>
    cases xs with
    | nil => rfl
    | cons x xs =>
      rw [slices, List.flatten_cons, ih, List.take_append_drop]
      rw [List.length_drop]
      omega

/-- Slice number `i` starts at position `i * size`. -/
theorem getElem?_slices {fuel : Nat} {xs : List α} (hfuel : xs.length ≤ fuel) (i : Nat) :
    (slices size fuel xs)[i]? =
      if i * size < xs.length then some ((xs.drop (i * size)).take size) else none := by
  induction fuel generalizing xs i with
  | zero =>
    obtain rfl : xs = [] := List.eq_nil_of_length_eq_zero (by omega)
    rfl
  | succ fuel ih =>
    cases xs with
    | nil => rfl
    | cons x xs =>
      cases i with
      | zero => simp [slices]
      | succ i =>
        have hrest : ((x :: xs).drop size).length ≤ fuel := by
          rw [List.length_drop]
          omega
        rw [slices, List.getElem?_cons_succ, ih hrest, List.drop_drop, List.length_drop,
          Nat.succ_mul, Nat.add_comm size]
        apply if_congr
        · omega
        · rfl
        · rfl

/-- What is left without slice number `i`. -/
theorem complement_slices {fuel : Nat} {xs : List α} (hfuel : xs.length ≤ fuel) (i : Nat) :
    complement (slices size fuel xs) i = xs.take (i * size) ++ xs.drop ((i + 1) * size) := by
  induction fuel generalizing xs i with
  | zero =>
    obtain rfl : xs = [] := List.eq_nil_of_length_eq_zero (by omega)
    simp [slices, complement]
  | succ fuel ih =>
    cases xs with
    | nil => simp [slices, complement]
    | cons x xs =>
      have hrest : ((x :: xs).drop size).length ≤ fuel := by
        rw [List.length_drop]
        omega
      unfold slices
      cases i with
      | zero =>
        show (slices size fuel ((x :: xs).drop size)).flatten = _
        rw [flatten_slices hsize hrest]
        simp
      | succ i =>
        show (x :: xs).take size ++ complement (slices size fuel ((x :: xs).drop size)) i = _
        rw [ih hrest, ← List.append_assoc, ← List.take_add, List.drop_drop]
        simp only [Nat.succ_mul, Nat.add_comm, Nat.add_left_comm]

end Slices

/-! The size of chunks. -/

theorem chunks_eq_slices {n : Nat} (hn : 1 ≤ n) (xs : List α) :
    chunks n xs = slices (xs.length ⌈/⌉ n) xs.length xs := by
  rw [chunks, if_neg (by omega), Nat.ceilDiv_eq_add_pred_div]

/-- Chunks of a list that has elements are not of size 0. -/
theorem one_le_ceilDiv {n : Nat} (hn : 1 ≤ n) {xs : List α} (hxs : xs ≠ []) :
    1 ≤ xs.length ⌈/⌉ n := by
  have hpos := List.length_pos_iff.2 hxs
  rw [Nat.ceilDiv_eq_add_pred_div, Nat.one_le_div_iff (by omega)]
  omega

/-- As many chunks as may be made have room for all elements. -/
theorem length_le_mul_ceilDiv {n : Nat} (hn : 1 ≤ n) (xs : List α) :
    xs.length ≤ n * (xs.length ⌈/⌉ n) := by
  simpa using le_smul_ceilDiv (b := xs.length) (show 0 < n by omega)

/-! Chunks. -/

section Chunks

variable {n : Nat} (hn : 1 ≤ n) (xs : List α)
include hn

theorem flatten_chunks : (chunks n xs).flatten = xs := by
  by_cases hxs : xs = []
  · simp [hxs, chunks, slices]
  · rw [chunks_eq_slices hn]
    exact flatten_slices (one_le_ceilDiv hn hxs) (Nat.le_refl _)

theorem getElem?_chunks (i : Nat) :
    (chunks n xs)[i]? =
      if i * (xs.length ⌈/⌉ n) < xs.length then
        some ((xs.drop (i * (xs.length ⌈/⌉ n))).take (xs.length ⌈/⌉ n))
      else none := by
  by_cases hxs : xs = []
  · simp [hxs, chunks, slices]
  · rw [chunks_eq_slices hn]
    exact getElem?_slices (one_le_ceilDiv hn hxs) (Nat.le_refl _) i

/-- There is a chunk for every cut before the end. -/
theorem lt_length_chunks_iff {i : Nat} :
    i < (chunks n xs).length ↔ i * (xs.length ⌈/⌉ n) < xs.length := by
  have hsome : i < (chunks n xs).length ↔ (chunks n xs)[i]?.isSome = true := by simp
  rw [hsome, getElem?_chunks hn]
  split <;> simp_all

theorem length_chunks_le : (chunks n xs).length ≤ n := by
  apply Nat.le_of_not_lt
  intro hmore
  have hcut := (lt_length_chunks_iff hn xs).1 hmore
  have hroom := length_le_mul_ceilDiv hn xs
  omega

theorem eq_slice_of_getElem?_chunks {i : Nat} {part : List α} (h : (chunks n xs)[i]? = some part) :
    part = (xs.drop (i * (xs.length ⌈/⌉ n))).take (xs.length ⌈/⌉ n) := by
  rw [getElem?_chunks hn] at h
  split at h
  · exact (Option.some.inj h).symm
  · cases h

/-- A chunk that another one follows is full. -/
theorem length_of_getElem?_chunks {i : Nat} {part : List α} (h : (chunks n xs)[i]? = some part)
    (hnext : i + 1 < (chunks n xs).length) : part.length = xs.length ⌈/⌉ n := by
  have hcut := (lt_length_chunks_iff hn xs).1 hnext
  rw [Nat.succ_mul] at hcut
  rw [eq_slice_of_getElem?_chunks hn xs h, List.length_take, List.length_drop]
  omega

theorem complement_chunks (i : Nat) :
    complement (chunks n xs) i =
      xs.take (i * (xs.length ⌈/⌉ n)) ++ xs.drop ((i + 1) * (xs.length ⌈/⌉ n)) := by
  by_cases hxs : xs = []
  · simp [hxs, chunks, slices, complement]
  · rw [chunks_eq_slices hn]
    exact complement_slices (one_le_ceilDiv hn hxs) (Nat.le_refl _) i

end Chunks

/-- Chunks of a list are slices of it that have elements, follow each other and make up the list.
There are `n` of them at most, all of the least size that makes this possible but for the last,
which may be shorter, and they are single elements if the list has no more than `n`. All elements
but those of one chunk are the list without that slice. -/
theorem chunks_partition (n : Nat) (hn : 1 ≤ n) (xs : List α) :
    let size := xs.length ⌈/⌉ n
    let parts := chunks n xs
    (∀ part ∈ parts, part ≠ []) ∧
      parts.flatten = xs ∧
      parts.length ≤ n ∧
      (∀ i part, parts[i]? = some part →
        part = (xs.drop (i * size)).take size ∧ (i + 1 < parts.length → part.length = size)) ∧
      (xs.length ≤ n → parts = xs.map fun x => [x]) ∧
      ∀ i, complement parts i = xs.take (i * size) ++ xs.drop ((i + 1) * size) := by
  intro size parts
  refine ⟨fun part hpart => ne_nil_of_mem_chunks hpart, flatten_chunks hn xs,
    length_chunks_le hn xs, ?_, chunks_of_length_le hn, complement_chunks hn xs⟩
  intro i part hpart
  exact ⟨eq_slice_of_getElem?_chunks hn xs hpart, length_of_getElem?_chunks hn xs hpart⟩

/-- Five elements in four chunks are three slices, as two elements are the least size. -/
theorem chunks_partition_five :
    chunks 4 ["a", "b", "c", "d", "e"] = [["a", "b"], ["c", "d"], ["e"]] ∧
      (chunks 4 ["a", "b", "c", "d", "e"]).flatten = ["a", "b", "c", "d", "e"] ∧
      (chunks 4 ["a", "b", "c", "d", "e"]).length ≤ 4 ∧
      complement (chunks 4 ["a", "b", "c", "d", "e"]) 1 = ["a", "b", "e"] := by
  obtain ⟨-, hflatten, hlength, -, -, hcomplement⟩ :=
    chunks_partition 4 (by decide) ["a", "b", "c", "d", "e"]
  exact ⟨by decide, hflatten, hlength, hcomplement 1⟩

end SourceReducer
