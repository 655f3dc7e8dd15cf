/-! Splitting a list into chunks of nearly the same size. -/
namespace SourceReducer

/-- Slices of `size` elements, of which there are `fuel` at most. -/
def slices {α : Type} (size : Nat) : Nat → List α → List (List α)
  | 0, _ => []
  | _ + 1, [] => []
  | fuel + 1, x :: xs => (x :: xs).take size :: slices size fuel ((x :: xs).drop size)

/-- At most `n` chunks, all of one size but the last, which may be shorter. -/
def chunks {α : Type} (n : Nat) (xs : List α) : List (List α) :=
  if n = 0 then [] else slices ((xs.length + n - 1) / n) xs.length xs

/-- All elements but those of one chunk. -/
def complement {α : Type} (parts : List (List α)) (i : Nat) : List α :=
  (parts.eraseIdx i).flatten

end SourceReducer
