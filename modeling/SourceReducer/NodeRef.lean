/-! References to the nodes of a forest, and ordered sets of them. -/
namespace SourceReducer

/-- A node of one unit in one generation of the forest. -/
structure NodeRef where
  generation : Nat
  unit : Nat
  index : Nat
  deriving DecidableEq

namespace NodeRef

/-- References are ordered by generation, then unit, then index. -/
protected def lt (a b : NodeRef) : Prop :=
  a.generation < b.generation ∨
    a.generation = b.generation ∧ (a.unit < b.unit ∨ a.unit = b.unit ∧ a.index < b.index)

instance : LT NodeRef := ⟨NodeRef.lt⟩

instance (a b : NodeRef) : Decidable (a < b) :=
  inferInstanceAs (Decidable (a.generation < b.generation ∨
    a.generation = b.generation ∧ (a.unit < b.unit ∨ a.unit = b.unit ∧ a.index < b.index)))

theorem lt_iff {a b : NodeRef} : a < b ↔ a.generation < b.generation ∨
    a.generation = b.generation ∧ (a.unit < b.unit ∨ a.unit = b.unit ∧ a.index < b.index) :=
  Iff.rfl

theorem lt_trans {a b c : NodeRef} (hab : a < b) (hbc : b < c) : a < c := by
  rw [lt_iff] at *
  omega

theorem lt_irrefl {a : NodeRef} : ¬a < a := by
  rw [lt_iff]
  omega

theorem lt_of_not_lt_of_ne {a b : NodeRef} (h : ¬a < b) (hne : a ≠ b) : b < a := by
  rw [lt_iff] at *
  have : ¬(a.generation = b.generation ∧ a.unit = b.unit ∧ a.index = b.index) := by
    rintro ⟨hg, hu, hi⟩
    exact hne (by cases a; cases b; simp_all)
  omega

end NodeRef

/-- The name under which a generation of the forest is shown. -/
def showGeneration (g : Nat) : String :=
  s!"gen{g}"

/-- The name under which a unit is shown. -/
def showUnit (u : Nat) : String :=
  s!"unit{u}"

def NodeRef.show (r : NodeRef) : String :=
  s!"{showGeneration r.generation}/{showUnit r.unit}#{r.index}"

/-- Puts a reference into its place in a decreasing list, unless it is there. -/
def insertRef (r : NodeRef) : List NodeRef → List NodeRef
  | [] => [r]
  | x :: xs =>
      if r = x then x :: xs
      else if x < r then r :: x :: xs
      else x :: insertRef r xs

/-- Looks a reference up in a decreasing list, up to the first smaller one. -/
def hasRef (r : NodeRef) : List NodeRef → Bool
  | [] => false
  | x :: xs => if r = x then true else if x < r then false else hasRef r xs

@[simp] theorem mem_insertRef {r x : NodeRef} {xs : List NodeRef} :
    x ∈ insertRef r xs ↔ x = r ∨ x ∈ xs := by
  induction xs with
  | nil => simp [insertRef]
  | cons y ys ih =>
    by_cases h : r = y
    · subst h; simp [insertRef]
    · by_cases hlt : y < r
      · simp [insertRef, h, hlt]
      · simp only [insertRef, h, hlt, if_false, List.mem_cons, ih]
        constructor <;> rintro (h | h | h) <;> simp [h]

theorem pairwise_insertRef {r : NodeRef} {xs : List NodeRef} (h : xs.Pairwise (· > ·)) :
    (insertRef r xs).Pairwise (· > ·) := by
  induction xs with
  | nil => simp [insertRef]
  | cons y ys ih =>
    have hys := List.pairwise_cons.1 h
    by_cases heq : r = y
    · subst heq; simpa [insertRef] using h
    · by_cases hlt : y < r
      · simp only [insertRef, heq, hlt, if_false, if_true]
        refine List.pairwise_cons.2 ⟨?_, h⟩
        intro z hz
        rcases List.mem_cons.1 hz with rfl | hz
        · exact hlt
        · exact NodeRef.lt_trans (hys.1 z hz) hlt
      · simp only [insertRef, heq, hlt, if_false]
        refine List.pairwise_cons.2 ⟨?_, ih hys.2⟩
        intro z hz
        rcases mem_insertRef.1 hz with rfl | hz
        · exact NodeRef.lt_of_not_lt_of_ne hlt (Ne.symm heq)
        · exact hys.1 z hz

theorem hasRef_iff {r : NodeRef} {xs : List NodeRef} (h : xs.Pairwise (· > ·)) :
    hasRef r xs = true ↔ r ∈ xs := by
  induction xs with
  | nil => simp [hasRef]
  | cons y ys ih =>
    have hys := List.pairwise_cons.1 h
    by_cases heq : r = y
    · simp [hasRef, heq]
    · by_cases hlt : y < r
      · have hnot : r ∉ ys := fun hr => NodeRef.lt_irrefl (NodeRef.lt_trans hlt (hys.1 r hr))
        simp [hasRef, heq, hlt, hnot]
      · simp [hasRef, heq, hlt, ih hys.2]

/-- A set of references, kept as a decreasing list: sets are mostly filled in increasing order, and
then the place of a new reference is the first. -/
structure RefSet where
  descending : List NodeRef
  decreasing : descending.Pairwise (· > ·)

namespace RefSet

def empty : RefSet :=
  ⟨[], List.Pairwise.nil⟩

def insert (s : RefSet) (r : NodeRef) : RefSet :=
  ⟨insertRef r s.descending, pairwise_insertRef s.decreasing⟩

def ofList (rs : List NodeRef) : RefSet :=
  rs.foldl insert empty

/-- The references in increasing order. -/
def toList (s : RefSet) : List NodeRef :=
  s.descending.reverse

instance : Membership NodeRef RefSet :=
  ⟨fun s r => r ∈ s.descending⟩

instance (r : NodeRef) (s : RefSet) : Decidable (r ∈ s) :=
  decidable_of_iff _ (hasRef_iff s.decreasing)

def size (s : RefSet) : Nat :=
  s.descending.length

@[simp] theorem mem_toList {s : RefSet} {r : NodeRef} : r ∈ s.toList ↔ r ∈ s :=
  List.mem_reverse

@[simp] theorem mem_insert {s : RefSet} {r x : NodeRef} : x ∈ s.insert r ↔ x = r ∨ x ∈ s :=
  mem_insertRef

end RefSet

end SourceReducer
