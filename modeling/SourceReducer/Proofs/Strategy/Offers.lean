import SourceReducer.Proofs.Strategy.Closure
import SourceReducer.Strategy.Ddmin
import SourceReducer.Strategy.Greedy

/-! What strategies offer. A pass of either strategy offers sets of nodes until one of them is not
refused. Each set is made of nodes below roots and of what depends on them, and where no node
depends on another every node below a root is offered by itself. -/
namespace SourceReducer

variable {τ : Type}

/-- Whether a dialogue offers sets of nodes in turn, goes on to the next one when one is refused,
ends with what came of it when one is not, and is exhausted at the end. -/
inductive Dialogue.Offers : Dialogue τ → List RefSet → Prop
  | done (state : τ) : Offers (.done (.ok (.failed .exhausted)) state) []
  | ask (nodes : RefSet) (rest : List RefSet) (next : Answer → Dialogue τ)
      (herror : ∀ answer failure, answer.outcome = .error failure →
        ∃ state, next answer = .done (.error failure) state)
      (hrefused : ∀ answer reason, answer.outcome = .ok (.failed reason) →
        Offers (next answer) rest)
      (haccepted : ∀ answer control, answer.outcome = .ok control →
        (∀ reason, control ≠ .failed reason) → ∃ state, next answer = .done (.ok control) state) :
      Offers (.ask (.remove nodes) next) (nodes :: rest)

/-- Whether a reference names a node below a root. -/
def Forest.isInner (f : Forest) (r : NodeRef) : Bool :=
  (f.parent? r).isSome

/-- Whether each of some sets is made of nodes below roots, with all that depend on them. -/
def Forest.Grounded (f : Forest) (language : Language) (sets : List RefSet) : Prop :=
  ∀ nodes ∈ sets, ∃ given : List NodeRef, nodes = withDependents language f given ∧
    ∀ r ∈ given, f.isInner r = true

/-- Whether each of some sets that holds anything holds a node below a root. -/
def Forest.Reached (f : Forest) (sets : List RefSet) : Prop :=
  ∀ nodes ∈ sets, ∀ x ∈ nodes, ∃ r ∈ nodes, f.isInner r = true

/-- Whether sets hold nodes below roots only, and each such node makes up one of them. -/
structure Forest.Covered (f : Forest) (sets : List RefSet) : Prop where
  inner : ∀ s ∈ sets, ∀ r ∈ s, f.isInner r = true
  single : ∀ r, f.isInner r = true → ∃ s ∈ sets, ∀ x, x ∈ s ↔ x = r

theorem Forest.Covered.reached {f : Forest} {sets : List RefSet} (h : f.Covered sets) :
    f.Reached sets :=
  fun nodes hnodes x hx => ⟨x, hx, h.inner nodes hnodes x hx⟩

/-! Closing under dependents. -/

theorem head_mem_withDependents (language : Language) (f : Forest) (r : NodeRef)
    (rest : List NodeRef) : r ∈ withDependents language f (r :: rest) :=
  mem_withDependents_iff.2 (.of_mem List.mem_cons_self)

/-- A set that is not empty has one of the nodes that it was made from. -/
theorem exists_mem_withDependents {language : Language} {f : Forest} {nodes : List NodeRef}
    {x : NodeRef} (hx : x ∈ withDependents language f nodes) :
    ∃ r ∈ nodes, r ∈ withDependents language f nodes := by
  obtain ⟨r, hr, -⟩ := mem_withDependents_iff.1 hx
  exact ⟨r, hr, mem_withDependents_iff.2 (.of_mem hr)⟩

theorem Forest.Grounded.reached {f : Forest} {language : Language} {sets : List RefSet}
    (h : f.Grounded language sets) : f.Reached sets := by
  intro nodes hnodes x hx
  obtain ⟨given, rfl, hgiven⟩ := h nodes hnodes
  obtain ⟨r, hr, hmem⟩ := exists_mem_withDependents hx
  exact ⟨r, hmem, hgiven r hr⟩

/-- Where no node depends on another a set holds the nodes that it was made from. -/
theorem mem_withDependents {language : Language} (hdep : ∀ t i, language.dependents t i = [])
    {f : Forest} {nodes : List NodeRef} {x : NodeRef} :
    x ∈ withDependents language f nodes ↔ x ∈ nodes := by
  rw [mem_withDependents_iff]
  refine ⟨?_, .of_mem⟩
  rintro ⟨r, hr, hpath⟩
  rcases Relation.ReflTransGen.cases_tail hpath with rfl | ⟨y, -, hd⟩
  · exact hr
  · obtain ⟨tree, -, j, hj, -⟩ := mem_dependentsOf.1 hd
    simp [hdep] at hj

theorem Forest.Grounded.inner_of_independent {f : Forest} {language : Language} {sets : List RefSet}
    (h : f.Grounded language sets) (hdep : ∀ t i, language.dependents t i = []) :
    ∀ s ∈ sets, ∀ r ∈ s, f.isInner r = true := by
  intro s hs r hr
  obtain ⟨given, rfl, hgiven⟩ := h s hs
  exact hgiven r ((mem_withDependents hdep).1 hr)

/-! Nodes of a forest. -/

theorem Forest.mem_refs {f : Forest} {r : NodeRef} : r ∈ f.refs ↔ f.contains r = true := by
  unfold refs contains resolve?
  simp only [List.mem_flatMap, Prod.exists, List.mem_map]
  constructor
  · rintro ⟨t, unit, hmem, i, hi, rfl⟩
    have htree : f.trees[unit]? = some t := List.mem_zipIdx_iff_getElem?.1 hmem
    have hlt : i < t.nodes.size := by simpa [Tree.indices, Tree.size] using hi
    simp [refTo, tree?, htree, Tree.node?, hlt]
  · intro h
    split at h
    · next hgen =>
      cases htree : f.tree? r.unit with
      | none => simp [htree] at h
      | some t =>
        have hlt : r.index < t.nodes.size := by simpa [htree, Tree.node?] using h
        refine ⟨t, r.unit, List.mem_zipIdx_iff_getElem?.2 htree, r.index, ?_, ?_⟩
        · simpa [Tree.indices, Tree.size] using hlt
        · simp [refTo, ← hgen]
    · simp at h

theorem Forest.contains_of_isInner {f : Forest} {r : NodeRef} (h : f.isInner r = true) :
    f.contains r = true := by
  unfold isInner parent? at h
  unfold contains
  cases hres : f.resolve? r with
  | none => simp [hres] at h
  | some node => rfl

/-- A node below a root is one whose depth is not 0. -/
theorem Forest.isInner_iff_depth {f : Forest} {r : NodeRef} :
    f.isInner r = true ↔ ∃ depth, f.depth? r = some (depth + 1) := by
  unfold isInner parent? depth? resolve?
  split
  · next hgen =>
    cases htree : f.tree? r.unit with
    | none => simp
    | some t =>
      cases hnode : t.node? r.index with
      | none => simp [hnode]
      | some node =>
        obtain ⟨n, hn⟩ : ∃ n, t.size = n + 1 := by
          have hlt : r.index < t.size := by
            have := hnode
            unfold Tree.node? at this
            obtain ⟨hlt, -⟩ := Array.getElem?_eq_some_iff.1 this
            exact hlt
          exact ⟨t.size - 1, by omega⟩
        have hparent : t.parent? r.index = node.parent := by simp [Tree.parent?, hnode]
        cases hp : node.parent with
        | none => simp [hnode, hp, Tree.depth, hn, Tree.ancestorCount, hparent]
        | some p => simp [hnode, hp, Tree.depth, hn, Tree.ancestorCount, hparent]
  · simp

/-! The greedy strategy. -/

namespace Greedy

theorem offers_offer (sets : List RefSet) (state : State) : (offer sets state).Offers sets := by
  induction sets generalizing state with
  | nil => exact .done state
  | cons nodes rest ih =>
    refine .ask nodes rest _ ?_ ?_ ?_
    · intro answer failure houtcome
      simp only [houtcome]
      exact ⟨_, rfl⟩
    · intro answer reason houtcome
      simp only [houtcome]
      exact ih _
    · intro answer control houtcome hnot
      simp only [houtcome]
      cases control with
      | proceed => exact ⟨_, rfl⟩
      | stop => exact ⟨_, rfl⟩
      | failed reason => exact absurd rfl (hnot reason)

theorem grounded_candidates (language : Language) (f : Forest) :
    f.Grounded language (candidates language f) := by
  intro nodes hnodes
  obtain ⟨r, hr, rfl⟩ := List.mem_map.1 hnodes
  refine ⟨[r], rfl, fun x hx => ?_⟩
  obtain rfl := List.mem_singleton.1 hx
  exact (List.mem_filter.1 hr).2

/-- Every node below a root is offered, with what depends on it and nothing else. -/
theorem single_mem_candidates (language : Language) {f : Forest} {r : NodeRef}
    (hr : f.isInner r = true) : withDependents language f [r] ∈ candidates language f := by
  refine List.mem_map.2 ⟨r, List.mem_filter.2 ⟨?_, hr⟩, rfl⟩
  exact Forest.mem_refs.2 (Forest.contains_of_isInner hr)

theorem covered_candidates {language : Language} (hdep : ∀ t i, language.dependents t i = [])
    (f : Forest) : f.Covered (candidates language f) := by
  constructor
  · exact (grounded_candidates language f).inner_of_independent hdep
  · intro r hr
    refine ⟨_, single_mem_candidates language hr, fun x => ?_⟩
    rw [mem_withDependents hdep, List.mem_singleton]

end Greedy

/-! Chunks. -/

section Chunks

variable {α : Type}

theorem mem_of_mem_slices {size fuel : Nat} {xs part : List α} (h : part ∈ slices size fuel xs)
    {x : α} (hx : x ∈ part) : x ∈ xs := by
  induction fuel generalizing xs with
  | zero => simp [slices] at h
  | succ fuel ih =>
    cases xs with
    | nil => simp [slices] at h
    | cons y ys =>
      rw [slices, List.mem_cons] at h
      rcases h with rfl | h
      · exact List.mem_of_mem_take hx
      · exact List.mem_of_mem_drop (ih h)

theorem mem_of_mem_chunks {n : Nat} {xs part : List α} (h : part ∈ chunks n xs) {x : α}
    (hx : x ∈ part) : x ∈ xs := by
  unfold chunks at h
  split at h
  · simp at h
  · exact mem_of_mem_slices h hx

theorem mem_of_mem_complement {parts : List (List α)} {i : Nat} {x : α}
    (h : x ∈ complement parts i) :
    ∃ part ∈ parts, x ∈ part := by
  obtain ⟨part, hpart, hx⟩ := List.mem_flatten.1 h
  exact ⟨part, List.mem_of_mem_eraseIdx hpart, hx⟩

theorem slices_one (xs : List α) : slices 1 xs.length xs = xs.map fun x => [x] := by
  induction xs with
  | nil => rfl
  | cons x xs ih => simp [slices, ih]

/-- At least as many chunks as elements are single elements. -/
theorem chunks_of_length_le {n : Nat} (hn : 1 ≤ n) {xs : List α} (h : xs.length ≤ n) :
    chunks n xs = xs.map fun x => [x] := by
  rw [chunks, if_neg (by omega)]
  cases xs with
  | nil => rfl
  | cons x xs =>
    have hsize : ((x :: xs).length + n - 1) / n = 1 := by
      rw [Nat.div_eq_iff hn]
      rw [List.length_cons] at h ⊢
      omega
    rw [hsize, slices_one]

end Chunks

namespace Ddmin

/-! The numbers of chunks. -/

theorem mem_granularities {size fuel n : Nat} (hn : 1 ≤ n) (hle : n ≤ size)
    (hfuel : size ≤ n + fuel) :
    size ∈ granularities size fuel n := by
  induction fuel generalizing n with
  | zero =>
    obtain rfl : n = size := by omega
    simp [granularities]
  | succ fuel ih =>
    rw [granularities]
    split
    · next h =>
      obtain rfl : n = size := by omega
      simp
    · refine List.mem_cons_of_mem _ (ih ?_ ?_ ?_) <;> omega

theorem mem_schedule {size : Nat} (h : 1 ≤ size) (n : Nat) : size ∈ schedule size n :=
  mem_granularities (by omega) (by omega) (by omega)

/-! The steps of a pass. -/

/-- The sets that a step offers. -/
def Step.offered (language : Language) (f : Forest) : Step → List RefSet
  | .offerChunk _ _ nodes => [withDependents language f nodes]
  | .offerComplement _ _ parts i => [withDependents language f (complement parts i)]
  | .enter _ | .refine _ _ => []

/-- Offering a set, and going on if it is refused. -/
theorem offers_ask (depth n : Nat) (nodes : RefSet) {rest : List RefSet} (tried : State)
    {onward : Dialogue State} (honward : onward.Offers rest) :
    Dialogue.Offers (.ask (.remove nodes) fun answer =>
      match answer.outcome with
      | .error failure => .done (.error failure) tried
      | .ok (.failed _) => onward
      | .ok control => conclude depth n control tried) (nodes :: rest) := by
  refine .ask nodes rest _ ?_ ?_ ?_
  · intro answer failure houtcome
    simp only [houtcome]
    exact ⟨_, rfl⟩
  · intro answer reason houtcome
    simp only [houtcome]
    exact honward
  · intro answer control houtcome hnot
    simp only [houtcome]
    cases control with
    | proceed => exact ⟨_, rfl⟩
    | stop => exact ⟨_, rfl⟩
    | failed reason => exact absurd rfl (hnot reason)

theorem offers_play (language : Language) (f : Forest) (steps : List Step) (state : State) :
    (play language f steps state).Offers (steps.flatMap (Step.offered language f)) := by
  induction steps generalizing state with
  | nil => exact .done state
  | cons step rest ih =>
    cases step with
    | enter n => exact ih _
    | refine depth n => exact ih _
    | offerChunk depth n nodes => exact offers_ask depth n _ _ (ih _)
    | offerComplement depth n parts i => exact offers_ask depth n _ _ (ih _)

theorem mem_rounds {depth n : Nat} {nodes : List NodeRef} {ns : List Nat} {step : Step}
    (hn : n ∈ ns) (h : step ∈ round depth nodes n) : step ∈ rounds depth nodes ns := by
  fun_induction rounds depth nodes ns with
  | case1 => simp at hn
  | case2 m =>
    obtain rfl := List.mem_singleton.1 hn
    exact h
  | case3 m m' rest ih =>
    rcases List.mem_cons.1 hn with rfl | hn
    · exact List.mem_append_left _ h
    · exact List.mem_append_right _ (List.mem_cons_of_mem _ (ih hn))

/-- A step of several rounds belongs to one of them or leads to the next one. -/
theorem mem_rounds_cases {depth : Nat} {nodes : List NodeRef} {ns : List Nat} {step : Step}
    (h : step ∈ rounds depth nodes ns) :
    (∃ n ∈ ns, step ∈ round depth nodes n) ∨ ∃ n, step = .refine depth n := by
  fun_induction rounds depth nodes ns with
  | case1 => simp at h
  | case2 n => exact .inl ⟨n, by simp, h⟩
  | case3 n m rest ih =>
    rcases List.mem_append.1 h with h | h
    · exact .inl ⟨n, by simp, h⟩
    · rcases List.mem_cons.1 h with rfl | h
      · exact .inr ⟨m, rfl⟩
      · rcases ih h with ⟨k, hk, hstep⟩ | hrefine
        · exact .inl ⟨k, List.mem_cons_of_mem _ hk, hstep⟩
        · exact .inr hrefine

/-- Whether a step offers given nodes only. -/
def Step.Within (nodes : List NodeRef) : Step → Prop
  | .offerChunk _ _ part => ∀ r ∈ part, r ∈ nodes
  | .offerComplement _ _ parts i => ∀ r ∈ complement parts i, r ∈ nodes
  | .enter _ | .refine _ _ => True

theorem within_of_mem_round {depth n : Nat} {nodes : List NodeRef} {step : Step}
    (h : step ∈ round depth nodes n) : step.Within nodes := by
  unfold round at h
  rcases List.mem_append.1 h with h | h
  · rcases List.mem_cons.1 h with rfl | h
    · trivial
    · obtain ⟨part, hpart, rfl⟩ := List.mem_map.1 h
      exact fun r hr => mem_of_mem_chunks hpart hr
  · split at h
    · obtain ⟨i, -, rfl⟩ := List.mem_map.1 h
      intro r hr
      obtain ⟨part, hpart, hmem⟩ := mem_of_mem_complement hr
      exact mem_of_mem_chunks hpart hmem
    · simp at h

theorem within_of_mem_rounds {depth : Nat} {nodes : List NodeRef} {ns : List Nat} {step : Step}
    (h : step ∈ rounds depth nodes ns) : step.Within nodes := by
  rcases mem_rounds_cases h with ⟨n, -, hstep⟩ | ⟨n, rfl⟩
  · exact within_of_mem_round hstep
  · trivial

/-! The levels of a forest. -/

theorem mem_level {f : Forest} {depth : Nat} {r : NodeRef} :
    r ∈ level (placed f) depth ↔ r ∈ f.refs ∧ f.depth? r = some depth := by
  simp [level, placed]

theorem le_foldl_max {x : Nat} {xs : List Nat} (h : x ∈ xs) (m : Nat) : x ≤ xs.foldl max m := by
  have hstart (xs : List Nat) (m : Nat) : m ≤ xs.foldl max m := by
    induction xs generalizing m with
    | nil => exact Nat.le_refl m
    | cons y ys ih => exact Nat.le_trans (Nat.le_max_left m y) (ih (max m y))
  induction xs generalizing m with
  | nil => simp at h
  | cons y ys ih =>
    rcases List.mem_cons.1 h with rfl | h
    · exact Nat.le_trans (Nat.le_max_right m x) (hstart ys (max m x))
    · exact ih h (max m y)

theorem mem_depths {f : Forest} {depth : Nat} {r : NodeRef} (hr : r ∈ f.refs)
    (hdepth : f.depth? r = some (depth + 1)) : depth + 1 ∈ depths (placed f) := by
  have hmem : depth + 1 ∈ (placed f).filterMap Prod.snd := by
    simp only [placed, List.filterMap_map, List.mem_filterMap]
    exact ⟨r, hr, hdepth⟩
  have hle := le_foldl_max hmem 0
  have hlevel : level (placed f) (depth + 1) ≠ [] := List.ne_nil_of_mem (mem_level.2 ⟨hr, hdepth⟩)
  simp only [depths, List.mem_filter, List.mem_map, List.mem_range]
  exact ⟨⟨depth, by omega, rfl⟩, by simpa using hlevel⟩

theorem grounded_plan (language : Language) (f : Forest) (state : State) :
    f.Grounded language ((plan f state).flatMap (Step.offered language f)) := by
  intro nodes hnodes
  obtain ⟨step, hstep, hnodes⟩ := List.mem_flatMap.1 hnodes
  obtain ⟨depth, hdepth, hstep⟩ := List.mem_flatMap.1 hstep
  have hwithin := within_of_mem_rounds hstep
  have hlevel : ∀ r ∈ level (placed f) depth, f.isInner r = true := by
    intro r hr
    simp only [depths, List.mem_filter, List.mem_map] at hdepth
    obtain ⟨⟨d, -, rfl⟩, -⟩ := hdepth
    exact Forest.isInner_iff_depth.2 ⟨d, (mem_level.1 hr).2⟩
  cases step with
  | enter n => simp [Step.offered] at hnodes
  | refine depth n => simp [Step.offered] at hnodes
  | offerChunk depth' n part =>
    exact ⟨part, List.mem_singleton.1 hnodes, fun r hr => hlevel r (hwithin r hr)⟩
  | offerComplement depth' n parts i =>
    exact ⟨complement parts i, List.mem_singleton.1 hnodes, fun r hr => hlevel r (hwithin r hr)⟩

/-- Every node below a root is a chunk of its own in the last round of its level. -/
theorem chunk_mem_plan {f : Forest} {r : NodeRef} {depth : Nat}
    (hdepth : f.depth? r = some (depth + 1)) (state : State) :
    .offerChunk (depth + 1) (level (placed f) (depth + 1)).length [r] ∈ plan f state := by
  have hinner : f.isInner r = true := Forest.isInner_iff_depth.2 ⟨depth, hdepth⟩
  have hrefs : r ∈ f.refs := Forest.mem_refs.2 (Forest.contains_of_isInner hinner)
  have hlevel : r ∈ level (placed f) (depth + 1) := mem_level.2 ⟨hrefs, hdepth⟩
  have hpos : 1 ≤ (level (placed f) (depth + 1)).length := List.length_pos_of_mem hlevel
  refine List.mem_flatMap.2 ⟨depth + 1, mem_depths hrefs hdepth, ?_⟩
  -- the last round takes the nodes of the level one by one
  refine mem_rounds (mem_schedule hpos _) ?_
  rw [round, chunks_of_length_le hpos (Nat.le_refl _)]
  exact List.mem_append_left _ (List.mem_cons_of_mem _ (by simpa using hlevel))

/-- Every node below a root is offered, with what depends on it and nothing else. -/
theorem single_mem_plan (language : Language) {f : Forest} {r : NodeRef} (hr : f.isInner r = true)
    (state : State) :
    withDependents language f [r] ∈ (plan f state).flatMap (Step.offered language f) := by
  obtain ⟨depth, hdepth⟩ := Forest.isInner_iff_depth.1 hr
  exact List.mem_flatMap.2 ⟨_, chunk_mem_plan hdepth state, by simp [Step.offered]⟩

theorem covered_plan {language : Language} (hdep : ∀ t i, language.dependents t i = []) (f : Forest)
    (state : State) : f.Covered ((plan f state).flatMap (Step.offered language f)) := by
  constructor
  · exact (grounded_plan language f state).inner_of_independent hdep
  · intro r hr
    exact ⟨withDependents language f [r], single_mem_plan language hr state,
      fun x => by simp [mem_withDependents hdep]⟩

end Ddmin

end SourceReducer
