import SourceReducer.Proofs.Engine.Acceptance
import SourceReducer.Proofs.Engine.NodeCount

/-! Stale references. Every commit raises the generation of the forest, so a reference that was
taken before a commit never resolves after it. An attempt to remove nodes passes over the references
that do not resolve: but for the count of them, it ends as if they had not been named. -/
namespace SourceReducer

variable {σ τ : Type}

/-! References that are picked out of a set. -/

namespace RefSet

def filter (keep : NodeRef → Bool) (s : RefSet) : RefSet :=
  ⟨s.descending.filter keep, s.decreasing.filter keep⟩

@[simp] theorem toList_filter (keep : NodeRef → Bool) (s : RefSet) :
    (s.filter keep).toList = s.toList.filter keep := by
  simp only [toList, filter, List.filter_reverse]

@[simp] theorem length_toList (s : RefSet) : s.toList.length = s.size :=
  List.length_reverse

end RefSet

namespace Forest

/-- The references that resolve. -/
def current (f : Forest) (nodes : RefSet) : RefSet :=
  nodes.filter f.contains

/-- The references that do not. -/
def stale (f : Forest) (nodes : RefSet) : RefSet :=
  nodes.filter fun r => !f.contains r

theorem length_unknown (f : Forest) (nodes : RefSet) :
    (f.partition nodes).unknown.length = (f.stale nodes).size := by
  rw [← RefSet.length_toList, stale, RefSet.toList_filter]
  rfl

theorem perUnit_current (f : Forest) (nodes : RefSet) :
    (f.partition (f.current nodes)).perUnit = (f.partition nodes).perUnit := by
  simp only [partition, current, RefSet.toList_filter, List.filter_filter, Bool.and_self]

theorem unknown_current (f : Forest) (nodes : RefSet) :
    (f.partition (f.current nodes)).unknown = [] := by
  simp [partition, current, List.filter_filter]

theorem matched_current (f : Forest) (nodes : RefSet) :
    (f.partition (f.current nodes)).matched = (f.partition nodes).matched := by
  unfold Partition.matched
  rw [perUnit_current]

theorem contains_eq_false_of_generation {f : Forest} {r : NodeRef}
    (h : r.generation ≠ f.generation) : f.contains r = false := by
  simp [contains, resolve?, h]

theorem generation_of_contains {f : Forest} {r : NodeRef} (h : f.contains r = true) :
    r.generation = f.generation := by
  by_contra hne
  rw [contains_eq_false_of_generation hne] at h
  cases h

theorem lt_unitCount_of_contains {f : Forest} {r : NodeRef} (h : f.contains r = true) :
    r.unit < f.unitCount := by
  by_contra hge
  have hnone : f.tree? r.unit = none := List.getElem?_eq_none (Nat.le_of_not_lt hge)
  simp [contains, resolve?, hnone] at h

/-- Something is matched exactly if a reference resolves. -/
theorem matched_ne_zero_iff {f : Forest} {nodes : RefSet} :
    (f.partition nodes).matched ≠ 0 ↔ ∃ r ∈ nodes, f.contains r = true := by
  rw [matched_ne_zero]
  constructor
  · rintro ⟨unit, indices, i, hindices, hi⟩
    exact ⟨f.refTo unit i, (mem_perUnit hindices).1 hi⟩
  · rintro ⟨r, hr, hcontains⟩
    obtain ⟨indices, hindices⟩ := f.perUnit_getElem? nodes (lt_unitCount_of_contains hcontains)
    rw [eq_refTo_of_contains hcontains] at hr hcontains
    exact ⟨r.unit, indices, r.index, hindices, (mem_perUnit hindices).2 ⟨hr, hcontains⟩⟩

end Forest

/-! The count of stale references is all that they change. -/

/-- The session with more references counted that did not resolve. -/
def Session.addUnknown (s : Session σ) (count : Nat) : Session σ :=
  { s with stats := { s.stats with unknownRefs := s.stats.unknownRefs + count } }

/-- The same for what an operation ends with. -/
def Outcome.addUnknown {α : Type} (o : Outcome σ α) (count : Nat) : Outcome σ α :=
  (o.1, o.2.addUnknown count)

namespace Engine

theorem check_addUnknown (e : Engine σ) (s : Session σ) (count : Nat) :
    e.check (s.addUnknown count) = (e.check s).addUnknown count :=
  rfl

theorem reject_addUnknown (s : Session σ) (reason : Rejection) (count : Nat) :
    (s.addUnknown count).reject reason = (s.reject reason).addUnknown count := by
  cases reason <;> rfl

theorem install_addUnknown (s : Session σ) (trees : List (Option Tree)) (count : Nat) :
    install (s.addUnknown count) trees = (install s trees).addUnknown count := by
  have hcopies : (s.addUnknown count).copies = s.copies := rfl
  have hfiles : (s.addUnknown count).files = s.files := rfl
  unfold install
  rw [hcopies, hfiles]
  rcases stageAll s.copies s.files with ⟨failure | staged, written⟩
  · rfl
  · dsimp only
    rcases promoteAll s.copies staged trees written with ⟨failure | _, copies, files⟩ <;> rfl

theorem attemptCommit_addUnknown (e : Engine σ) (s : Session σ) (count : Nat) :
    e.attemptCommit (s.addUnknown count) = (e.attemptCommit s).addUnknown count := by
  unfold attemptCommit
  rw [check_addUnknown]
  rcases e.check s with ⟨failure | verdict, checked⟩
  · rfl
  · have hcopies : (checked.addUnknown count).copies = checked.copies := rfl
    cases verdict with
    | timedOut => exact reject_addUnknown checked _ count
    | refused => exact reject_addUnknown checked _ count
    | holds =>
      simp only [Outcome.addUnknown, hcopies]
      rcases parseAll e.language checked.copies with reason | trees
      · exact reject_addUnknown checked reason count
      · simp only [install_addUnknown]
        rcases install checked (trees.map some) with ⟨failure | _, installed⟩ <;> rfl

theorem unknownRefs_install (s : Session σ) (trees : List (Option Tree)) :
    (install s trees).2.stats.unknownRefs = s.stats.unknownRefs := by
  rcases install_eq s trees with ⟨failure, copies, files, hinstall⟩ | ⟨copies, files, hinstall⟩
  · rw [hinstall]
  · rw [hinstall]
    rfl

theorem unknownRefs_attemptCommit (e : Engine σ) (s : Session σ) :
    (e.attemptCommit s).2.stats.unknownRefs = s.stats.unknownRefs := by
  rcases e.attemptCommit_cases s with ⟨failure, -, hattempt⟩ | ⟨reason, -, hattempt⟩ |
    ⟨trees, -, -, hattempt⟩
  · rw [hattempt]
    rfl
  · rw [hattempt]
    cases reason <;> rfl
  · rw [hattempt, unknownRefs_install]
    rfl

/-- The session in which nodes are cut out of the scratch texts, before stale references are
counted. -/
def cutOut (e : Engine σ) (nodes : RefSet) (s : Session σ) : Session σ :=
  { s.rollback with
    copies := s.rollback.copies.zipWith
      (fun copy indices => if indices.isEmpty then copy else copy.excise e.language indices)
      (s.forest.partition nodes).perUnit }

theorem cutOut_current (e : Engine σ) (nodes : RefSet) (s : Session σ) :
    e.cutOut (s.forest.current nodes) s = e.cutOut nodes s := by
  unfold cutOut
  rw [Forest.perUnit_current]

theorem tryRemove_eq (e : Engine σ) (nodes : RefSet) (s : Session σ) :
    e.tryRemove nodes s =
      Outcome.addUnknown
        (if (s.forest.partition nodes).matched = 0 then (.ok (.failed .nothingToRemove), s.rollback)
          else e.attemptCommit (e.cutOut nodes s))
        (s.forest.stale nodes).size := by
  rw [← Forest.length_unknown]
  by_cases hmatched : (s.forest.partition nodes).matched = 0
  · simp only [tryRemove, hmatched, if_true]
    rfl
  · simp only [tryRemove, hmatched, if_false]
    exact attemptCommit_addUnknown e (e.cutOut nodes s) _

/-- References that do not resolve are counted and change nothing else. -/
theorem tryRemove_current (e : Engine σ) (nodes : RefSet) (s : Session σ) :
    e.tryRemove nodes s =
      Outcome.addUnknown (e.tryRemove (s.forest.current nodes) s) (s.forest.stale nodes).size := by
  have hnone : (s.forest.stale (s.forest.current nodes)).size = 0 := by
    rw [← Forest.length_unknown, Forest.unknown_current]
    rfl
  rw [e.tryRemove_eq nodes, e.tryRemove_eq (s.forest.current nodes), hnone, cutOut_current,
    Forest.matched_current]
  rfl

theorem unknownRefs_tryRemove (e : Engine σ) (nodes : RefSet) (s : Session σ) :
    (e.tryRemove nodes s).2.stats.unknownRefs =
      s.stats.unknownRefs + (s.forest.stale nodes).size := by
  rw [tryRemove_eq]
  split
  · rfl
  · exact congrArg (· + _) (e.unknownRefs_attemptCommit (e.cutOut nodes s))

theorem tryRemove_of_stale (e : Engine σ) {nodes : RefSet} {s : Session σ}
    (h : ∀ r ∈ nodes, s.forest.contains r = false) :
    e.tryRemove nodes s =
      (.ok (.failed .nothingToRemove), s.rollback.addUnknown nodes.size) := by
  have hmatched : (s.forest.partition nodes).matched = 0 := by
    by_contra hne
    obtain ⟨r, hr, hcontains⟩ := Forest.matched_ne_zero_iff.1 hne
    rw [h r hr] at hcontains
    cases hcontains
  have hstale : (s.forest.stale nodes).size = nodes.size := by
    rw [← RefSet.length_toList, ← RefSet.length_toList, Forest.stale, RefSet.toList_filter,
      List.filter_eq_self.2]
    intro r hr
    rw [h r (RefSet.mem_toList.1 hr)]
    rfl
  rw [tryRemove_eq, if_pos hmatched, hstale]
  rfl

/-! Generations. -/

/-- Whether an outcome has a forest of the next generation if something was committed, and the
forest that was there otherwise. -/
def Renews (o : Outcome σ Control) (f : Forest) : Prop :=
  match o.1 with
  | .ok .proceed | .ok .stop => o.2.forest.generation = f.generation + 1
  | _ => o.2.forest = f

theorem attemptCommit_renews (e : Engine σ) (p : Session σ) :
    Renews (e.attemptCommit p) p.forest := by
  rcases e.attemptCommit_cases p with ⟨failure, -, hattempt⟩ | ⟨reason, -, hattempt⟩ |
    ⟨trees, -, -, hattempt⟩
  · rw [hattempt]
    rfl
  · rw [hattempt]
    rfl
  · rw [hattempt]
    rcases install_eq (e.check p).2 (trees.map some) with
      ⟨failure, copies, files, hinstall⟩ | ⟨copies, files, hinstall⟩
    · rw [hinstall]
      rfl
    · rw [hinstall]
      rfl

/-- An attempt that commits raises the generation by one, and any other leaves the forest. -/
theorem attempt_renews (e : Engine σ) (a : Attempt) (s : Session σ) :
    Renews (e.attempt a s) s.forest := by
  have hproposal : (e.proposal a s).forest = s.forest := by cases a <;> rfl
  rw [← hproposal]
  rcases e.attempt_cases a s with
    ⟨nodes, rfl, -, hattempt⟩ | ⟨-, -, hattempt⟩ | ⟨nodes, -, hattempt⟩
  · rw [hattempt]
    rfl
  · rw [hattempt]
    exact attemptCommit_renews e (e.proposal a s)
  · rcases install_eq (e.proposal a s)
      ((e.proposal a s).copies.map fun copy => (copy.parseScratch e.language).toOption) with
      ⟨failure, copies, files, hinstall⟩ | ⟨copies, files, hinstall⟩
    all_goals
      rw [hinstall] at hattempt
      rw [hattempt]
      rfl

theorem attempt_forest (e : Engine σ) (a : Attempt) (s : Session σ) :
    (e.commits (a, s) = true ∧
        (e.attempt a s).2.forest.generation = s.forest.generation + 1) ∨
      e.commits (a, s) = false ∧ (e.attempt a s).2.forest = s.forest := by
  have hrenews := e.attempt_renews a s
  unfold Renews at hrenews
  simp only [commits]
  rcases houtcome : (e.attempt a s).1 with failure | control
  all_goals rw [houtcome] at hrenews
  · exact .inr ⟨rfl, hrenews⟩
  · cases control with
    | proceed => exact .inl ⟨rfl, hrenews⟩
    | stop => exact .inl ⟨rfl, hrenews⟩
    | failed reason => exact .inr ⟨rfl, hrenews⟩

namespace History

variable {e : Engine σ} {allowed : Files → Files → Prop} {start t : Session σ}
  {log : List (Attempt × Session σ)}

/-- The generation counts the commits, and the forest stays until the first of them. -/
theorem generation_eq (h : e.History allowed start log t) :
    t.forest.generation = start.forest.generation + log.countP e.commits ∧
      (log.countP e.commits = 0 → t.forest = start.forest) := by
  induction h with
  | start => exact ⟨rfl, fun _ => rfl⟩
  | @attempt log s _ a ih =>
    rcases e.attempt_forest a s with ⟨hcommits, hforest⟩ | ⟨hcommits, hforest⟩
    · rw [List.countP_cons_of_pos hcommits]
      exact ⟨by omega, by omega⟩
    · rw [List.countP_cons_of_neg (by simp [hcommits]), hforest]
      exact ih
  | aside _ hsame _ ih =>
    rw [hsame.forest]
    exact ih

/-- What came after an attempt is a history of its own, from the session in which it was made. -/
theorem since {newer older : List (Attempt × Session σ)} {a : Attempt} {s : Session σ}
    (h : e.History allowed start log t) (hlog : log = newer ++ (a, s) :: older) :
    e.History allowed s (newer ++ [(a, s)]) t := by
  induction h generalizing newer with
  | start => simp at hlog
  | attempt _ b ih =>
    cases newer with
    | nil =>
      obtain ⟨hmade, -⟩ := List.cons.inj hlog
      cases hmade
      exact .attempt .start a
    | cons made newer =>
      obtain ⟨rfl, hrest⟩ := List.cons.inj hlog
      exact .attempt (ih hrest) b
  | aside _ hsame hfiles ih => exact .aside (ih hlog) hsame hfiles

/-- What resolved before a commit does not resolve after it. -/
theorem contains_eq_false (h : e.History allowed start log t)
    (hcommits : ∃ made ∈ log, e.commits made = true) {r : NodeRef}
    (hr : start.forest.contains r = true) : t.forest.contains r = false := by
  apply Forest.contains_eq_false_of_generation
  have hpos : 0 < log.countP e.commits := List.countP_pos_iff.2 hcommits
  have hgeneration := h.generation_eq.1
  rw [Forest.generation_of_contains hr]
  omega

end History

end Engine

/-- Runs with any strategy are histories, from whatever session. Along a history the generation of
the forest counts the commits, the forest stays the same without one, and a reference that resolved
when an attempt was made resolves no more once this or a later attempt was committed. An attempt to
remove nodes ends as the one that names only the references that resolve, in all that it answers and
leaves: only the others are counted. If none resolves, there is nothing to remove, and trials are
given up without a check. -/
theorem stale_references_are_inert (e : Engine σ) (strategy : Strategy τ) (settings : Settings)
    (start : Session σ) :
    ((∀ r, Run.Between e strategy settings start r →
        ∃ log, e.History (fun _ _ => True) start log r.session) ∧
      ∀ fuel outcome r,
        Run.runWithin e strategy settings fuel { session := start, state := strategy.start } =
          some (outcome, r) → ∃ log, e.History (fun _ _ => True) start log r.session) ∧
    (∀ allowed log t, e.History allowed start log t →
      t.forest.generation = start.forest.generation + log.countP e.commits ∧
      (log.countP e.commits = 0 → t.forest = start.forest) ∧
      ∀ newer a s older, log = newer ++ (a, s) :: older →
        (∃ made ∈ newer ++ [(a, s)], e.commits made = true) →
        s.forest.generation < t.forest.generation ∧
          ∀ r, s.forest.contains r = true → t.forest.contains r = false) ∧
    ∀ (nodes : RefSet) (s : Session σ),
      e.tryRemove nodes s =
        Outcome.addUnknown (e.tryRemove (s.forest.current nodes) s) (s.forest.stale nodes).size ∧
      (e.tryRemove nodes s).2.stats.unknownRefs =
        s.stats.unknownRefs + (s.forest.stale nodes).size ∧
      ((∀ r ∈ nodes, s.forest.contains r = false) →
        e.tryRemove nodes s =
          (.ok (.failed .nothingToRemove), s.rollback.addUnknown nodes.size)) := by
  refine ⟨⟨?_, ?_⟩, ?_, ?_⟩
  · intro r hr
    exact hr.reaches (strategy.touches_any e.language)
  · intro fuel outcome r hr
    exact Run.reaches_runWithin (strategy.touches_any e.language) hr
  · intro allowed log t h
    refine ⟨h.generation_eq.1, h.generation_eq.2, ?_⟩
    intro newer a s older hlog hcommits
    have hsince := h.since hlog
    constructor
    · have hpos := List.countP_pos_iff.2 hcommits
      have hgeneration := hsince.generation_eq.1
      omega
    · intro r hr
      exact hsince.contains_eq_false hcommits hr
  · intro nodes s
    exact ⟨e.tryRemove_current nodes s, e.unknownRefs_tryRemove nodes s, e.tryRemove_of_stale⟩

/-- Two units after their texts were laid out anew. -/
def relaidUnits : Session Tally :=
  (lenient.attempt .cleanup (twoUnits [])).2

/-- A statement of the first forest and one of the second. -/
def oldAndNew : RefSet :=
  .ofList [⟨0, 1, 1⟩, ⟨1, 0, 1⟩]

/-- Before the texts are laid out anew the first statement can be removed and the second is passed
over; after that it is the first that is passed over. -/
theorem remove_oldAndNew :
    (twoUnits []).forest.contains ⟨0, 1, 1⟩ = true ∧
      (lenient.tryRemove oldAndNew (twoUnits [])).2.committed = ["a;", ""] ∧
      (lenient.tryRemove oldAndNew (twoUnits [])).2.stats.unknownRefs = 1 ∧
      relaidUnits.forest.contains ⟨0, 1, 1⟩ = false ∧
      lenient.tryRemove oldAndNew relaidUnits =
        Outcome.addUnknown
          (lenient.tryRemove (relaidUnits.forest.current oldAndNew) relaidUnits) 1 := by
  obtain ⟨-, hhistory, hremove⟩ :=
    stale_references_are_inert lenient Greedy.strategy {} (twoUnits [])
  have hcommits : lenient.commits (.cleanup, twoUnits []) = true := by decide +kernel
  have hold : (twoUnits []).forest.contains ⟨0, 1, 1⟩ = true := by decide +kernel
  have hlaid : lenient.History (fun _ _ => True) (twoUnits []) [(.cleanup, twoUnits [])]
      relaidUnits :=
    .attempt .start .cleanup
  obtain ⟨-, -, hstale⟩ := hhistory _ _ _ hlaid
  have hcount : (relaidUnits.forest.stale oldAndNew).size = 1 := by decide +kernel
  have hnone : ((twoUnits []).forest.stale oldAndNew).size = 1 := by decide +kernel
  refine ⟨hold, ?_, ?_, ?_, ?_⟩
  · decide +kernel
  · rw [(hremove oldAndNew (twoUnits [])).2.1, hnone]
    rfl
  · exact (hstale [] .cleanup _ [] rfl ⟨_, List.mem_singleton_self _, hcommits⟩).2 _ hold
  · rw [← hcount]
    exact (hremove oldAndNew relaidUnits).1

end SourceReducer
