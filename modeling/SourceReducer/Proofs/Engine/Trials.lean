import SourceReducer.Proofs.Engine.Exhaustion
import SourceReducer.Proofs.Engine.Staleness

/-! Trials do not leak. An attempt shows one vector of scratch texts to the invariant, and it makes
it from the committed texts, their trees and the request alone: trials of earlier attempts, which
were refused or given up or are still pending, have no part in it. -/
namespace SourceReducer

variable {σ τ : Type}

/-- The nodes of a set in one unit, among those that resolve, in increasing order. -/
def Forest.nodesIn (f : Forest) (nodes : RefSet) (unit : Nat) : List Nat :=
  ((f.current nodes).filter fun r => r.unit == unit).toList.map NodeRef.index

theorem Forest.perUnit_eq (f : Forest) (nodes : RefSet) :
    (f.partition nodes).perUnit = (List.range f.unitCount).map (f.nodesIn nodes) := by
  unfold partition nodesIn current
  simp only [RefSet.toList_filter]

/-- A list that is zipped with what belongs to its positions. -/
theorem zipWith_range_map {α β γ : Type} (f : α → β → γ) (g : Nat → β) (as : List α) :
    as.zipWith f ((List.range as.length).map g) = as.mapIdx fun i a => f a (g i) := by
  apply List.ext_getElem
  · simp
  · intro i hleft hright
    simp

namespace Engine

variable {e : Engine σ} {s t : Session σ}

/-- Whether an attempt makes one check, on a text for every unit that is made from the committed
text and tree of the unit. -/
structure Shows (e : Engine σ) (a : Attempt) (s : Session σ) (text : Nat → String → Tree → String) :
    Prop where
  texts : (e.candidate (e.proposal a s)).texts =
    s.copies.mapIdx fun unit c => text unit c.committed c.tree
  forest : (e.candidate (e.proposal a s)).forest = s.forest
  committed : (e.candidate (e.proposal a s)).copies.map WorkingCopy.rollback =
    s.copies.map WorkingCopy.rollback
  journal : (e.attempt a s).2.journal =
    .checked
      (e.invariant.check e.limit (e.candidate (e.proposal a s)) s.state s.files).verdict.toOption
      (e.candidate (e.proposal a s)).texts :: s.journal
  state : (e.attempt a s).2.state =
    (e.invariant.check e.limit (e.candidate (e.proposal a s)) s.state s.files).state

/-! One check. -/

theorem install_keeps (s : Session σ) (trees : List (Option Tree)) :
    (install s trees).2.journal = s.journal ∧ (install s trees).2.state = s.state := by
  rcases install_eq s trees with ⟨failure, copies, files, hinstall⟩ | ⟨copies, files, hinstall⟩
  all_goals
    rw [hinstall]
    exact ⟨rfl, rfl⟩

/-- After the check nothing is asked of the invariant. -/
theorem attemptCommit_keeps (e : Engine σ) (p : Session σ) :
    (e.attemptCommit p).2.journal = (e.check p).2.journal ∧
      (e.attemptCommit p).2.state = (e.check p).2.state := by
  rcases e.attemptCommit_cases p with ⟨failure, -, hattempt⟩ | ⟨reason, -, hattempt⟩ |
    ⟨trees, -, -, hattempt⟩
  · rw [hattempt]
    exact ⟨rfl, rfl⟩
  · rw [hattempt]
    exact ⟨rfl, rfl⟩
  · rw [hattempt]
    exact install_keeps _ _

theorem shows_of_texts {a : Attempt} {text : Nat → String → Tree → String}
    (hunits : s.forest.unitCount = s.copies.length)
    (hattempt : e.attempt a s = e.attemptCommit (e.proposal a s))
    (htexts : (e.proposal a s).texts = s.copies.mapIdx fun unit c => text unit c.committed c.tree) :
    e.Shows a s text := by
  have hsame := e.sameCommitted_proposal a hunits
  have hkeeps := e.attemptCommit_keeps (e.proposal a s)
  have hjournal : (e.proposal a s).journal = s.journal := by cases a <;> rfl
  have hstate : (e.proposal a s).state = s.state := by cases a <;> rfl
  refine ⟨htexts, hsame.forest, hsame.copies, ?_, ?_⟩
  · rw [hattempt, hkeeps.1, ← hjournal, ← hstate, ← e.files_proposal a s]
    rfl
  · rw [hattempt, hkeeps.2, ← hstate, ← e.files_proposal a s]
    rfl

/-! The texts of the three kinds of attempt. -/

theorem shows_remove (hunits : s.forest.unitCount = s.copies.length) {nodes : RefSet}
    (hfound : ∃ r ∈ nodes, s.forest.contains r = true) :
    e.Shows (.remove nodes) s fun unit committed tree =>
      if (s.forest.nodesIn nodes unit).isEmpty then committed
      else e.language.excise committed tree (s.forest.nodesIn nodes unit) := by
  apply shows_of_texts hunits
  · have hmatched := Forest.matched_ne_zero_iff.2 hfound
    simp only [attempt, tryRemove, hmatched, if_false]
    rfl
  · rw [texts_proposal_remove, textsWithout, Forest.perUnit_eq, hunits, cutTexts, zipWith_range_map]
    rfl

theorem shows_cleanup (hunits : s.forest.unitCount = s.copies.length) :
    e.Shows .cleanup s fun _ committed _ => e.language.reformat committed := by
  apply shows_of_texts hunits rfl
  apply List.ext_getElem
  · simp [Session.texts, proposal, Session.rollback]
  · intro unit hleft hright
    simp [Session.texts, proposal, Session.rollback, WorkingCopy.reformat]

theorem shows_strip (hunits : s.forest.unitCount = s.copies.length) (i : Nat) :
    e.Shows (.strip i) s fun unit committed _ =>
      if unit = i then e.language.stripBlank committed else committed := by
  apply shows_of_texts hunits rfl
  apply List.ext_getElem
  · simp [Session.texts, proposal, Session.rollback]
  · intro unit hleft hright
    by_cases hunit : unit = i
    · simp [Session.texts, proposal, Session.rollback, WorkingCopy.strip, hunit]
    · simp [Session.texts, proposal, Session.rollback, hunit, Ne.symm hunit]

/-- What is pending when an attempt is made does not matter. -/
theorem attempt_rollback (e : Engine σ) (a : Attempt) (s : Session σ) :
    e.attempt a s.rollback = e.attempt a s := by
  have hback : s.rollback.rollback = s.rollback := by
    simp [Session.rollback, Function.comp_def]
  cases a <;> simp only [attempt, tryRemove, cleanup, stripUnit, forceRemove, hback] <;> rfl

/-- What is shown is made from what is committed. -/
theorem candidate_proposal_congr (e : Engine σ) (a : Attempt) (h : s.SameCommitted t) :
    e.candidate (e.proposal a t) = e.candidate (e.proposal a s) := by
  have hcopies : t.rollback.copies = s.rollback.copies := h.copies
  have hforest : (e.proposal a t).forest = (e.proposal a s).forest := by
    cases a <;> exact h.forest
  have htried : (e.proposal a t).copies = (e.proposal a s).copies := by
    cases a <;> simp only [proposal, hcopies, h.forest]
  simp only [candidate, hforest, htried]

end Engine

/-- In every session that a loaded one can come to, an attempt makes one check. A removal that finds
a node shows each unit without its nodes of the set, and as it was committed if it has none; a
layout shows every committed text laid out anew; and a unit without its blank lines is shown beside
the committed texts of the others. What is shown is the same for all sessions with the same
committed texts and forest, and no attempt ends otherwise if pending trials are given up before
it. -/
theorem trials_never_leak (e : Engine σ) (settings : Settings) (mappings : List FileMapping)
    (files loaded : Files) (s : Session σ)
    (hload : e.load settings mappings files = (.ok s, loaded)) (allowed : Files → Files → Prop)
    (t : Session σ) (hreach : e.Reaches allowed s t) :
    (∀ nodes : RefSet, (∃ r ∈ nodes, t.forest.contains r = true) →
      e.Shows (.remove nodes) t fun unit committed tree =>
        if (t.forest.nodesIn nodes unit).isEmpty then committed
        else e.language.excise committed tree (t.forest.nodesIn nodes unit)) ∧
    (e.Shows .cleanup t fun _ committed _ => e.language.reformat committed) ∧
    (∀ i, e.Shows (.strip i) t fun unit committed _ =>
      if unit = i then e.language.stripBlank committed else committed) ∧
    ∀ a : Attempt, e.attempt a t.rollback = e.attempt a t ∧
      ∀ u, t.SameCommitted u → e.candidate (e.proposal a u) = e.candidate (e.proposal a t) := by
  obtain ⟨log, hlog⟩ := hreach
  have hunits : t.forest.unitCount = t.copies.length := by
    apply hlog.unitCount
    simp [Forest.unitCount, (Engine.load_eq_ok hload).2.2.2]
  refine ⟨?_, Engine.shows_cleanup hunits, Engine.shows_strip hunits, ?_⟩
  · intro nodes hfound
    exact Engine.shows_remove hunits hfound
  · intro a
    exact ⟨e.attempt_rollback a t, fun u hsame => e.candidate_proposal_congr a hsame⟩

/-- An engine that wants some text to be left. -/
def clinging : Engine Tally :=
  { language := Statement.language
    invariant := Invariant.ofPredicate "some" fun _ candidate => candidate.texts.any (· != "") }

/-- Two units after the removal of both statements was refused. -/
def pendingUnits : Session Tally :=
  (clinging.attempt (.remove (.ofList [⟨0, 0, 1⟩, ⟨0, 1, 1⟩])) (twoUnits [])).2

/-- Both trials are pending, and the removal of the first statement alone shows the second one all
the same. -/
theorem remove_pendingUnits :
    pendingUnits.texts = ["", ""] ∧
      (clinging.candidate
        (clinging.proposal (.remove (.ofList [⟨0, 0, 1⟩])) pendingUnits)).texts = ["", "b;"] := by
  have hload : clinging.load {} [⟨"a", "a.min"⟩, ⟨"b", "b.min"⟩] (twoTexts []) =
      (.ok (twoUnits []), (twoUnits []).files) := rfl
  have hreach : clinging.Reaches (fun _ _ => True) (twoUnits []) pendingUnits :=
    ⟨_, .attempt .start _⟩
  have hfound : pendingUnits.forest.contains ⟨0, 0, 1⟩ = true := by decide +kernel
  obtain ⟨hremove, -⟩ := trials_never_leak clinging {} _ _ _ _ hload _ _ hreach
  constructor
  · decide +kernel
  · rw [(hremove (.ofList [⟨0, 0, 1⟩]) ⟨_, by decide, hfound⟩).texts]
    decide +kernel

end SourceReducer
