import SourceReducer.Proofs.Engine.History
import SourceReducer.Proofs.Statement.Weight
import SourceReducer.Strategy.Script

/-! The number of nodes of a session for statements. After a removal by force that left a text which
does not parse, the tree of its unit is that of an earlier text, and later cuts take their spans
from it. What every operation keeps is that the tree has room for the tokens of the committed text;
hence no operation brings more nodes, and the sizes that a run notes never grow. -/
namespace SourceReducer

variable {σ τ : Type}

/-- Whether the tree of a working copy is larger than the tokens of the committed text need. -/
def WorkingCopy.Roomy (c : WorkingCopy) : Prop :=
  Statement.weight c.committed.toList < c.tree.size

/-- Whether a trial has no more tokens that stand for nodes than the committed text. -/
def WorkingCopy.Lighter (c : WorkingCopy) : Prop :=
  Statement.weight c.scratch.toList ≤ Statement.weight c.committed.toList

/-- Whether the trees of a session have room for its texts. Where a commit broke off, the trees of
the working copies are ahead of those of the forest, and no larger together. -/
structure Session.Roomy (s : Session σ) : Prop where
  units : s.forest.unitCount = s.copies.length
  room : ∀ c ∈ s.copies, c.Roomy
  nodes : (s.copies.map fun c => c.tree.size).sum ≤ s.forest.nodeCount

section Proposals

variable {e : Engine σ} {s : Session σ}

theorem WorkingCopy.lighter_rollback (c : WorkingCopy) : c.rollback.Lighter := by
  simp [WorkingCopy.Lighter]

theorem WorkingCopy.lighter_excise (hlang : e.language.OfStatements) (c : WorkingCopy)
    (indices : List Nat) : (c.excise e.language indices).Lighter := by
  show Statement.weight (e.language.excise c.committed c.tree indices).toList ≤ _
  rw [hlang.excise]
  exact Statement.weight_exciseSpans_le c.committed c.tree indices

theorem WorkingCopy.lighter_reformat (hlang : e.language.OfStatements) (c : WorkingCopy) :
    (c.reformat e.language).Lighter := by
  show Statement.weight (e.language.reformat c.committed).toList ≤ _
  rw [hlang.reformat]
  exact (Statement.weight_reformat c.committed).le

theorem WorkingCopy.lighter_strip (hstrip : e.language.stripBlank = stripBlankLines)
    (c : WorkingCopy) : (c.strip e.language).Lighter := by
  show Statement.weight (e.language.stripBlank c.committed).toList ≤ _
  rw [hstrip]
  exact (Statement.weight_stripBlankLines c.committed).le

theorem forall_mem_zipWith {α β : Type} {P : α → Prop} {f : α → β → α} {as : List α} {bs : List β}
    (h : ∀ a ∈ as, ∀ b, P (f a b)) : ∀ x ∈ as.zipWith f bs, P x := by
  induction as generalizing bs with
  | nil => simp
  | cons a as ih =>
    cases bs with
    | nil => simp
    | cons b bs =>
      intro x hx
      rcases List.mem_cons.1 hx with rfl | hx
      · exact h a List.mem_cons_self b
      · exact ih (fun a' ha' => h a' (List.mem_cons_of_mem _ ha')) x hx

theorem forall_mem_modify {α : Type} {P : α → Prop} {f : α → α} {as : List α} (i : Nat)
    (h : ∀ a ∈ as, P a) (h' : ∀ a ∈ as, P (f a)) : ∀ x ∈ as.modify i f, P x := by
  intro x hx
  obtain ⟨k, hk⟩ := List.mem_iff_getElem?.1 hx
  rw [List.getElem?_modify] at hk
  obtain ⟨a, ha, rfl⟩ := Option.map_eq_some_iff.1 hk
  have hmem := List.mem_of_getElem? ha
  split
  · exact h' a hmem
  · exact h a hmem

/-- No attempt proposes texts with more tokens that stand for nodes. -/
theorem Engine.lighter_proposal (hlang : e.language.OfStatements)
    (hstrip : e.language.stripBlank = stripBlankLines) (a : Attempt) (s : Session σ) :
    ∀ c ∈ (e.proposal a s).copies, c.Lighter := by
  have hback : ∀ c ∈ s.rollback.copies, c.Lighter := by
    intro c hc
    obtain ⟨d, -, rfl⟩ := List.mem_map.1 hc
    exact d.lighter_rollback
  cases a with
  | remove nodes =>
    apply forall_mem_zipWith
    intro c hc indices
    split
    · exact hback c hc
    · exact WorkingCopy.lighter_excise hlang c indices
  | cleanup =>
    intro c hc
    obtain ⟨d, -, rfl⟩ := List.mem_map.1 hc
    exact WorkingCopy.lighter_reformat hlang d
  | strip unit =>
    apply forall_mem_modify unit hback
    intro c _
    exact WorkingCopy.lighter_strip hstrip c
  | force nodes =>
    apply forall_mem_zipWith
    intro c _ indices
    exact WorkingCopy.lighter_excise hlang c indices

end Proposals

/-! Promotions. -/

/-- A lighter text that is promoted has room again, in a tree of its own or in the one that
stays. -/
theorem WorkingCopy.Roomy.promoted {e : Engine σ} (hlang : e.language.OfStatements)
    {c : WorkingCopy} (hc : c.Roomy) (hlighter : c.Lighter) :
    (c.promoted (c.parseScratch e.language).toOption).Roomy ∧
      (c.promoted (c.parseScratch e.language).toOption).tree.size ≤ c.tree.size := by
  unfold WorkingCopy.Roomy WorkingCopy.Lighter at *
  unfold WorkingCopy.parseScratch
  rw [hlang.parse]
  cases hparse : Statement.parse c.scratch with
  | error error =>
    show Statement.weight c.scratch.toList < c.tree.size ∧ c.tree.size ≤ c.tree.size
    omega
  | ok tree =>
    show Statement.weight c.scratch.toList < tree.size ∧ tree.size ≤ c.tree.size
    have hsize := Statement.size_eq_weight hparse
    omega

theorem roomy_promotedUpTo {e : Engine σ} (hlang : e.language.OfStatements)
    {copies : List WorkingCopy} (hroom : ∀ c ∈ copies, c.Roomy)
    (hlighter : ∀ c ∈ copies, c.Lighter) (count : Nat) :
    let after := promotedUpTo (fun c => (c.parseScratch e.language).toOption) count copies
    (∀ c ∈ after, c.Roomy) ∧
      (after.map fun c => c.tree.size).sum ≤ (copies.map fun c => c.tree.size).sum := by
  intro after
  have hpromoted (c : WorkingCopy) (hc : c ∈ copies) :=
    WorkingCopy.Roomy.promoted hlang (hroom c hc) (hlighter c hc)
  constructor
  · intro c hc
    rcases List.mem_append.1 hc with hc | hc
    · obtain ⟨d, hd, rfl⟩ := List.mem_map.1 hc
      exact (hpromoted d (List.mem_of_mem_take hd)).1
    · exact hroom c (List.mem_of_mem_drop hc)
  · have hfirst : (((copies.take count).map fun c =>
        c.promoted (c.parseScratch e.language).toOption).map fun c => c.tree.size).sum ≤
          ((copies.take count).map fun c => c.tree.size).sum := by
      rw [List.map_map]
      exact List.sum_le_sum fun c hc => (hpromoted c (List.mem_of_mem_take hc)).2
    calc (after.map fun c => c.tree.size).sum
        = (((copies.take count).map fun c =>
            c.promoted (c.parseScratch e.language).toOption).map fun c => c.tree.size).sum +
          ((copies.drop count).map fun c => c.tree.size).sum := by
            simp only [after, promotedUpTo, List.map_append, List.sum_append]
      _ ≤ ((copies.take count).map fun c => c.tree.size).sum +
          ((copies.drop count).map fun c => c.tree.size).sum := Nat.add_le_add_right hfirst _
      _ = (copies.map fun c => c.tree.size).sum := by
            rw [← List.sum_append, ← List.map_append, List.take_append_drop]

theorem promotedUpTo_length (tree? : WorkingCopy → Option Tree) (copies : List WorkingCopy) :
    promotedUpTo tree? copies.length copies = copies.map fun c => c.promoted (tree? c) := by
  simp [promotedUpTo]

/-! Attempts. -/

namespace Session.Roomy

variable {e : Engine σ} {s t : Session σ}

theorem of_sameCommitted (h : s.Roomy) (hst : s.SameCommitted t) : t.Roomy where
  units := by rw [hst.forest, hst.length, h.units]
  room := by
    intro c hc
    obtain ⟨d, hd, hdc⟩ := hst.symm.mem_copies hc
    have hroom := h.room d hd
    unfold WorkingCopy.Roomy at *
    rwa [← (committed_of_rollback hdc).1, ← (committed_of_rollback hdc).2]
  nodes := by
    have hsizes := congrArg (List.map fun c => c.tree.size) hst.copies
    simp only [List.map_map, Function.comp_def, WorkingCopy.tree_rollback] at hsizes
    rw [hsizes, hst.forest]
    exact h.nodes

/-- What one operation does, whatever comes of it. -/
theorem attempt (hlang : e.language.OfStatements)
    (hstrip : e.language.stripBlank = stripBlankLines) (hs : s.Roomy) (a : Attempt) :
    (e.attempt a s).2.Roomy ∧
      (e.attempt a s).2.forest.nodeCount ≤ s.forest.nodeCount := by
  have hproposal := hs.of_sameCommitted (e.sameCommitted_proposal a hs.units)
  have hpromoted := roomy_promotedUpTo hlang hproposal.room (e.lighter_proposal hlang hstrip a s)
  have hforest := (e.sameCommitted_proposal a hs.units).forest
  have hnodes := hproposal.nodes
  rw [hforest] at hnodes
  have hunits := e.unitCount_attempt a hs.units
  cases e.attempt_leaves a hs.units with
  | refused _ _ hsame => exact ⟨hs.of_sameCommitted hsame, (congrArg _ hsame.forest).le⟩
  | committed _ _ hcopies htrees _ =>
    rw [← promotedUpTo_length] at hcopies
    obtain ⟨hroom, hsum⟩ := hpromoted (e.proposal a s).copies.length
    have hcount : (e.attempt a s).2.forest.nodeCount =
        ((e.attempt a s).2.copies.map fun c => c.tree.size).sum := by
      rw [Forest.nodeCount_eq_sum, htrees, List.map_map]
      rfl
    rw [← hcopies] at hroom hsum
    exact ⟨⟨hunits, hroom, hcount.ge⟩, by omega⟩
  | failed _ count _ _ hcopies hsame _ =>
    obtain ⟨hroom, hsum⟩ := hpromoted count
    rw [← hcopies] at hroom hsum
    rw [hsame]
    exact ⟨⟨hunits, hroom, by rw [hsame]; omega⟩, Nat.le_refl _⟩

theorem of_load {settings : Settings} {mappings : List FileMapping} {files loaded : Files}
    (hlang : e.language.OfStatements) (h : e.load settings mappings files = (.ok s, loaded)) :
    s.Roomy := by
  have htracked : s.Tracked := .of_load hlang h
  refine ⟨htracked.unitCount, fun c hc => ?_, ?_⟩
  · have hsize := Statement.size_eq_weight (htracked.parsed c hc)
    unfold WorkingCopy.Roomy
    omega
  · rw [Forest.nodeCount_eq_sum, htracked.forest, List.map_map]
    exact Nat.le_refl _

end Session.Roomy

/-! Histories. -/

section Histories

variable {e : Engine σ} {allowed : Files → Files → Prop} {start t : Session σ}

theorem Engine.History.roomy (hlang : e.language.OfStatements)
    (hstrip : e.language.stripBlank = stripBlankLines) {log : List (Attempt × Session σ)}
    (h : e.History allowed start log t) (hstart : start.Roomy) :
    t.Roomy ∧ t.forest.nodeCount ≤ start.forest.nodeCount := by
  induction h with
  | start => exact ⟨hstart, Nat.le_refl _⟩
  | attempt _ a ih =>
    obtain ⟨hroomy, hnodes⟩ := ih.1.attempt hlang hstrip a
    exact ⟨hroomy, hnodes.trans ih.2⟩
  | aside _ hsame _ ih =>
    refine ⟨ih.1.of_sameCommitted hsame, ?_⟩
    rw [hsame.forest]
    exact ih.2

/-- Every strategy touches files in some way. -/
theorem Dialogue.touches_any (d : Dialogue τ) : d.Touches fun _ _ => True := by
  induction d with
  | done outcome state => trivial
  | ask request next ih => exact ih
  | touch change next ih => exact ⟨fun _ => trivial, ih⟩

theorem Strategy.touches_any (strategy : Strategy τ) (language : Language) :
    strategy.Touches language fun _ _ => True :=
  ⟨fun _ _ => Dialogue.touches_any _, fun _ _ => Dialogue.touches_any _⟩

end Histories

/-! Runs. -/

namespace Run

variable {e : Engine σ} {strategy : Strategy τ} {r after : Run σ τ}

/-- Whether the sizes that a run noted, the newest first, never grew, and the session has no more
nodes than any of them. -/
structure Descending (r : Run σ τ) : Prop where
  roomy : r.session.Roomy
  noted : ∀ entry ∈ r.progress, r.session.forest.nodeCount ≤ entry.metrics.nodes
  progress : r.progress.Pairwise fun later earlier => later.metrics.nodes ≤ earlier.metrics.nodes

/-- Whether a run noted at most its own size since another one. -/
def Noted (r after : Run σ τ) : Prop :=
  after.progress = r.progress ∨
    ∃ entry, after.progress = entry :: r.progress ∧
      entry.metrics.nodes = after.session.forest.nodeCount

/-- A run goes on descending. -/
theorem Descending.next (hlang : e.language.OfStatements)
    (hstrip : e.language.stripBlank = stripBlankLines) (h : r.Descending)
    (hreaches : e.Reaches (fun _ _ => True) r.session after.session) (hnoted : r.Noted after) :
    after.Descending := by
  obtain ⟨log, hlog⟩ := hreaches
  obtain ⟨hroomy, hnodes⟩ := hlog.roomy hlang hstrip h.roomy
  have hearlier : ∀ entry ∈ r.progress, after.session.forest.nodeCount ≤ entry.metrics.nodes := by
    intro entry hentry
    exact hnodes.trans (h.noted entry hentry)
  rcases hnoted with hsame | ⟨entry, hentry, hsize⟩
  · exact ⟨hroomy, hsame ▸ hearlier, hsame ▸ h.progress⟩
  · refine ⟨hroomy, ?_, ?_⟩
    · rw [hentry]
      exact List.forall_mem_cons.2 ⟨hsize.ge, hearlier⟩
    · rw [hentry]
      refine List.pairwise_cons.2 ⟨fun older holder => ?_, h.progress⟩
      rw [hsize]
      exact hearlier older holder

theorem noted_prepare (e : Engine σ) (strategy : Strategy τ) (r : Run σ τ) :
    r.Noted (r.prepare e strategy).2 := by
  left
  unfold prepare
  dsimp only
  split
  · rfl
  · split <;> rfl

theorem noted_cleanup (e : Engine σ) (checkpoint : Checkpoint) (r : Run σ τ) :
    r.Noted (r.cleanup e checkpoint).2 := by
  unfold cleanup
  split
  · exact .inl rfl
  · exact .inr ⟨_, rfl, rfl⟩

theorem noted_pass (e : Engine σ) (strategy : Strategy τ) (interval : Nat) (r : Run σ τ) :
    r.Noted (r.pass e strategy interval).2 := by
  by_cases hcleanup : (r.passes + 1) % interval = 0
  · rw [pass_of_cleanup e strategy hcleanup]
    rcases hclean : e.cleanup r.session with ⟨failure | control, session⟩
    · simp only [cleanupPass, hclean]
      exact .inl rfl
    · simp only [cleanupPass, hclean]
      exact .inr ⟨_, rfl, rfl⟩
  · rw [pass_of_strategy e strategy hcleanup]
    rcases hasked : e.converse (strategy.pass e.language r.session.rollback.forest r.state)
      r.session.rollback with ⟨failure | control, state, session⟩
    · simp only [strategyPass, hasked]
      exact .inl rfl
    · simp only [strategyPass, hasked]
      exact .inr ⟨_, rfl, rfl⟩

theorem progress_report {initial : Metrics} {report : Report}
    (h : r.report e strategy initial = .ok report) : report.progress = r.progress.reverse := by
  unfold Run.report at h
  split at h
  · cases h
  · split at h
    · cases h
    · cases h
      rfl

section Descending

variable (hlang : e.language.OfStatements) (hstrip : e.language.stripBlank = stripBlankLines)

include hlang hstrip

theorem Descending.cleanup (h : r.Descending) (checkpoint : Checkpoint) :
    (r.cleanup e checkpoint).2.Descending :=
  h.next hlang hstrip (reaches_cleanup checkpoint ⟨[], .start⟩) (noted_cleanup e checkpoint r)

theorem Descending.loop {settings : Settings} {fuel : Nat} (h : r.Descending)
    {outcome : Except Failure Unit}
    (hloop : Run.loop e strategy settings fuel r = some (outcome, after)) : after.Descending := by
  refine loop_preserves (motive := Run.Descending) (fun r h => ?_) (fun r h => ?_) h hloop
  · exact h.next hlang hstrip
      (reaches_pass (strategy.touches_any e.language) settings.cleanupInterval ⟨[], .start⟩)
      (noted_pass e strategy settings.cleanupInterval r)
  · exact h.next hlang hstrip ⟨[], .aside .start ⟨rfl, rfl, rfl, rfl⟩ (.inl rfl)⟩ (.inl rfl)

/-- What the report of a finished run says. -/
theorem Descending.finish {initial : Metrics} {report : Report} (h : r.Descending)
    (hfinish : r.finish e strategy initial = (.ok report, after)) :
    report.progress.Pairwise fun earlier later => later.metrics.nodes ≤ earlier.metrics.nodes := by
  have hcleaned := h.cleanup hlang hstrip .finalCleanup
  unfold Run.finish at hfinish
  rcases hclean : r.cleanup e .finalCleanup with ⟨failure | _, cleaned⟩
  · simp [hclean] at hfinish
  · rw [hclean] at hcleaned
    simp only [hclean] at hfinish
    have hreaches : e.Reaches (fun _ _ => True) cleaned.session
        (stripAll e (List.range cleaned.session.copies.length) cleaned.session).2 :=
      reaches_stripAll _ ⟨[], .start⟩
    rcases hstripped : stripAll e (List.range cleaned.session.copies.length) cleaned.session with
      ⟨failure | _, session⟩
    · simp [hstripped] at hfinish
    · rw [hstripped] at hreaches
      simp only [hstripped, Prod.mk.injEq] at hfinish
      rw [progress_report hfinish.1, List.pairwise_reverse]
      have hclosed : after.Descending :=
        hcleaned.next hlang hstrip (hfinish.2 ▸ hreaches.rollback) (hfinish.2 ▸ .inr ⟨_, rfl, rfl⟩)
      rw [← hfinish.2] at hclosed
      exact hclosed.progress

theorem Descending.runWithin {settings : Settings} {fuel : Nat} {report : Report} (h : r.Descending)
    (hrun : Run.runWithin e strategy settings fuel r = some (.ok report, after)) :
    report.progress.Pairwise fun earlier later => later.metrics.nodes ≤ earlier.metrics.nodes := by
  have hprepared := h.next hlang hstrip
    (reaches_prepare (strategy.touches_any e.language) ⟨[], .start⟩) (noted_prepare e strategy r)
  unfold Run.runWithin at hrun
  rcases hprepare : r.prepare e strategy with ⟨failure | _, prepared⟩
  · simp [hprepare] at hrun
  · rw [hprepare] at hprepared
    simp only [hprepare] at hrun
    have hrecorded : (prepared.record .start).Descending :=
      hprepared.next hlang hstrip ⟨[], .start⟩ (.inr ⟨_, rfl, rfl⟩)
    have hcleaned := hrecorded.cleanup hlang hstrip .initialCleanup
    rcases hclean : (prepared.record .start).cleanup e .initialCleanup with ⟨failure | _, cleaned⟩
    · simp [hclean] at hrun
    · rw [hclean] at hcleaned
      simp only [hclean] at hrun
      rcases hloop : Run.loop e strategy settings fuel cleaned with _ | ⟨failure | _, final⟩
      · simp [hloop] at hrun
      · simp [hloop] at hrun
      · simp only [hloop, Option.some.injEq] at hrun
        exact (hcleaned.loop hlang hstrip hloop).finish hlang hstrip hrun

end Descending

end Run

/-- Whatever a strategy asks for and whatever the invariant says, no operation brings more nodes;
hence the numbers of nodes in the report of a run never grow. -/
theorem nodeCount_never_grows (e : Engine σ) (settings : Settings) (mappings : List FileMapping)
    (files loaded : Files) (s : Session σ) (hlang : e.language.OfStatements)
    (hstrip : e.language.stripBlank = stripBlankLines)
    (hload : e.load settings mappings files = (.ok s, loaded)) :
    (∀ log t, e.History (fun _ _ => True) s log t →
      (∀ a, (e.attempt a t).2.forest.nodeCount ≤ t.forest.nodeCount) ∧
        ∀ d : Dialogue τ, (e.converse d t).2.2.forest.nodeCount ≤ t.forest.nodeCount) ∧
      ∀ (strategy : Strategy τ) fuel report r,
        Run.runWithin e strategy settings fuel { session := s, state := strategy.start } =
            some (.ok report, r) →
          report.progress.Pairwise fun earlier later =>
            later.metrics.nodes ≤ earlier.metrics.nodes := by
  have hs : s.Roomy := .of_load hlang hload
  constructor
  · intro log t hlog
    have ht := (hlog.roomy hlang hstrip hs).1
    constructor
    · intro a
      exact (ht.attempt hlang hstrip a).2
    · intro d
      have hstart : e.Reaches (fun _ _ => True) t t := ⟨[], .start⟩
      obtain ⟨log', hlog'⟩ := hstart.converse d.touches_any
      exact (hlog'.roomy hlang hstrip ht).2
  · intro strategy fuel report r hrun
    have hfirst : ({ session := s, state := strategy.start } : Run σ τ).Descending :=
      ⟨hs, by simp, .nil⟩
    exact hfirst.runWithin hlang hstrip hrun

/-- A strategy that removes a word by force, so that only the semicolon stays and the old tree with
it, and then removes by force what stands where the word stood. -/
def heedless : Script :=
  { passes := [[⟨.force [⟨.current, 0, 2⟩], true⟩, ⟨.cleanup, true⟩,
      ⟨.force [⟨.current, 0, 2⟩], true⟩, ⟨.finish .proceed, true⟩]] }

/-- Two units of which one does not parse for a while have no more nodes after each operation. -/
theorem nodeCount_heedless :
    let forced := (lenient.attempt (.force (.ofList [⟨0, 0, 2⟩])) (twoUnits [])).2
    forced.committed = [";", "b;"] ∧
      (lenient.attempt (.force (.ofList [⟨1, 0, 2⟩])) forced).2.forest.nodeCount ≤
        forced.forest.nodeCount ∧
      ∃ report r, Run.start lenient heedless.strategy {} (twoUnits []) = some (.ok report, r) ∧
        report.progress.Pairwise
          fun earlier later => later.metrics.nodes ≤ earlier.metrics.nodes := by
  intro forced
  have hload : lenient.load {} [⟨"a", "a.min"⟩, ⟨"b", "b.min"⟩] (twoTexts []) =
      (.ok (twoUnits []), (twoUnits []).files) := rfl
  obtain ⟨hoperations, hruns⟩ := nodeCount_never_grows lenient {} _ _ _ _
    Statement.ofStatements_language rfl hload
  have hends : ((Run.start lenient heedless.strategy {} (twoUnits [])).map fun result =>
      result.1.isOk) = some true := by decide +kernel
  obtain ⟨⟨outcome, r⟩, hrun, hok⟩ := Option.map_eq_some_iff.1 hends
  cases outcome with
  | error failure => cases hok
  | ok report =>
    refine ⟨by decide +kernel, ?_, report, r, hrun, hruns heedless.strategy _ report r hrun⟩
    exact (hoperations _ forced (.attempt .start _)).1 _

end SourceReducer
