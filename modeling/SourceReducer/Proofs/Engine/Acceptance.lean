import SourceReducer.Proofs.Engine.Coherence
import SourceReducer.Proofs.Engine.History

/-! Acceptance. The committed texts are those that were loaded or those of the attempt that was
committed last, which the invariant was found to hold of unless they were removed by force. Only an
attempt that breaks off while texts are promoted leaves others, and none does where the files of the
units are apart. -/
namespace SourceReducer

open Files

variable {σ τ : Type}

namespace Engine

/-- Whether an attempt committed something, in the session in which it was made. -/
def commits (e : Engine σ) (made : Attempt × Session σ) : Bool :=
  match (e.attempt made.1 made.2).1 with
  | .ok .proceed | .ok .stop => true
  | _ => false

/-- Whether an attempt ended with an error and changed committed texts all the same. -/
def BreaksOff (e : Engine σ) (made : Attempt × Session σ) : Prop :=
  (∃ failure, (e.attempt made.1 made.2).1 = .error failure) ∧
    (e.attempt made.1 made.2).2.committed ≠ made.2.committed

/-- Whether texts are those at the start if nothing was committed since, and otherwise the scratch
texts of the attempt that was committed last, which could be committed. -/
def AsCommitted (e : Engine σ) (start : Session σ) (log : List (Attempt × Session σ))
    (texts : List String) : Prop :=
  match log.find? e.commits with
  | none => texts = start.committed
  | some (a, s) => texts = (e.proposal a s).texts ∧ e.Approves a s

/-- What an attempt does to the committed texts. -/
theorem attempt_committed (e : Engine σ) (a : Attempt) {s : Session σ}
    (hunits : s.forest.unitCount = s.copies.length) :
    (e.commits (a, s) = true ∧ (e.attempt a s).2.stats.commits = s.stats.commits + 1 ∧
        e.Approves a s ∧ (e.attempt a s).2.committed = (e.proposal a s).texts) ∨
      e.commits (a, s) = false ∧ (e.attempt a s).2.stats.commits = s.stats.commits ∧
        ((e.attempt a s).2.committed = s.committed ∨
        e.BreaksOff (a, s) ∧ e.Approves a s ∧ ∃ count, (e.attempt a s).2.committed =
          (e.proposal a s).texts.take count ++ s.committed.drop count) := by
  have hproposed : (e.proposal a s).copies.map WorkingCopy.committed = s.committed :=
    committed_of_sameCommitted (e.sameCommitted_proposal a hunits)
  cases e.attempt_leaves a hunits with
  | refused reason houtcome hsame =>
    exact .inr ⟨by simp [commits, houtcome], hsame.commits, .inl (committed_of_sameCommitted hsame)⟩
  | committed houtcome happroves hcopies _ hcommits =>
    refine .inl ⟨?_, hcommits, happroves, ?_⟩
    · unfold commits
      rw [houtcome, answerTo]
      cases a.isChecked <;> rfl
    · rw [Session.committed, hcopies, List.map_map]
      rfl
  | failed failure count houtcome happroves hcopies _ hcommits =>
    refine .inr ⟨by simp [commits, houtcome], hcommits, ?_⟩
    have htexts : (e.attempt a s).2.committed =
        (e.proposal a s).texts.take count ++ s.committed.drop count := by
      rw [Session.committed, hcopies, committed_promotedUpTo, hproposed]
      rfl
    by_cases hsame : (e.attempt a s).2.committed = s.committed
    · exact .inl hsame
    · have hcount : count ≠ 0 := by
        rintro rfl
        exact hsame (by simpa using htexts)
      exact .inr ⟨⟨⟨failure, houtcome⟩, hsame⟩, happroves hcount, count, htexts⟩

namespace History

variable {e : Engine σ} {allowed : Files → Files → Prop} {start t : Session σ}
  {log : List (Attempt × Session σ)}

/-- The session counts the attempts that were committed. -/
theorem commits_eq (h : e.History allowed start log t)
    (hstart : start.forest.unitCount = start.copies.length) :
    t.stats.commits = start.stats.commits + log.countP e.commits := by
  induction h with
  | start => rfl
  | @attempt log s h a ih =>
    rcases e.attempt_committed a (h.unitCount hstart) with ⟨hcommits, hcount, -⟩ |
        ⟨hcommits, hcount, -⟩
    · rw [hcount, ih, List.countP_cons_of_pos hcommits]
      omega
    · rw [hcount, ih, List.countP_cons_of_neg (by simpa using hcommits)]
  | aside _ hsame _ ih => rw [hsame.commits, ih]

/-- The committed texts as a whole, as long as no attempt has broken off since the last commit. -/
theorem asCommitted (h : e.History allowed start log t)
    (hstart : start.forest.unitCount = start.copies.length)
    (hwhole : ∀ made ∈ log.takeWhile (fun made => !e.commits made), ¬e.BreaksOff made) :
    e.AsCommitted start log t.committed := by
  induction h with
  | start => exact rfl
  | @attempt log s h a ih =>
    unfold AsCommitted
    rcases e.attempt_committed a (h.unitCount hstart) with ⟨hcommits, -, happroves, htexts⟩ |
        ⟨hcommits, -, hkept⟩
    · rw [List.find?_cons_of_pos hcommits]
      exact ⟨htexts, happroves⟩
    · rw [List.takeWhile_cons_of_pos (by simpa using hcommits)] at hwhole
      rw [List.find?_cons_of_neg (by simpa using hcommits)]
      have hsame : (e.attempt a s).2.committed = s.committed := by
        rcases hkept with hsame | ⟨hbreaks, -⟩
        · exact hsame
        · exact absurd hbreaks (hwhole _ List.mem_cons_self)
      rw [hsame]
      exact ih fun made hmade => hwhole made (List.mem_cons_of_mem _ hmade)
  | aside _ hsame _ ih =>
    rw [Session.committed, committed_of_sameCommitted hsame]
    exact ih hwhole

/-- Each committed text by itself, whatever happened: it was there at the start, or it is a scratch
text of an attempt that could be committed. -/
theorem text_approved (h : e.History allowed start log t)
    (hstart : start.forest.unitCount = start.copies.length) {unit : Nat} {text : String}
    (htext : t.committed[unit]? = some text) :
    start.committed[unit]? = some text ∨
      ∃ made ∈ log, e.Approves made.1 made.2 ∧
        (e.proposal made.1 made.2).texts[unit]? = some text := by
  induction h with
  | start => exact .inl htext
  | @attempt log s h a ih =>
    have hearlier (hold : s.committed[unit]? = some text) : start.committed[unit]? = some text ∨
        ∃ made ∈ (a, s) :: log, e.Approves made.1 made.2 ∧
          (e.proposal made.1 made.2).texts[unit]? = some text := by
      rcases ih hold with hfirst | ⟨made, hmade, hrest⟩
      · exact .inl hfirst
      · exact .inr ⟨made, List.mem_cons_of_mem _ hmade, hrest⟩
    rcases e.attempt_committed a (h.unitCount hstart) with ⟨-, -, happroves, htexts⟩ |
        ⟨-, -, hsame | ⟨-, happroves, count, htexts⟩⟩
    · rw [htexts] at htext
      exact .inr ⟨(a, s), List.mem_cons_self, happroves, htext⟩
    · rw [hsame] at htext
      exact hearlier htext
    · have hlength : (e.proposal a s).texts.length = s.committed.length := by
        rw [Session.texts, List.length_map, List.length_map,
          e.length_proposal a (h.unitCount hstart)]
      rw [htexts, List.getElem?_append] at htext
      -- the units before `count` were promoted, the others were not
      split at htext
      · next hlt =>
        rw [List.length_take] at hlt
        rw [List.getElem?_take_of_lt (by omega)] at htext
        exact .inr ⟨(a, s), List.mem_cons_self, happroves, htext⟩
      · next hge =>
        rw [List.length_take] at hge htext
        rw [List.getElem?_drop] at htext
        have hbound : unit < s.committed.length ∧ count ≤ unit := by
          have hlt := (List.getElem?_eq_some_iff.1 htext).1
          omega
        have hindex : count + (unit - min count (e.proposal a s).texts.length) = unit := by omega
        rw [hindex] at htext
        exact hearlier htext
  | aside _ hsame _ ih =>
    rw [Session.committed, committed_of_sameCommitted hsame] at htext
    exact ih htext

end History

end Engine

/-! Units whose files are apart. -/

/-- Whether a change of files leaves those at some paths alone, where these are apart. -/
def Files.Sparing (paths : List String) (f g : Files) : Prop :=
  f.Apart paths → f.Spared paths g

namespace Coherent

variable {origin : Files} {s : Session σ}

/-- Where installing ends with an error, nothing was promoted. -/
theorem install_error (h : Coherent origin s) (tree? : WorkingCopy → Option Tree)
    {failure : Failure} (herror : (Engine.install s (s.copies.map tree?)).1 = .error failure) :
    (Engine.install s (s.copies.map tree?)).2.copies = s.copies := by
  rcases hstage : stageAll s.copies s.files with ⟨failure | staged, written⟩
  · rw [Engine.install_of_error hstage]
  · obtain ⟨files, hpromote, -⟩ := h.of_staged tree? hstage
    rw [Engine.install_of_ok hstage hpromote] at herror
    cases herror

/-- No attempt breaks off. -/
theorem not_breaksOff (h : Coherent origin s) (e : Engine σ) (a : Attempt)
    (hspares : e.invariant.Spares (unitPaths s.copies)) : ¬e.BreaksOff (a, s) := by
  rintro ⟨⟨failure, herror⟩, hchanged⟩
  apply hchanged
  have hunits : s.forest.unitCount = s.copies.length := by simp [Forest.unitCount, h.forest]
  have hprop := e.sameCommitted_proposal a hunits
  simp only at herror ⊢
  rcases e.attempt_cases a s with ⟨nodes, rfl, -, hattempt⟩ | ⟨-, -, hattempt⟩ |
      ⟨nodes, rfl, hattempt⟩
  · rw [hattempt] at herror
    cases herror
  · have hcheck := hprop.trans (e.sameCommitted_check (e.proposal a s))
    have hfiles : s.files.Spared (unitPaths s.copies) (e.check (e.proposal a s)).2.files := by
      rw [← e.files_proposal a s]
      exact hspares _ _ _ _ (e.files_proposal a s ▸ h.apart)
    rcases e.attemptCommit_cases (e.proposal a s) with
      ⟨failure', -, hcommit⟩ | ⟨reason, -, hcommit⟩ | ⟨trees, -, hparse, hcommit⟩
    · rw [hattempt, hcommit]
      exact committed_of_sameCommitted hcheck
    · rw [hattempt, hcommit] at herror
      cases herror
    · obtain ⟨htrees, -⟩ := parseAll_eq_ok hparse
      have hchecked := h.of_sameCommitted hcheck hfiles
      rw [hattempt, hcommit, htrees] at herror ⊢
      have hcopies : (e.check (e.proposal a s)).2.copies = (e.proposal a s).copies := rfl
      rw [← hcopies] at herror ⊢
      rcases hinstall : Engine.install (e.check (e.proposal a s)).2
          ((e.check (e.proposal a s)).2.copies.map
            fun c => (c.parseScratch e.language).toOption) with ⟨failure' | _, after⟩
      · have hkept := hchecked.install_error _ (congrArg Prod.fst hinstall)
        rw [hinstall] at hkept ⊢
        rw [Session.committed, hkept]
        exact committed_of_sameCommitted hcheck
      · rw [hinstall] at herror
        cases herror
  · have hproposed : Coherent origin (e.proposal (.force nodes) s) :=
      h.of_sameCommitted hprop (Spared.refl _ h.apart.wellFormed)
    rw [hattempt] at herror ⊢
    rcases hinstall : Engine.install (e.proposal (.force nodes) s)
        ((e.proposal (.force nodes) s).copies.map
          fun c => (c.parseScratch e.language).toOption) with ⟨failure' | _, after⟩
    · have hkept := hproposed.install_error _ (congrArg Prod.fst hinstall)
      rw [hinstall] at hkept ⊢
      rw [Session.committed, hkept]
      exact committed_of_sameCommitted hprop
    · rw [hinstall] at herror
      cases herror

end Coherent

/-- What is known along a history of units whose files are apart. -/
theorem Engine.History.coherent {e : Engine σ} {origin : Files} {start t : Session σ}
    {log : List (Attempt × Session σ)}
    (h : e.History (Files.Sparing (unitPaths start.copies)) start log t)
    (hstart : Coherent origin start) (hspares : e.invariant.Spares (unitPaths start.copies)) :
    Coherent origin t ∧ t.copies.map WorkingCopy.paths = start.copies.map WorkingCopy.paths ∧
      ∀ made ∈ log, ¬e.BreaksOff made := by
  induction h with
  | start => exact ⟨hstart, rfl, by simp⟩
  | @attempt log s _ a ih =>
    obtain ⟨hcoherent, hpaths, hwhole⟩ := ih
    have hunits : s.forest.unitCount = s.copies.length := by
      simp [Forest.unitCount, hcoherent.forest]
    have hspares' : e.invariant.Spares (unitPaths s.copies) := by
      rwa [unitPaths_congr hpaths]
    refine ⟨(e.coherent_attempt a hcoherent hspares').1, (e.paths_attempt a hunits).trans hpaths,
      ?_⟩
    intro made hmade
    rcases List.mem_cons.1 hmade with rfl | hmade
    · exact hcoherent.not_breaksOff e a hspares'
    · exact hwhole made hmade
  | @aside log s t _ hsame hfiles ih =>
    obtain ⟨hcoherent, hpaths, hwhole⟩ := ih
    have hspared : s.files.Spared (unitPaths s.copies) t.files := by
      rcases hfiles with heq | hsparing
      · rw [heq]
        exact Spared.refl _ hcoherent.apart.wellFormed
      · rw [unitPaths_congr hpaths]
        exact hsparing (unitPaths_congr hpaths ▸ hcoherent.apart)
    exact ⟨hcoherent.of_sameCommitted hsame hspared, hsame.paths.trans hpaths, hwhole⟩

/-- Runs of a loaded session with any strategy are histories, in which the session counts the
commits. At every point of a history the committed texts are those that were loaded or those of the
last commit, which parse and which the invariant was found to hold of in time unless something was
removed by force; other texts are there only if an attempt broke off since, and each of them by
itself is one of these even so. Where the files of the units are apart and are left alone and
renames succeed, no attempt breaks off, and the working files hold the committed texts. -/
theorem committed_texts_were_accepted (e : Engine σ) (strategy : Strategy τ) (settings : Settings)
    (mappings : List FileMapping) (files loaded : Files) (s : Session σ)
    (hload : e.load settings mappings files = (.ok s, loaded)) :
    (∀ allowed, strategy.Touches e.language allowed →
      (∀ r, Run.Between e strategy settings s r → ∃ log, e.History allowed s log r.session) ∧
      ∀ fuel outcome r,
        Run.runWithin e strategy settings fuel { session := s, state := strategy.start } =
          some (outcome, r) → ∃ log, e.History allowed s log r.session) ∧
    (∀ allowed log t, e.History allowed s log t →
      t.stats.commits = s.stats.commits + log.countP e.commits ∧
      ((∀ made ∈ log.takeWhile (fun made => !e.commits made), ¬e.BreaksOff made) →
        e.AsCommitted s log t.committed) ∧
      ∀ (unit : Nat) (text : String), t.committed[unit]? = some text →
        s.committed[unit]? = some text ∨
          ∃ made ∈ log, e.Approves made.1 made.2 ∧
            (e.proposal made.1 made.2).texts[unit]? = some text) ∧
    (files.WellFormed → UnitsApart s → e.invariant.Spares (unitPaths s.copies) →
      loaded.RenamesSucceed → ∀ log t, e.History (Files.Sparing (unitPaths s.copies)) s log t →
        e.AsCommitted s log t.committed ∧
          mappings.map (fun m => t.files.readText m.output) = t.committed.map .ok) := by
  have hunits : s.forest.unitCount = s.copies.length := by
    simp [Forest.unitCount, (Engine.load_eq_ok hload).2.2.2]
  refine ⟨?_, ?_, fun hfiles hapart hspares hrenames log t h => ?_⟩
  · intro allowed htouches
    exact ⟨fun r hr => hr.reaches htouches,
      fun fuel outcome r hr => Run.reaches_runWithin htouches hr⟩
  · intro allowed log t h
    exact ⟨h.commits_eq hunits, h.asCommitted hunits,
      fun unit text htext => h.text_approved hunits htext⟩
  obtain ⟨hcoherent, -, houtputs⟩ := Engine.coherent_load hfiles hload hapart hrenames
  obtain ⟨hfinal, hpaths, hwhole⟩ := h.coherent hcoherent hspares
  refine ⟨h.asCommitted hunits fun made hmade => hwhole made (List.takeWhile_subset _ hmade), ?_⟩
  have hworking : t.copies.map WorkingCopy.path = mappings.map FileMapping.output := by
    have hfst := congrArg (List.map Prod.fst) hpaths
    rw [List.map_map, List.map_map] at hfst
    exact hfst.trans houtputs
  calc mappings.map (fun m => t.files.readText m.output)
      = (mappings.map FileMapping.output).map t.files.readText := by rw [List.map_map]; rfl
    _ = t.copies.map fun c => t.files.readText c.path := by rw [← hworking, List.map_map]; rfl
    _ = t.copies.map fun c => .ok c.committed := List.map_congr_left fun c hc =>
        readText_of_held? (hfinal.apart.unlinked _ (path_mem_unitPaths hc)) (hfinal.working c hc)
    _ = t.committed.map .ok := by rw [List.map_map]; rfl

/-- A greedy run of two units ends with the texts of its last commit in the working files. -/
theorem greedy_run_twoUnits :
    ∃ outcome r log, Run.start lenient Greedy.strategy {} (twoUnits []) = some (outcome, r) ∧
      lenient.History (Files.Sparing (unitPaths (twoUnits []).copies)) (twoUnits []) log r.session ∧
      lenient.AsCommitted (twoUnits []) log r.session.committed ∧
      [⟨"a", "a.min"⟩, (⟨"b", "b.min"⟩ : FileMapping)].map
        (fun m => r.session.files.readText m.output) = r.session.committed.map .ok := by
  have hload : lenient.load {} [⟨"a", "a.min"⟩, ⟨"b", "b.min"⟩] (twoTexts []) =
      (.ok (twoUnits []), (twoUnits []).files) := rfl
  have hwellFormed : (twoTexts []).WellFormed := wellFormed_of_entries (by decide +kernel)
  have hspares : lenient.invariant.Spares (unitPaths (twoUnits []).copies) :=
    spares_ofPredicate "any" (fun _ _ => true) _
  obtain ⟨hruns, -, hapart⟩ :=
    committed_texts_were_accepted lenient Greedy.strategy {} _ _ _ _ hload
  have hends : (Run.start lenient Greedy.strategy {} (twoUnits [])).isSome = true := by
    decide +kernel
  obtain ⟨⟨outcome, r⟩, hrun⟩ := Option.isSome_iff_exists.1 hends
  obtain ⟨log, hlog⟩ := (hruns (Files.Sparing (unitPaths (twoUnits []).copies))
    ((Greedy.shrinking lenient.language).touches _)).2 _ outcome r hrun
  obtain ⟨hcommitted, hworking⟩ := hapart hwellFormed (unitsApart_twoUnits {}) hspares (by decide)
    log _ hlog
  exact ⟨outcome, r, log, hrun, hlog, hcommitted, hworking⟩

/-- The staged files of two units may be one file, and a staged file may be a working file. In the
first case a removal from both units breaks off after the first one, although nothing was committed;
in the second one a layout is committed, but the second working file holds the text of the first
unit and the first one is gone. -/
theorem commits_over_shared_files :
    (lenient.load { stagingSuffix := "x/../s" } [⟨"a", "a.min"⟩, ⟨"b", "b.min"⟩]
        (twoTexts [(["w", "a.min.x"], .directory), (["w", "b.min.x"], .directory)])).1.toOption.map
      (fun s =>
        let a := Attempt.remove (.ofList [⟨0, 0, 1⟩, ⟨0, 1, 1⟩])
        (s.committed, (lenient.proposal a s).texts, (lenient.attempt a s).2.committed,
          (lenient.attempt a s).2.stats.commits)) =
      some (["a;", "b;"], ["", ""], ["", "b;"], 0) ∧
    (lenient.load {} [⟨"a", "x.scm-staged"⟩, ⟨"b", "x"⟩] (twoTexts [])).1.toOption.map
      (fun s =>
        let t := (lenient.attempt .cleanup s).2
        (t.committed, t.stats.commits, (t.files.readText "x.scm-staged").toOption,
          (t.files.readText "x").toOption)) =
      some (["a;\n", "b;\n"], 1, none, some "a;\n") := by
  constructor
  · decide +kernel
  · decide +kernel

end SourceReducer
