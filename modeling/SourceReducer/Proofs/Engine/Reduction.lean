import SourceReducer.CommandLine.Execute
import SourceReducer.Proofs.Engine.Outset
import SourceReducer.Proofs.Engine.WholeRun

/-! What a run achieves. From inputs that parse and satisfy a predicate of their tokens, both
strategies leave texts in the working files that still do, that are laid out, and from which no
single node can be removed. -/
namespace SourceReducer

open Files

variable {σ τ : Type}

/-- Whether the working files of mappings hold texts that are acceptable, laid out and minimal. -/
structure Reduced (P : List String → Bool) (mappings : List FileMapping) (files : Files)
    (texts : List String) : Prop where
  working : mappings.map (fun m => files.readText m.output) = texts.map .ok
  accepted : Accepted Statement.language P texts
  canonical : ∀ text ∈ texts, Statement.language.reformat text = text
  minimal : OneMinimal P texts

theorem Sound.working {base : Files} {mappings : List FileMapping} {suffix : String}
    {P : List String → Bool} {s : Session σ} (hs : Sound base (sitesFrom suffix 0 mappings) P s)
    (hcommits : 1 < s.stats.commits) :
    mappings.map (fun m => s.files.readText m.output) =
      (s.copies.map WorkingCopy.committed).map .ok := by
  have hpaths : s.copies.map WorkingCopy.path = mappings.map FileMapping.output := by
    have := congrArg (List.map Prod.fst) hs.paths
    rw [map_fst_sitesFrom] at this
    simpa [Function.comp_def, WorkingCopy.paths] using this
  calc mappings.map (fun m => s.files.readText m.output)
      = (mappings.map FileMapping.output).map s.files.readText := by rw [List.map_map]; rfl
    _ = s.copies.map fun c => s.files.readText c.path := by rw [← hpaths, List.map_map]; rfl
    _ = s.copies.map fun c => .ok c.committed :=
        List.map_congr_left fun c hc => hs.settled hcommits c hc
    _ = (s.copies.map WorkingCopy.committed).map .ok := by rw [List.map_map]; rfl

section Run

variable {c : Config} {inv : Invariant σ} {P : List String → Bool} {files : Files}
  {texts : List String}

/-- Whether a fault of a file ended a run. -/
def RunFault.OfFile (fault : RunFault) : Prop :=
  ∃ path cause, fault = .load (.file path cause) ∨ fault = .run (.file path cause)

/-- Whether a run of a configuration with a strategy reports and ends in a session. -/
def Config.EndsIn (c : Config) (inv : Invariant σ) (strategy : Strategy τ) (files : Files)
    (report : Report) (s : Session σ) : Prop :=
  let e : Engine σ :=
    { language := Statement.language, invariant := inv, limit := c.settings.checkTimeout }
  ∃ start loaded after, e.load c.settings c.files files = (.ok start, loaded) ∧
    Run.start e strategy c.settings start = some (.ok report, after) ∧ after.session = s

theorem Config.EndsIn.runWith {strategy : Strategy τ} {report : Report} {s : Session σ}
    (h : c.EndsIn inv strategy files report s) :
    c.runWith inv strategy files = (.ok report, s.files) := by
  obtain ⟨start, loaded, after, hload, hstart, rfl⟩ := h
  simp only [Config.runWith, hload, hstart]

/-- A run with a thorough strategy ends with a fault of a file or in a session whose texts are
acceptable, laid out and minimal. -/
theorem Config.endsIn_cases {strategy : Strategy τ} (hstrategy : strategy.Thorough)
    (hfiles : files.WellFormed) (hsetup : checkSetup c.settings c.files files = .ok ())
    (hpasses : c.settings.maxPasses = none)
    (hdecides : inv.DecidesIn Statement.language c.settings.checkTimeout P)
    (htokens : TokensDecide P)
    (hinputs : c.files.map (fun m => files.readText m.input) = texts.map .ok)
    (haccepted : Accepted Statement.language P texts)
    (hstaged : StagedApart files c.settings.stagingSuffix c.files) :
    (∃ fault final, c.runWith inv strategy files = (.error fault, final) ∧ fault.OfFile) ∨
      ∃ report base s, c.EndsIn inv strategy files report s ∧
        Sound base (sitesFrom c.settings.stagingSuffix 0 c.files) P s ∧ 1 < s.stats.commits ∧
        OneMinimal P s.committed ∧ ∀ text ∈ s.committed, Statement.reformat text = text := by
  have he : Engine.Decided
      { language := Statement.language, invariant := inv, limit := c.settings.checkTimeout } P :=
    ⟨rfl, hdecides, htokens⟩
  rcases Engine.load_sound he.language hfiles hsetup hinputs haccepted hstaged with
    ⟨path, cause, hfault⟩ | ⟨s, loaded, hload, hapart, hs⟩
  · rcases hload : Engine.load
      { language := Statement.language, invariant := inv, limit := c.settings.checkTimeout }
      c.settings c.files files with ⟨outcome, loaded⟩
    rw [hload] at hfault
    simp only at hfault
    subst hfault
    simp only [Config.runWith, hload]
    exact .inl ⟨_, loaded, rfl, path, cause, .inl rfl⟩
  · obtain ⟨outcome, after, hstart, hcases⟩ :=
      Run.start_cases he hapart hstrategy (checkSetup_eq_ok hsetup).1 hpasses hs
    rcases hcases with ⟨path, cause, rfl⟩ | ⟨report, rfl, hsound, hcommits, hminimal, hcanonical⟩
    · simp only [Config.runWith, hload, hstart]
      exact .inl ⟨_, _, rfl, path, cause, .inr rfl⟩
    · exact .inr ⟨report, _, after.session, ⟨s, loaded, after, hload, hstart, rfl⟩, hsound,
        hcommits, hminimal, hcanonical⟩

/-- A run with a thorough strategy ends with a fault of a file or with reduced texts. -/
theorem Config.runWith_cases {strategy : Strategy τ} (hstrategy : strategy.Thorough)
    (hfiles : files.WellFormed) (hsetup : checkSetup c.settings c.files files = .ok ())
    (hpasses : c.settings.maxPasses = none) (hdecides : inv.Decides c.settings.checkTimeout P)
    (htokens : TokensDecide P)
    (hinputs : c.files.map (fun m => files.readText m.input) = texts.map .ok)
    (haccepted : Accepted Statement.language P texts)
    (hstaged : StagedApart files c.settings.stagingSuffix c.files) :
    (∃ fault final, c.runWith inv strategy files = (.error fault, final) ∧ fault.OfFile) ∨
      ∃ report final texts', c.runWith inv strategy files = (.ok report, final) ∧
        Reduced P c.files final texts' := by
  rcases Config.endsIn_cases hstrategy hfiles hsetup hpasses (hdecides _) htokens hinputs
    haccepted hstaged with hfault | ⟨report, base, s, hends, hsound, hcommits, hminimal, hcanonical⟩
  · exact .inl hfault
  · exact .inr ⟨report, s.files, s.committed, hends.runWith, hsound.working hcommits,
      hsound.accepted, hcanonical, hminimal⟩

end Run

/-- A run of either strategy on inputs that parse and satisfy a predicate of their tokens reports,
unless a file fails, and leaves texts in the working files that parse and satisfy the predicate,
that are laid out, and from which no single node can be removed. -/
theorem run_leaves_reduced_texts (c : Config) (inv : Invariant σ) (P : List String → Bool)
    (files : Files) (texts : List String) (hfiles : files.WellFormed)
    (hsetup : checkSetup c.settings c.files files = .ok ()) (hpasses : c.settings.maxPasses = none)
    (hdecides : inv.Decides c.settings.checkTimeout P) (htokens : TokensDecide P)
    (hinputs : c.files.map (fun m => files.readText m.input) = texts.map .ok)
    (haccepted : Accepted Statement.language P texts)
    (hstaged : StagedApart files c.settings.stagingSuffix c.files)
    (hfaults : ∀ fault final, c.runStrategy inv files = (.error fault, final) → ¬fault.OfFile) :
    ∃ report final texts', c.runStrategy inv files = (.ok report, final) ∧
      Reduced P c.files final texts' := by
  have hcases : (∃ fault final, c.runStrategy inv files = (.error fault, final) ∧ fault.OfFile) ∨
      ∃ report final texts', c.runStrategy inv files = (.ok report, final) ∧
        Reduced P c.files final texts' := by
    unfold Config.runStrategy
    cases c.strategy with
    | greedy =>
      exact Config.runWith_cases Greedy.thorough hfiles hsetup hpasses hdecides htokens hinputs
        haccepted hstaged
    | ddmin =>
      exact Config.runWith_cases Ddmin.thorough hfiles hsetup hpasses hdecides htokens hinputs
        haccepted hstaged
  rcases hcases with ⟨fault, final, hrun, hfault⟩ | hreduced
  · exact absurd hfault (hfaults fault final hrun)
  · exact hreduced

/-! Two texts of which one word has to stay. -/

/-- Whether one of the texts has the word. -/
def hasWordB (texts : List String) : Bool :=
  texts.any fun text => (Statement.lexemes text.toList).contains ['b']

/-- Two texts that are reduced with delta debugging. -/
def twoInputs : Config :=
  { files := [⟨"a", "a.min"⟩, ⟨"b", "b.min"⟩] }

def twoInputFiles : Files :=
  { entries := [(["w"], .directory), (["w", "a"], .file 0), (["w", "b"], .file 1)]
    contents := #[.text "a;", .text "\x7b c d; \x7d\n\nb c;"], here := ["w"] }

def keepsWordB : Invariant Tally :=
  Invariant.ofPredicate "has b" fun _ candidate => hasWordB candidate.texts

theorem tokensDecide_hasWordB : TokensDecide hasWordB := by
  intro texts texts' hsame
  have hany (texts : List String) : hasWordB texts =
      (texts.map fun text => Statement.lexemes text.toList).any
        fun words => words.contains ['b'] := by
    simp [hasWordB, List.any_map, Function.comp_def]
  rw [hany, hany, hsame]

theorem stagedApart_twoInputs :
    StagedApart twoInputFiles twoInputs.settings.stagingSuffix twoInputs.files := by
  have hapart : ∀ unit < 2, ∀ m ∈ twoInputs.files, ∀ other ∈ twoInputs.files,
      ¬twoInputFiles.Coincide Files.slot? (stagedPathOf unit m.output "scm-staged")
        other.output := by
    decide +kernel
  intro unit m hm other hother
  exact hapart unit (List.getElem?_eq_some_iff.1 hm).1 m (List.mem_of_getElem? hm) other hother

/-- All that is left of the two texts is the statement of the one word. -/
theorem run_twoInputs :
    (∃ report final texts, twoInputs.runStrategy keepsWordB twoInputFiles = (.ok report, final) ∧
      Reduced hasWordB twoInputs.files final texts) ∧
    ((twoInputs.runStrategy keepsWordB twoInputFiles).2.readText "b.min").toOption =
      some "b;\n" := by
  have hwellFormed : twoInputFiles.WellFormed := wellFormed_of_entries (by decide +kernel)
  have hdecides : keepsWordB.Decides none hasWordB :=
    fun _ => ⟨fun _ _ _ _ => rfl, fun _ _ _ => rfl, fun _ state => ⟨state, rfl⟩, fun _ => ⟨_, rfl⟩⟩
  have haccepted : Accepted Statement.language hasWordB ["a;", "\x7b c d; \x7d\n\nb c;"] := by
    unfold Accepted
    decide +kernel
  have hok : (twoInputs.runStrategy keepsWordB twoInputFiles).1.isOk = true := by decide +kernel
  refine ⟨run_leaves_reduced_texts twoInputs keepsWordB hasWordB twoInputFiles _ hwellFormed rfl rfl
    hdecides tokensDecide_hasWordB rfl haccepted stagedApart_twoInputs
    fun fault final hrun => ?_, ?_⟩
  · rw [hrun] at hok
    cases hok
  · decide +kernel

end SourceReducer
