import SourceReducer.Proofs.Engine.Reduction

/-! Runs in which the texts only have to parse. A block or a statement can be cut out of any
program, so what cannot be reduced any more is the empty program: both strategies leave every
working file empty. -/
namespace SourceReducer

open Files

variable {σ τ : Type}

namespace Statement

/-! Programs without some of their blocks and statements. -/

theorem pruneWords_false (base : Nat) (words : List Word) :
    pruneWords (fun _ => false) base words = words := by
  induction words generalizing base with
  | nil => rfl
  | cons w words ih => simp [pruneWords, ih]

theorem pruneItems_false (base : Nat) (items : List Item) :
    pruneItems (fun _ => false) base items = items := by
  induction items using items_induction generalizing base with
  | nil => rfl
  | block start close body rest hbody hrest => simp [pruneItems, Item.prune, hbody, hrest]
  | statement words close rest hrest => simp [pruneItems, Item.prune, pruneWords_false, hrest]

theorem exists_child_of_complete {items : List Item} (h : ∀ item ∈ items, item.Complete)
    {r : Numbered} {parent base : Nat} (hr : r ∈ itemsNumbered parent base items)
    (hkind : r.node.kind = "statement") : ∃ j, j ∈ r.node.children := by
  have hclosed : DownClosed (fun _ => false) (itemsNumbered parent base items) := by
    intro r' _ hgone
    cases hgone
  rw [← pruneItems_false base items, complete_pruneItems hclosed] at h
  obtain ⟨j, hj, -⟩ := h r hr hkind rfl
  exact ⟨j, hj⟩

/-- Words go with their statement only, unless they are chosen. -/
theorem keepsWords_of_no_word {size : Nat} {items : List Item} (h : ∀ item ∈ items, item.Complete)
    {chosen : List Nat}
    (hchosen : ∀ i ∈ chosen, ((treeOf size items).node? i).map Node.kind ≠ some "word") :
    KeepsWords (treeOf size items) chosen := by
  intro i node hnode hkind hunder
  obtain ⟨r, hr, rfl, rfl⟩ := node?_treeOf.1 hnode
  rcases List.mem_cons.1 hr with rfl | hitems
  · simp at hkind
  · obtain ⟨j, hj⟩ := exists_child_of_complete h hitems hkind
    obtain ⟨r', hr', rfl, hword, hparent⟩ := children_of_statement hitems hkind hj
    have hrow : r' ∈ programNumbered size items := List.mem_cons_of_mem _ hr'
    have hnode' : (treeOf size items).node? r'.index = some r'.node :=
      node?_treeOf.2 ⟨r', hrow, rfl, rfl⟩
    refine ⟨r'.index, hj, by simp [hnode', hword], ?_⟩
    -- the way up from the word goes through its statement, where no chosen node is found
    by_contra hnot
    simp only [Tree.isUnder, Bool.not_eq_false, List.any_eq_true, List.contains_iff_mem] at hnot
    obtain ⟨k, hk, hmem⟩ := hnot
    rcases (Tree.mem_lineage (parentsFirst_treeOf size items)).1 hk with rfl | ⟨p, hp, hup⟩
    · exact hchosen _ hmem (by simp [hnode', hword])
    · rw [parent?_treeOf hrow, hparent] at hp
      obtain rfl : r.index = p := Option.some.inj hp
      have : (treeOf size items).isUnder chosen r.index = true := by
        simp only [Tree.isUnder, List.any_eq_true, List.contains_iff_mem]
        exact ⟨k, hup, hmem⟩
      rw [this] at hunder
      cases hunder

/-- A text without some of its blocks and statements parses. -/
theorem parse_exciseSpans_of_no_word {text : String} {t : Tree} (h : parse text = .ok t)
    {chosen : List Nat} (hchosen : ∀ i ∈ chosen, (t.node? i).map Node.kind ≠ some "word") :
    (parse (exciseSpans text t chosen)).isOk = true := by
  obtain ⟨items, hread, rfl⟩ := parse_eq_ok_iff.1 h
  have hkeeps := keepsWords_of_no_word (readProgram_sound hread).2 hchosen
  obtain ⟨items', hread'⟩ := (readProgram_exciseSpans hread chosen).1.2
    ((complete_pruneItems_iff_keepsWords _ items chosen).2 hkeeps)
  rw [parse_eq_ok_iff.2 ⟨items', hread', rfl⟩]
  rfl

/-- The first node below the root is no word. -/
theorem kind_first_ne_word (size : Nat) (items : List Item) :
    ((treeOf size items).node? 1).map Node.kind ≠ some "word" := by
  rcases items with _ | ⟨item, rest⟩
  · simp [treeOf, Tree.node?, programNumbered, itemsNumbered]
  · cases item <;> simp [treeOf, Tree.node?, programNumbered, itemsNumbered, Item.numbered]

/-- A text that is laid out is empty if its tree is a root. -/
theorem eq_empty_of_size {text : String} {t : Tree} (h : parse text = .ok t) (hsize : t.size = 1)
    (hcanonical : reformat text = text) : text = "" := by
  obtain ⟨items, hread, rfl⟩ := parse_eq_ok_iff.1 h
  have hnil : items = [] := by
    rcases items with _ | ⟨item, rest⟩
    · rfl
    · cases item <;> simp [itemsSize, Item.size] at hsize
  subst hnil
  rw [← hcanonical, reformat, hread]
  rfl

end Statement

/-- Whether all texts parse. -/
def allParse (texts : List String) : Bool :=
  texts.all fun text => (Statement.parse text).isOk

theorem tokensDecide_allParse : TokensDecide allParse := by
  intro texts texts' hsame
  rw [Bool.eq_iff_iff]
  simp only [allParse, List.all_eq_true]
  constructor
  · exact parses_congr hsame
  · exact parses_congr hsame.symm

theorem decidesIn_parseable (limit : Option Nat) :
    Invariant.parseable.DecidesIn Statement.language limit allParse where
  verdict candidate state files hlanguage := by
    have hall : candidate.allParse = allParse candidate.texts := by
      simp only [Candidate.allParse, allParse, Candidate.texts, List.all_map, hlanguage]
      rfl
    rw [← hall]
    rfl
  files _ _ _ := rfl
  prepare _ state := ⟨state, rfl⟩
  statistics _ := ⟨_, rfl⟩

/-- If no node can be removed from texts that only have to parse, their trees are roots. -/
theorem OneMinimal.size_eq_one {texts : List String} (h : OneMinimal allParse texts)
    (hparses : ∀ text ∈ texts, (Statement.parse text).isOk = true) {text : String} {tree : Tree}
    (htext : text ∈ texts) (hparse : Statement.parse text = .ok tree) : tree.size = 1 := by
  obtain ⟨items, hread, rfl⟩ := Statement.parse_eq_ok_iff.1 hparse
  obtain ⟨unit, hunit⟩ := List.mem_iff_getElem?.1 htext
  by_contra hsize
  have hlt : 1 < (Statement.treeOf (byteSize text.toList) items).size := by
    rw [Statement.size_treeOf] at hsize ⊢
    omega
  apply h unit text _ hunit hparse 1 (by omega) hlt
  have hcut : (Statement.parse (exciseSpans text
      (Statement.treeOf (byteSize text.toList) items) [1])).isOk = true := by
    apply Statement.parse_exciseSpans_of_no_word hparse
    intro i hi
    rw [List.mem_singleton.1 hi]
    exact Statement.kind_first_ne_word _ items
  have hall : ∀ text' ∈ texts.set unit (exciseSpans text
      (Statement.treeOf (byteSize text.toList) items) [1]),
      (Statement.parse text').isOk = true := by
    intro text' htext'
    rcases List.mem_or_eq_of_mem_set htext' with hmem | rfl
    · exact hparses text' hmem
    · exact hcut
  exact ⟨List.all_eq_true.2 hall, hall⟩

section Run

variable {c : Config} {files : Files} {texts : List String}

/-- Whether a run of a configuration with its strategy reports and ends in a session. -/
def Config.Ends (c : Config) (inv : Invariant σ) (files : Files) (report : Report) (s : Session σ) :
    Prop :=
  match c.strategy with
  | .greedy => c.EndsIn inv Greedy.strategy files report s
  | .ddmin => c.EndsIn inv Ddmin.strategy files report s

theorem Config.Ends.runStrategy {inv : Invariant σ} {report : Report} {s : Session σ}
    (h : c.Ends inv files report s) : c.runStrategy inv files = (.ok report, s.files) := by
  unfold Config.Ends at h
  unfold Config.runStrategy
  cases hstrategy : c.strategy with
  | greedy =>
    rw [hstrategy] at h
    exact h.runWith
  | ddmin =>
    rw [hstrategy] at h
    exact h.runWith

/-- Whether nothing is left in the working files of mappings, and of the trees their roots. -/
structure Emptied (mappings : List FileMapping) (s : Session σ) : Prop where
  working : ∀ m ∈ mappings, s.files.readText m.output = .ok ""
  units : s.forest.unitCount = mappings.length
  roots : ∀ tree ∈ s.forest.trees, tree.size = 1

theorem Sound.emptied {base : Files} {mappings : List FileMapping} {suffix : String} {s : Session σ}
    (h : Sound base (sitesFrom suffix 0 mappings) allParse s) (hcommits : 1 < s.stats.commits)
    (hminimal : OneMinimal allParse s.committed)
    (hcanonical : ∀ text ∈ s.committed, Statement.reformat text = text) : Emptied mappings s := by
  have hsize : ∀ d ∈ s.copies, d.tree.size = 1 := by
    intro d hd
    exact hminimal.size_eq_one h.parses (List.mem_map_of_mem hd) (h.parsed d hd)
  have hempty : ∀ text ∈ s.committed, text = "" := by
    intro text htext
    obtain ⟨d, hd, rfl⟩ := List.mem_map.1 htext
    exact Statement.eq_empty_of_size (h.parsed d hd) (hsize d hd) (hcanonical _ htext)
  have hworking := h.working hcommits
  constructor
  · intro m hm
    have hmem : s.files.readText m.output ∈ mappings.map fun m => s.files.readText m.output :=
      List.mem_map_of_mem hm
    rw [hworking] at hmem
    obtain ⟨text, htext, hread⟩ := List.mem_map.1 hmem
    rw [← hread, hempty text htext]
  · rw [h.unitCount]
    simpa using (congrArg List.length hworking).symm
  · intro tree htree
    rw [h.forest] at htree
    obtain ⟨d, hd, rfl⟩ := List.mem_map.1 htree
    exact hsize d hd

/-- A run with a thorough strategy, in which the texts only have to parse, ends with a fault of a
file or leaves nothing. -/
theorem Config.emptied_cases {strategy : Strategy τ} (hstrategy : strategy.Thorough)
    (hfiles : files.WellFormed) (hsetup : checkSetup c.settings c.files files = .ok ())
    (hpasses : c.settings.maxPasses = none)
    (hinputs : c.files.map (fun m => files.readText m.input) = texts.map .ok)
    (hparses : ∀ text ∈ texts, (Statement.parse text).isOk = true)
    (hstaged : StagedApart files c.settings.stagingSuffix c.files) :
    (∃ fault final, c.runWith Invariant.parseable strategy files = (.error fault, final) ∧
        fault.OfFile) ∨
      ∃ report s, c.EndsIn Invariant.parseable strategy files report s ∧ Emptied c.files s := by
  rcases Config.endsIn_cases hstrategy hfiles hsetup hpasses
    (decidesIn_parseable c.settings.checkTimeout) tokensDecide_allParse hinputs
    ⟨List.all_eq_true.2 hparses, hparses⟩ hstaged with
    hfault | ⟨report, base, s, hends, hsound, hcommits, hminimal, hcanonical⟩
  · exact .inl hfault
  · exact .inr ⟨report, s, hends, hsound.emptied hcommits hminimal hcanonical⟩

end Run

/-- A run of either strategy on inputs that parse, in which the texts only have to parse, reports
unless a file fails, and leaves every working file empty and of every tree its root. -/
theorem parseable_run_leaves_nothing (c : Config) (files : Files) (texts : List String)
    (hfiles : files.WellFormed) (hsetup : checkSetup c.settings c.files files = .ok ())
    (hpasses : c.settings.maxPasses = none)
    (hinputs : c.files.map (fun m => files.readText m.input) = texts.map .ok)
    (hparses : ∀ text ∈ texts, (Statement.language.parse text).isOk = true)
    (hstaged : StagedApart files c.settings.stagingSuffix c.files)
    (hfaults : ∀ fault final,
      c.runStrategy Invariant.parseable files = (.error fault, final) → ¬fault.OfFile) :
    ∃ report s, c.runStrategy Invariant.parseable files = (.ok report, s.files) ∧
      c.Ends Invariant.parseable files report s ∧ Emptied c.files s := by
  have hcases : (∃ fault final,
      c.runStrategy Invariant.parseable files = (.error fault, final) ∧ fault.OfFile) ∨
      ∃ report s, c.Ends Invariant.parseable files report s ∧ Emptied c.files s := by
    unfold Config.runStrategy Config.Ends
    cases c.strategy with
    | greedy =>
      exact Config.emptied_cases Greedy.thorough hfiles hsetup hpasses hinputs hparses hstaged
    | ddmin =>
      exact Config.emptied_cases Ddmin.thorough hfiles hsetup hpasses hinputs hparses hstaged
  rcases hcases with ⟨fault, final, hrun, hfault⟩ | ⟨report, s, hends, hemptied⟩
  · exact absurd hfault (hfaults fault final hrun)
  · exact ⟨report, s, hends.runStrategy, hends, hemptied⟩

/-- Of a statement, and of a block with a statement after it, nothing is left. -/
theorem parseable_run_twoInputs :
    ∃ report s, twoInputs.runStrategy Invariant.parseable twoInputFiles = (.ok report, s.files) ∧
      twoInputs.Ends Invariant.parseable twoInputFiles report s ∧ Emptied twoInputs.files s := by
  have hwellFormed : twoInputFiles.WellFormed := wellFormed_of_entries (by decide +kernel)
  have hparses : ∀ text ∈ ["a;", "\x7b c d; \x7d\n\nb c;"],
      (Statement.language.parse text).isOk = true := by decide +kernel
  have hok : (twoInputs.runStrategy Invariant.parseable twoInputFiles).1.isOk = true := by
    decide +kernel
  apply parseable_run_leaves_nothing twoInputs twoInputFiles _ hwellFormed rfl rfl rfl hparses
    stagedApart_twoInputs
  intro fault final hrun
  rw [hrun] at hok
  cases hok

end SourceReducer
