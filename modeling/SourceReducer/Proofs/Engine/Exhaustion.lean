import SourceReducer.Proofs.Engine.History

/-! Passes that are exhausted, for any language and any dependence between nodes. Both strategies
offer every node below a root together with what depends on it. If the invariant is a predicate of
the texts and a pass comes to its end with everything refused, nothing was committed in it, and none
of these removals leaves texts that parse and satisfy the predicate. -/
namespace SourceReducer

variable {σ τ : Type}

/-- Whether no node below a root can be removed, together with what depends on it, from the
committed texts. -/
def Engine.LocallyMinimal (e : Engine σ) (P : List String → Bool) (s : Session σ) : Prop :=
  ∀ r, s.forest.isInner r = true →
    ¬Accepted e.language P (e.textsWithout (withDependents e.language s.forest [r]) s)

/-- Whether the verdict of a check is a predicate of the scratch texts, so that no check fails or is
given up. -/
def Engine.VerdictIs (e : Engine σ) (P : List String → Bool) : Prop :=
  ∀ candidate state files,
    (e.invariant.check e.limit candidate state files).verdict = .ok (.ofBool (P candidate.texts))

/-- Whether a pass of a strategy offers every node below a root, with what depends on it and nothing
else. -/
def Strategy.OffersSingles (strategy : Strategy τ) (language : Language) : Prop :=
  ∀ f state, ∃ sets, (strategy.pass language f state).Offers sets ∧
    ∀ r, f.isInner r = true → withDependents language f [r] ∈ sets

theorem Greedy.offersSingles (language : Language) : Greedy.strategy.OffersSingles language :=
  fun _ _ => ⟨_, offers_offer _ _, fun _ hr => single_mem_candidates language hr⟩

theorem Ddmin.offersSingles (language : Language) : Ddmin.strategy.OffersSingles language :=
  fun _ state => ⟨_, offers_play _ _ _ _, fun _ hr => single_mem_plan language hr state⟩

namespace Engine

variable {e : Engine σ} {P : List String → Bool} {s t : Session σ}

/-- What a removal says that is refused: it found no node, or it left texts that are not
acceptable. -/
theorem not_accepts_of_refused (hverdict : e.VerdictIs P) {nodes : RefSet} {reason : Rejection}
    (h : (e.attempt (.remove nodes) s).1 = .ok (.failed reason)) :
    (s.forest.partition nodes).matched = 0 ∨ ¬Accepted e.language P (e.textsWithout nodes s) := by
  have hchecked : (e.check (e.proposal (.remove nodes) s)).1 =
      .ok (.ofBool (P (e.proposal (.remove nodes) s).texts)) := hverdict _ _ _
  rcases e.attempt_cases (.remove nodes) s with ⟨_, hnodes, hmatched, -⟩ | ⟨-, -, hattempt⟩ |
      ⟨_, hnodes, -⟩
  · cases hnodes
    exact .inl hmatched
  · right
    rintro ⟨hP, hparses⟩
    rw [← e.texts_proposal_remove] at hP hparses
    have hholds : (e.check (e.proposal (.remove nodes) s)).1 = .ok .holds := by
      rw [hchecked, hP]
      rfl
    rw [hattempt] at h
    rcases e.attemptCommit_cases (e.proposal (.remove nodes) s) with ⟨failure, hfailure, -⟩ |
        ⟨_, hwhy, -⟩ | ⟨trees, -, -, hcommit⟩
    · rw [hholds] at hfailure
      cases hfailure
    · obtain ⟨c, hc, hfails⟩ := hwhy hholds
      have hok := hparses c.scratch (List.mem_map_of_mem hc)
      exact absurd (hfails.symm.trans hok) (by simp)
    · rw [hcommit] at h
      rcases hinstall : install (e.check (e.proposal (.remove nodes) s)).2 (trees.map some) with
        ⟨failure | _, after⟩
      · simp [hinstall, Except.map] at h
      · simp [hinstall, Except.map] at h
  · cases hnodes

theorem sameCommitted_of_refused (hunits : s.forest.unitCount = s.copies.length) {a : Attempt}
    {reason : Rejection} (h : (e.attempt a s).1 = .ok (.failed reason)) :
    s.SameCommitted (e.attempt a s).2 := by
  cases e.attempt_leaves a hunits with
  | refused _ _ hsame => exact hsame
  | committed houtcome _ _ _ _ =>
    rw [houtcome] at h
    unfold answerTo at h
    split at h <;> simp at h
  | failed failure _ houtcome _ _ _ _ =>
    rw [houtcome] at h
    cases h

/-- A node below a root is found in its forest. -/
theorem matched_of_isInner {f : Forest} {nodes : RefSet} {r : NodeRef} (hr : r ∈ nodes)
    (hinner : f.isInner r = true) : (f.partition nodes).matched ≠ 0 := by
  have hcontains := Forest.contains_of_isInner hinner
  obtain ⟨-, tree, htree, -⟩ := Forest.isInner_iff.1 hinner
  obtain ⟨indices, hindices⟩ := f.perUnit_getElem? nodes (List.getElem?_eq_some_iff.1 htree).1
  have href := Forest.eq_refTo_of_contains hcontains
  rw [href] at hr hcontains
  exact Forest.matched_ne_zero.2
    ⟨r.unit, indices, r.index, hindices, (Forest.mem_perUnit hindices).2 ⟨hr, hcontains⟩⟩

/-- A dialogue that is exhausted committed nothing, and nothing that it offered is acceptable. -/
theorem converse_exhausted (hverdict : e.VerdictIs P) {d : Dialogue τ} {sets : List RefSet}
    (hd : d.Offers sets) (hunits : s.forest.unitCount = s.copies.length)
    (hexhausted : (e.converse d s).1 = .ok (.failed .exhausted)) :
    s.SameCommitted (e.converse d s).2.2 ∧
      ∀ nodes ∈ sets, (s.forest.partition nodes).matched = 0 ∨
        ¬Accepted e.language P (e.textsWithout nodes s) := by
  have hrefused : ∀ nodes ∈ sets, ∀ t reason, s.SameCommitted t →
      (e.attempt (.remove nodes) t).1 = .ok (.failed reason) →
        ((s.forest.partition nodes).matched = 0 ∨ ¬Accepted e.language P (e.textsWithout nodes s)) ∧
          ∀ event, s.SameCommitted ((e.attempt (.remove nodes) t).2.note event) := by
    intro nodes _ t reason hst hreason
    have hunits' : t.forest.unitCount = t.copies.length := by rw [hst.forest, hst.length, hunits]
    have hwhy := not_accepts_of_refused hverdict hreason
    rw [textsWithout_of_sameCommitted nodes hst, hst.forest] at hwhy
    refine ⟨hwhy, fun event => ?_⟩
    exact (hst.trans (sameCommitted_of_refused hunits' hreason)).trans
      (Session.sameCommitted_note _ event)
  rcases e.converse_of_offers hd hrefused (⟨rfl, rfl, rfl, rfl⟩ : s.SameCommitted s) with
    ⟨-, hsame, hall⟩ | ⟨nodes, -, t, -, -, hnot, houtcome, -⟩
  · exact ⟨hsame, hall⟩
  · exact absurd (houtcome.symm.trans hexhausted) (hnot .exhausted)

end Engine

namespace Run

variable {e : Engine σ} {P : List String → Bool} {strategy : Strategy τ} {r after : Run σ τ}

/-- What a pass of a strategy has shown that is exhausted. -/
theorem strategyPass_exhausted (hverdict : e.VerdictIs P)
    (hstrategy : strategy.OffersSingles e.language)
    (hunits : r.session.forest.unitCount = r.session.copies.length)
    (hpass : r.strategyPass e strategy = (.ok (.failed .exhausted), after)) :
    r.session.SameCommitted after.session ∧ e.LocallyMinimal P r.session := by
  have hback := r.session.sameCommitted_rollback
  have hunits' : r.session.rollback.forest.unitCount = r.session.rollback.copies.length := by
    rw [hback.forest, hback.length, hunits]
  obtain ⟨sets, hoffers, hsingles⟩ := hstrategy r.session.rollback.forest r.state
  rcases hasked : e.converse (strategy.pass e.language r.session.rollback.forest r.state)
    r.session.rollback with ⟨failure | control, state, session⟩
  · simp [strategyPass, hasked] at hpass
  · simp only [strategyPass, hasked, Prod.mk.injEq, Except.ok.injEq] at hpass
    obtain ⟨rfl, rfl⟩ := hpass
    obtain ⟨hsame, hrefused⟩ := Engine.converse_exhausted hverdict hoffers hunits'
      (congrArg Prod.fst hasked)
    rw [hasked] at hsame
    refine ⟨(hback.trans hsame).trans (session.sameCommitted_note _), fun ref hinner => ?_⟩
    have hnot := (hrefused _ (hsingles ref hinner)).resolve_left
      (Engine.matched_of_isInner (head_mem_withDependents e.language _ ref []) hinner)
    rwa [Engine.textsWithout_of_sameCommitted _ hback] at hnot

/-- Whether every pass of a strategy that is exhausted, in a run from a session, committed nothing
and shows that the texts are minimal. -/
def ExhaustionProves (e : Engine σ) (P : List String → Bool) (strategy : Strategy τ)
    (settings : Settings) (s : Session σ) : Prop :=
  ∀ r after : Run σ τ, Between e strategy settings s r →
    { r with passes := r.passes + 1 }.strategyPass e strategy =
        (.ok (.failed .exhausted), after) →
      r.session.SameCommitted after.session ∧ e.LocallyMinimal P r.session

theorem exhaustionProves_of_singles (hverdict : e.VerdictIs P)
    (hstrategy : strategy.OffersSingles e.language)
    (htouches : strategy.Touches e.language fun _ _ => True) {settings : Settings} {s : Session σ}
    (hs : s.forest.unitCount = s.copies.length) : ExhaustionProves e P strategy settings s := by
  intro r after hr hpass
  obtain ⟨log, hlog⟩ := hr.reaches htouches
  exact strategyPass_exhausted (r := { r with passes := r.passes + 1 }) hverdict hstrategy
    (hlog.unitCount hs) hpass

end Run

/-- With any language and dependence, a pass of either strategy that is exhausted has committed
nothing, and no node below a root can be removed with what depends on it. -/
theorem exhaustion_means_local_minimality (e : Engine σ) (P : List String → Bool)
    (settings : Settings) (mappings : List FileMapping) (files loaded : Files) (s : Session σ)
    (hverdict : e.VerdictIs P) (hload : e.load settings mappings files = (.ok s, loaded)) :
    Run.ExhaustionProves e P Greedy.strategy settings s ∧
      Run.ExhaustionProves e P Ddmin.strategy settings s := by
  have hunits : s.forest.unitCount = s.copies.length := by
    simp [Forest.unitCount, (Engine.load_eq_ok hload).2.2.2]
  constructor
  · exact Run.exhaustionProves_of_singles hverdict (Greedy.offersSingles e.language)
      ((Greedy.shrinking e.language).touches _) hunits
  · exact Run.exhaustionProves_of_singles hverdict (Ddmin.offersSingles e.language)
      ((Ddmin.shrinking e.language).touches _) hunits

theorem eq_ok_of_toOption {ε α β : Type} {x : Except ε α × β} {a : α}
    (h : x.1.toOption = some a) : x = (.ok a, x.2) := by
  obtain ⟨error | b, y⟩ := x
  · cases h
  · cases h
    rfl

/-- The predicate that no text is shorter than two characters. -/
def twoCharacters (texts : List String) : Bool :=
  texts.all fun text => 2 ≤ text.length

/-- An engine of statements with that invariant. The fifth node of a tree is said to depend on the
second and third one, though not every tree has five. -/
def sized : Engine Tally :=
  { language := Statement.withDependence (.table [(1, [4]), (2, [4])])
    invariant := Invariant.ofPredicate "sized" fun _ candidate => twoCharacters candidate.texts }

/-- A pass by levels over two texts of three characters is exhausted: without its statement a text
is too short, and without its word it does not parse. -/
theorem exhaustion_twoUnits :
    ∃ r after : Run Tally Ddmin.State,
      Run.Between sized Ddmin.strategy {} (twoUnits []) r ∧
      { r with passes := r.passes + 1 }.strategyPass sized Ddmin.strategy =
        (.ok (.failed .exhausted), after) ∧
      r.session.committed = ["a;\n", "b;\n"] ∧ r.session.SameCommitted after.session ∧
      sized.LocallyMinimal twoCharacters r.session := by
  have hverdict : sized.VerdictIs twoCharacters := fun _ _ _ => rfl
  have hload : sized.load {} [⟨"a", "a.min"⟩, ⟨"b", "b.min"⟩] (twoTexts []) =
      (.ok (twoUnits []), (twoUnits []).files) := rfl
  let start : Run Tally Ddmin.State := { session := twoUnits [], state := Ddmin.strategy.start }
  let prepared := (start.prepare sized Ddmin.strategy).2
  let cleaned := ((prepared.record .start).cleanup sized .initialCleanup).2
  let after := ({ cleaned with passes := cleaned.passes + 1 }.strategyPass sized Ddmin.strategy).2
  have hprepare : start.prepare sized Ddmin.strategy = (.ok (), prepared) :=
    eq_ok_of_toOption (by decide +kernel)
  have hclean : (prepared.record .start).cleanup sized .initialCleanup = (.ok (), cleaned) :=
    eq_ok_of_toOption (by decide +kernel)
  have hbetween : Run.Between sized Ddmin.strategy {} (twoUnits []) cleaned :=
    .first hprepare hclean
  have hpass : { cleaned with passes := cleaned.passes + 1 }.strategyPass sized Ddmin.strategy =
      (.ok (.failed .exhausted), after) := eq_ok_of_toOption (by decide +kernel)
  obtain ⟨hsame, hminimal⟩ := (exhaustion_means_local_minimality sized twoCharacters {} _ _ _ _
    hverdict hload).2 cleaned after hbetween hpass
  exact ⟨cleaned, after, hbetween, hpass, by decide +kernel, hsame, hminimal⟩

end SourceReducer
