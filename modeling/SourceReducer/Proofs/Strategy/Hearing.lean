import SourceReducer.Proofs.Strategy.Offers

/-! Dialogues that are held to their end. Whatever is answered, a dialogue that offers sets of nodes
in turn offers the first ones of them, up to the first that is not refused. -/
namespace SourceReducer

variable {τ : Type}

/-- Whether a request was refused. -/
def Answer.isRefusal (answer : Answer) : Bool :=
  match answer.outcome with
  | .ok (.failed _) => true
  | _ => false

theorem Answer.isRefusal_iff {answer : Answer} :
    answer.isRefusal = true ↔ ∃ reason, answer.outcome = .ok (.failed reason) := by
  unfold isRefusal
  split
  · next reason h => simp [h]
  · next h =>
    simp only [Bool.false_eq_true, false_iff, not_exists]
    exact h

/-- Whether what was requested was removed. -/
def Answer.isRemoval (answer : Answer) : Bool :=
  match answer.outcome with
  | .ok .proceed => true
  | _ => false

/-- A dialogue that was held: what was asked and answered, and how it ended. -/
structure Hearing (τ : Type) where
  exchanges : List (Request × Answer) := []
  outcome : Except Failure Control
  state : τ

/-- Holds a dialogue where the requests are answered one after the other by given answers. -/
def Dialogue.hold : Dialogue τ → (Nat → Answer) → Hearing τ
  | .done outcome state, _ => { outcome, state }
  | .touch _ next, answers => next.hold answers
  | .ask request next, answers =>
      let rest := (next (answers 0)).hold fun k => answers (k + 1)
      { rest with exchanges := (request, answers 0) :: rest.exchanges }

/-- Holds passes of a strategy one after the other, each over a forest of its own and with answers
of its own, and gives the state after them. -/
def Strategy.hear (strategy : Strategy τ) (language : Language) :
    τ → List (Forest × (Nat → Answer)) → List (Hearing τ) × τ
  | state, [] => ([], state)
  | state, (f, answers) :: later =>
      let hearing := (strategy.pass language f state).hold answers
      let rest := strategy.hear language hearing.state later
      (hearing :: rest.1, rest.2)

/-- Whether a dialogue came to the end that the answers call for: it ended at the first answer which
is no refusal, with the outcome of that answer, or all sets were refused and it is exhausted. -/
inductive Hearing.Ends (answers : Nat → Answer) (sets : List RefSet) (h : Hearing τ) : Prop
  | heeded (k : Nat) (hcount : h.exchanges.length = k + 1) (hk : k < sets.length)
      (hrefused : ∀ j < k, (answers j).isRefusal = true) (hheeded : (answers k).isRefusal = false)
      (houtcome : h.outcome = (answers k).outcome)
  | exhausted (hcount : h.exchanges.length = sets.length)
      (hrefused : ∀ j < sets.length, (answers j).isRefusal = true)
      (houtcome : h.outcome = .ok (.failed .exhausted))

/-- Whether sets were offered in their order, with the answers in theirs, until the dialogue
ended. -/
structure Hearing.Follows (answers : Nat → Answer) (sets : List RefSet) (h : Hearing τ) : Prop where
  requests : h.exchanges.map Prod.fst = (sets.take h.exchanges.length).map Request.remove
  answered : h.exchanges.map Prod.snd = (List.range h.exchanges.length).map answers
  ends : h.Ends answers sets

theorem Strategy.length_hear (strategy : Strategy τ) (language : Language) (state : τ)
    (rounds : List (Forest × (Nat → Answer))) :
    (strategy.hear language state rounds).1.length = rounds.length := by
  induction rounds generalizing state with
  | nil => rfl
  | cons round later ih => exact congrArg (· + 1) (ih _)

namespace Hearing

variable {answers : Nat → Answer} {sets : List RefSet} {h : Hearing τ}

/-- Exchange number `k` is about set number `k`. -/
theorem Follows.getElem? (hfollows : h.Follows answers sets) {k : Nat} {nodes : RefSet}
    (hk : k < h.exchanges.length) (hnodes : sets[k]? = some nodes) :
    h.exchanges[k]? = some (.remove nodes, answers k) := by
  have hrequest : (h.exchanges.map Prod.fst)[k]? = some (.remove nodes) := by
    rw [hfollows.requests]
    simp [hk, hnodes]
  have hanswer : (h.exchanges.map Prod.snd)[k]? = some (answers k) := by
    rw [hfollows.answered]
    simp [hk]
  rw [List.getElem?_map, List.getElem?_eq_getElem hk] at hrequest hanswer
  rw [List.getElem?_eq_getElem hk]
  exact congrArg some (Prod.ext (Option.some.inj hrequest) (Option.some.inj hanswer))

/-- If all is refused, all sets are offered. -/
theorem Follows.of_refused (hfollows : h.Follows answers sets)
    (hrefused : ∀ j, (answers j).isRefusal = true) :
    h.exchanges.map Prod.fst = sets.map Request.remove ∧ h.outcome = .ok (.failed .exhausted) := by
  cases hfollows.ends with
  | heeded k _ _ _ hheeded _ =>
    rw [hrefused k] at hheeded
    cases hheeded
  | exhausted hcount _ houtcome =>
    have hrequests := hfollows.requests
    rw [hcount, List.take_length] at hrequests
    exact ⟨hrequests, houtcome⟩

end Hearing

section Hold

variable {answers : Nat → Answer}

theorem Hearing.follows_nil (state : τ) :
    Hearing.Follows answers [] { outcome := .ok (.failed .exhausted), state : Hearing τ } :=
  ⟨rfl, rfl, .exhausted rfl (by simp) rfl⟩

/-- A dialogue that ends with its first answer. -/
theorem Hearing.follows_heeded {nodes : RefSet} {rest : List RefSet} {h : Hearing τ}
    (hexchanges : h.exchanges = [(.remove nodes, answers 0)])
    (hheeded : (answers 0).isRefusal = false) (houtcome : h.outcome = (answers 0).outcome) :
    h.Follows answers (nodes :: rest) := by
  refine ⟨by simp [hexchanges], by simp [hexchanges], ?_⟩
  exact .heeded 0 (by simp [hexchanges]) (by simp) (by simp) hheeded houtcome

/-- A dialogue that goes on after its first answer. -/
theorem Hearing.follows_cons {nodes : RefSet} {rest : List RefSet} {h : Hearing τ}
    (hrefused : (answers 0).isRefusal = true)
    (hrest : h.Follows (fun k => answers (k + 1)) rest) :
    Hearing.Follows answers (nodes :: rest)
      { h with exchanges := (.remove nodes, answers 0) :: h.exchanges } := by
  refine ⟨?_, ?_, ?_⟩
  · simp [hrest.requests]
  · simp [hrest.answered, List.range_succ_eq_map, Function.comp_def]
  · cases hrest.ends with
    | heeded k hcount hk hbefore hheeded houtcome =>
      refine .heeded (k + 1) ?_ ?_ (Nat.forall_lt_succ_left.2 ⟨hrefused, hbefore⟩) hheeded houtcome
      · simp [hcount]
      · simpa using hk
    | exhausted hcount hbefore houtcome =>
      refine .exhausted ?_ (Nat.forall_lt_succ_left.2 ⟨hrefused, hbefore⟩) houtcome
      simp [hcount]

/-- However it is answered, a dialogue that offers sets follows them. -/
theorem Dialogue.Offers.follows {d : Dialogue τ} {sets : List RefSet} (hd : d.Offers sets)
    (answers : Nat → Answer) : (d.hold answers).Follows answers sets := by
  induction hd generalizing answers with
  | done state => exact Hearing.follows_nil state
  | ask nodes rest next herror hrefused haccepted ih =>
    unfold Dialogue.hold
    cases houtcome : (answers 0).outcome with
    | error failure =>
      obtain ⟨state, hnext⟩ := herror (answers 0) failure houtcome
      rw [hnext]
      exact Hearing.follows_heeded rfl (by simp [Answer.isRefusal, houtcome]) houtcome.symm
    | ok control =>
      by_cases hfailed : ∃ reason, control = .failed reason
      · obtain ⟨reason, rfl⟩ := hfailed
        have hrefusal : (answers 0).isRefusal = true := Answer.isRefusal_iff.2 ⟨reason, houtcome⟩
        exact Hearing.follows_cons hrefusal (ih (answers 0) reason houtcome _)
      · have hnot : ∀ reason, control ≠ .failed reason := fun reason h => hfailed ⟨reason, h⟩
        obtain ⟨state, hnext⟩ := haccepted (answers 0) control houtcome hnot
        rw [hnext]
        have hheeded : (answers 0).isRefusal = false := by
          apply eq_false_of_ne_true
          intro hrefusal
          obtain ⟨reason, hreason⟩ := Answer.isRefusal_iff.1 hrefusal
          rw [houtcome] at hreason
          exact hnot reason (Except.ok.inj hreason)
        exact Hearing.follows_heeded rfl hheeded houtcome.symm

end Hold

end SourceReducer
