import Mathlib.Tactic.Common
import SourceReducer.Engine.Run

/-! The stages of a run. A run that comes to a report was prepared, laid its texts out, made its
passes, laid the texts out once more and left blank lines out, and none of these stages ended with
an error. What passes preserve holds after them also where one of them ends with an error. -/
namespace SourceReducer.Run

variable {σ τ : Type} {e : Engine σ} {strategy : Strategy τ} {settings : Settings}
  {r after : Run σ τ}

/-- Whether passes lead from one run to another, where each of them is allowed and is followed by a
next one. -/
inductive Onward (e : Engine σ) (strategy : Strategy τ) (settings : Settings) (r : Run σ τ) :
    Run σ τ → Prop
  | here : Onward e strategy settings r r
  | pass {between after : Run σ τ} (h : Onward e strategy settings r between)
      (hlimit : between.atLimit settings = false)
      (hpass : between.pass e strategy settings.cleanupInterval = (.ok true, after)) :
      Onward e strategy settings r after

/-- Whether passes end without an error: no further one is allowed, or the last one is not followed
by another. -/
inductive Ends (e : Engine σ) (strategy : Strategy τ) (settings : Settings) (r : Run σ τ) :
    Run σ τ → Prop
  | limit (hlimit : r.atLimit settings = true) : Ends e strategy settings r r.endEarly
  | last {after : Run σ τ} (hlimit : r.atLimit settings = false)
      (hpass : r.pass e strategy settings.cleanupInterval = (.ok false, after)) :
      Ends e strategy settings r after

theorem Onward.cons {next : Run σ τ} (hlimit : r.atLimit settings = false)
    (hpass : r.pass e strategy settings.cleanupInterval = (.ok true, next))
    (h : Onward e strategy settings next after) : Onward e strategy settings r after := by
  induction h with
  | here => exact .pass .here hlimit hpass
  | pass _ hlimit' hpass' ih => exact .pass ih hlimit' hpass'

theorem loop_eq_ok {fuel : Nat} (h : loop e strategy settings fuel r = some (.ok (), after)) :
    ∃ last, Onward e strategy settings r last ∧ Ends e strategy settings last after := by
  induction fuel generalizing r with
  | zero => cases h
  | succ fuel ih =>
    unfold loop at h
    cases hlimit : r.atLimit settings with
    | true =>
      simp only [hlimit, if_true, Option.some.injEq, Prod.mk.injEq, true_and] at h
      exact ⟨r, .here, h ▸ .limit hlimit⟩
    | false =>
      simp only [hlimit, Bool.false_eq_true, if_false] at h
      rcases hpass : r.pass e strategy settings.cleanupInterval with ⟨failure | _ | _, next⟩
      · simp [hpass] at h
      · simp only [hpass, Option.some.injEq, Prod.mk.injEq, true_and] at h
        exact ⟨r, .here, .last hlimit (h ▸ hpass)⟩
      · simp only [hpass] at h
        obtain ⟨last, honward, hends⟩ := ih h
        exact ⟨last, honward.cons hlimit hpass, hends⟩

/-- What every pass preserves, and an early end as well, holds after the passes, whatever they end
with. -/
theorem loop_preserves {motive : Run σ τ → Prop}
    (hpass : ∀ r, motive r → motive (r.pass e strategy settings.cleanupInterval).2)
    (hearly : ∀ r, motive r → motive r.endEarly) {fuel : Nat} {outcome : Except Failure Unit}
    (hr : motive r) (h : loop e strategy settings fuel r = some (outcome, after)) :
    motive after := by
  induction fuel generalizing r with
  | zero => cases h
  | succ fuel ih =>
    unfold loop at h
    split at h
    · cases h
      exact hearly r hr
    · have hnext := hpass r hr
      rcases hpassed : r.pass e strategy settings.cleanupInterval with ⟨failure | _ | _, next⟩
      · simp only [hpassed, Option.some.injEq, Prod.mk.injEq] at h
        rw [hpassed, h.2] at hnext
        exact hnext
      · simp only [hpassed, Option.some.injEq, Prod.mk.injEq] at h
        rw [hpassed, h.2] at hnext
        exact hnext
      · simp only [hpassed] at h
        rw [hpassed] at hnext
        exact ih hnext h

theorem finish_eq_ok {initial : Metrics} {report : Report}
    (h : r.finish e strategy initial = (.ok report, after)) :
    ∃ laid session, r.cleanup e .finalCleanup = (.ok (), laid) ∧
      stripAll e (List.range laid.session.copies.length) laid.session = (.ok (), session) ∧
      after = { { laid with session }.record .blankLineCleanup with session := session.rollback } ∧
      after.report e strategy initial = .ok report := by
  unfold finish at h
  rcases hclean : r.cleanup e .finalCleanup with ⟨failure | _, laid⟩
  · simp [hclean] at h
  · simp only [hclean] at h
    rcases hstrip : stripAll e (List.range laid.session.copies.length) laid.session with
      ⟨failure | _, session⟩
    · simp [hstrip] at h
    · simp only [hstrip, Prod.mk.injEq] at h
      obtain ⟨hreport, rfl⟩ := h
      exact ⟨laid, session, rfl, hstrip, rfl, hreport⟩

/-- What a run that comes to a report went through. -/
theorem runWithin_eq_ok {fuel : Nat} {report : Report}
    (h : runWithin e strategy settings fuel r = some (.ok report, after)) :
    ∃ prepared cleaned last final laid session,
      r.prepare e strategy = (.ok (), prepared) ∧
      (prepared.record .start).cleanup e .initialCleanup = (.ok (), cleaned) ∧
      Onward e strategy settings cleaned last ∧ Ends e strategy settings last final ∧
      final.cleanup e .finalCleanup = (.ok (), laid) ∧
      stripAll e (List.range laid.session.copies.length) laid.session = (.ok (), session) ∧
      after = { { laid with session }.record .blankLineCleanup with session := session.rollback } ∧
      after.report e strategy prepared.session.metrics = .ok report := by
  unfold runWithin at h
  rcases hprepare : r.prepare e strategy with ⟨failure | _, prepared⟩
  · simp [hprepare] at h
  · simp only [hprepare] at h
    rcases hclean : (prepared.record .start).cleanup e .initialCleanup with ⟨failure | _, cleaned⟩
    · simp [hclean] at h
    · simp only [hclean] at h
      rcases hloop : loop e strategy settings fuel cleaned with _ | ⟨failure | _, final⟩
      · simp [hloop] at h
      · simp [hloop] at h
      · simp only [hloop, Option.some.injEq] at h
        obtain ⟨last, honward, hends⟩ := loop_eq_ok hloop
        obtain ⟨laid, session, hlaid, hstrip, hafter, hreport⟩ := finish_eq_ok h
        exact ⟨prepared, cleaned, last, final, laid, session, rfl, hclean, honward, hends, hlaid,
          hstrip, hafter, hreport⟩

end SourceReducer.Run
