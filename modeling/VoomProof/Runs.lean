/-!
# Runs of a system that moves by events

A system here is a partial step function: `step s e` is the state after event `e`,
and `none` when `e` cannot happen in `s`. `Run step ok s es s'` is a run from `s`
to `s'` through the events `es`, each of which meets the condition `ok` in the state
it happens in; with `ok` always true these are all runs.

`Run.invariant` is the one induction over runs: what holds at the start and is kept by every
step that meets `ok` holds in every state a run reaches. `exec` computes a concrete run.
-/

namespace Runs

variable {σ ε : Type} {step : σ → ε → Option σ} {ok : σ → ε → Prop} {s u : σ} {es : List ε}

/-- A run through the events `es`, each meeting `ok` where it happens. -/
inductive Run (step : σ → ε → Option σ) (ok : σ → ε → Prop) : σ → List ε → σ → Prop where
  | nil (s : σ) : Run step ok s [] s
  | cons {s t u : σ} {e : ε} {es : List ε} (hok : ok s e) (hstep : step s e = some t)
      (hrest : Run step ok t es u) : Run step ok s (e :: es) u

/-- The condition every event meets. -/
def always (_ : σ) (_ : ε) : Prop := True

/-- **What every step keeps holds throughout a run.** -/
theorem Run.invariant {I : σ → Prop} (hkeep : ∀ {s e t}, I s → ok s e → step s e = some t → I t)
    (h : Run step ok s es u) (hs : I s) : I u := by
  induction h with
  | nil => exact hs
  | cons hok hstep _ ih => exact ih (hkeep hs hok hstep)

/-- What every step keeps of the events so far and the state holds of a whole run. -/
theorem Run.invariant_history {I : List ε → σ → Prop}
    (hkeep : ∀ {es s e t}, I es s → ok s e → step s e = some t → I (es ++ [e]) t)
    (h : Run step ok s es u) (hs : I [] s) : I es u := by
  have hfrom : ∀ before, I before s → I (before ++ es) u := by
    clear hs
    induction h with
    | nil => intro _ hs; rwa [List.append_nil]
    | @cons s t u e _ hok hstep _ ih =>
      intro _ hs
      rw [← List.singleton_append, ← List.append_assoc]
      exact ih _ (hkeep hs hok hstep)
  exact hfrom [] hs

/-- Conditions may be exchanged along a run when they are the same in every state that the
run can be in. -/
theorem Run.imp {ok' : σ → ε → Prop} {I : σ → Prop}
    (hkeep : ∀ {s e t}, I s → ok s e → step s e = some t → I t)
    (himp : ∀ {s e}, I s → ok s e → ok' s e) (h : Run step ok s es u) (hs : I s) :
    Run step ok' s es u := by
  induction h with
  | nil s => exact .nil s
  | cons hok hstep _ ih => exact .cons (himp hs hok) hstep (ih (hkeep hs hok hstep))

theorem Run.append {t : σ} {es' : List ε} (h : Run step ok s es t) (h' : Run step ok t es' u) :
    Run step ok s (es ++ es') u := by
  induction h with
  | nil => exact h'
  | cons hok hstep _ ih => exact .cons hok hstep (ih h')

/-- What is not the same at the two ends of a run was changed by one of its steps. -/
theorem Run.exists_step {β : Type} {f : σ → β} (h : Run step ok s es u) (hne : f s ≠ f u) :
    ∃ before e after t t', es = before ++ e :: after ∧ Run step ok s before t ∧ ok t e ∧
      step t e = some t' ∧ Run step ok t' after u ∧ f t' ≠ f t := by
  induction h with
  | nil => exact absurd rfl hne
  | @cons s t u e es hok hstep hrest ih =>
    by_cases hsame : f t = f s
    · rw [← hsame] at hne
      obtain ⟨before, e', after, v, v', rfl, hbef, hchange⟩ := ih hne
      exact ⟨e :: before, e', after, v, v', rfl, .cons hok hstep hbef, hchange⟩
    · exact ⟨[], e, es, s, t, rfl, .nil s, hok, hstep, hrest, hsame⟩

section Exec
variable (step : σ → ε → Option σ) (ok : σ → ε → Prop) [∀ s e, Decidable (ok s e)]

/-- Go through the events, as far as each can happen and meets `ok`. -/
def exec : σ → List ε → Option σ
  | s, [] => some s
  | s, e :: es => if ok s e then (step s e).bind fun t => exec t es else none

theorem run_of_exec {s u : σ} {es : List ε} (h : exec step ok s es = some u) :
    Run step ok s es u := by
  induction es generalizing s with
  | nil => cases h; exact .nil _
  | cons e _ ih =>
    rw [exec] at h
    split at h
    · next hok =>
      cases hstep : step s e with
      | none => rw [hstep] at h; cases h
      | some t => rw [hstep] at h; exact .cons hok hstep (ih h)
    · cases h

/-- A run computed to its end, and what is found there. -/
theorem exists_run {P : σ → Prop} [DecidablePred P] {s : σ} {es : List ε}
    (h : (exec step ok s es).any (fun u => decide (P u)) = true) :
    ∃ u, Run step ok s es u ∧ P u := by
  obtain ⟨u, hu, hP⟩ := (Option.any_eq_true _ _).mp h
  exact ⟨u, run_of_exec step ok hu, of_decide_eq_true hP⟩

end Exec

instance (s : σ) (e : ε) : Decidable (always s e) := .isTrue trivial

end Runs
