import Mathlib.Tactic.ByContra
import Mathlib.Data.Nat.Init

/-!
# Machines that take labelled steps

A system of several parties in one state: a step is labelled with its event, and what is asked of the order is a
condition on the state before a step and its event. `Run.induct`: invariants. `exists_rest`: if the steps that meet a
condition make a measure smaller, a run of them ends where none is left.
-/

namespace Machine

variable {σ ε : Type} {step : σ → ε → σ → Prop} {ok : σ → ε → Prop} {init s t : σ}

/-- The runs from a state in which every step meets a condition. -/
inductive Run (step : σ → ε → σ → Prop) (ok : σ → ε → Prop) (init : σ) : σ → Prop where
  | start : Run step ok init init
  | step {s s'} (e : ε) (before : Run step ok init s) (h : step s e s') (meets : ok s e) : Run step ok init s'

/-- What holds at the beginning and survives every step holds in every run. -/
theorem Run.induct {P : σ → Prop} (h : Run step ok init s) (hinit : P init)
    (hstep : ∀ s e s', P s → step s e s' → ok s e → P s') : P s := by
  induction h with
  | start => exact hinit
  | step e _ h meets ih => exact hstep _ e _ ih h meets

theorem Run.trans (h : Run step ok init s) (h' : Run step ok s t) : Run step ok init t := by
  induction h' with
  | start => exact h
  | step e _ hstep meets ih => exact .step e ih hstep meets

/-- No step that meets a condition is left. -/
def AtRest (step : σ → ε → σ → Prop) (ok : σ → ε → Prop) (s : σ) : Prop := ∀ e s', step s e s' → ¬ ok s e

/-- If steps make a measure smaller, they come to an end. -/
theorem exists_rest (measure : σ → ℕ) (hless : ∀ {s e s'}, step s e s' → ok s e → measure s' < measure s) (s : σ) :
    ∃ t, Run step ok s t ∧ AtRest step ok t := by
  -- by induction on the measure: either the state is at rest, or a step leads to a smaller one
  induction hn : measure s using Nat.strong_induction_on generalizing s with
  | _ _ ih =>
    by_cases hrest : AtRest step ok s
    · exact ⟨s, .start, hrest⟩
    · obtain ⟨e, s', hstep, hok⟩ : ∃ e s', step s e s' ∧ ok s e := by
        simpa [AtRest] using hrest
      obtain ⟨t, hrun, ht⟩ := ih (measure s') (hn ▸ hless hstep hok) s' rfl
      exact ⟨t, (Run.start.step e hstep hok).trans hrun, ht⟩

end Machine
