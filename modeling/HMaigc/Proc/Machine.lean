/-!
# Machines

A machine has states `σ` and a function that says what an action leads to, if it is possible.

* `Run step C s₀ s` — a run from `s₀` to `s`, all of whose actions meet the condition `C`.
* `Run.invariant` — what every action keeps holds at the end of a run.
* `run_of_play` — a schedule that computes is a run.
-/

set_option autoImplicit false

namespace Machine

variable {σ α : Type} {step : σ → α → Option σ} {C D : σ → α → Prop}

/-- A run whose actions meet a condition on the action and the state before it. -/
inductive Run (step : σ → α → Option σ) (C : σ → α → Prop) (s₀ : σ) : σ → Prop
  | nil : Run step C s₀ s₀
  | step {s s' : σ} {a : α} (hrun : Run step C s₀ s) (hmeets : C s a) (hstep : step s a = some s') :
      Run step C s₀ s'

/-- **What every action keeps holds at the end.** -/
theorem Run.invariant {I : σ → Prop} {s₀ s : σ} (hrun : Run step C s₀ s) (hinit : I s₀)
    (hkeeps : ∀ s a s', I s → C s a → step s a = some s' → I s') : I s := by
  induction hrun with
  | nil => exact hinit
  | step _ hmeets hstep ih => exact hkeeps _ _ _ ih hmeets hstep

theorem Run.mono {s₀ s : σ} (hrun : Run step C s₀ s) (himp : ∀ s a, C s a → D s a) :
    Run step D s₀ s := by
  induction hrun with
  | nil => exact .nil
  | step _ hmeets hstep ih => exact ih.step (himp _ _ hmeets) hstep

theorem Run.trans {s₀ s s' : σ} (hrun : Run step C s₀ s) (hlater : Run step C s s') :
    Run step C s₀ s' := by
  induction hlater with
  | nil => exact hrun
  | step _ hmeets hstep ih => exact ih.step hmeets hstep

/-- The state after a schedule, if every action is possible and meets the condition. -/
def play (step : σ → α → Option σ) (C : σ → α → Prop) [∀ s a, Decidable (C s a)] :
    σ → List α → Option σ
  | s, [] => some s
  | s, a :: rest => if C s a then (step s a).bind (play step C · rest) else none

/-- **A schedule that computes is a run.** -/
theorem run_of_play [∀ s a, Decidable (C s a)] {s₀ s s' : σ} (hrun : Run step C s₀ s)
    (schedule : List α) (hplay : play step C s schedule = some s') : Run step C s₀ s' := by
  induction schedule generalizing s with
  | nil =>
    cases hplay
    exact hrun
  | cons a rest ih =>
    rw [play] at hplay
    split at hplay
    · obtain ⟨next, hstep, hrest⟩ := Option.bind_eq_some_iff.mp hplay
      exact ih (hrun.step ‹_› hstep) hrest
    · cases hplay

end Machine
