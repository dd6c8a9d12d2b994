import HMaigc.Sql.RowStep

/-!
# Programs that preserve a property of the database

`Prog.Preserves P p`: run alone from a database with `P`, the program leaves one with `P` when it
returns.  It follows the structure of a program (`Preserves.bind`, `Preserves.done`), and a program
whose single writes stand in a relation that does not disturb `P` preserves it
(`Preserves.of_keeps`).  `Sql.Serial` carries it through whole runs.
-/

set_option autoImplicit false

namespace Sql

variable {κ : Type} {β : κ → Type} {ε α γ : Type} [DecidableEq κ]

/-- A relation on rows whose writes do not disturb `P`. -/
def Harmless (P : Db β → Prop) (T : ∀ k, Option (β k) → β k → Prop) : Prop :=
  ∀ s s', P s → RowStep T s s' → P s'

namespace Prog

/-- A program that only looks leaves the database as it is. -/
theorem post_of_readOnly {p : Prog β ε α} (h : p.ReadOnly) (s : Db β) :
    p.Post s fun _ s' ↦ s' = s := by
  induction p with
  | done a => simp
  | fail e => simp
  | stmt l w n ih =>
    obtain ⟨hw, hn⟩ := (keeps_stmt l w n).mp h s
    rw [post_stmt]
    cases hws : w s with
    | nil => exact ih s hn
    | cons u us =>
      rw [hws] at hw
      exact hw.1.elim

/-- Run from a database with `P`, the program leaves one with `P`. -/
def Preserves (P : Db β → Prop) (p : Prog β ε α) : Prop := ∀ s, P s → p.Post s fun _ s' ↦ P s'

namespace Preserves

variable {P : Db β → Prop} {p q : Prog β ε α}

theorem done (a : α) : (Prog.done a : Prog β ε α).Preserves P := fun s hs ↦ by simpa using hs

/-- **The sequencing rule.** -/
theorem bind {f : α → Prog β ε γ} (hp : p.Preserves P) (hf : ∀ a, (f a).Preserves P) :
    (p >>= f).Preserves P := by
  intro s hs
  rw [post_bind]
  exact (hp s hs).mono fun a s' hs' ↦ hf a s' hs'

/-- **The rule for programs that do not disturb `P`.** -/
theorem of_keeps {T : ∀ k, Option (β k) → β k → Prop} (hT : RowTrans T) (hP : Harmless P T)
    (h : p.Keeps T fun _ ↦ True) : p.Preserves P := fun s hs ↦
  (post_of_keeps hT h s).mono fun _ s' hstep ↦ hP s s' hs hstep.1

end Preserves

end Prog

end Sql
