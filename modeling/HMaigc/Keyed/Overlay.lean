import Mathlib.Data.Nat.Notation
import Mathlib.Data.List.Basic

/-!
# Facts laid over a row

A row is put together from facts that different parties recorded at different times, each in some
*generation*.  A fact overwrites what it knows about, and the row takes the fact's generation; a
fact of a lower generation than the row's is stale and is passed over.

* `Fact`, `Fact.overlay`, `run` — a fact, laying one over a row, and several in turn.
* `generation_le_run` — the row's generation never falls; `run_filter` — stale facts do not count.
* `exists_run_eq` — the row is what the facts of its generation made of some earlier row, and
  `run_eq_compose` — laying the facts over it again applies exactly these.
* `run_run` — so doing it twice is doing it once, if it is for facts that are never stale.
-/

set_option autoImplicit false

namespace Overlay

variable {σ : Type} {generation : σ → ℕ}

/-- Something recorded about a row, and the generation it was recorded in. -/
structure Fact (generation : σ → ℕ) where
  stamp : ℕ
  apply : σ → σ
  stamps : ∀ x, generation (apply x) = stamp

/-- A stale fact is passed over. -/
def Fact.overlay (fact : Fact generation) (x : σ) : σ :=
  if generation x ≤ fact.stamp then fact.apply x else x

/-- The facts in turn. -/
def run (facts : List (Fact generation)) (x : σ) : σ :=
  facts.foldl (fun x fact ↦ fact.overlay x) x

/-- The facts in turn, whatever their generation. -/
def compose (facts : List (Fact generation)) (x : σ) : σ :=
  facts.foldl (fun x fact ↦ fact.apply x) x

variable {facts : List (Fact generation)} {x : σ}

@[simp] theorem run_nil : run ([] : List (Fact generation)) x = x := rfl

@[simp] theorem run_cons (fact : Fact generation) :
    run (fact :: facts) x = run facts (fact.overlay x) := rfl

@[simp] theorem compose_nil : compose ([] : List (Fact generation)) x = x := rfl

@[simp] theorem compose_cons (fact : Fact generation) :
    compose (fact :: facts) x = compose facts (fact.apply x) := rfl

/-! ## The generation -/

theorem Fact.generation_overlay (fact : Fact generation) (x : σ) :
    generation (fact.overlay x) = max (generation x) fact.stamp := by
  rw [overlay]
  split
  · rw [fact.stamps]
    omega
  · omega

/-- **The generation of a row never falls.** -/
theorem generation_le_run (facts : List (Fact generation)) (x : σ) :
    generation x ≤ generation (run facts x) := by
  induction facts generalizing x with
  | nil => exact Nat.le_refl _
  | cons fact facts ih =>
    refine Nat.le_trans ?_ (ih _)
    rw [fact.generation_overlay]
    exact Nat.le_max_left _ _

/-- The row's generation is not below any fact's. -/
theorem stamp_le_run {fact : Fact generation} (hmem : fact ∈ facts) (x : σ) :
    fact.stamp ≤ generation (run facts x) := by
  induction facts generalizing x with
  | nil => exact absurd hmem List.not_mem_nil
  | cons first facts ih =>
    rcases List.mem_cons.mp hmem with rfl | hmem
    · refine Nat.le_trans ?_ (generation_le_run facts (fact.overlay x))
      rw [fact.generation_overlay]
      exact Nat.le_max_right _ _
    · exact ih hmem _

/-- **Stale facts do not count.** -/
theorem run_filter (facts : List (Fact generation)) {g : ℕ} (hg : g ≤ generation x) :
    run (facts.filter (g ≤ ·.stamp)) x = run facts x := by
  induction facts generalizing x with
  | nil => rfl
  | cons fact facts ih =>
    have hnext : g ≤ generation (fact.overlay x) := by
      rw [fact.generation_overlay]
      omega
    by_cases hstale : g ≤ fact.stamp
    · rw [List.filter_cons_of_pos (by simpa using hstale), run_cons, run_cons, ih hnext]
    · have hover : fact.overlay x = x := if_neg (by omega)
      rw [List.filter_cons_of_neg (by simpa using hstale), run_cons, hover, ih hg]

/-! ## The facts of the row's own generation -/

/-- Over a row no fact is ahead of, only the facts of its own generation are laid. -/
theorem run_eq_compose (h : ∀ fact ∈ facts, fact.stamp ≤ generation x) :
    run facts x = compose (facts.filter (·.stamp = generation x)) x := by
  induction facts generalizing x with
  | nil => rfl
  | cons fact facts ih =>
    have hle := h fact List.mem_cons_self
    have hrest : ∀ other ∈ facts, other.stamp ≤ generation x :=
      fun other hmem ↦ h other (List.mem_cons_of_mem _ hmem)
    by_cases hown : fact.stamp = generation x
    · have hover : fact.overlay x = fact.apply x := if_pos (Nat.le_of_eq hown.symm)
      have hgen : generation (fact.apply x) = generation x := (fact.stamps x).trans hown
      rw [List.filter_cons_of_pos (by simpa using hown), run_cons, compose_cons, hover,
        ih (by rwa [hgen]), hgen]
    · have hover : fact.overlay x = x := if_neg (by omega)
      rw [List.filter_cons_of_neg (by simpa using hown), run_cons, hover, ih hrest]

/-- **A row is what the facts of its generation made of some row.** -/
theorem exists_run_eq (facts : List (Fact generation)) (x : σ) :
    ∃ z, run facts x = compose (facts.filter (·.stamp = generation (run facts x))) z := by
  induction facts generalizing x with
  | nil => exact ⟨x, rfl⟩
  | cons fact facts ih =>
    rw [run_cons]
    by_cases hown : fact.stamp = generation (run facts (fact.overlay x))
    · refine ⟨x, ?_⟩
      have hle := generation_le_run facts (fact.overlay x)
      rw [fact.generation_overlay] at hle
      have hover : fact.overlay x = fact.apply x := if_pos (by omega)
      have hgen : generation (fact.apply x) = generation (run facts (fact.apply x)) := by
        rw [fact.stamps, hown, hover]
      rw [hover] at hown ⊢
      have hahead : ∀ other ∈ facts, other.stamp ≤ generation (fact.apply x) :=
        fun other hmem ↦ hgen ▸ stamp_le_run hmem _
      rw [List.filter_cons_of_pos (by simpa using hown), compose_cons, ← hgen]
      exact run_eq_compose hahead
    · obtain ⟨z, hz⟩ := ih (fact.overlay x)
      exact ⟨z, by rw [List.filter_cons_of_neg (by simpa using hown)]; exact hz⟩

/-- **Twice is once**, with a last touch that leaves the generation alone: if it is for every part
of the facts when none is passed over. -/
theorem run_run (final : σ → σ) (hfinal : ∀ x, generation (final x) = generation x)
    (hidem : ∀ g z, final (compose (facts.filter (·.stamp = g))
        (final (compose (facts.filter (·.stamp = g)) z))) =
      final (compose (facts.filter (·.stamp = g)) z)) (x : σ) :
    final (run facts (final (run facts x))) = final (run facts x) := by
  obtain ⟨z, hz⟩ := exists_run_eq facts x
  have hahead : ∀ fact ∈ facts, fact.stamp ≤ generation (final (run facts x)) := by
    intro fact hmem
    rw [hfinal]
    exact stamp_le_run hmem x
  rw [run_eq_compose hahead, hfinal]
  have hstep := hidem (generation (run facts x)) z
  rwa [← hz] at hstep

end Overlay
