import HMaigc.Sql.Contract

/-!
# Rows that only move

Many transactions change rows that are there, each in one of a few ways, and neither insert nor
delete any: a status advances, a lease is taken.  For a set `K` of keys — usually a table — and a
relation `M` between a row and the row it may become:

* `Moved K M s s'` — the rows in `K` are those that were there, each as it was or moved once.
* `Moving K M locks ws s` — the pending writes `ws` will have moved the rows in `K`, whatever the
  others do meanwhile, since each row written is locked.

`Moving` has one rule for each way it comes about: nothing in `K` is written (`Moving.of_aside`), one
row is (`Moving.write`), the rest of the transaction writes other tables (`Moving.tail`).
-/

set_option autoImplicit false

namespace Sql

variable {κ χ : Type} {β : κ → Type} {ε ω α : Type}

/-- The pending writes touch no row in `K`. -/
def Aside (K : κ → Prop) (ws : List (Sigma β)) : Prop := ∀ k ∈ keysOf ws, ¬K k

theorem aside_nil (K : κ → Prop) : Aside K ([] : List (Sigma β)) :=
  fun _ hk ↦ by simp [keysOf] at hk

theorem Aside.append {K : κ → Prop} {ws ws' : List (Sigma β)} (h : Aside K ws) (h' : Aside K ws') :
    Aside K (ws ++ ws') := fun k hk ↦ by
  rw [keysOf, List.map_append, List.mem_append] at hk
  exact hk.elim (h k) (h' k)

theorem aside_singleton {K : κ → Prop} {k : κ} (r : β k) (h : ¬K k) : Aside K [⟨k, r⟩] := by
  intro k' hk'
  have heq : k' = k := by simpa [keysOf] using hk'
  rwa [heq]

variable [DecidableEq κ]

/-- From `s` to `s'` the rows in `K` stayed, or moved as `M` says. -/
structure Moved (K : κ → Prop) (M : ∀ k, β k → β k → Prop) (s s' : Db β) : Prop where
  absent : ∀ k, K k → s.lookup k = none → s'.lookup k = none
  moved : ∀ k r, K k → s.lookup k = some r →
    ∃ r', s'.lookup k = some r' ∧ (r' = r ∨ M k r r')

/-- The rows in `K` that the pending writes touch are locked, and moved. -/
def Moving (K : κ → Prop) (M : ∀ k, β k → β k → Prop) (locks : List κ) (ws : List (Sigma β))
    (s : Db β) : Prop :=
  ∀ k ∈ keysOf ws, K k → ∃ r r', Pinned locks ws s k (some r) (some r') ∧ M k r r'

section Moving

variable {C : Contract κ χ β ω} {K : κ → Prop} {M : ∀ k, β k → β k → Prop} {locks : List κ}
  {ws : List (Sigma β)} {s t : Db β}

theorem Aside.lookup (h : Aside K ws) {k : κ} (hk : K k) (s : Db β) :
    (s.apply ws).lookup k = s.lookup k :=
  Db.lookup_apply_of_notMem (fun hmem ↦ h k hmem hk) s

namespace Moving

/-- **The others do not interfere.** -/
theorem rely (h : Moving K M locks ws s) (ht : C.Rely locks s t) : Moving K M locks ws t := by
  intro k hk hK
  obtain ⟨r, r', hpinned, hmove⟩ := h k hk hK
  exact ⟨r, r', hpinned.rely ht, hmove⟩

/-- **What a commit of moving writes does.** -/
theorem lookup (h : Moving K M locks ws s) {k : κ} (hK : K k) :
    (s.apply ws).lookup k = s.lookup k ∨
      ∃ r r', s.lookup k = some r ∧ (s.apply ws).lookup k = some r' ∧ M k r r' := by
  by_cases hk : k ∈ keysOf ws
  · obtain ⟨r, r', hpinned, hmove⟩ := h k hk hK
    exact .inr ⟨r, r', hpinned.committed, hpinned.view, hmove⟩
  · exact .inl (Db.lookup_apply_of_notMem hk s)

theorem moved (h : Moving K M locks ws s) : Moved K M s (s.apply ws) where
  absent k hK hs := by
    rcases h.lookup hK with heq | ⟨r, -, hr, -⟩
    · rw [heq, hs]
    · rw [hs] at hr
      cases hr
  moved k r hK hs := by
    rcases h.lookup hK with heq | ⟨r₀, r', hr, hr', hmove⟩
    · exact ⟨r, heq.trans hs, .inl rfl⟩
    · cases hs.symm.trans hr
      exact ⟨r', hr', .inr hmove⟩

theorem of_aside (h : Aside K ws) : Moving K M locks ws s := fun k hk hK ↦ absurd hK (h k hk)

/-- One row, locked, is written, and perhaps not for the first time. -/
theorem overwrite {k : κ} {r r' : β k} (h : ∀ k' ∈ keysOf ws, K k' → k' = k) (hk : k ∈ locks)
    (hs : s.lookup k = some r) (hmove : M k r r') : Moving K M locks (ws ++ [⟨k, r'⟩]) s := by
  intro k' hk' hK
  obtain rfl : k' = k := by
    rw [keysOf, List.map_append, List.mem_append] at hk'
    exact hk'.elim (fun hmem ↦ h k' hmem hK) fun hmem ↦ by simpa using hmem
  exact ⟨r, r', .write hs hk r', hmove⟩

/-- One row, locked, is written. -/
theorem write {k : κ} {r r' : β k} (h : Aside K ws) (hk : k ∈ locks) (hs : s.lookup k = some r)
    (hmove : M k r r') : Moving K M locks (ws ++ [⟨k, r'⟩]) s :=
  overwrite (fun k' hk' hK ↦ absurd hK (h k' hk')) hk hs hmove

theorem append {locks' : List κ} {ws' : List (Sigma β)} (h : Moving K M locks ws s)
    (hlocks : locks ⊆ locks') (hws' : Aside K ws') : Moving K M locks' (ws ++ ws') s := by
  intro k hk hK
  have hnot : k ∉ keysOf ws' := fun hmem ↦ hws' k hmem hK
  have hmem : k ∈ keysOf ws := by
    rw [keysOf, List.map_append, List.mem_append] at hk
    exact hk.resolve_right hnot
  obtain ⟨r, r', hpinned, hmove⟩ := h k hmem hK
  exact ⟨r, r', hpinned.append hlocks hnot, hmove⟩

/-- The rest of the transaction writes other rows. -/
theorem tail {p : Prog β ε α} (h : Moving K M locks ws s) (hs : C.inv s)
    (hp : p.WritesOnly fun k ↦ ¬K k) :
    p.Meets C (fun _ locks ws s ↦ Moving K M locks ws s) locks ws s :=
  Prog.meets_of_writesOnly hp hs fun _ _ _ _ hlocks hws' ht ↦ (h.rely ht).append hlocks hws'

/-- An `UPDATE` moves one row, or none. -/
theorem update (M : ∀ k, β k → β k → Prop) {k : κ} {cond : β k → Bool} {f : β k → β k}
    (h : Aside K ws) (hM : ∀ r, cond r = true → M k r (f r)) :
    (Prog.update k cond fun r ↦ .ok (f r) : Prog β ε ℕ).Meets C
      (fun _ locks ws s ↦ Moving K M locks ws s ∧ C.inv s) locks ws s := by
  refine Prog.meets_update (fun s' hs' r hr hc r' hr' ↦ ⟨?_, hs'.2⟩) fun s' hs' _ ↦
    ⟨.of_aside h, hs'.2⟩
  cases hr'
  by_cases hK : K k
  · exact .write h (by simp) ((h.lookup hK s').symm.trans hr) (hM r hc)
  · exact .of_aside (h.append (aside_singleton _ hK))

end Moving

end Moving

end Sql
