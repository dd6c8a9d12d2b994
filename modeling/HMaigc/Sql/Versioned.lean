import HMaigc.Sql.Moves

/-!
# Rows with a version

A transaction that reads a row without locking it, decides on what it read, and writes only if the
row still has the version it read, decides on the row it writes: the version of a row grows with
every write.  `Seen version k r s` is what is left of such a read — the row under `k` is still `r`,
or has a later version — and `Moving.updateSeen` is the rule for the write.
-/

set_option autoImplicit false

namespace Sql

variable {κ χ : Type} {β : κ → Type} {ε ω : Type}

/-- Every write of a row in `K` raises its version. -/
def Contract.Raises (C : Contract κ χ β ω) (K : κ → Prop) (version : ∀ k, β k → ℤ) : Prop :=
  ∀ c k r r', K k → C.row c k (some r) r' → version k r < version k r'

variable [DecidableEq κ]

/-- The row under `k` is the one read, or a later version of it. -/
def Seen (version : ∀ k, β k → ℤ) (k : κ) (r : β k) (s : Db β) : Prop :=
  ∃ r', s.lookup k = some r' ∧ (r' = r ∨ version k r < version k r')

section Seen

variable {C : Contract κ χ β ω} {K : κ → Prop} {version : ∀ k, β k → ℤ} {k : κ} {r : β k}
  {locks : List κ} {ws : List (Sigma β)} {s t : Db β}

theorem Seen.of_lookup (h : s.lookup k = some r) : Seen version k r s := ⟨r, h, .inl rfl⟩

/-- **A row that was read stays read**, whatever the others do. -/
theorem Seen.rely (hraises : C.Raises K version) (hK : K k) (h : Seen version k r s)
    (ht : C.Rely locks s t) : Seen version k r t := by
  refine ht.lift (P := fun u v ↦ Seen version k r u → Seen version k r v) (fun _ h ↦ h)
    (fun _ _ _ h h' hu ↦ h' (h hu)) (fun c _ _ u v _ hcommit hu ↦ ?_) h
  obtain ⟨r₁, hr₁, hlater⟩ := hu
  rcases hcommit.row k with heq | ⟨r₂, hr₂, hrow⟩
  · exact ⟨r₁, heq.trans hr₁, hlater⟩
  · rw [hr₁] at hrow
    have hlt := hraises c k r₁ r₂ hK hrow
    refine ⟨r₂, hr₂, .inr ?_⟩
    rcases hlater with rfl | hlater
    · exact hlt
    · exact hlater.trans hlt

/-- A row that has the version it was read with is the row that was read, and the transaction has not
written it. -/
theorem Seen.eq_of_version {M : ∀ k, β k → β k → Prop} {r' : β k}
    (hM : ∀ k r r', K k → M k r r' → version k r < version k r') (hK : K k)
    (hmoving : Moving K M locks ws s) (h : Seen version k r s)
    (hr' : (s.apply ws).lookup k = some r') (hversion : version k r' = version k r) :
    r' = r ∧ k ∉ keysOf ws ∧ s.lookup k = some r := by
  obtain ⟨r₁, hr₁, hlater⟩ := h
  by_cases hk : k ∈ keysOf ws
  · obtain ⟨r₀, r₂, hpinned, hmove⟩ := hmoving k hk hK
    cases hr₁.symm.trans hpinned.committed
    cases hr'.symm.trans hpinned.view
    have hlt := hM k r₁ r' hK hmove
    rcases hlater with rfl | hlater <;> omega
  · rw [Db.lookup_apply_of_notMem hk, hr₁, Option.some.injEq] at hr'
    subst hr'
    obtain rfl := hlater.resolve_right (by omega)
    exact ⟨rfl, hk, hr₁⟩

/-- **The rule for an `UPDATE` that checks the version**: it writes the row that was read. -/
theorem Moving.updateSeen {M : ∀ k, β k → β k → Prop} {cond : β k → Bool} {f : β k → β k}
    (hM : ∀ k r r', K k → M k r r' → version k r < version k r')
    (hraises : C.Raises K version) (hK : K k) (h : Moving K M locks ws s)
    (hseen : Seen version k r s) (hcond : ∀ r', cond r' = true → version k r' = version k r)
    (hmove : M k r (f r)) :
    (Prog.update k cond fun r ↦ .ok (f r) : Prog β ε ℕ).Meets C
      (fun _ locks ws s ↦ Moving K M locks ws s) locks ws s := by
  refine Prog.meets_update (fun s' hs' r₁ hr₁ hc r' hr' ↦ ?_) fun s' hs' _ ↦ h.rely hs'
  cases hr'
  obtain ⟨rfl, hk, hs⟩ := (hseen.rely hraises hK hs').eq_of_version hM hK (h.rely hs') hr₁
    (hcond r₁ hc)
  intro k' hk' hK'
  rw [keysOf, List.map_append, List.mem_append] at hk'
  by_cases heq : k' = k
  · subst heq
    exact ⟨r₁, f r₁, .write hs (by simp) _, hmove⟩
  · have hmem : k' ∈ keysOf ws := hk'.resolve_right fun hmem ↦ heq (by simpa using hmem)
    obtain ⟨r₀, r₂, hpinned, hmove'⟩ := h.rely hs' k' hmem hK'
    exact ⟨r₀, r₂, hpinned.append (by simp) (by simpa [keysOf] using heq), hmove'⟩

end Seen

end Sql
