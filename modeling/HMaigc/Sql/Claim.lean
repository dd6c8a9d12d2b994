import HMaigc.Sql.Contract

/-!
# Claiming a batch of rows

The usual way to share out work: select some rows `FOR UPDATE`, then go over them and mark each as
taken, leaving out those whose `UPDATE` no longer finds them.  `Prog.claimBatch` is that program;
the rows are identified by an `ι`, stored under `k i`, and read as a `ρ`.

Since the rows are locked by the time the loop starts, it leaves none out.  `Prog.meets_claimBatch`
says so: the result is every candidate as taken, and each of them is pinned (`Taken`).
-/

set_option autoImplicit false

namespace Sql

variable {κ χ : Type} {β : κ → Type} {ε ω ι ρ : Type} [DecidableEq κ]

namespace Prog

/-- The loop: `upd i` is the `UPDATE` that takes the row `i`, `new i` what it makes of it. -/
def claimEach (upd : ι → Prog β ε ℕ) (new : ι → ρ → ρ) : List (ι × ρ) → Prog β ε (List (ι × ρ))
  | [] => return []
  | (i, candidate) :: candidates => do
    let updated ← upd i
    let claimed ← claimEach upd new candidates
    if updated ≠ 1 then
      return claimed
    return (i, new i candidate) :: claimed

/-- Select the candidates, locking them, and take each. -/
def claimBatch (k : ι → κ) (candidates : Db β → List (ι × ρ)) (upd : ι → Prog β ε ℕ)
    (new : ι → ρ → ρ) : Prog β ε (List (ι × ρ)) := do
  let found ← queryForUpdate (fun v ↦ (candidates v).map fun d ↦ k d.1) candidates
  claimEach upd new found

/-- Going over the batch keeps a row relation if each `UPDATE` does. -/
theorem keeps_claimEach {T : ∀ k, Option (β k) → β k → Prop} {upd : ι → Prog β ε ℕ}
    {new : ι → ρ → ρ} (h : ∀ i, (upd i).Keeps T fun _ ↦ True) (candidates : List (ι × ρ)) :
    (claimEach upd new candidates).Keeps T fun _ ↦ True := by
  induction candidates with
  | nil => exact (keeps_done _).mpr trivial
  | cons d candidates ih =>
    obtain ⟨i, candidate⟩ := d
    rw [claimEach]
    refine (h i).bind fun _ ↦ ih.bind fun _ ↦ ?_
    rw [keeps_ite]
    exact ⟨fun _ ↦ (keeps_done _).mpr trivial, fun _ ↦ (keeps_done _).mpr trivial⟩

theorem keeps_claimBatch {T : ∀ k, Option (β k) → β k → Prop} {k : ι → κ}
    {candidates : Db β → List (ι × ρ)} {upd : ι → Prog β ε ℕ} {new : ι → ρ → ρ}
    (h : ∀ i, (upd i).Keeps T fun _ ↦ True) :
    (claimBatch k candidates upd new).Keeps T fun _ ↦ True := by
  rw [claimBatch, keeps_bind, keeps_queryForUpdate]
  exact fun _ ↦ keeps_claimEach h _

end Prog

section Meets

variable {C : Contract κ χ β ω} {k : ι → κ} {row : ∀ i, ρ → β (k i)} {upd : ι → Prog β ε ℕ}
  {new : ι → ρ → ρ} {locks : List κ} {ws : List (Sigma β)} {s : Db β}

/-- The candidate is locked, not written yet, and stored as it was read. -/
structure Offered (k : ι → κ) (row : ∀ i, ρ → β (k i)) (d : ι × ρ) (locks : List κ)
    (ws : List (Sigma β)) (s : Db β) : Prop where
  locked : k d.1 ∈ locks
  unwritten : k d.1 ∉ keysOf ws
  stored : s.lookup (k d.1) = some (row d.1 d.2)

/-- The pending writes take the candidates, and nothing else. -/
structure Taken (k : ι → κ) (row : ∀ i, ρ → β (k i)) (new : ι → ρ → ρ)
    (candidates : List (ι × ρ)) (locks : List κ) (ws : List (Sigma β)) (s : Db β) : Prop where
  keys : ∀ key ∈ keysOf ws, ∃ d ∈ candidates, key = k d.1
  pinned : ∀ d ∈ candidates, Pinned locks ws s (k d.1) (some (row d.1 d.2))
    (some (row d.1 (new d.1 d.2)))

theorem Offered.rely {d : ι × ρ} {t : Db β} (h : Offered k row d locks ws s)
    (ht : C.Rely locks s t) : Offered k row d locks ws t :=
  ⟨h.locked, h.unwritten, (ht.lookup_eq h.locked).trans h.stored⟩

/-- What a transaction sees of a candidate. -/
theorem Offered.view {d : ι × ρ} (h : Offered k row d locks ws s) :
    (s.apply ws).lookup (k d.1) = some (row d.1 d.2) :=
  (Db.lookup_apply_of_notMem h.unwritten s).trans h.stored

namespace Prog

/-- The `UPDATE` takes the row it is for. -/
def Takes (C : Contract κ χ β ω) (k : ι → κ) (row : ∀ i, ρ → β (k i)) (upd : ι → Prog β ε ℕ)
    (new : ι → ρ → ρ) (d : ι × ρ) : Prop :=
  ∀ locks ws s, Offered k row d locks ws s → C.inv s →
    (upd d.1).Meets C (fun n locks' ws' s' ↦ n = 1 ∧ locks ⊆ locks' ∧
      ws' = ws ++ [⟨k d.1, row d.1 (new d.1 d.2)⟩] ∧ C.Rely locks s s') locks ws s

/-- An `UPDATE` whose `WHERE` clause the candidate meets takes it. -/
theorem takes_update (C : Contract κ χ β ω) (k : ι → κ) {row : ∀ i, ρ → β (k i)}
    (cond : ∀ i, β (k i) → Bool) (f : ∀ i, β (k i) → β (k i)) {d : ι × ρ}
    (hcond : cond d.1 (row d.1 d.2) = true)
    (hnew : f d.1 (row d.1 d.2) = row d.1 (new d.1 d.2)) :
    Takes C k row (fun i ↦ (update (k i) (cond i) fun r ↦ .ok (f i r) : Prog β ε ℕ)) new d := by
  intro locks ws s h hs
  refine meets_update (fun s₁ hs₁ r hr _ r' hr' ↦ ?_) fun s₁ hs₁ h0 ↦ ?_
  · cases (h.rely hs₁).view.symm.trans hr
    cases hr'
    exact ⟨rfl, fun _ hk ↦ List.mem_append_left _ hk, by rw [hnew], hs₁⟩
  · exact absurd (h0 _ (h.rely hs₁).view) (by simp [hcond])

/-- **The loop takes every candidate.** -/
theorem meets_claimEach (candidates : List (ι × ρ)) (hs : C.inv s)
    (hnodup : (candidates.map fun d ↦ k d.1).Nodup)
    (hoffered : ∀ d ∈ candidates, Offered k row d locks ws s)
    (htakes : ∀ d ∈ candidates, Takes C k row upd new d) :
    (claimEach upd new candidates).Meets C (fun a locks' ws' s' ↦ locks ⊆ locks' ∧
      C.Rely locks s s' ∧ a = candidates.map (fun d ↦ (d.1, new d.1 d.2)) ∧
        ws' = ws ++ a.map fun d ↦ ⟨k d.1, row d.1 d.2⟩) locks ws s := by
  induction candidates generalizing locks ws s with
  | nil => exact meets_pure ⟨fun _ h ↦ h, .refl hs, rfl, by simp⟩
  | cons d candidates ih =>
    rw [List.map_cons, List.nodup_cons] at hnodup
    rw [claimEach, meets_bind]
    refine (htakes d (.head _) locks ws s (hoffered d (.head _)) hs).imp ?_
    rintro n locks₁ ws₁ s₁ ⟨rfl, hsub₁, rfl, hs₁⟩
    rw [meets_bind]
    refine (ih hs₁.2 hnodup.2 (fun d' hd' ↦ ?_) fun d' hd' ↦ htakes d' (.tail _ hd')).imp ?_
    · have hd'₁ := (hoffered d' (.tail _ hd')).rely hs₁
      refine ⟨hsub₁ hd'₁.locked, ?_, hd'₁.stored⟩
      rw [keysOf, List.map_append, List.mem_append, not_or]
      refine ⟨hd'₁.unwritten, fun hk ↦ hnodup.1 ?_⟩
      exact List.mem_map.mpr ⟨d', hd', List.mem_singleton.mp hk⟩
    · rintro a locks₂ ws₂ s₂ ⟨hsub₂, hs₂, rfl, rfl⟩
      rw [if_neg (by simp)]
      refine meets_pure ⟨List.Subset.trans hsub₁ hsub₂, hs₁.trans (hs₂.mono hsub₁), rfl, ?_⟩
      rw [List.append_assoc]
      rfl

/-- **Claiming a batch** of rows that `candidates` finds, each once, takes them all. -/
theorem meets_claimBatch (row : ∀ i, ρ → β (k i)) {candidates : Db β → List (ι × ρ)}
    (hstored : ∀ v, ∀ d ∈ candidates v, v.lookup (k d.1) = some (row d.1 d.2))
    (hnodup : ∀ v, ((candidates v).map fun d ↦ k d.1).Nodup)
    (htakes : ∀ v, ∀ d ∈ candidates v, Takes C k row upd new d)
    {Q : List (ι × ρ) → List κ → List (Sigma β) → Db β → Prop}
    (hQ : ∀ v locks ws s, Taken k row new (candidates v) locks ws s →
      Q ((candidates v).map fun d ↦ (d.1, new d.1 d.2)) locks ws s) :
    (claimBatch k candidates upd new).Meets C Q [] [] s := by
  rw [claimBatch, meets_bind]
  refine meets_queryForUpdate fun s₁ hs₁ ↦ ?_
  rw [Db.apply_nil, List.nil_append]
  have hlocked : ∀ d ∈ candidates s₁, k d.1 ∈ (candidates s₁).map fun d ↦ k d.1 :=
    fun d hd ↦ List.mem_map.mpr ⟨d, hd, rfl⟩
  refine (meets_claimEach _ hs₁.2 (hnodup s₁) (fun d hd ↦ ?_) (htakes s₁)).imp ?_
  · exact ⟨hlocked d hd, by simp [keysOf], hstored s₁ d hd⟩
  · rintro a locks ws s₂ ⟨hsub, hs₂, rfl, rfl⟩
    refine hQ s₁ locks _ s₂ ⟨fun key hkey ↦ ?_, fun d hd ↦ ⟨hsub (hlocked d hd), ?_, ?_⟩⟩
    · obtain ⟨d, hd, rfl⟩ : ∃ d ∈ candidates s₁, k d.1 = key := by simpa [keysOf] using hkey
      exact ⟨d, hd, rfl⟩
    · exact (hs₂.lookup_eq (hlocked d hd)).trans (hstored s₁ d hd)
    · refine Db.lookup_apply_of_mem ?_ ?_ s₂
      · simpa [List.map_map, Function.comp_def] using hnodup s₁
      · exact List.mem_map.mpr ⟨_, List.mem_map_of_mem hd, rfl⟩

end Prog

end Meets

end Sql
