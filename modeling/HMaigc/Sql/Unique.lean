import HMaigc.Sql.Contract

/-!
# Unique indexes among concurrent transactions

A unique index assigns entries to rows, `ix k r` being the entry the row `r` under `k` occupies.
PostgreSQL keeps it by locking: whoever moves a row into an entry holds the entry until it ends, and
waits for whoever holds it already.  In the model the entries are keys of the database, under which
no row is stored, and they are locked like rows.

* `Unique ix s` — no two rows occupy one entry.
* `Enters ix locks s s'` — a commit moves rows into entries it has locked only; this is what a
  contract has to say of each call.
* `Contract.Rely.unoccupied` — an entry that one has locked, and found free, stays free.
* `Unique.extend` — moving one row into a free entry keeps the index unique.
-/

set_option autoImplicit false

namespace Sql

variable {κ χ : Type} {β : κ → Type} {ω : Type} [DecidableEq κ]

/-- No two rows occupy the same entry. -/
def Unique (ix : ∀ k, β k → Option κ) (s : Db β) : Prop :=
  ∀ i k k' r r', s.lookup k = some r → s.lookup k' = some r' → ix k r = some i →
    ix k' r' = some i → k = k'

/-- No row occupies the entry. -/
def Unoccupied (ix : ∀ k, β k → Option κ) (i : κ) (s : Db β) : Prop :=
  ∀ k r, s.lookup k = some r → ix k r ≠ some i

/-- From `s` to `s'` rows have entered only entries in `locks`. -/
def Enters (ix : ∀ k, β k → Option κ) (locks : List κ) (s s' : Db β) : Prop :=
  ∀ k r' i, s'.lookup k = some r' → ix k r' = some i →
    (∃ r, s.lookup k = some r ∧ ix k r = some i) ∨ i ∈ locks

section Unique

variable {ix : ∀ k, β k → Option κ} {s s' t : Db β} {locks : List κ} {i : κ}

/-- **A locked entry stays free.** -/
theorem Contract.Rely.unoccupied {C : Contract κ χ β ω} (h : C.Rely locks s t)
    (henters : ∀ c l a u v, C.Commit c l a u v → Enters ix l u v) (hi : i ∈ locks)
    (hs : Unoccupied ix i s) : Unoccupied ix i t := by
  refine h.lift (P := fun u v ↦ Unoccupied ix i u → Unoccupied ix i v) (fun _ hu ↦ hu)
    (fun _ _ _ h h' hu ↦ h' (h hu)) (fun c l a u v hdisj hcommit hu k r hr hkr ↦ ?_) hs
  rcases henters c l a u v hcommit k r i hr hkr with ⟨r', hr', hkr'⟩ | hl
  · exact hu k r' hr' hkr'
  · exact hdisj hi hl

/-- **Moving one row into free entries keeps the index unique.** -/
theorem Unique.extend (h : Unique ix s) (k₀ : κ)
    (hrows : ∀ k r' i, s'.lookup k = some r' → ix k r' = some i →
      k = k₀ ∨ ∃ r, s.lookup k = some r ∧ ix k r = some i)
    (hfree : ∀ r' i, s'.lookup k₀ = some r' → ix k₀ r' = some i →
      ∀ k r, s.lookup k = some r → ix k r = some i → k = k₀) : Unique ix s' := by
  intro i k k' r r' hr hr' hi hi'
  rcases hrows k r i hr hi with rfl | ⟨a, ha, hai⟩
  · rcases hrows k' r' i hr' hi' with rfl | ⟨b, hb, hbi⟩
    · rfl
    · exact (hfree r i hr hi k' b hb hbi).symm
  · rcases hrows k' r' i hr' hi' with rfl | ⟨b, hb, hbi⟩
    · exact hfree r' i hr' hi' k a ha hai
    · exact h i k k' a b ha hb hai hbi

/-- Rows that keep their entries keep the index unique. -/
theorem Unique.of_rows (h : Unique ix s) (hrows : ∀ k r', s'.lookup k = some r' →
    ∀ i, ix k r' = some i → ∃ r, s.lookup k = some r ∧ ix k r = some i) : Unique ix s' := by
  intro i k k' r r' hr hr' hi hi'
  obtain ⟨a, ha, hai⟩ := hrows k r hr i hi
  obtain ⟨b, hb, hbi⟩ := hrows k' r' hr' i hi'
  exact h i k k' a b ha hb hai hbi

end Unique

end Sql
