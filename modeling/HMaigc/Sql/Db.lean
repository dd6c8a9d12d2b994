import Mathlib.Data.List.AList
import Mathlib.Algebra.BigOperators.Group.Finset.Basic
import Mathlib.Algebra.BigOperators.Group.List.Basic
import Mathlib.Algebra.Order.BigOperators.Group.Finset
import Mathlib.Algebra.Order.Ring.Int
import Mathlib.Tactic.Abel
import Mathlib.Tactic.Linarith

/-!
# Databases as finite maps from row keys to rows

A database here is a finite map: a *row key* names a table and a primary key at once, and the type
of the row depends on the table.  `AList` is exactly that — an association list without repeated
keys, whose value type may depend on the key — so a `Db` is one, and looking a row up, inserting
it and overwriting it are `AList.lookup` and `AList.insert` with their lemmas.

What `AList` does not have is a way to talk about *all* rows at once, which is what an aggregate
query does and what an accounting invariant says.  This file adds the four aggregates used later.

* `Db.total f s` — the sum of `f` over all rows (`SELECT SUM …`).  Overwriting one row moves it by
  the difference of that row's two contributions (`Db.total_insert`), whatever else is stored; this
  is the only fact an invariant of the form *balance = sum of postings* needs.
* `Db.count p s` — the number of rows satisfying `p` (`SELECT COUNT(*) …`), monotone in the set of
  rows (`Db.count_le_count`).
* `Db.any p s` — is there such a row (`EXISTS`)?  This is what a unique index asks.
* `Db.select f s` — the rows `f` keeps, in storage order.
-/

set_option autoImplicit false

namespace Sql

variable {κ : Type} {β : κ → Type}

/-- A database: finitely many rows, each under its own key. -/
abbrev Db (β : κ → Type) : Type := AList β

namespace Db

/-! ## Membership of a row -/

section Lookup

variable [DecidableEq κ]

/-- A row is among the entries exactly when looking its key up finds it. -/
theorem mem_entries_iff {s : Db β} {k : κ} {v : β k} :
    (⟨k, v⟩ : Sigma β) ∈ s.entries ↔ s.lookup k = some v := by
  rw [← Option.mem_def, AList.mem_lookup_iff]

/-- A row found after an `insert` is the inserted one, or was there before under another key. -/
theorem lookup_insert_cases {s : Db β} {k k' : κ} {v : β k} {w : β k'}
    (h : (s.insert k v).lookup k' = some w) :
    (⟨k', w⟩ : Sigma β) = ⟨k, v⟩ ∨ k' ≠ k ∧ s.lookup k' = some w := by
  by_cases hk : k' = k
  · subst hk
    rw [AList.lookup_insert] at h
    cases h
    exact .inl rfl
  · rw [AList.lookup_insert_ne hk] at h
    exact .inr ⟨hk, h⟩

/-- A row found after an `erase` was there before, under another key. -/
theorem lookup_erase_cases {s : Db β} {k k' : κ} {w : β k'}
    (h : (s.erase k).lookup k' = some w) : k' ≠ k ∧ s.lookup k' = some w := by
  by_cases hk : k' = k
  · subst hk
    rw [AList.lookup_erase] at h
    cases h
  · rw [AList.lookup_erase_ne hk] at h
    exact ⟨hk, h⟩

end Lookup

/-! ## Sums -/

section Total

variable {M : Type}

/-- The sum of `f` over every row of the database. -/
def total [AddCommMonoid M] (f : ∀ k, β k → M) (s : Db β) : M :=
  (s.entries.map fun e ↦ f e.1 e.2).sum

@[simp] theorem total_empty [AddCommMonoid M] (f : ∀ k, β k → M) : total f (∅ : Db β) = 0 := rfl

variable [DecidableEq κ]

/-- What the row under `k` contributes to `total f`, a missing row contributing nothing. -/
def share [Zero M] (f : ∀ k, β k → M) (s : Db β) (k : κ) : M :=
  ((s.lookup k).map (f k)).getD 0

theorem share_of_some [Zero M] {f : ∀ k, β k → M} {s : Db β} {k : κ} {v : β k}
    (h : s.lookup k = some v) : share f s k = f k v := by
  simp [share, h]

theorem share_of_none [Zero M] {f : ∀ k, β k → M} {s : Db β} {k : κ}
    (h : s.lookup k = none) : share f s k = 0 := by
  simp [share, h]

private theorem sum_kerase [AddCommMonoid M] (f : ∀ k, β k → M) (k : κ) :
    ∀ l : List (Sigma β), (l.map fun e ↦ f e.1 e.2).sum =
      ((l.dlookup k).map (f k)).getD 0 + ((l.kerase k).map fun e ↦ f e.1 e.2).sum
  | [] => by simp
  | ⟨k', v⟩ :: l => by
    by_cases h : k' = k
    · subst h
      simp
    · have hne : k ≠ (⟨k', v⟩ : Sigma β).1 := Ne.symm h
      rw [List.dlookup_cons_ne _ _ hne, List.kerase_cons_ne hne, List.map_cons, List.sum_cons,
        List.map_cons, List.sum_cons, sum_kerase f k l, add_left_comm]

/-- **Overwriting one row moves a sum by that row's own difference.** -/
theorem total_insert [AddCommGroup M] (f : ∀ k, β k → M) (s : Db β) (k : κ) (v : β k) :
    total f (s.insert k v) = total f s + f k v - share f s k := by
  have h : total f s = share f s k + ((s.entries.kerase k).map fun e ↦ f e.1 e.2).sum :=
    sum_kerase f k s.entries
  have h' : total f (s.insert k v) =
      f k v + ((s.entries.kerase k).map fun e ↦ f e.1 e.2).sum := by
    rw [total, AList.entries_insert, List.map_cons, List.sum_cons]
  rw [h, h']
  abel

/-- A row of a table that contributes nothing. -/
theorem share_of_zero [Zero M] {f : ∀ k, β k → M} {k : κ} (h : ∀ r, f k r = 0) (s : Db β) :
    share f s k = 0 := by
  cases hl : s.lookup k with
  | none => exact share_of_none hl
  | some r => rw [share_of_some hl, h]

theorem share_insert_of_ne [Zero M] (f : ∀ k, β k → M) (s : Db β) {k k' : κ} (v : β k)
    (h : k' ≠ k) : share f (s.insert k v) k' = share f s k' := by
  rw [share, AList.lookup_insert_ne h, share]

/-- A row that contributes nothing, over a row that contributed nothing. -/
theorem total_insert_of_zero [AddCommGroup M] (f : ∀ k, β k → M) (s : Db β) (k : κ) (v : β k)
    (h : ∀ r, f k r = 0) : total f (s.insert k v) = total f s := by
  rw [total_insert, h, share_of_zero h, add_zero, sub_zero]

theorem total_insert_of_none [AddCommGroup M] (f : ∀ k, β k → M) {s : Db β} {k : κ} (v : β k)
    (h : s.lookup k = none) : total f (s.insert k v) = total f s + f k v := by
  rw [total_insert, share_of_none h, sub_zero]

/-- The sum, as a sum of shares over any set of keys that covers the database. -/
theorem total_eq_sum_share [AddCommGroup M] (f : ∀ k, β k → M) (s : Db β) :
    ∀ K : Finset κ, s.keys.toFinset ⊆ K → total f s = ∑ k ∈ K, share f s k := by
  induction s using AList.insertRec with
  | H0 => exact fun K _ ↦ by simp [share]
  | IH k v s hk ih =>
    intro K hK
    have hlookup : s.lookup k = none := AList.lookup_eq_none.mpr hk
    have hkK : k ∈ K := hK (by simp)
    have hsub : s.keys.toFinset ⊆ K.erase k := by
      intro k' hk'
      have hmem : k' ∈ s.keys := List.mem_toFinset.mp hk'
      have hne : k' ≠ k := fun h ↦ hk (h ▸ hmem)
      refine Finset.mem_erase.mpr ⟨hne, hK ?_⟩
      rw [AList.keys_insert]
      simp [hne, (List.mem_erase_of_ne hne).mpr hmem]
    rw [total_insert_of_none f v hlookup, ih _ hsub, ← Finset.add_sum_erase K _ hkK, add_comm]
    congr 1
    · rw [share_of_some (AList.lookup_insert s)]
    · exact Finset.sum_congr rfl fun k' hk' ↦
        (share_insert_of_ne f s v (Finset.ne_of_mem_erase hk')).symm

/-- **A sum depends only on what the rows contribute.** -/
theorem total_congr [AddCommGroup M] (f : ∀ k, β k → M) {s t : Db β}
    (h : ∀ k, share f s k = share f t k) : total f s = total f t := by
  rw [total_eq_sum_share f s (s.keys.toFinset ∪ t.keys.toFinset) Finset.subset_union_left,
    total_eq_sum_share f t (s.keys.toFinset ∪ t.keys.toFinset) Finset.subset_union_right]
  exact Finset.sum_congr rfl fun k _ ↦ h k

theorem total_eq_zero [AddCommGroup M] (f : ∀ k, β k → M) {s : Db β}
    (h : ∀ k, share f s k = 0) : total f s = 0 :=
  total_congr f (t := ∅) fun k ↦ by rw [h, share_of_none (AList.lookup_empty k)]

/-- A sum all of whose rows contribute no more is no larger. -/
theorem total_mono (f : ∀ k, β k → ℤ) {s t : Db β} (h : ∀ k, share f s k ≤ share f t k) :
    total f s ≤ total f t := by
  rw [total_eq_sum_share f s (s.keys.toFinset ∪ t.keys.toFinset) Finset.subset_union_left,
    total_eq_sum_share f t (s.keys.toFinset ∪ t.keys.toFinset) Finset.subset_union_right]
  exact Finset.sum_le_sum fun k _ ↦ h k

/-- A sum is no larger but for what one row has gained. -/
theorem total_le_add (f : ∀ k, β k → ℤ) {s t : Db β} (k₀ : κ) {x : ℤ}
    (h : ∀ k, k ≠ k₀ → share f t k ≤ share f s k) (h₀ : share f t k₀ ≤ share f s k₀ + x) :
    total f t ≤ total f s + x := by
  let K := insert k₀ (s.keys.toFinset ∪ t.keys.toFinset)
  have hs : s.keys.toFinset ⊆ K := Finset.subset_union_left.trans (Finset.subset_insert _ _)
  have ht : t.keys.toFinset ⊆ K := Finset.subset_union_right.trans (Finset.subset_insert _ _)
  have hrest : ∑ k ∈ K.erase k₀, share f t k ≤ ∑ k ∈ K.erase k₀, share f s k :=
    Finset.sum_le_sum fun k hk ↦ h k (Finset.ne_of_mem_erase hk)
  rw [total_eq_sum_share f s K hs, total_eq_sum_share f t K ht,
    ← Finset.add_sum_erase K (share f t) (Finset.mem_insert_self k₀ _),
    ← Finset.add_sum_erase K (share f s) (Finset.mem_insert_self k₀ _)]
  omega

end Total

/-! ## Counting and searching -/

/-- The number of rows satisfying `p`. -/
def count (p : ∀ k, β k → Bool) (s : Db β) : ℕ :=
  s.entries.countP fun e ↦ p e.1 e.2

/-- Is there a row satisfying `p`? -/
def any (p : ∀ k, β k → Bool) (s : Db β) : Bool :=
  s.entries.any fun e ↦ p e.1 e.2

/-- The values `f` reads off the rows it keeps, in storage order. -/
def select {α : Type} (f : ∀ k, β k → Option α) (s : Db β) : List α :=
  s.entries.filterMap fun e ↦ f e.1 e.2

theorem count_eq_length (p : ∀ k, β k → Bool) (s : Db β) :
    count p s = ((s.entries.filter fun e ↦ p e.1 e.2).map Sigma.fst).length := by
  rw [List.length_map, count, List.countP_eq_length_filter]

theorem nodup_keys_filter (p : ∀ k, β k → Bool) (s : Db β) :
    ((s.entries.filter fun e ↦ p e.1 e.2).map Sigma.fst).Nodup :=
  s.nodupKeys.sublist List.filter_sublist

/-- A selection that keeps the keys has every row once. -/
theorem nodup_select {α : Type} {f : ∀ k, β k → Option α} {g : α → κ}
    (h : ∀ k r a, f k r = some a → g a = k) (s : Db β) : ((s.select f).map g).Nodup := by
  have hkeys : ∀ l : List (Sigma β),
      ((l.filterMap fun e ↦ f e.1 e.2).map g).Sublist (l.map Sigma.fst) := by
    intro l
    induction l with
    | nil => exact .slnil
    | cons e l ih =>
      cases he : f e.1 e.2 with
      | none =>
        rw [List.filterMap_cons_none (by exact he)]
        exact ih.cons e.1
      | some a =>
        rw [List.filterMap_cons_some (by exact he), List.map_cons, h _ _ _ he]
        exact ih.cons_cons e.1
  exact (hkeys s.entries).nodup s.nodupKeys

section Aggregates

variable [DecidableEq κ]

theorem any_iff {p : ∀ k, β k → Bool} {s : Db β} :
    any p s = true ↔ ∃ k v, s.lookup k = some v ∧ p k v = true := by
  simp only [any, List.any_eq_true]
  constructor
  · rintro ⟨⟨k, v⟩, hmem, hp⟩
    exact ⟨k, v, mem_entries_iff.mp hmem, hp⟩
  · rintro ⟨k, v, hv, hp⟩
    exact ⟨⟨k, v⟩, mem_entries_iff.mpr hv, hp⟩

theorem any_eq_false_iff {p : ∀ k, β k → Bool} {s : Db β} :
    any p s = false ↔ ∀ k v, s.lookup k = some v → p k v = false := by
  rw [← Bool.not_eq_true, any_iff]
  simp

theorem mem_select {α : Type} {f : ∀ k, β k → Option α} {s : Db β} {a : α} :
    a ∈ select f s ↔ ∃ k v, s.lookup k = some v ∧ f k v = some a := by
  simp only [select, List.mem_filterMap]
  constructor
  · rintro ⟨⟨k, v⟩, hmem, hf⟩
    exact ⟨k, v, mem_entries_iff.mp hmem, hf⟩
  · rintro ⟨k, v, hv, hf⟩
    exact ⟨⟨k, v⟩, mem_entries_iff.mpr hv, hf⟩

/-- **A count is monotone in the rows counted**: if every row counted on the left stands, under the
same key, among the rows counted on the right, then the right count is at least as large. -/
theorem count_le_count {p q : ∀ k, β k → Bool} {s t : Db β}
    (h : ∀ k v, s.lookup k = some v → p k v = true → ∃ w, t.lookup k = some w ∧ q k w = true) :
    count p s ≤ count q t := by
  rw [count_eq_length, count_eq_length]
  refine (List.subperm_of_subset (nodup_keys_filter p s) fun k hk ↦ ?_).length_le
  obtain ⟨⟨k', v⟩, hmem, rfl⟩ := List.mem_map.mp hk
  obtain ⟨hv, hp⟩ := List.mem_filter.mp hmem
  obtain ⟨w, hw, hq⟩ := h k' v (mem_entries_iff.mp hv) hp
  exact List.mem_map.mpr ⟨⟨k', w⟩, List.mem_filter.mpr ⟨mem_entries_iff.mpr hw, hq⟩, rfl⟩

/-- Rows counted on the left that stand, but for one key, among those counted on the right. -/
theorem count_le_count_add_one {p q : ∀ k, β k → Bool} {s t : Db β} (k₀ : κ)
    (h : ∀ k v, k ≠ k₀ → s.lookup k = some v → p k v = true →
      ∃ w, t.lookup k = some w ∧ q k w = true) :
    count p s ≤ count q t + 1 := by
  rw [count_eq_length, count_eq_length, ← List.length_cons (a := k₀)]
  refine (List.subperm_of_subset (nodup_keys_filter p s) fun k hk ↦ ?_).length_le
  obtain ⟨⟨k', v⟩, hmem, rfl⟩ := List.mem_map.mp hk
  obtain ⟨hv, hp⟩ := List.mem_filter.mp hmem
  by_cases hk' : k' = k₀
  · exact List.mem_cons.mpr (.inl hk')
  · obtain ⟨w, hw, hq⟩ := h k' v hk' (mem_entries_iff.mp hv) hp
    exact List.mem_cons_of_mem _
      (List.mem_map.mpr ⟨⟨k', w⟩, List.mem_filter.mpr ⟨mem_entries_iff.mpr hw, hq⟩, rfl⟩)

/-- A row counted on the right only pays for one counted on the left only. -/
theorem count_le_count_of_exchange {p q : ∀ k, β k → Bool} {s t : Db β} (k₁ : κ)
    (h : ∀ k v, k ≠ k₁ → s.lookup k = some v → p k v = true →
      ∃ w, t.lookup k = some w ∧ q k w = true)
    {k₂ : κ} {w₂ : β k₂} (hw₂ : t.lookup k₂ = some w₂) (hq₂ : q k₂ w₂ = true)
    (hnot : ∀ v, s.lookup k₂ = some v → p k₂ v = false) : count p s ≤ count q t := by
  have hmem : k₂ ∈ (t.entries.filter fun e ↦ q e.1 e.2).map Sigma.fst :=
    List.mem_map.mpr ⟨⟨k₂, w₂⟩, List.mem_filter.mpr ⟨mem_entries_iff.mpr hw₂, hq₂⟩, rfl⟩
  rw [count_eq_length, count_eq_length, ← List.length_erase_add_one hmem,
    ← List.length_cons (a := k₁)]
  refine (List.subperm_of_subset (nodup_keys_filter p s) fun k hk ↦ ?_).length_le
  obtain ⟨⟨k', v⟩, hk', rfl⟩ := List.mem_map.mp hk
  obtain ⟨hv, hp⟩ := List.mem_filter.mp hk'
  by_cases hne : k' = k₁
  · exact List.mem_cons.mpr (.inl hne)
  · obtain ⟨w, hw, hq⟩ := h k' v hne (mem_entries_iff.mp hv) hp
    have hk₂ : k' ≠ k₂ := by
      rintro rfl
      rw [hnot v (mem_entries_iff.mp hv)] at hp
      cases hp
    exact List.mem_cons_of_mem _ ((List.mem_erase_of_ne hk₂).mpr
      (List.mem_map.mpr ⟨⟨k', w⟩, List.mem_filter.mpr ⟨mem_entries_iff.mpr hw, hq⟩, rfl⟩))

/-- A row counted on the right that the left does not count makes the right count larger. -/
theorem count_add_one_le_count {p q : ∀ k, β k → Bool} {s t : Db β}
    (h : ∀ k v, s.lookup k = some v → p k v = true → ∃ w, t.lookup k = some w ∧ q k w = true)
    {k₀ : κ} {w₀ : β k₀} (hw₀ : t.lookup k₀ = some w₀) (hq₀ : q k₀ w₀ = true)
    (hnot : ∀ v, s.lookup k₀ = some v → p k₀ v = false) : count p s + 1 ≤ count q t := by
  rw [count_eq_length, count_eq_length, ← List.length_cons (a := k₀)]
  refine (List.subperm_of_subset (List.nodup_cons.mpr ⟨fun hk ↦ ?_, nodup_keys_filter p s⟩)
    fun k hk ↦ ?_).length_le
  · obtain ⟨⟨k', v⟩, hmem, rfl⟩ := List.mem_map.mp hk
    obtain ⟨hv, hp⟩ := List.mem_filter.mp hmem
    rw [hnot v (mem_entries_iff.mp hv)] at hp
    cases hp
  · rcases List.mem_cons.mp hk with rfl | hk
    · exact List.mem_map.mpr ⟨⟨k, w₀⟩, List.mem_filter.mpr ⟨mem_entries_iff.mpr hw₀, hq₀⟩, rfl⟩
    · obtain ⟨⟨k', v⟩, hmem, rfl⟩ := List.mem_map.mp hk
      obtain ⟨hv, hp⟩ := List.mem_filter.mp hmem
      obtain ⟨w, hw, hq⟩ := h k' v (mem_entries_iff.mp hv) hp
      exact List.mem_map.mpr ⟨⟨k', w⟩, List.mem_filter.mpr ⟨mem_entries_iff.mpr hw, hq⟩, rfl⟩

omit [DecidableEq κ] in
/-- Two counts of different rows, as one. -/
theorem count_add_count {p q : ∀ k, β k → Bool} (h : ∀ k v, p k v = true → q k v = false)
    (s : Db β) : count p s + count q s = count (fun k v ↦ p k v || q k v) s := by
  simp only [count]
  induction s.entries with
  | nil => rfl
  | cons e l ih =>
    rw [List.countP_cons, List.countP_cons, List.countP_cons]
    rcases hp : p e.1 e.2 <;> rcases hq : q e.1 e.2
    · simp only [Bool.or_self, Bool.false_eq_true, if_false]
      omega
    · simp only [Bool.false_or, Bool.false_eq_true, if_true, if_false]
      omega
    · simp only [Bool.or_false, Bool.false_eq_true, if_true, if_false]
      omega
    · rw [h _ _ hp] at hq
      cases hq

end Aggregates

/-! ## The first row of an order -/

/-- `ORDER BY key ASC, id ASC LIMIT 1` over rows that carry their identifier. -/
def earliest {α : Type} (key : α → ℕ) : List (String × α) → Option (String × α)
  | [] => none
  | a :: l =>
    match earliest key l with
    | none => some a
    | some b => if key b.2 < key a.2 ∨ key b.2 = key a.2 ∧ b.1 < a.1 then some b else some a

section Earliest

variable {α : Type} {key : α → ℕ} {l : List (String × α)} {a b : String × α}

theorem earliest_nil : earliest key [] = none := rfl

theorem earliest_cons_of_none (h : earliest key l = none) : earliest key (a :: l) = some a := by
  show (match earliest key l with
    | none => some a
    | some b => if key b.2 < key a.2 ∨ key b.2 = key a.2 ∧ b.1 < a.1 then some b else some a) = _
  rw [h]

theorem earliest_cons_of_some (h : earliest key l = some b) :
    earliest key (a :: l) =
      if key b.2 < key a.2 ∨ key b.2 = key a.2 ∧ b.1 < a.1 then some b else some a := by
  show (match earliest key l with
    | none => some a
    | some b => if key b.2 < key a.2 ∨ key b.2 = key a.2 ∧ b.1 < a.1 then some b else some a) = _
  rw [h]

theorem earliest_eq_none : earliest key l = none ↔ l = [] := by
  cases l with
  | nil => simp [earliest_nil]
  | cons a l =>
    cases hl : earliest key l with
    | none => simp [earliest_cons_of_none hl]
    | some b =>
      rw [earliest_cons_of_some hl]
      split <;> simp

theorem mem_of_earliest (h : earliest key l = some a) : a ∈ l := by
  induction l generalizing a with
  | nil => cases h
  | cons b l ih =>
    cases hl : earliest key l with
    | none =>
      rw [earliest_cons_of_none hl] at h
      cases h
      exact .head _
    | some c =>
      rw [earliest_cons_of_some hl] at h
      split at h
      · cases h
        exact .tail _ (ih hl)
      · cases h
        exact .head _

/-- Nothing sorts strictly before the first row. -/
theorem not_before_earliest (h : earliest key l = some a) (hb : b ∈ l) :
    ¬(key b.2 < key a.2 ∨ key b.2 = key a.2 ∧ b.1 < a.1) := by
  induction l generalizing a with
  | nil => simp at hb
  | cons c l ih =>
    cases hl : earliest key l with
    | none =>
      rw [earliest_cons_of_none hl] at h
      obtain rfl : l = [] := earliest_eq_none.mp hl
      obtain rfl : b = c := by simpa using hb
      cases h
      simp
    | some d =>
      rw [earliest_cons_of_some hl] at h
      rcases List.mem_cons.mp hb with rfl | hb
      · split at h
        · rename_i hlt
          cases h
          rintro (hlt' | ⟨heq, hid⟩)
          · omega
          · rcases hlt with hlt | ⟨-, hid'⟩
            · omega
            · exact String.lt_irrefl _ (String.lt_trans hid hid')
        · cases h
          simp
      · have hbd := ih hl hb
        split at h
        · cases h
          exact hbd
        · rename_i hnlt
          cases h
          rintro hlt
          have hcd : ¬(key d.2 < key c.2) := fun h ↦ hnlt (.inl h)
          have hbd' : ¬(key b.2 < key d.2) := fun h ↦ hbd (.inl h)
          rcases hlt with hlt | ⟨heq, hid⟩
          · omega
          · have hkey : key d.2 = key c.2 := by omega
            have hdc : c.1 ≤ d.1 := String.not_lt.mp fun h ↦ hnlt (.inr ⟨hkey, h⟩)
            have hdb : d.1 ≤ b.1 := String.not_lt.mp fun h ↦ hbd (.inr ⟨by omega, h⟩)
            exact String.not_lt.mpr (String.le_trans hdc hdb) hid

end Earliest

/-- The row that `before` sorts first; among rows it does not separate, the first in storage. -/
def firstBy {α : Type} (before : α → α → Bool) : List α → Option α
  | [] => none
  | a :: l =>
    match firstBy before l with
    | none => some a
    | some b => if before b a then some b else some a

section FirstBy

variable {α : Type} {before : α → α → Bool} {l : List α} {a b : α}

theorem firstBy_nil : firstBy before [] = none := rfl

theorem firstBy_cons_of_none (h : firstBy before l = none) :
    firstBy before (a :: l) = some a := by
  show (match firstBy before l with
    | none => some a
    | some b => if before b a then some b else some a) = _
  rw [h]

theorem firstBy_cons_of_some (h : firstBy before l = some b) :
    firstBy before (a :: l) = if before b a then some b else some a := by
  show (match firstBy before l with
    | none => some a
    | some b => if before b a then some b else some a) = _
  rw [h]

theorem firstBy_eq_none : firstBy before l = none ↔ l = [] := by
  cases l with
  | nil => simp [firstBy_nil]
  | cons a l =>
    cases hl : firstBy before l with
    | none => simp [firstBy_cons_of_none hl]
    | some b =>
      rw [firstBy_cons_of_some hl]
      split <;> simp

theorem mem_of_firstBy (h : firstBy before l = some a) : a ∈ l := by
  induction l generalizing a with
  | nil => cases h
  | cons b l ih =>
    cases hl : firstBy before l with
    | none =>
      rw [firstBy_cons_of_none hl] at h
      cases h
      exact .head _
    | some c =>
      rw [firstBy_cons_of_some hl] at h
      split at h
      · cases h
        exact .tail _ (ih hl)
      · cases h
        exact .head _

/-- The row sorted first is the largest in what the order sorts by, from large to small. -/
theorem le_of_firstBy {f : α → ℤ} (hbefore : ∀ a b, before a b = true → f b ≤ f a)
    (hnot : ∀ a b, before a b = false → f a ≤ f b) (h : firstBy before l = some a) (hb : b ∈ l) :
    f b ≤ f a := by
  induction l generalizing a with
  | nil => simp at hb
  | cons c l ih =>
    cases hl : firstBy before l with
    | none =>
      rw [firstBy_cons_of_none hl] at h
      obtain rfl : l = [] := firstBy_eq_none.mp hl
      obtain rfl : c = a := Option.some.inj h
      obtain rfl : b = c := by simpa using hb
      exact le_rfl
    | some d =>
      rw [firstBy_cons_of_some hl] at h
      split at h
      · rename_i hdc
        cases h
        rcases List.mem_cons.mp hb with rfl | hb
        · exact hbefore _ _ hdc
        · exact ih hl hb
      · rename_i hdc
        cases h
        rcases List.mem_cons.mp hb with rfl | hb
        · exact le_rfl
        · exact (ih hl hb).trans (hnot _ _ (by simpa using hdc))

end FirstBy

end Db

end Sql
