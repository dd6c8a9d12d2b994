import Mathlib.Data.List.Nodup
import Mathlib.Data.List.Basic
import Mathlib.Data.List.Dedup

/-!
# Patches of lists of keyed items

A document keeps a collection as a list whose items carry their own key, and changes to it travel as
patches: items to put in, with the one they replace when the key is there already, and keys to take
out.  Nothing here is about one kind of document.

* `latest` — the item of a list under a key, which is what a map built from the list holds: of two
  items under one key, the later one.
* `applyPatch` — items keep their places, replaced where they stand, and new items go to the end.
* `latest_applyPatch` — what a patch leaves under every key.  An item put in wins over the removal
  of its key.
* `upsertsOf`, `deletesOf` — the patch from one list to another, and `latest_applyPatch_diff`,
  `diff_eq_nil_iff`: it leads there, and is empty exactly between lists that hold the same.
-/

set_option autoImplicit false

namespace Keyed

variable {α κ : Type} [DecidableEq κ] (key : α → κ)

/-! ## Maps built from lists -/

/-- The item a map built from `items` holds under `k`: each item overwrites the ones before it. -/
def latest (items : List α) (k : κ) : Option α :=
  items.reverse.find? fun a ↦ key a = k

variable {key}

theorem key_of_latest {items : List α} {k : κ} {a : α} (h : latest key items k = some a) :
    key a = k := by
  simpa using List.find?_some h

theorem mem_of_latest {items : List α} {k : κ} {a : α} (h : latest key items k = some a) :
    a ∈ items := by
  simpa using List.mem_of_find?_eq_some h

theorem latest_eq_none_iff {items : List α} {k : κ} :
    latest key items k = none ↔ k ∉ items.map key := by
  simp [latest]

theorem isSome_latest_iff {items : List α} {k : κ} :
    (latest key items k).isSome = true ↔ k ∈ items.map key := by
  rw [← not_iff_not, ← latest_eq_none_iff]
  simp

variable (key) in
/-- The items of the map. -/
def values (items : List α) : List α :=
  (items.map key).dedup.filterMap (latest key items)

theorem mem_values {items : List α} {a : α} :
    a ∈ values key items ↔ latest key items (key a) = some a := by
  rw [values, List.mem_filterMap]
  constructor
  · rintro ⟨k, -, h⟩
    rwa [key_of_latest h]
  · intro h
    exact ⟨key a, List.mem_dedup.mpr (isSome_latest_iff.mp (by rw [h]; rfl)), h⟩

/-- The map has one item under each of its keys. -/
theorem map_key_values (items : List α) :
    (values key items).map key = (items.map key).dedup := by
  have hsome : ∀ ks : List κ, (∀ k ∈ ks, (latest key items k).isSome = true) →
      (ks.filterMap (latest key items)).map key = ks := by
    intro ks hks
    induction ks with
    | nil => rfl
    | cons k ks ih =>
      obtain ⟨a, ha⟩ := Option.isSome_iff_exists.mp (hks k (.head _))
      rw [List.filterMap_cons_some ha, List.map_cons, key_of_latest ha,
        ih fun k hk ↦ hks k (.tail _ hk)]
  exact hsome _ fun k hk ↦ isSome_latest_iff.mpr (List.mem_dedup.mp hk)

theorem nodup_values (items : List α) : ((values key items).map key).Nodup := by
  rw [map_key_values]
  exact List.nodup_dedup _

theorem latest_append (items items' : List α) (k : κ) :
    latest key (items ++ items') k = (latest key items' k).or (latest key items k) := by
  simp [latest, List.find?_append]

/-- In a list that holds no key twice, an item is the one under its key. -/
theorem latest_of_mem {items : List α} (hnd : (items.map key).Nodup) {a : α} (ha : a ∈ items) :
    latest key items (key a) = some a := by
  cases h : latest key items (key a) with
  | none => exact absurd (List.mem_map_of_mem ha) (latest_eq_none_iff.mp h)
  | some b =>
    rw [List.inj_on_of_nodup_map hnd (mem_of_latest h) ha (key_of_latest h)]

/-- Filtering by key keeps what a map holds under the keys it keeps. -/
theorem latest_filter (items : List α) (p : κ → Bool) (k : κ) :
    latest key (items.filter fun a ↦ p (key a)) k = if p k then latest key items k else none := by
  rw [latest, ← List.filter_reverse, List.find?_filter, latest]
  split
  · rename_i hp
    refine congrArg (List.find? · items.reverse) (funext fun a ↦ ?_)
    by_cases ha : key a = k <;> simp [ha, hp]
  · rename_i hp
    rw [List.find?_eq_none]
    intro a _ ha
    simp only [decide_eq_true_eq] at ha
    exact hp (ha.2 ▸ ha.1)

/-- Replacing items by items under their own keys replaces what a map holds. -/
theorem latest_map (items : List α) (f : α → α) (hf : ∀ a, key (f a) = key a) (k : κ) :
    latest key (items.map f) k = (latest key items k).map f := by
  rw [latest, ← List.map_reverse, List.find?_map, latest]
  congr 2
  funext a
  simp [hf]

/-! ## Applying a patch -/

variable (key)

/-- The items of `source` whose key is not taken out. -/
def kept (source : List α) (deletes : List κ) : List α :=
  source.filter fun a ↦ key a ∉ deletes

/-- Every item of `source` not taken out stays in its place, in its new form when `upserts` has one,
and the other items of `upserts` follow. -/
def applyPatch (source upserts : List α) (deletes : List κ) : List α :=
  (kept key source deletes).map (fun a ↦ (latest key upserts (key a)).getD a) ++
    upserts.filter fun u ↦ key u ∉ (kept key source deletes).map key

variable {key}

theorem key_replacement (upserts : List α) (a : α) :
    key ((latest key upserts (key a)).getD a) = key a := by
  cases h : latest key upserts (key a) with
  | none => rfl
  | some u => exact key_of_latest h

/-- **What a patch leaves under every key.** -/
theorem latest_applyPatch (source upserts : List α) (deletes : List κ) (k : κ) :
    latest key (applyPatch key source upserts deletes) k =
      (latest key upserts k).or (if k ∈ deletes then none else latest key source k) := by
  have hkept : latest key (kept key source deletes) k =
      if k ∈ deletes then none else latest key source k := by
    rw [kept, latest_filter source (fun k ↦ k ∉ deletes) k]
    by_cases hk : k ∈ deletes <;> simp [hk]
  rw [applyPatch, latest_append, latest_filter upserts (fun k ↦ k ∉ (kept key source deletes).map
    key) k, latest_map _ _ (key_replacement upserts), hkept]
  cases hu : latest key upserts k with
  | none =>
    simp only [ite_self, Option.none_or]
    rw [← hkept]
    cases ha : latest key (kept key source deletes) k with
    | none => rfl
    | some a => rw [Option.map_some, key_of_latest ha, hu, Option.getD_none]
  | some u =>
    by_cases hk : k ∈ (kept key source deletes).map key
    · obtain ⟨a, ha⟩ := Option.isSome_iff_exists.mp (isSome_latest_iff.mpr hk)
      rw [← hkept, ha, Option.map_some, key_of_latest ha, hu]
      simp [hk]
    · simp [hk]

/-- The keys of the patched list, in order. -/
theorem map_key_applyPatch (source upserts : List α) (deletes : List κ) :
    (applyPatch key source upserts deletes).map key = (kept key source deletes).map key ++
      (upserts.map key).filter fun k ↦ k ∉ (kept key source deletes).map key := by
  rw [applyPatch, List.map_append, List.map_map, List.filter_map]
  congr 1
  exact List.map_congr_left fun a _ ↦ key_replacement upserts a

theorem mem_keys_applyPatch {source upserts : List α} {deletes : List κ} {k : κ} :
    k ∈ (applyPatch key source upserts deletes).map key ↔
      k ∈ upserts.map key ∨ k ∈ source.map key ∧ k ∉ deletes := by
  rw [← isSome_latest_iff, latest_applyPatch, Option.isSome_or, Bool.or_eq_true, isSome_latest_iff]
  by_cases hk : k ∈ deletes <;> simp [hk, isSome_latest_iff]

/-- A patch that names no key twice leaves no key twice, if none is twice among the items it
keeps. -/
theorem nodup_applyPatch_iff {source upserts : List α} {deletes : List κ}
    (hupserts : (upserts.map key).Nodup) :
    ((applyPatch key source upserts deletes).map key).Nodup ↔
      ((kept key source deletes).map key).Nodup := by
  rw [map_key_applyPatch, List.nodup_append]
  refine ⟨fun h ↦ h.1, fun h ↦ ⟨h, hupserts.filter _, fun k hk k' hk' heq ↦ ?_⟩⟩
  exact absurd (heq ▸ hk) (by simpa using (List.mem_filter.mp hk').2)

/-! ### Items that carry their key along -/

theorem latest_map_pair (items : List α) (k : κ) :
    latest Prod.fst (items.map fun a ↦ (key a, a)) k =
      (latest key items k).map fun a ↦ (key a, a) := by
  rw [latest, ← List.map_reverse, List.find?_map, latest]
  rfl

theorem applyPatch_map_pair (source upserts : List α) (deletes : List κ) :
    (applyPatch Prod.fst (source.map fun a ↦ (key a, a)) (upserts.map fun a ↦ (key a, a))
      deletes).map Prod.snd = applyPatch key source upserts deletes := by
  have hkept : kept Prod.fst (source.map fun a ↦ (key a, a)) deletes =
      (kept key source deletes).map fun a ↦ (key a, a) := by
    rw [kept, List.filter_map, kept]
    rfl
  rw [applyPatch, hkept, List.map_append, List.map_map, List.map_map, List.map_map,
    List.filter_map, List.map_map, applyPatch]
  congr 1
  · refine List.map_congr_left fun a _ ↦ ?_
    simp only [Function.comp_apply, latest_map_pair]
    cases latest key upserts (key a) <;> rfl
  · exact List.map_id _

/-! ## The patch from one list to another

Items are compared by what `text` writes of them. -/

section Diff

variable {τ : Type} [DecidableEq τ] (key) (text : α → τ)

/-- The items of `current` that are new, or written otherwise than in `base`. -/
def upsertsOf (base current : List α) : List α :=
  current.filter fun item ↦ (latest key base (key item)).all fun previous ↦
    text previous ≠ text item

/-- The keys of `base` that are gone. -/
def deletesOf (base current : List α) : List κ :=
  (base.filter fun item ↦ key item ∉ current.map key).map key

variable {key text}

theorem mem_deletesOf {base current : List α} {k : κ} :
    k ∈ deletesOf key base current ↔ k ∈ base.map key ∧ k ∉ current.map key := by
  constructor
  · intro h
    obtain ⟨a, ha, rfl⟩ := List.mem_map.mp h
    obtain ⟨ha, hk⟩ := List.mem_filter.mp ha
    exact ⟨List.mem_map_of_mem ha, by simpa using hk⟩
  · rintro ⟨h, hk⟩
    obtain ⟨a, ha, rfl⟩ := List.mem_map.mp h
    exact List.mem_map_of_mem (List.mem_filter.mpr ⟨ha, by simpa using hk⟩)

/-- What the upserts hold under a key of `current`: its item, unless `base` has it so already. -/
theorem latest_upsertsOf {base current : List α} (hcurrent : (current.map key).Nodup) {a : α}
    (ha : a ∈ current) :
    latest key (upsertsOf key text base current) (key a) =
      if (latest key base (key a)).map text = some (text a) then none else some a := by
  have hchanged : (latest key base (key a)).all (fun previous ↦ text previous ≠ text a) = true ↔
      ¬(latest key base (key a)).map text = some (text a) := by
    cases latest key base (key a) <;> simp
  have hnd : ((upsertsOf key text base current).map key).Nodup :=
    hcurrent.sublist (List.filter_sublist.map key)
  split
  · rename_i h
    rw [latest_eq_none_iff]
    intro hmem
    obtain ⟨b, hb, hkey⟩ := List.mem_map.mp hmem
    obtain ⟨hbmem, hbchanged⟩ := List.mem_filter.mp hb
    obtain rfl := List.inj_on_of_nodup_map hcurrent hbmem ha hkey
    exact hchanged.mp hbchanged h
  · rename_i h
    exact latest_of_mem hnd (List.mem_filter.mpr ⟨ha, hchanged.mpr h⟩)

/-- **The patch from `base` to `current` leads there**: under every key, what is written of the
patched list is what is written of `current`. -/
theorem latest_applyPatch_diff {base current : List α} (hcurrent : (current.map key).Nodup)
    (k : κ) :
    (latest key (applyPatch key base (upsertsOf key text base current)
      (deletesOf key base current)) k).map text = (latest key current k).map text := by
  rw [latest_applyPatch]
  cases hk : latest key current k with
  | none =>
    have hgone : k ∉ current.map key := latest_eq_none_iff.mp hk
    have hups : latest key (upsertsOf key text base current) k = none :=
      latest_eq_none_iff.mpr fun h ↦ hgone ((List.filter_sublist.map key).subset h)
    rw [hups, Option.none_or]
    split
    · rfl
    · rename_i hdel
      rw [latest_eq_none_iff.mpr fun h ↦ hdel (mem_deletesOf.mpr ⟨h, hgone⟩)]
  | some a =>
    obtain rfl := key_of_latest hk
    have ha := mem_of_latest hk
    have hdel : key a ∉ deletesOf key base current :=
      fun h ↦ (mem_deletesOf.mp h).2 (List.mem_map_of_mem ha)
    rw [latest_upsertsOf hcurrent ha, if_neg hdel]
    split
    · rename_i hsame
      rw [Option.none_or, hsame, Option.map_some]
    · rfl

/-- **The patch is empty between lists that hold the same, and between no others.** -/
theorem diff_eq_nil_iff {base current : List α} (hcurrent : (current.map key).Nodup) :
    upsertsOf key text base current = [] ∧ deletesOf key base current = [] ↔
      ∀ k, (latest key base k).map text = (latest key current k).map text := by
  constructor
  · rintro ⟨hups, hdels⟩ k
    have hleads : (latest key (applyPatch key base (upsertsOf key text base current)
        (deletesOf key base current)) k).map text = (latest key current k).map text :=
      latest_applyPatch_diff hcurrent k
    rw [← hleads, hups, hdels, latest_applyPatch]
    simp [latest]
  · intro h
    constructor
    · rw [upsertsOf, List.filter_eq_nil_iff]
      intro a ha hchanged
      have hsame := h (key a)
      rw [latest_of_mem hcurrent ha, Option.map_some] at hsame
      obtain ⟨b, hb, hba⟩ := Option.map_eq_some_iff.mp hsame
      simp [hb, hba] at hchanged
    · rw [List.eq_nil_iff_forall_not_mem]
      intro k hk
      obtain ⟨hbase, hgone⟩ := mem_deletesOf.mp hk
      have hsame := congrArg Option.isSome (h k)
      rw [Option.isSome_map, Option.isSome_map, isSome_latest_iff.mpr hbase] at hsame
      exact hgone (isSome_latest_iff.mp hsame.symm)

end Diff

end Keyed
