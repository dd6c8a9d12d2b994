import HMaigc.Go.Basic
import Mathlib.Data.List.Nodup

/-!
# Checks that return an error

A function that checks its input returns an error at the first thing it refuses, and a loop that
does so remembers the keys it has seen.  `Except` is that, and what a check has established is what
it means for it to return `.ok`.

* `bind_eq_ok`, `refuse_eq_ok`, `map_eq_ok` — one check after another, one check, and what is made
  of its result.
* `mapM_eq_ok`, `forM_eq_ok` — the same check on every element of a list.
* `checkDistinct` — every element passes, and no two have the same key; `checkUnique` where the
  error says which.
* `checkAscending` — every element passes, and the keys ascend.
-/

set_option autoImplicit false

namespace Go

variable {ε α β κ : Type}

theorem bind_eq_ok {x : Except ε α} {f : α → Except ε β} {b : β} :
    x >>= f = .ok b ↔ ∃ a, x = .ok a ∧ f a = .ok b := by
  cases x with
  | error e =>
    constructor
    · intro h
      cases h
    · rintro ⟨a, ha, -⟩
      cases ha
  | ok a =>
    constructor
    · intro h
      exact ⟨a, rfl, h⟩
    · rintro ⟨a', ha, h⟩
      cases ha
      exact h

theorem bind_eq_error {x : Except ε α} {f : α → Except ε β} {e : ε} :
    x >>= f = .error e ↔ x = .error e ∨ ∃ a, x = .ok a ∧ f a = .error e := by
  cases x with
  | error e' =>
    constructor
    · intro h
      cases h
      exact .inl rfl
    · rintro (h | ⟨a, ha, -⟩)
      · cases h
        rfl
      · cases ha
  | ok a =>
    constructor
    · intro h
      exact .inr ⟨a, rfl, h⟩
    · rintro (h | ⟨a', ha, h⟩)
      · cases h
      · cases ha
        exact h

theorem refuse_eq_ok {c : Prop} [Decidable c] {e : ε} {x : Except ε α} {a : α} :
    (if c then .error e else x) = .ok a ↔ ¬c ∧ x = .ok a := by
  by_cases hc : c
  · simp [hc]
  · simp [hc]

theorem map_eq_ok {x : Except ε α} {f : α → β} {b : β} :
    x.map f = .ok b ↔ ∃ a, x = .ok a ∧ f a = b := by
  cases x with
  | error e => simp [Except.map]
  | ok a => simp [Except.map]

theorem mapError_eq_ok {ε' : Type} {x : Except ε α} {f : ε → ε'} {a : α} :
    x.mapError f = .ok a ↔ x = .ok a := by
  cases x with
  | error e => simp [Except.mapError]
  | ok a => simp [Except.mapError]

theorem mapError_eq_error {ε' : Type} {x : Except ε α} {f : ε → ε'} {e : ε'} :
    x.mapError f = .error e ↔ ∃ e', x = .error e' ∧ f e' = e := by
  cases x with
  | error e => simp [Except.mapError]
  | ok a => simp [Except.mapError]

theorem mapM_eq_ok {f : α → Except ε β} {l : List α} {l' : List β} :
    l.mapM f = .ok l' ↔ List.Forall₂ (fun a b ↦ f a = .ok b) l l' := by
  induction l generalizing l' with
  | nil =>
    rw [List.mapM_nil, List.forall₂_nil_left_iff]
    exact ⟨fun h ↦ by cases h; rfl, fun h ↦ by rw [h]; rfl⟩
  | cons a l ih =>
    rw [List.mapM_cons, List.forall₂_cons_left_iff, bind_eq_ok]
    constructor
    · rintro ⟨b, hb, h⟩
      obtain ⟨bs, hbs, h⟩ := bind_eq_ok.mp h
      cases h
      exact ⟨b, bs, hb, ih.mp hbs, rfl⟩
    · rintro ⟨b, bs, hb, hbs, rfl⟩
      exact ⟨b, hb, bind_eq_ok.mpr ⟨bs, ih.mpr hbs, rfl⟩⟩

theorem forM_eq_ok {f : α → Except ε Unit} {l : List α} :
    l.forM f = .ok () ↔ ∀ a ∈ l, f a = .ok () := by
  induction l with
  | nil => exact ⟨fun _ ↦ by simp, fun _ ↦ rfl⟩
  | cons a l ih =>
    have hcons : (a :: l).forM f = f a >>= fun _ ↦ l.forM f := rfl
    rw [hcons, bind_eq_ok, List.forall_mem_cons]
    exact ⟨fun ⟨_, ha, h⟩ ↦ ⟨ha, ih.mp h⟩, fun ⟨ha, h⟩ ↦ ⟨(), ha, ih.mpr h⟩⟩

theorem pure_eq_ok {a b : α} : (pure a : Except ε α) = .ok b ↔ a = b :=
  ⟨fun h ↦ by cases h; rfl, fun h ↦ by rw [h]; rfl⟩

/-- The elements are checked one after another; one whose key was seen before is refused, with an
error about it. -/
def checkUnique [DecidableEq κ] (key : α → κ) (check : α → Except ε Unit) (duplicate : α → ε)
    (more : α → Except ε Unit) (seen : List κ) : List α → Except ε Unit
  | [] => .ok ()
  | a :: rest => do
    check a
    if key a ∈ seen then .error (duplicate a) else do
    more a
    checkUnique key check duplicate more (key a :: seen) rest

theorem checkUnique_eq_ok [DecidableEq κ] {key : α → κ} {check more : α → Except ε Unit}
    {duplicate : α → ε} {seen : List κ} {l : List α} :
    checkUnique key check duplicate more seen l = .ok () ↔
      (∀ a ∈ l, check a = .ok () ∧ more a = .ok ()) ∧ (l.map key).Nodup ∧
        ∀ a ∈ l, key a ∉ seen := by
  induction l generalizing seen with
  | nil => simp [checkUnique]
  | cons a l ih =>
    show (check a >>= fun _ ↦ if key a ∈ seen then .error (duplicate a) else
      (more a >>= fun _ ↦ checkUnique key check duplicate more (key a :: seen) l)) = .ok () ↔ _
    have hcons : ∀ b, key b ∉ key a :: seen ↔ key b ≠ key a ∧ key b ∉ seen := fun b ↦ by simp
    simp only [bind_eq_ok, refuse_eq_ok, ih, hcons, List.map_cons, List.nodup_cons, List.mem_map,
      List.forall_mem_cons, not_exists, not_and]
    constructor
    · rintro ⟨_, hcheck, hnew, _, hmore, hl, hnodup, hseen⟩
      exact ⟨⟨⟨hcheck, hmore⟩, hl⟩, ⟨fun b hb ↦ (hseen b hb).1, hnodup⟩, hnew,
        fun b hb ↦ (hseen b hb).2⟩
    · rintro ⟨⟨⟨hcheck, hmore⟩, hl⟩, ⟨hother, hnodup⟩, hnew, hseen⟩
      exact ⟨(), hcheck, hnew, (), hmore, hl, hnodup, fun b hb ↦ ⟨hother b hb, hseen b hb⟩⟩

/-- The elements are checked one after another; one whose key was seen before is refused. -/
def checkDistinct [DecidableEq κ] (key : α → κ) (check : α → Except ε Unit) (duplicate : ε)
    (more : α → Except ε Unit) (seen : List κ) : List α → Except ε Unit
  | [] => .ok ()
  | a :: rest => do
    check a
    if key a ∈ seen then .error duplicate else do
    more a
    checkDistinct key check duplicate more (key a :: seen) rest

theorem checkDistinct_eq_checkUnique [DecidableEq κ] {key : α → κ}
    {check more : α → Except ε Unit} {duplicate : ε} {seen : List κ} {l : List α} :
    checkDistinct key check duplicate more seen l =
      checkUnique key check (fun _ ↦ duplicate) more seen l := by
  induction l generalizing seen with
  | nil => rfl
  | cons a l ih => simp only [checkDistinct, checkUnique, ih]

theorem checkDistinct_eq_ok [DecidableEq κ] {key : α → κ} {check more : α → Except ε Unit}
    {duplicate : ε} {seen : List κ} {l : List α} :
    checkDistinct key check duplicate more seen l = .ok () ↔
      (∀ a ∈ l, check a = .ok () ∧ more a = .ok ()) ∧ (l.map key).Nodup ∧
        ∀ a ∈ l, key a ∉ seen := by
  rw [checkDistinct_eq_checkUnique]
  exact checkUnique_eq_ok

/-- The elements are checked one after another; one whose key does not come after the key before it
is refused. -/
def checkAscending (key : α → String) (check : α → Except ε Unit) (disorder : ε)
    (more : α → Except ε Unit) (previous : String) : List α → Except ε Unit
  | [] => .ok ()
  | a :: rest => do
    check a
    if previous ≠ "" ∧ key a ≤ previous then .error disorder else do
    more a
    checkAscending key check disorder more (key a) rest

/-- Where no key is empty, the keys ascend from `previous` on. -/
theorem checkAscending_eq_ok {key : α → String} {check more : α → Except ε Unit} {disorder : ε}
    {previous : String} {l : List α} (hkey : ∀ a, check a = .ok () → key a ≠ "") :
    checkAscending key check disorder more previous l = .ok () ↔
      (∀ a ∈ l, check a = .ok () ∧ more a = .ok ()) ∧ (l.map key).Pairwise (· < ·) ∧
        ∀ a ∈ l, previous ≠ "" → previous < key a := by
  induction l generalizing previous with
  | nil => simp [checkAscending]
  | cons a l ih =>
    show (check a >>= fun _ ↦ if previous ≠ "" ∧ key a ≤ previous then .error disorder else
      (more a >>= fun _ ↦ checkAscending key check disorder more (key a) l)) = .ok () ↔ _
    simp only [bind_eq_ok, refuse_eq_ok, ih, List.map_cons, List.pairwise_cons, List.mem_map,
      List.forall_mem_cons, not_and, String.not_le]
    constructor
    · rintro ⟨_, hcheck, hprevious, _, hmore, hl, hpairwise, hafter⟩
      have hne := hkey a hcheck
      refine ⟨⟨⟨hcheck, hmore⟩, hl⟩, ⟨?_, hpairwise⟩, hprevious, fun b hb h ↦ ?_⟩
      · rintro _ ⟨b, hb, rfl⟩
        exact hafter b hb hne
      · exact String.lt_trans (hprevious h) (hafter b hb hne)
    · rintro ⟨⟨⟨hcheck, hmore⟩, hl⟩, ⟨hfirst, hpairwise⟩, hprevious, -⟩
      exact ⟨(), hcheck, hprevious, (), hmore, hl, hpairwise, fun b hb _ ↦ hfirst _ ⟨b, hb, rfl⟩⟩

end Go
