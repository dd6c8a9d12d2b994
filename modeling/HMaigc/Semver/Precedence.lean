import HMaigc.Go.Text

/-!
# The precedence of semantic versions

* `Identifier`, `Version` — what of a version its precedence depends on: the numbers, and the
  identifiers of the pre-release, of which a release has none.
* `precedence` — numbers first; a pre-release is below its release; then the identifiers in turn,
  numbers below texts, numbers by value and texts in the order of their characters.
* `ofText` — the version a text stands for.  What follows a `+` counts for nothing.
* `compare_dotted` — what comes of comparing two pre-releases as texts instead, and
  `compare_dotted_eq_iff` when it is the same.
-/

set_option autoImplicit false

namespace Semver

open Std Go

/-! ## Precedence -/

/-- An identifier of a pre-release. -/
inductive Identifier where
  | numeric (n : ℕ)
  | alphanumeric (text : List Char)
  deriving DecidableEq, Repr

/-- Identifiers by their precedence. -/
def Identifier.cmp : Identifier → Identifier → Ordering
  | .numeric m, .numeric n => compare m n
  | .numeric _, .alphanumeric _ => .lt
  | .alphanumeric _, .numeric _ => .gt
  | .alphanumeric s, .alphanumeric t => compare s t

instance : Ord Identifier := ⟨Identifier.cmp⟩

section Cmp

variable (m n : ℕ) (s t : List Char)

@[simp] theorem compare_numeric :
    compare (Identifier.numeric m) (.numeric n) = compare m n := rfl

@[simp] theorem compare_numeric_alphanumeric :
    compare (Identifier.numeric m) (.alphanumeric t) = .lt := rfl

@[simp] theorem compare_alphanumeric_numeric :
    compare (Identifier.alphanumeric s) (.numeric n) = .gt := rfl

@[simp] theorem compare_alphanumeric :
    compare (Identifier.alphanumeric s) (.alphanumeric t) = compare s t := rfl

end Cmp

instance : OrientedOrd Identifier where
  eq_swap {a b} := by
    cases a with
    | numeric m =>
      cases b with
      | numeric n => exact (OrientedOrd.eq_swap : compare m n = (compare n m).swap)
      | alphanumeric t => rfl
    | alphanumeric s =>
      cases b with
      | numeric n => rfl
      | alphanumeric t => exact (OrientedOrd.eq_swap : compare s t = (compare t s).swap)

instance : TransOrd Identifier where
  isLE_trans {a b c} hab hbc := by
    cases a with
    | numeric m =>
      cases c with
      | numeric k =>
        cases b with
        | numeric n =>
          have h : (compare m k).isLE = true :=
            TransOrd.isLE_trans (show (compare m n).isLE from hab) hbc
          exact h
        | alphanumeric t => simp at hbc
      | alphanumeric u => rfl
    | alphanumeric s =>
      cases b with
      | numeric n => simp at hab
      | alphanumeric t =>
        cases c with
        | numeric k => simp at hbc
        | alphanumeric u =>
          have h : (compare s u).isLE = true :=
            TransOrd.isLE_trans (show (compare s t).isLE from hab) hbc
          exact h

/-- A version, as far as its precedence goes. -/
structure Version where
  core : List ℕ
  prerelease : List Identifier
  deriving DecidableEq, Repr

def Version.isRelease (v : Version) : Bool := v.prerelease.isEmpty

/-- The precedence of versions. -/
def precedence : Version → Version → Ordering :=
  compareLex (compareOn (·.core)) (compareLex (compareOn (·.isRelease)) (compareOn (·.prerelease)))

instance : TransCmp precedence := inferInstanceAs (TransCmp (compareLex _ _))

/-! ## Texts -/

def number (digits : List Char) : ℕ := digits.foldl (fun n c ↦ 10 * n + (c.toNat - '0'.toNat)) 0

/-- The identifier a text stands for. -/
def Identifier.ofText (text : List Char) : Identifier :=
  if !text.isEmpty && text.all (·.isDigit) then .numeric (number text) else .alphanumeric text

/-- The characters a core ends before. -/
def isMark (c : Char) : Bool := c = '-' || c = '+'

/-- The pre-release that follows a core. -/
def prereleaseOf : List Char → List Identifier
  | '-' :: text => (split '.' (text.takeWhile (· ≠ '+'))).map Identifier.ofText
  | _ => []

/-- The version a text stands for. -/
def ofText (text : List Char) : Version where
  core := (split '.' (text.takeWhile (!isMark ·))).map number
  prerelease := prereleaseOf (text.dropWhile (!isMark ·))

/-! ## Comparing texts instead -/

/-- The identifiers in a row, a dot before each. -/
def dotted (ids : List (List Char)) : List Char := (ids.map ('.' :: ·)).flatten

@[simp] theorem dotted_nil : dotted [] = [] := rfl

@[simp] theorem dotted_cons (u : List Char) (us : List (List Char)) :
    dotted (u :: us) = '.' :: (u ++ dotted us) := rfl

theorem dotted_split (text : List Char) : dotted (split '.' text) = '.' :: text := by
  induction text with
  | nil => rfl
  | cons c text ih =>
    rw [split]
    split_ifs with hc
    · rw [dotted_cons, ih, hc, List.nil_append]
    · cases h : split '.' text with
      | nil => rw [h] at ih; cases ih
      | cons u us =>
        rw [h, dotted_cons, List.cons.injEq] at ih
        simp [ih.2]

/-- A character of an identifier. -/
def IsIdentifierChar (c : Char) : Prop := c = '-' ∨ compare '.' c = .lt

/-- The texts are identifiers. -/
def AreIdentifiers (ids : List (List Char)) : Prop := ∀ u ∈ ids, ∀ c ∈ u, IsIdentifierChar c

/-- After `u` there are further identifiers, and `v` is `u` continued with a hyphen. -/
def Hyphened (u : List Char) (us : List (List Char)) (v : List Char) : Prop :=
  us ≠ [] ∧ (u ++ ['-']) <+: v

instance (u : List Char) (us : List (List Char)) (v : List Char) : Decidable (Hyphened u us v) :=
  inferInstanceAs (Decidable (_ ∧ _))

section Compare

variable {u v : List Char} {us vs : List (List Char)}

theorem compare_cons {α : Type} [Ord α] (c d : α) (a b : List α) :
    compare (c :: a) (d :: b) = (compare c d).then (compare a b) :=
  List.compareLex_cons_cons

theorem compare_append_left {α : Type} [Ord α] [ReflOrd α] (u a b : List α) :
    compare (u ++ a) (u ++ b) = compare a b := by
  induction u with
  | nil => rfl
  | cons c u ih =>
    rw [List.cons_append, List.cons_append, compare_cons, ReflOrd.compare_self]
    exact ih

@[simp] theorem not_hyphened_nil : ¬Hyphened v vs [] := by
  simp [Hyphened]

theorem nil_hyphened {d : Char} : Hyphened [] us (d :: v) ↔ us ≠ [] ∧ d = '-' := by
  simp [Hyphened, eq_comm]

theorem hyphened_cons {c d : Char} :
    Hyphened (c :: u) us (d :: v) ↔ c = d ∧ Hyphened u us v := by
  simp only [Hyphened, List.cons_append, List.cons_prefix_cons]
  tauto

/-- The empty identifier, and one that is not. -/
theorem compare_nil_append {c : Char} (hc : IsIdentifierChar c) (us : List (List Char))
    (b : List Char) :
    compare (dotted us) (c :: b) = if us ≠ [] ∧ c = '-' then .gt else .lt := by
  cases us with
  | nil => rfl
  | cons u us =>
    rw [dotted_cons, compare_cons]
    by_cases hhyphen : c = '-'
    · subst hhyphen
      rfl
    · rw [hc.resolve_left hhyphen]
      simp [hhyphen]

/-- **Two different identifiers decide.**  The text that ends first is below, but a dot is above a
hyphen. -/
theorem compare_append (hu : ∀ c ∈ u, IsIdentifierChar c) (hv : ∀ c ∈ v, IsIdentifierChar c)
    (hne : u ≠ v) :
    compare (u ++ dotted us) (v ++ dotted vs) =
      if Hyphened u us v then .gt else if Hyphened v vs u then .lt else compare u v := by
  induction u generalizing v with
  | nil =>
    cases v with
    | nil => exact absurd rfl hne
    | cons d v =>
      rw [List.nil_append, List.cons_append, compare_nil_append (hv d (.head _))]
      simp only [nil_hyphened, not_hyphened_nil, if_false]
      rfl
  | cons c u ih =>
    cases v with
    | nil =>
      rw [List.nil_append, List.cons_append, OrientedOrd.eq_swap,
        compare_nil_append (hu c (.head _))]
      simp only [nil_hyphened, not_hyphened_nil, if_false]
      split_ifs <;> rfl
    | cons d v =>
      rw [List.cons_append, List.cons_append, compare_cons, compare_cons]
      by_cases hcd : c = d
      · subst hcd
        simp only [ReflOrd.compare_self, Ordering.eq_then, hyphened_cons, true_and]
        exact ih (fun x hx ↦ hu x (.tail _ hx)) (fun x hx ↦ hv x (.tail _ hx))
          fun h ↦ hne (h ▸ rfl)
      · have hdecided : compare c d ≠ .eq := fun h ↦ hcd (LawfulEqOrd.eq_of_compare h)
        have hcd' : d ≠ c := fun h ↦ hcd h.symm
        simp only [hyphened_cons, hcd, hcd', false_and, if_false]
        cases h : compare c d with
        | eq => exact absurd h hdecided
        | lt => rfl
        | gt => rfl

/-- Of two different identifiers, each followed by more: their texts are in the order of their
precedence. -/
def Identifier.Ordered (u : List Char) (us : List (List Char)) (v : List Char)
    (vs : List (List Char)) : Prop :=
  match ofText u, ofText v with
  -- numbers written with zeros in front can be equal, and then what follows counts
  | .numeric m, .numeric n =>
    compare u v = (compare m n).then (compare (us.map ofText) (vs.map ofText))
  | .numeric _, .alphanumeric _ => compare u v = .lt
  | .alphanumeric _, .numeric _ => compare u v = .gt
  | .alphanumeric _, .alphanumeric _ => True

/-- The first identifiers that differ are such that their texts decide as their precedence does. -/
def DecidedByText : List (List Char) → List (List Char) → Prop
  | u :: us, v :: vs =>
    if u = v then DecidedByText us vs
    else ¬Hyphened u us v ∧ ¬Hyphened v vs u ∧ Identifier.Ordered u us v vs
  | _, _ => True

theorem ofText_of_hyphened (h : Hyphened u us v) : Identifier.ofText v = .alphanumeric v := by
  have hmem : '-' ∈ v := h.2.subset (by simp)
  rw [Identifier.ofText, if_neg]
  simp only [Bool.and_eq_true, List.all_eq_true, not_and]
  intro _ hall
  exact absurd (hall '-' hmem) (by decide)

theorem compare_of_hyphened (h : Hyphened u us v) : compare u v = .lt := by
  obtain ⟨w, rfl⟩ := h.2
  have hnil : compare u (u ++ ['-'] ++ w) = compare (u ++ []) (u ++ (['-'] ++ w)) := by
    rw [List.append_nil, List.append_assoc]
  rw [hnil, compare_append_left]
  rfl

/-- A hyphen where there could be a dot: the text says the opposite of the precedence. -/
theorem compare_ofText_of_hyphened (h : Hyphened u us v) :
    compare (Identifier.ofText u) (Identifier.ofText v) = .lt := by
  rw [ofText_of_hyphened h, Identifier.ofText]
  split_ifs
  · rfl
  · exact compare_of_hyphened h

theorem ordered_iff (hne : u ≠ v) :
    compare u v = (compare (Identifier.ofText u) (Identifier.ofText v)).then
        (compare (us.map Identifier.ofText) (vs.map Identifier.ofText)) ↔
      Identifier.Ordered u us v vs := by
  have hdecided : compare u v ≠ .eq := fun h ↦ hne (LawfulEqOrd.eq_of_compare h)
  rw [Identifier.Ordered]
  rcases hu : Identifier.ofText u with m | s <;> rcases hv : Identifier.ofText v with n | w
  · rfl
  · rfl
  · rfl
  · have hs : s = u := by
      rw [Identifier.ofText] at hu
      split_ifs at hu
      exact (Identifier.alphanumeric.inj hu).symm
    have hw : w = v := by
      rw [Identifier.ofText] at hv
      split_ifs at hv
      exact (Identifier.alphanumeric.inj hv).symm
    subst hs hw
    rw [compare_alphanumeric]
    cases h : compare s w with
    | eq => exact absurd h hdecided
    | lt => simp
    | gt => simp

/-- **When texts are in the order of their precedence.** -/
theorem compare_dotted_eq_iff (hus : AreIdentifiers us) (hvs : AreIdentifiers vs) :
    compare (dotted us) (dotted vs) =
        compare (us.map Identifier.ofText) (vs.map Identifier.ofText) ↔ DecidedByText us vs := by
  induction us generalizing vs with
  | nil =>
    cases vs with
    | nil => simp [DecidedByText]
    | cons v vs => simp [DecidedByText]
  | cons u us ih =>
    cases vs with
    | nil => simp [DecidedByText]
    | cons v vs =>
      have hu := hus u (.head _)
      have hv := hvs v (.head _)
      rw [dotted_cons, dotted_cons, compare_cons, ReflOrd.compare_self, Ordering.eq_then,
        List.map_cons, List.map_cons, compare_cons, DecidedByText]
      split_ifs with huv
      · subst huv
        rw [compare_append_left, ReflOrd.compare_self, Ordering.eq_then]
        exact ih (fun w hw ↦ hus w (.tail _ hw)) fun w hw ↦ hvs w (.tail _ hw)
      · rw [compare_append hu hv huv]
        by_cases huh : Hyphened u us v
        · simp [huh, compare_ofText_of_hyphened huh]
        by_cases hvh : Hyphened v vs u
        · rw [OrientedOrd.eq_swap (a := Identifier.ofText u), compare_ofText_of_hyphened hvh]
          simp [huh, hvh]
        · simp only [huh, hvh, if_false, not_false_eq_true, true_and]
          exact ordered_iff huv

end Compare

end Semver
