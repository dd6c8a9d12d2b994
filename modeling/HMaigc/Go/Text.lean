import HMaigc.Go.Basic
import Mathlib.Data.List.Infix

/-!
# Searching in texts

* `Go.split` — `strings.Split` at a character.
* `Go.afterFirst` — what follows the first occurrence of a text, as `strings.Index` and a slice
  cut it out.
* `Sql.like` — `LIKE`, with its two wildcards and its escape character.
* `like_percent`, `like_append` — what `%` matches, and a text without wildcards.
-/

set_option autoImplicit false

namespace Go

/-- `strings.Split` at a character. -/
def split (sep : Char) : List Char → List (List Char)
  | [] => [[]]
  | c :: text => if c = sep then [] :: split sep text else (split sep text).modifyHead (c :: ·)

theorem split_ne_nil (sep : Char) (text : List Char) : split sep text ≠ [] := by
  induction text with
  | nil => exact List.cons_ne_nil _ _
  | cons c text ih =>
    rw [split]
    split_ifs
    · exact List.cons_ne_nil _ _
    · simpa using ih

/-- What stands between two separators. -/
theorem mem_of_mem_split {sep : Char} {text u : List Char} (hu : u ∈ split sep text) :
    ∀ c ∈ u, c ∈ text ∧ c ≠ sep := by
  induction text generalizing u with
  | nil => simp [split] at hu; simp [hu]
  | cons d text ih =>
    rw [split] at hu
    split_ifs at hu with hd
    · rcases List.mem_cons.mp hu with rfl | hu
      · simp
      · exact fun c hc ↦ ⟨.tail _ (ih hu c hc).1, (ih hu c hc).2⟩
    · cases h : split sep text with
      | nil => exact absurd h (split_ne_nil sep text)
      | cons v vs =>
        rw [h, List.modifyHead_cons] at hu
        rcases List.mem_cons.mp hu with rfl | hu
        · intro c hc
          rcases List.mem_cons.mp hc with rfl | hc
          · exact ⟨.head _, hd⟩
          · have hv := ih (h ▸ .head _) c hc
            exact ⟨.tail _ hv.1, hv.2⟩
        · intro c hc
          have hv := ih (h ▸ .tail _ hu) c hc
          exact ⟨.tail _ hv.1, hv.2⟩

/-- What follows the first occurrence of `sep`; `none` where there is none. -/
def afterFirst (sep : List Char) : List Char → Option (List Char)
  | [] => if sep = [] then some [] else none
  | c :: rest =>
    if sep.isPrefixOf (c :: rest) then some ((c :: rest).drop sep.length) else afterFirst sep rest

end Go

namespace Sql

/-! ## Patterns -/

/-- `text LIKE pattern`: `%` stands for any text, `_` for any character, and a backslash takes the
character after it for what it is. -/
def like : List Char → List Char → Bool
  | [], text => text.isEmpty
  | '%' :: pattern, text => text.tails.any (like pattern)
  | '_' :: pattern, text =>
    match text with
    | [] => false
    | _ :: text => like pattern text
  | '\\' :: c :: pattern, text =>
    match text with
    | [] => false
    | d :: text => c == d && like pattern text
  | c :: pattern, text =>
    match text with
    | [] => false
    | d :: text => c == d && like pattern text

/-- A pattern that starts and ends with `%`. -/
def containing (p : List Char) : List Char := '%' :: (p ++ ['%'])

/-- A character that does not stand for itself in a pattern. -/
def IsWildcard (c : Char) : Prop := c = '%' ∨ c = '_' ∨ c = '\\'

theorem like_percent {pattern text : List Char} :
    like ('%' :: pattern) text = true ↔ ∃ before after, text = before ++ after ∧
      like pattern after = true := by
  rw [like, List.any_eq_true]
  constructor
  · rintro ⟨after, hmem, hlike⟩
    obtain ⟨before, rfl⟩ := (List.mem_tails _ _).1 hmem
    exact ⟨before, after, rfl, hlike⟩
  · rintro ⟨before, after, rfl, hlike⟩
    exact ⟨after, (List.mem_tails _ _).2 (List.suffix_append before after), hlike⟩

/-- A character that stands for itself matches itself. -/
theorem like_cons {c : Char} (hc : ¬IsWildcard c) {pattern text : List Char} :
    like (c :: pattern) text = true ↔ ∃ rest, text = c :: rest ∧ like pattern rest = true := by
  have hpercent : c ≠ '%' := fun h ↦ hc (.inl h)
  have hunderscore : c ≠ '_' := fun h ↦ hc (.inr (.inl h))
  have hescape : c ≠ '\\' := fun h ↦ hc (.inr (.inr h))
  cases text with
  | nil => rw [like.eq_def]; simp [hescape]
  | cons d rest =>
    have hstep : like (c :: pattern) (d :: rest) = (c == d && like pattern rest) := by
      rw [like.eq_def]
      simp [hescape]
    rw [hstep, Bool.and_eq_true, beq_iff_eq]
    grind

/-- A text without wildcards at the start of a pattern is matched by itself only. -/
theorem like_append {p : List Char} (hp : ∀ c ∈ p, ¬IsWildcard c) {pattern text : List Char} :
    like (p ++ pattern) text = true ↔ ∃ rest, text = p ++ rest ∧ like pattern rest = true := by
  induction p generalizing text with
  | nil => simp
  | cons c p ih =>
    have hrest : ∀ d ∈ p, ¬IsWildcard d := fun d hd ↦ hp d (by simp [hd])
    rw [List.cons_append, like_cons (hp c (by simp))]
    constructor
    · rintro ⟨rest, rfl, hmatch⟩
      obtain ⟨rest', rfl, hlike⟩ := (ih hrest).1 hmatch
      exact ⟨rest', rfl, hlike⟩
    · rintro ⟨rest, rfl, hlike⟩
      exact ⟨p ++ rest, rfl, (ih hrest).2 ⟨rest, rfl, hlike⟩⟩

end Sql
