import Mathlib.Data.List.DropRight
import Mathlib.Data.List.TakeDrop
import Mathlib.Tactic.NormNum
import Mathlib.Tactic.Linarith

/-!
# The pieces of Go and SQL the model computes with

Nothing here is about one repository: these are the standard library's string functions, 64-bit
integers as Go and as the database compute with them, and instants of time.

* `Go.trimSpace` — `strings.TrimSpace`, by Unicode white space.
* `Go.wrap64` — the value of an `int64` expression in Go, where arithmetic wraps around silently.
* `Go.bigint` — the value of a `bigint` expression in SQL, where the same overflow is an error of
  the statement.  The difference between the two is the difference between a refused transaction and
  a wrong balance.
* `Go.Time` — an instant; `0` is the zero `time.Time`, the one `IsZero` recognises.
-/

set_option autoImplicit false

namespace Go

/-! ## Strings -/

/-- `unicode.IsSpace`. -/
def isSpace (c : Char) : Bool :=
  c ∈ ['\t', '\n', '\x0b', '\x0c', '\r', ' ', '\u0085', '\u00a0', '\u1680', '\u2028', '\u2029',
    '\u202f', '\u205f', '\u3000'] ||
  (0x2000 ≤ c.toNat && c.toNat ≤ 0x200a)

/-- `strings.TrimSpace`. -/
def trimSpace (s : String) : String :=
  String.ofList ((s.toList.dropWhile isSpace).rdropWhile isSpace)

/-- `strings.TrimSpace(s) == ""`. -/
def isBlank (s : String) : Bool := trimSpace s == ""

/-- The first `limit` characters of the trimmed string. -/
def truncateText (s : String) (limit : ℕ) : String :=
  String.ofList ((trimSpace s).toList.take limit)

/-- Trimming a trimmed string changes nothing. -/
@[simp] theorem trimSpace_trimSpace (s : String) : trimSpace (trimSpace s) = trimSpace s := by
  have hdrop : ((s.toList.dropWhile isSpace).rdropWhile isSpace).dropWhile isSpace =
      (s.toList.dropWhile isSpace).rdropWhile isSpace := by
    obtain ⟨t, ht⟩ := List.rdropWhile_prefix isSpace (l := s.toList.dropWhile isSpace)
    have hid := List.dropWhile_idempotent (p := isSpace) s.toList
    rw [← ht] at hid
    rw [List.dropWhile_eq_self_iff] at hid ⊢
    intro hpos
    have h := hid (by simp; omega)
    simpa [List.getElem_append_left hpos] using h
  simp only [trimSpace, String.toList_ofList]
  rw [hdrop, List.rdropWhile_idempotent]

theorem trimSpace_empty : trimSpace "" = "" := rfl

/-! ## 64-bit integers -/

/-- `math.MaxInt64`. -/
def maxInt64 : ℤ := 2 ^ 63 - 1

/-- `math.MinInt64`. -/
def minInt64 : ℤ := -2 ^ 63

/-- Is this the value of an `int64`? -/
abbrev IsInt64 (x : ℤ) : Prop := minInt64 ≤ x ∧ x ≤ maxInt64

/-- What a Go `int64` expression with the mathematical value `x` evaluates to. -/
def wrap64 (x : ℤ) : ℤ := Int.bmod x (2 ^ 64)

/-- What an SQL `bigint` expression with the mathematical value `x` evaluates to. -/
def bigint {ε : Type} (outOfRange : ε) (x : ℤ) : Except ε ℤ :=
  if IsInt64 x then .ok x else .error outOfRange

theorem wrap64_eq_self {x : ℤ} (h : IsInt64 x) : wrap64 x = x := by
  obtain ⟨hlo, hhi⟩ := h
  rw [minInt64] at hlo
  rw [maxInt64] at hhi
  exact Int.bmod_eq_of_le (by omega) (by omega)

theorem isInt64_wrap64 (x : ℤ) : IsInt64 (wrap64 x) := by
  have hlo := Int.le_bmod (x := x) (m := 2 ^ 64) (by norm_num)
  have hhi := Int.bmod_lt (x := x) (m := 2 ^ 64) (by norm_num)
  rw [IsInt64, wrap64, minInt64, maxInt64]
  omega

theorem bigint_ok {ε : Type} {e : ε} {x y : ℤ} (h : bigint e x = .ok y) : y = x ∧ IsInt64 x := by
  rw [bigint] at h
  split at h
  · rename_i hx
    cases h
    exact ⟨rfl, hx⟩
  · cases h

/-! ## Time -/

/-- An instant, as the number of nanoseconds since the zero `time.Time`. -/
abbrev Time : Type := ℕ

/-- `t.IsZero()`. -/
def isZero (t : Time) : Bool := t == 0

/-- `n * time.Second`. -/
def second (n : ℕ) : ℕ := n * 10 ^ 9

end Go
