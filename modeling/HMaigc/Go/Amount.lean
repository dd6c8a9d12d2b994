import HMaigc.Go.Basic
import Mathlib.Algebra.Order.Floor.Ring
import Mathlib.Data.Rat.Floor
import Mathlib.Tactic.FieldSimp

/-!
# Amounts that are rounded up

Integer arithmetic without fractions: a quotient is rounded up by adding one less than the divisor
to the dividend, and a product is tested for overflow by a division.

* `ceilQuo_le_iff` — the rounded quotient is at most `x` where the dividend is at most `x` divisors.
  What follows is that it is monotone, and `ceilQuo_eq_ceil`.
* `le_quo_iff` — a test `a ≤ m / b` before the product `a * b` is taken.
-/

set_option autoImplicit false

namespace Go

/-- `(n + (d - 1)) / d`. -/
def ceilQuo (n d : ℤ) : ℤ := (n + (d - 1)) / d

section

variable {d : ℤ}

theorem ceilQuo_le_iff (hd : 0 < d) {n x : ℤ} : ceilQuo n d ≤ x ↔ n ≤ x * d := by
  rw [ceilQuo, ← Int.lt_add_one_iff, Int.ediv_lt_iff_lt_mul hd, Int.add_mul, one_mul]
  omega

theorem ceilQuo_mono (hd : 0 < d) {m n : ℤ} (h : m ≤ n) : ceilQuo m d ≤ ceilQuo n d :=
  (ceilQuo_le_iff hd).mpr (h.trans ((ceilQuo_le_iff hd).mp le_rfl))

theorem ceilQuo_nonneg (hd : 0 < d) {n : ℤ} (hn : 0 ≤ n) : 0 ≤ ceilQuo n d :=
  Int.ediv_nonneg (by omega) hd.le

/-- The quotient is rounded up. -/
theorem ceilQuo_eq_ceil (hd : 0 < d) (n : ℤ) : ceilQuo n d = ⌈(n : ℚ) / d⌉ := by
  refine eq_of_forall_ge_iff fun x ↦ ?_
  have hpos : (0 : ℚ) < d := by exact_mod_cast hd
  rw [ceilQuo_le_iff hd, Int.ceil_le, div_le_iff₀ hpos]
  exact_mod_cast Iff.rfl

/-- A product is tested for overflow by a division. -/
theorem le_quo_iff (hd : 0 < d) {a m : ℤ} : a ≤ m / d ↔ a * d ≤ m :=
  Int.le_ediv_iff_mul_le hd

end

/-- A sum is tested for overflow by a difference. -/
theorem isInt64_add {a b : ℤ} (ha : 0 ≤ a) (hb : 0 ≤ b) (h : a ≤ maxInt64 - b) :
    IsInt64 (a + b) := by
  have hmin : minInt64 ≤ 0 := by decide
  exact ⟨by omega, by omega⟩

end Go
