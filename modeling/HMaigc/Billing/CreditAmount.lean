import HMaigc.Billing.TokenCharge

/-!
# The amount of a price, a quantity and a multiplier

`creditAmount` of `service/credit_policy.go`.  It is `int64` arithmetic: every sum and product below
is taken modulo `2 ^ 64`, and tested before it is taken.

* `CreditArguments` — what the tests amount to, and `CreditArguments.isInt64`: nothing overflows.
* `creditAmount_eq_ok` — **when the amount is computed, and that it is exact.**
* `creditAmount_mono` — more of anything does not cost less.
-/

set_option autoImplicit false

namespace HMaigc.Billing

open Go

/-! ## The amount -/

def errCreditParameters : String := "积分计费参数无效"

def errCreditOverflow : String := "积分计费金额溢出"

/-- 单价、数量和倍率全程使用整数并向上取整，避免浮点误差造成少扣积分。 -/
def creditAmount (unitPrice quantity multiplierBPS : ℤ) : Except String ℤ :=
  if unitPrice < 0 ∨ quantity ≤ 0 ∨ multiplierBPS ≤ 0 then .error errCreditParameters
  else if unitPrice > maxInt64 / quantity then .error errCreditOverflow
  else
    let base := wrap64 (unitPrice * quantity)
    if base > (maxInt64 - 9999) / multiplierBPS then .error errCreditOverflow
    else
      let amount := (wrap64 (wrap64 (base * multiplierBPS) + 9999)).tdiv 10000
      if amount < 0 then .error ("积分计费金额无效：" ++ toString amount) else .ok amount

/-- The arguments an amount is computed for. -/
structure CreditArguments (unitPrice quantity multiplierBPS : ℤ) : Prop where
  unitPrice_nonneg : 0 ≤ unitPrice
  quantity_pos : 0 < quantity
  multiplierBPS_pos : 0 < multiplierBPS
  product_le : unitPrice * quantity * multiplierBPS ≤ maxInt64 - 9999

section

variable {unitPrice quantity multiplierBPS amount : ℤ}

theorem CreditArguments.product_nonneg (h : CreditArguments unitPrice quantity multiplierBPS) :
    0 ≤ unitPrice * quantity * multiplierBPS :=
  mul_nonneg (mul_nonneg h.unitPrice_nonneg h.quantity_pos.le) h.multiplierBPS_pos.le

theorem CreditArguments.base_le (h : CreditArguments unitPrice quantity multiplierBPS) :
    unitPrice * quantity ≤ unitPrice * quantity * multiplierBPS := by
  have hbase : 0 ≤ unitPrice * quantity := mul_nonneg h.unitPrice_nonneg h.quantity_pos.le
  have hone : 1 ≤ multiplierBPS := h.multiplierBPS_pos
  calc unitPrice * quantity = unitPrice * quantity * 1 := (mul_one _).symm
    _ ≤ unitPrice * quantity * multiplierBPS := by gcongr

/-- **No intermediate value leaves `int64`.** -/
theorem CreditArguments.isInt64 (h : CreditArguments unitPrice quantity multiplierBPS) :
    IsInt64 (unitPrice * quantity) ∧ IsInt64 (unitPrice * quantity * multiplierBPS) ∧
      IsInt64 (unitPrice * quantity * multiplierBPS + 9999) := by
  have hproduct := h.product_nonneg
  have hbase := h.base_le
  have hnonneg : 0 ≤ unitPrice * quantity := mul_nonneg h.unitPrice_nonneg h.quantity_pos.le
  have hle := h.product_le
  have hmin : minInt64 ≤ 0 := by decide
  exact ⟨⟨by omega, by omega⟩, ⟨by omega, by omega⟩, by omega, by omega⟩

/-- The tests of `creditAmount` are the one about the product. -/
theorem creditArguments_iff :
    (¬(unitPrice < 0 ∨ quantity ≤ 0 ∨ multiplierBPS ≤ 0) ∧ ¬unitPrice > maxInt64 / quantity ∧
      ¬wrap64 (unitPrice * quantity) > (maxInt64 - 9999) / multiplierBPS) ↔
      CreditArguments unitPrice quantity multiplierBPS := by
  constructor
  · rintro ⟨harguments, hbase, hproduct⟩
    simp only [not_or, not_lt, not_le] at harguments
    obtain ⟨hunit, hquantity, hmultiplier⟩ := harguments
    have hle : unitPrice * quantity ≤ maxInt64 := (le_quo_iff hquantity).mp (not_lt.mp hbase)
    have hmin : minInt64 ≤ 0 := by decide
    have hnonneg : 0 ≤ unitPrice * quantity := mul_nonneg hunit hquantity.le
    rw [wrap64_eq_self ⟨hmin.trans hnonneg, hle⟩] at hproduct
    exact ⟨hunit, hquantity, hmultiplier, (le_quo_iff hmultiplier).mp (not_lt.mp hproduct)⟩
  · intro h
    have hint := h.isInt64
    refine ⟨?_, not_lt.mpr ((le_quo_iff h.quantity_pos).mpr hint.1.2), ?_⟩
    · simp only [not_or, not_lt, not_le]
      exact ⟨h.unitPrice_nonneg, h.quantity_pos, h.multiplierBPS_pos⟩
    · rw [wrap64_eq_self hint.1]
      exact not_lt.mpr ((le_quo_iff h.multiplierBPS_pos).mpr h.product_le)

/-- What is computed, where nothing overflows. -/
theorem CreditArguments.computed (h : CreditArguments unitPrice quantity multiplierBPS) :
    (wrap64 (wrap64 (wrap64 (unitPrice * quantity) * multiplierBPS) + 9999)).tdiv 10000 =
      ceilQuo (unitPrice * quantity * multiplierBPS) 10000 := by
  obtain ⟨hbase, hproduct, hsum⟩ := h.isInt64
  have hnonneg := h.product_nonneg
  rw [wrap64_eq_self hbase, wrap64_eq_self hproduct, wrap64_eq_self hsum,
    Int.tdiv_eq_ediv_of_nonneg (by omega)]
  rfl

/-- **When the amount is computed**: the arguments are in range and so is their product, with room
for the rounding.  **It is then exact.** -/
theorem creditAmount_eq_ok :
    creditAmount unitPrice quantity multiplierBPS = .ok amount ↔
      CreditArguments unitPrice quantity multiplierBPS ∧
        amount = ceilQuo (unitPrice * quantity * multiplierBPS) 10000 := by
  rw [creditAmount, refuse_eq_ok, refuse_eq_ok]
  dsimp only
  rw [refuse_eq_ok, ← creditArguments_iff, and_assoc, and_assoc]
  refine and_congr_right fun harguments ↦ and_congr_right fun hbase ↦
    and_congr_right fun hproduct ↦ ?_
  have h := creditArguments_iff.mp ⟨harguments, hbase, hproduct⟩
  rw [h.computed]
  have hnonneg : ¬ceilQuo (unitPrice * quantity * multiplierBPS) 10000 < 0 :=
    not_lt.mpr (ceilQuo_nonneg (by decide) h.product_nonneg)
  rw [if_neg hnonneg, Except.ok.injEq]
  exact eq_comm

theorem creditAmount_nonneg (h : creditAmount unitPrice quantity multiplierBPS = .ok amount) :
    0 ≤ amount := by
  obtain ⟨harguments, rfl⟩ := creditAmount_eq_ok.mp h
  exact ceilQuo_nonneg (by decide) harguments.product_nonneg

/-- More of anything does not cost less. -/
theorem creditAmount_mono {unitPrice' quantity' multiplierBPS' amount' : ℤ}
    (h : creditAmount unitPrice quantity multiplierBPS = .ok amount)
    (h' : creditAmount unitPrice' quantity' multiplierBPS' = .ok amount')
    (hunit : unitPrice ≤ unitPrice') (hquantity : quantity ≤ quantity')
    (hmultiplier : multiplierBPS ≤ multiplierBPS') : amount ≤ amount' := by
  obtain ⟨harguments, rfl⟩ := creditAmount_eq_ok.mp h
  obtain ⟨harguments', rfl⟩ := creditAmount_eq_ok.mp h'
  refine ceilQuo_mono (by decide) ?_
  have hunit₀ := harguments.unitPrice_nonneg
  have hunit₁ := harguments'.unitPrice_nonneg
  have hquantity₀ := harguments.quantity_pos
  have hquantity₁ := harguments'.quantity_pos
  have hmultiplier₀ := harguments.multiplierBPS_pos
  gcongr

end

end HMaigc.Billing
