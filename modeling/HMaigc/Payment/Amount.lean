import HMaigc.Go.Amount
import HMaigc.Go.Checks
import HMaigc.Go.ParseInt

/-!
# Amounts of a payment

`parseAmountCents` of `service/payment_webhook.go`.  It is meant for texts as `12.30`; since
`strconv.ParseInt` takes a sign, some others pass as well.

* `parseAmountCents_eq_ok` — what is accepted, and with which value.
* `parsesAmount_iff` — when the answer is the one an amount should have.
-/

set_option autoImplicit false

namespace HMaigc

open Go

def amountPoint : UInt8 := 46

def parseAmountCents (value : Bytes) : Except String ℤ :=
  match value.splitOn amountPoint with
  | [wholePart, fractionPart] =>
    if fractionPart.length ≠ 2 ∨ wholePart = [] then .error "金额必须包含两位小数"
    else
      match parseInt64 wholePart with
      | none => .error "金额整数部分无效"
      | some whole =>
        if whole < 0 then .error "金额整数部分无效"
        else
          match parseInt64 fractionPart with
          | none => .error "金额小数部分无效"
          | some fraction =>
            if fraction < 0 then .error "金额小数部分无效"
            else if whole > (2 ^ 63 - 1 - fraction) / 100 then .error "金额超出范围"
            else .ok (whole * 100 + fraction)
  | _ => .error "金额必须包含两位小数"

/-- The two parts of a text, read as numbers. -/
structure AmountParts (value wholePart fractionPart : Bytes) (whole fraction : ℕ) : Prop where
  eq : value = wholePart ++ amountPoint :: fractionPart
  length : fractionPart.length = 2
  reads_whole : Reads wholePart whole
  reads_fraction : Reads fractionPart fraction
  range : whole * 100 + fraction < 2 ^ 63

section

variable {value wholePart fractionPart : Bytes} {whole fraction : ℕ} {n : ℤ}

theorem point_not_mem_of_reads (h : Reads wholePart whole) : amountPoint ∉ wholePart := by
  intro hin
  rcases h.chars _ hin with hdigit | hplus | hminus
  · cases hdigit
  · cases hplus
  · cases hminus

theorem splitOn_of_not_mem (h : amountPoint ∉ wholePart) :
    (wholePart ++ amountPoint :: fractionPart).splitOn amountPoint =
      wholePart :: fractionPart.splitOn amountPoint :=
  List.splitOn_append_cons_self_of_not_mem h _

theorem splitOn_eq_single : value.splitOn amountPoint = [wholePart] ↔
    value = wholePart ∧ amountPoint ∉ wholePart := by
  by_cases hin : amountPoint ∈ value
  · obtain ⟨before, after, rfl, hbefore⟩ := List.eq_append_cons_of_mem hin
    rw [splitOn_of_not_mem hbefore]
    constructor
    · intro h
      exact absurd (List.cons.inj h).2 (List.splitOn_ne_nil _ _)
    · rintro ⟨rfl, hnot⟩
      exact absurd hin hnot
  · rw [List.splitOn_eq_singleton hin]
    constructor
    · intro h
      cases h
      exact ⟨rfl, hin⟩
    · rintro ⟨rfl, -⟩
      rfl

theorem splitOn_eq_pair : value.splitOn amountPoint = [wholePart, fractionPart] ↔
    value = wholePart ++ amountPoint :: fractionPart ∧ amountPoint ∉ wholePart ∧
      amountPoint ∉ fractionPart := by
  constructor
  · intro h
    by_cases hin : amountPoint ∈ value
    · obtain ⟨before, after, rfl, hbefore⟩ := List.eq_append_cons_of_mem hin
      rw [splitOn_of_not_mem hbefore] at h
      obtain ⟨rfl, hafter⟩ := List.cons.inj h
      obtain ⟨rfl, hnot⟩ := splitOn_eq_single.mp hafter
      exact ⟨rfl, hbefore, hnot⟩
    · rw [List.splitOn_eq_singleton hin] at h
      cases h
  · rintro ⟨rfl, hwhole, hfraction⟩
    rw [splitOn_of_not_mem hwhole, splitOn_eq_single.mpr ⟨rfl, hfraction⟩]

/-- A part that is parsed to a number which is not negative. -/
theorem reads_of_parseInt64 {number : ℤ} (h : parseInt64 value = some number)
    (hnonneg : ¬number < 0) : Reads value number.toNat ∧ number = number.toNat := by
  have hnumber : number = number.toNat := (Int.toNat_of_nonneg (by omega)).symm
  rw [hnumber] at h
  exact ⟨(parseInt64_nonneg.mp h).1, hnumber⟩

theorem amountParts_of_parse (h : parseAmountCents value = .ok n) :
    ∃ wholePart fractionPart whole fraction,
      AmountParts value wholePart fractionPart whole fraction ∧
        n = (whole * 100 + fraction : ℕ) := by
  rw [parseAmountCents] at h
  split at h
  next wholePart fractionPart hsplit =>
    split at h
    next => cases h
    next hshape =>
      split at h
      next => cases h
      next whole hwhole =>
        split at h
        next => cases h
        next hwhole_nonneg =>
          split at h
          next => cases h
          next fraction hfraction =>
            split at h
            next => cases h
            next hfraction_nonneg =>
              split at h
              next => cases h
              next hrange =>
                cases h
                obtain ⟨hreads_whole, heq_whole⟩ := reads_of_parseInt64 hwhole hwhole_nonneg
                obtain ⟨hreads_fraction, heq_fraction⟩ :=
                  reads_of_parseInt64 hfraction hfraction_nonneg
                refine ⟨wholePart, fractionPart, whole.toNat, fraction.toNat, ?_, by omega⟩
                exact
                  { eq := (splitOn_eq_pair.mp hsplit).1
                    length := by simpa using fun hlength ↦ hshape (.inl hlength)
                    reads_whole := hreads_whole
                    reads_fraction := hreads_fraction
                    range := by omega }
  next => cases h

theorem parse_of_amountParts (h : AmountParts value wholePart fractionPart whole fraction) :
    parseAmountCents value = .ok (whole * 100 + fraction : ℕ) := by
  have hrange := h.range
  have hsplit : value.splitOn amountPoint = [wholePart, fractionPart] :=
    splitOn_eq_pair.mpr
      ⟨h.eq, point_not_mem_of_reads h.reads_whole, point_not_mem_of_reads h.reads_fraction⟩
  have hwhole : parseInt64 wholePart = some (whole : ℤ) :=
    parseInt64_nonneg.mpr ⟨h.reads_whole, by omega⟩
  have hfraction : parseInt64 fractionPart = some (fraction : ℤ) :=
    parseInt64_nonneg.mpr ⟨h.reads_fraction, by omega⟩
  have hnonempty : wholePart ≠ [] := by
    rintro rfl
    cases hwhole
  have hshape : ¬(fractionPart.length ≠ 2 ∨ wholePart = []) := by
    simp [h.length, hnonempty]
  have hfits : ¬(whole : ℤ) > (2 ^ 63 - 1 - fraction) / 100 := by
    omega
  simp only [parseAmountCents, hsplit, hwhole, hfraction]
  rw [if_neg hshape, if_neg (by omega), if_neg (by omega), if_neg hfits]
  push_cast
  rfl

/-- **What is accepted.** -/
theorem parseAmountCents_eq_ok : parseAmountCents value = .ok n ↔
    ∃ wholePart fractionPart whole fraction,
      AmountParts value wholePart fractionPart whole fraction ∧
        n = (whole * 100 + fraction : ℕ) := by
  constructor
  · exact amountParts_of_parse
  · rintro ⟨wholePart, fractionPart, whole, fraction, hparts, rfl⟩
    exact parse_of_amountParts hparts

end

/-! ### Amounts -/

/-- The text of an amount: digits, a point and two digits, for so many cents. -/
def IsAmount (value : Bytes) (n : ℤ) : Prop :=
  ∃ wholePart fractionPart, value = wholePart ++ amountPoint :: fractionPart ∧
    Digits wholePart ∧ Digits fractionPart ∧ fractionPart.length = 2 ∧
      n = (decimal wholePart * 100 + decimal fractionPart : ℕ) ∧ IsInt64 n

/-- The text of an amount and no other is parsed, to its cents. -/
def ParsesAmount (value : Bytes) : Prop :=
  ∀ n, parseAmountCents value = .ok n ↔ IsAmount value n

/-- A part has a sign. -/
def Signed (part : Bytes) : Prop :=
  part.head? = some plus ∨ part.head? = some minus

/-- Two numbers that would be those of an amount, were it not for a sign. -/
def SignedAmount (value : Bytes) : Prop :=
  ∃ wholePart fractionPart whole fraction,
    AmountParts value wholePart fractionPart whole fraction ∧
      (Signed wholePart ∨ Signed fractionPart)

section

variable {value wholePart fractionPart : Bytes} {whole fraction : ℕ} {n : ℤ}

theorem digits_of_not_signed (h : Reads wholePart whole) (hplain : ¬Signed wholePart) :
    Digits wholePart ∧ whole = decimal wholePart := by
  rw [Signed, not_or] at hplain
  exact (reads_iff_of_plain hplain).mp h

theorem not_signed_of_digits (h : Digits wholePart) : ¬Signed wholePart := by
  rw [Signed, not_or]
  exact h.plain

/-- The numbers of an amount are its parts. -/
theorem amountParts_of_isAmount (h : IsAmount value n) :
    ∃ wholePart fractionPart, (Digits wholePart ∧ Digits fractionPart) ∧
      AmountParts value wholePart fractionPart (decimal wholePart) (decimal fractionPart) ∧
        n = (decimal wholePart * 100 + decimal fractionPart : ℕ) := by
  obtain ⟨wholePart, fractionPart, heq, hwhole, hfraction, hlength, rfl, hrange⟩ := h
  refine ⟨wholePart, fractionPart, ⟨hwhole, hfraction⟩, ?_, rfl⟩
  exact
    { eq := heq
      length := hlength
      reads_whole := .plain _ hwhole
      reads_fraction := .plain _ hfraction
      range := by
        have hfits := hrange.2
        simp only [maxInt64] at hfits
        omega }

theorem AmountParts.isAmount (h : AmountParts value wholePart fractionPart whole fraction)
    (hwhole : ¬Signed wholePart) (hfraction : ¬Signed fractionPart) :
    IsAmount value (whole * 100 + fraction : ℕ) := by
  have hrange := h.range
  obtain ⟨hwhole_digits, rfl⟩ := digits_of_not_signed h.reads_whole hwhole
  obtain ⟨hfraction_digits, rfl⟩ := digits_of_not_signed h.reads_fraction hfraction
  refine ⟨wholePart, fractionPart, h.eq, hwhole_digits, hfraction_digits, h.length, rfl, ?_⟩
  simp only [IsInt64, minInt64, maxInt64]
  omega

/-- A text has one pair of parts. -/
theorem AmountParts.unique {wholePart' fractionPart' : Bytes} {whole' fraction' : ℕ}
    (h : AmountParts value wholePart fractionPart whole fraction)
    (h' : AmountParts value wholePart' fractionPart' whole' fraction') :
    wholePart = wholePart' ∧ fractionPart = fractionPart' := by
  have hsplit : value.splitOn amountPoint = [wholePart, fractionPart] :=
    splitOn_eq_pair.mpr
      ⟨h.eq, point_not_mem_of_reads h.reads_whole, point_not_mem_of_reads h.reads_fraction⟩
  have hsplit' : value.splitOn amountPoint = [wholePart', fractionPart'] :=
    splitOn_eq_pair.mpr
      ⟨h'.eq, point_not_mem_of_reads h'.reads_whole, point_not_mem_of_reads h'.reads_fraction⟩
  rw [hsplit] at hsplit'
  simpa using hsplit'

theorem not_signed_of_isAmount (h : IsAmount value n) : ¬SignedAmount value := by
  rintro ⟨wholePart, fractionPart, whole, fraction, hparts, hsigned⟩
  obtain ⟨wholePart', fractionPart', hdigits, hparts', -⟩ := amountParts_of_isAmount h
  obtain ⟨rfl, rfl⟩ := hparts.unique hparts'
  rcases hsigned with hsigned | hsigned
  · exact not_signed_of_digits hdigits.1 hsigned
  · exact not_signed_of_digits hdigits.2 hsigned

/-- A text with a sign is parsed all the same. -/
theorem not_parsesAmount_of_signed (h : SignedAmount value) : ¬ParsesAmount value := by
  intro hparses
  obtain ⟨wholePart, fractionPart, whole, fraction, hparts, hsigned⟩ := id h
  have hamount := (hparses _).mp (parse_of_amountParts hparts)
  exact not_signed_of_isAmount hamount h

end

/-- **When amounts are parsed.**  The text of an amount and no other is parsed, to its cents, just
if the text is not one of two numbers of which one has a sign. -/
theorem parsesAmount_iff (value : Bytes) : ParsesAmount value ↔ ¬SignedAmount value := by
  constructor
  · intro hparses hsigned
    exact not_parsesAmount_of_signed hsigned hparses
  · intro hplain n
    constructor
    · intro h
      obtain ⟨wholePart, fractionPart, whole, fraction, hparts, rfl⟩ := parseAmountCents_eq_ok.mp h
      refine hparts.isAmount ?_ ?_
      · intro hsigned
        exact hplain ⟨_, _, _, _, hparts, .inl hsigned⟩
      · intro hsigned
        exact hplain ⟨_, _, _, _, hparts, .inr hsigned⟩
    · intro h
      obtain ⟨wholePart, fractionPart, -, hparts, rfl⟩ := amountParts_of_isAmount h
      exact parse_of_amountParts hparts

/-- `+1.+5` is taken for 105 cents. -/
theorem not_parsesAmount_plus : ¬ParsesAmount [43, 49, 46, 43, 53] := by
  have hparts : AmountParts [43, 49, 46, 43, 53] [43, 49] [43, 53] 1 5 :=
    { eq := rfl
      length := rfl
      reads_whole := .plus [49] ⟨by decide, List.forall_mem_singleton.mpr rfl⟩
      reads_fraction := .plus [53] ⟨by decide, List.forall_mem_singleton.mpr rfl⟩
      range := by decide }
  exact not_parsesAmount_of_signed ⟨_, _, _, _, hparts, .inl (.inl rfl)⟩

end HMaigc
