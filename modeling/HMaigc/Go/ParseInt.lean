import HMaigc.Go.Scanner
import Mathlib.Data.Int.Notation
import Mathlib.Tactic.Ring

/-!
# `strconv.ParseInt`

* `parseInt64` — base 10, 64 bits.  A number may have one sign, of either kind.
* `Reads` — the texts of the numbers that are not negative; `parseInt64_nonneg` says that these and
  no others are parsed to such a number.
-/

set_option autoImplicit false

namespace Go

def isDigitByte (byte : UInt8) : Bool :=
  48 ≤ byte && byte ≤ 57

/-- The value of a text of digits. -/
def decimal (digits : Bytes) : ℕ :=
  digits.foldl (fun value byte ↦ 10 * value + (byte.toNat - 48)) 0

def plus : UInt8 := 43

def minus : UInt8 := 45

/-- `strconv.ParseUint(digits, 10, 64)`, apart from the kind of its error. -/
def parseUint64 (digits : Bytes) : Option ℕ :=
  if digits ≠ [] ∧ digits.all isDigitByte = true ∧ decimal digits < 2 ^ 64 then
    some (decimal digits)
  else none

/-- The rest of `strconv.ParseInt(text, 10, 64)`, for the digits after the sign. -/
def signed (negative : Bool) (digits : Bytes) : Option ℤ :=
  match parseUint64 digits with
  | none => none
  | some value =>
    if negative = false ∧ value ≥ 2 ^ 63 then none
    else if negative = true ∧ value > 2 ^ 63 then none
    else some (if negative then -(value : ℤ) else value)

/-- `strconv.ParseInt(text, 10, 64)`. -/
def parseInt64 (text : Bytes) : Option ℤ :=
  match text with
  | [] => none
  | sign :: digits =>
    if sign = plus then signed false digits
    else if sign = minus then signed true digits
    else signed false text

/-- A number in digits. -/
structure Digits (text : Bytes) : Prop where
  nonempty : text ≠ []
  digits : ∀ byte ∈ text, isDigitByte byte = true

/-- The text is a number that is not negative, which it may say with a sign. -/
inductive Reads : Bytes → ℕ → Prop
  | plain (text : Bytes) (hdigits : Digits text) : Reads text (decimal text)
  | plus (text : Bytes) (hdigits : Digits text) : Reads (Go.plus :: text) (decimal text)
  | minus (text : Bytes) (hdigits : Digits text) (hzero : decimal text = 0) :
    Reads (Go.minus :: text) 0

section

variable {text digits : Bytes} {n : ℕ}

theorem parseUint64_eq_some :
    parseUint64 digits = some n ↔ Digits digits ∧ n = decimal digits ∧ n < 2 ^ 64 := by
  rw [parseUint64]
  constructor
  · intro h
    split at h
    next hvalid =>
      cases h
      exact ⟨⟨hvalid.1, List.all_eq_true.mp hvalid.2.1⟩, rfl, hvalid.2.2⟩
    next => cases h
  · rintro ⟨hdigits, rfl, hlt⟩
    rw [if_pos ⟨hdigits.nonempty, List.all_eq_true.mpr hdigits.digits, hlt⟩]

theorem signed_false : signed false digits = some (n : ℤ) ↔
    Digits digits ∧ n = decimal digits ∧ n < 2 ^ 63 := by
  rw [signed]
  cases hvalue : parseUint64 digits with
  | none =>
    simp only [reduceCtorEq, false_iff, not_and]
    intro hdigits hn hlt
    have hsome := parseUint64_eq_some.mpr ⟨hdigits, hn, by omega⟩
    rw [hvalue] at hsome
    cases hsome
  | some value =>
    obtain ⟨hdigits, hn, -⟩ := parseUint64_eq_some.mp hvalue
    subst hn
    dsimp only
    by_cases hlarge : decimal digits ≥ 2 ^ 63
    · rw [if_pos ⟨rfl, hlarge⟩]
      simp only [reduceCtorEq, false_iff, not_and]
      intro _ hn
      omega
    · rw [if_neg (fun h ↦ hlarge h.2), if_neg (by simp)]
      simp only [Bool.false_eq_true, if_false, Option.some.injEq, Int.natCast_inj]
      constructor
      · rintro rfl
        exact ⟨hdigits, rfl, by omega⟩
      · intro h
        exact h.2.1.symm

/-- A negative number is not negative when it is zero. -/
theorem signed_true : signed true digits = some (n : ℤ) ↔
    Digits digits ∧ decimal digits = 0 ∧ n = 0 := by
  rw [signed]
  cases hvalue : parseUint64 digits with
  | none =>
    simp only [reduceCtorEq, false_iff, not_and]
    intro hdigits hzero
    have hsome := parseUint64_eq_some.mpr ⟨hdigits, rfl, by omega⟩
    rw [hvalue] at hsome
    cases hsome
  | some value =>
    obtain ⟨hdigits, hn, -⟩ := parseUint64_eq_some.mp hvalue
    subst hn
    dsimp only
    rw [if_neg (by simp)]
    by_cases hlarge : decimal digits > 2 ^ 63
    · rw [if_pos ⟨rfl, hlarge⟩]
      simp only [reduceCtorEq, false_iff, not_and]
      intro _ hzero
      omega
    · rw [if_neg (fun h ↦ hlarge h.2)]
      simp only [if_true, Option.some.injEq]
      constructor
      · intro h
        exact ⟨hdigits, by omega, by omega⟩
      · rintro ⟨-, hzero, rfl⟩
        simp [hzero]

theorem digit_ne_sign {byte : UInt8} (h : isDigitByte byte = true) :
    byte ≠ plus ∧ byte ≠ minus := by
  constructor
  · rintro rfl
    cases h
  · rintro rfl
    cases h

/-- **What is parsed to a number that is not negative.** -/
theorem parseInt64_nonneg : parseInt64 text = some (n : ℤ) ↔ Reads text n ∧ n < 2 ^ 63 := by
  cases text with
  | nil =>
    simp only [parseInt64, reduceCtorEq, false_iff, not_and]
    intro h
    cases h with
    | plain text hdigits => exact absurd rfl hdigits.nonempty
  | cons sign digits =>
    rw [parseInt64]
    by_cases hplus : sign = plus
    · subst hplus
      rw [if_pos rfl, signed_false]
      constructor
      · rintro ⟨hdigits, rfl, hlt⟩
        exact ⟨.plus _ hdigits, hlt⟩
      · rintro ⟨hreads, hlt⟩
        cases hreads with
        | plain text hdigits => exact absurd rfl (digit_ne_sign (hdigits.digits _ (.head _))).1
        | plus text hdigits => exact ⟨hdigits, rfl, hlt⟩
    · rw [if_neg hplus]
      by_cases hminus : sign = minus
      · subst hminus
        rw [if_pos rfl, signed_true]
        constructor
        · rintro ⟨hdigits, hzero, rfl⟩
          exact ⟨.minus _ hdigits hzero, by omega⟩
        · rintro ⟨hreads, -⟩
          cases hreads with
          | plain text hdigits => exact absurd rfl (digit_ne_sign (hdigits.digits _ (.head _))).2
          | minus text hdigits hzero => exact ⟨hdigits, hzero, rfl⟩
      · rw [if_neg hminus, signed_false]
        constructor
        · rintro ⟨hdigits, rfl, hlt⟩
          exact ⟨.plain _ hdigits, hlt⟩
        · rintro ⟨hreads, hlt⟩
          cases hreads with
          | plain text hdigits => exact ⟨hdigits, rfl, hlt⟩
          | plus text hdigits => exact absurd rfl hplus
          | minus text hdigits hzero => exact absurd rfl hminus

/-- A text without signs is a number just if it is one in digits. -/
theorem reads_iff_of_plain (hplain : text.head? ≠ some plus ∧ text.head? ≠ some minus) :
    Reads text n ↔ Digits text ∧ n = decimal text := by
  constructor
  · intro h
    cases h with
    | plain text hdigits => exact ⟨hdigits, rfl⟩
    | plus text hdigits => exact absurd rfl hplain.1
    | minus text hdigits hzero => exact absurd rfl hplain.2
  · rintro ⟨hdigits, rfl⟩
    exact .plain _ hdigits

theorem Digits.plain (h : Digits text) :
    text.head? ≠ some plus ∧ text.head? ≠ some minus := by
  cases text with
  | nil => exact absurd rfl h.nonempty
  | cons byte text =>
    have hbyte := digit_ne_sign (h.digits byte (.head _))
    simpa using hbyte

/-- No other character is in a number. -/
theorem Reads.chars (h : Reads text n) :
    ∀ byte ∈ text, isDigitByte byte = true ∨ byte = Go.plus ∨ byte = Go.minus := by
  intro byte hin
  cases h with
  | plain text hdigits => exact .inl (hdigits.digits _ hin)
  | plus text hdigits =>
    rcases List.mem_cons.mp hin with rfl | hin
    · exact .inr (.inl rfl)
    · exact .inl (hdigits.digits _ hin)
  | minus text hdigits hzero =>
    rcases List.mem_cons.mp hin with rfl | hin
    · exact .inr (.inr rfl)
    · exact .inl (hdigits.digits _ hin)

end

end Go
