import HMaigc.Go.Struct

/-!
# Hexadecimal texts

`encoding/hex`: the encoder writes small letters, the decoder takes capital ones as well.

* `decodeHex_encodeHex` — what was encoded is decoded.
* `eq_encodeHex_iff` — a text that is decoded is the encoder's just if it has no capital letter.
* `quote_hex` — such a text is written as it is.
* `hexText_injective` — the encoder's texts of different bytes differ.
-/

set_option autoImplicit false

namespace Go

/-- `fromHexChar`. -/
def hexValue (byte : UInt8) : Option ℕ :=
  if 48 ≤ byte ∧ byte ≤ 57 then some (byte.toNat - 48)
  else if 97 ≤ byte ∧ byte ≤ 102 then some (byte.toNat - 97 + 10)
  else if 65 ≤ byte ∧ byte ≤ 70 then some (byte.toNat - 65 + 10)
  else none

/-- `hex.DecodeString`. -/
def decodeHex : Bytes → Option Bytes
  | [] => some []
  | [_] => none
  | high :: low :: rest => do
    let high ← hexValue high
    let low ← hexValue low
    let bytes ← decodeHex rest
    some (UInt8.ofNat (16 * high + low) :: bytes)

/-- A digit of `0123456789abcdef`. -/
def hexByte (digit : ℕ) : UInt8 :=
  UInt8.ofNat (if digit < 10 then 48 + digit else 87 + digit)

/-- `hex.EncodeToString`. -/
def encodeHex : Bytes → Bytes
  | [] => []
  | byte :: rest => hexByte (byte.toNat / 16) :: hexByte (byte.toNat % 16) :: encodeHex rest

/-- One of `ABCDEF`. -/
def isCapital (byte : UInt8) : Bool :=
  65 ≤ byte && byte ≤ 70

section

variable {text bytes : Bytes} {byte : UInt8}

theorem hexValue_hexByte : ∀ digit < 16, hexValue (hexByte digit) = some digit := by
  decide

theorem toNat_hexByte {digit : ℕ} (h : digit < 16) :
    (hexByte digit).toNat = if digit < 10 then 48 + digit else 87 + digit := by
  rw [hexByte, UInt8.toNat_ofNat']
  split
  · omega
  · omega

/-- A digit is the encoder's where it is not a capital letter. -/
theorem hexByte_of_hexValue {digit : ℕ} (h : hexValue byte = some digit) :
    digit < 16 ∧ (isCapital byte = false ↔ byte = hexByte digit) := by
  have hcapital : isCapital byte = false ↔ ¬(65 ≤ byte.toNat ∧ byte.toNat ≤ 70) := by
    rw [isCapital, ← Bool.not_eq_true, Bool.and_eq_true, decide_eq_true_eq, decide_eq_true_eq]
    rfl
  have hvalue : digit < 16 ∧ ((48 ≤ byte.toNat ∧ byte.toNat ≤ 57 ∧ digit = byte.toNat - 48) ∨
      (97 ≤ byte.toNat ∧ byte.toNat ≤ 102 ∧ digit = byte.toNat - 87) ∨
        (65 ≤ byte.toNat ∧ byte.toNat ≤ 70 ∧ digit = byte.toNat - 55)) := by
    simp only [hexValue, UInt8.le_iff_toNat_le] at h
    split at h
    next hrange =>
      cases h
      simp only [UInt8.reduceToNat] at hrange
      omega
    next =>
      split at h
      next hrange =>
        cases h
        simp only [UInt8.reduceToNat] at hrange
        omega
      next =>
        split at h
        next hrange =>
          cases h
          simp only [UInt8.reduceToNat] at hrange
          omega
        next => cases h
  obtain ⟨hdigit, hcases⟩ := hvalue
  refine ⟨hdigit, ?_⟩
  rw [hcapital, ← UInt8.toNat_inj, toNat_hexByte hdigit]
  split
  · omega
  · omega

/-- **What was encoded is decoded.** -/
theorem decodeHex_encodeHex (bytes : Bytes) : decodeHex (encodeHex bytes) = some bytes := by
  induction bytes with
  | nil => rfl
  | cons byte rest ih =>
    have hbyte := UInt8.toNat_lt byte
    have hsum : UInt8.ofNat (16 * (byte.toNat / 16) + byte.toNat % 16) = byte := by
      rw [Nat.div_add_mod, UInt8.ofNat_toNat]
    rw [encodeHex, decodeHex, hexValue_hexByte _ (by omega), hexValue_hexByte _ (by omega), ih]
    simp only [Option.bind_eq_bind, Option.bind_some, hsum]

/-- The bytes and the digits of a text that is decoded. -/
theorem decodeHex_cons {high low : UInt8} (h : decodeHex (high :: low :: text) = some bytes) :
    ∃ h' l' rest, hexValue high = some h' ∧ hexValue low = some l' ∧ decodeHex text = some rest ∧
      bytes = UInt8.ofNat (16 * h' + l') :: rest := by
  rw [decodeHex] at h
  simp only [Option.bind_eq_bind, Option.bind_eq_some_iff, Option.some.injEq] at h
  obtain ⟨h', hhigh, l', hlow, rest, hrest, heq⟩ := h
  exact ⟨h', l', rest, hhigh, hlow, hrest, heq.symm⟩

theorem decodeHex_length (h : decodeHex text = some bytes) : text.length = 2 * bytes.length := by
  induction text using decodeHex.induct generalizing bytes with
  | case1 =>
    cases h
    rfl
  | case2 byte => cases h
  | case3 high low rest ih =>
    obtain ⟨h', l', more, -, -, hmore, rfl⟩ := decodeHex_cons h
    rw [List.length_cons, List.length_cons, List.length_cons, ih hmore]
    omega

/-- **A text that is decoded is the encoder's** just if it has no capital letter. -/
theorem eq_encodeHex_iff (h : decodeHex text = some bytes) :
    text = encodeHex bytes ↔ ∀ byte ∈ text, isCapital byte = false := by
  induction text using decodeHex.induct generalizing bytes with
  | case1 =>
    cases h
    simp [encodeHex]
  | case2 byte => cases h
  | case3 high low rest ih =>
    obtain ⟨h', l', more, hhigh, hlow, hmore, rfl⟩ := decodeHex_cons h
    obtain ⟨hh, hhigh_iff⟩ := hexByte_of_hexValue hhigh
    obtain ⟨hl, hlow_iff⟩ := hexByte_of_hexValue hlow
    have htoNat : (UInt8.ofNat (16 * h' + l')).toNat = 16 * h' + l' := by
      rw [UInt8.toNat_ofNat']
      omega
    have hquo : (16 * h' + l') / 16 = h' := by omega
    have hrem : (16 * h' + l') % 16 = l' := by omega
    rw [encodeHex, htoNat, hquo, hrem, List.forall_mem_cons, List.forall_mem_cons, hhigh_iff,
      hlow_iff, ← ih hmore]
    simp only [List.cons.injEq]

/-- The bytes of a text that is decoded. -/
theorem hexValue_of_mem (h : decodeHex text = some bytes) :
    ∀ byte ∈ text, (hexValue byte).isSome = true := by
  induction text using decodeHex.induct generalizing bytes with
  | case1 => simp
  | case2 byte => cases h
  | case3 high low rest ih =>
    obtain ⟨h', l', more, hhigh, hlow, hmore, rfl⟩ := decodeHex_cons h
    rw [List.forall_mem_cons, List.forall_mem_cons, hhigh, hlow]
    exact ⟨rfl, rfl, ih hmore⟩

theorem hexValue_isSome (h : (hexValue byte).isSome = true) :
    (48 ≤ byte.toNat ∧ byte.toNat ≤ 57) ∨ (97 ≤ byte.toNat ∧ byte.toNat ≤ 102) ∨
      (65 ≤ byte.toNat ∧ byte.toNat ≤ 70) := by
  simp only [hexValue, UInt8.le_iff_toNat_le, UInt8.reduceToNat] at h
  split at h
  next hrange => exact .inl hrange
  next =>
    split at h
    next hrange => exact .inr (.inl hrange)
    next =>
      split at h
      next hrange => exact .inr (.inr hrange)
      next => cases h

/-- A letter or a digit is not escaped. -/
theorem escapeChar_of_alphanumeric {c : Char} (h : (48 ≤ c.toNat ∧ c.toNat ≤ 57) ∨
    (97 ≤ c.toNat ∧ c.toNat ≤ 102) ∨ (65 ≤ c.toNat ∧ c.toNat ≤ 70)) : escapeChar c = [c] := by
  have hne : ∀ d : Char, ¬((48 ≤ d.toNat ∧ d.toNat ≤ 57) ∨ (97 ≤ d.toNat ∧ d.toNat ≤ 102) ∨
      (65 ≤ d.toNat ∧ d.toNat ≤ 70)) → c ≠ d := by
    rintro d hd rfl
    exact hd h
  have hlarge : ¬c.toNat < 0x20 := by omega
  simp [escapeChar, hne '\\' (by decide), hne '"' (by decide), hne '\x08' (by decide),
    hne '\x0c' (by decide), hne '\n' (by decide), hne '\r' (by decide), hne '\t' (by decide),
    hlarge, hne '<' (by decide), hne '>' (by decide), hne '&' (by decide),
    hne '\u2028' (by decide), hne '\u2029' (by decide)]

/-- The text of these bytes. -/
def asciiText (bytes : Bytes) : List Char :=
  bytes.map fun byte ↦ Char.ofNat byte.toNat

theorem toNat_ofNat_ascii {n : ℕ} (h : n < 128) : (Char.ofNat n).toNat = n := by
  have hvalid : n.isValidChar := .inl (by omega)
  rw [Char.ofNat, dif_pos hvalid]
  rfl

theorem utf8Bytes_asciiText (h : ∀ byte ∈ text, byte.toNat < 128) :
    utf8Bytes (asciiText text) = text := by
  have hchars : ∀ c ∈ asciiText text, c.toNat < 128 := by
    intro c hc
    obtain ⟨byte, hbyte, rfl⟩ := List.mem_map.mp hc
    rw [toNat_ofNat_ascii (h byte hbyte)]
    exact h byte hbyte
  rw [utf8Bytes_ascii hchars, asciiText, List.map_map]
  refine (List.map_congr_left fun byte hbyte ↦ ?_).trans (List.map_id text)
  simp [toNat_ofNat_ascii (h byte hbyte)]

/-- **A text that is decoded is written as it is.** -/
theorem quote_hex (h : decodeHex text = some bytes) :
    quote text = '"' :: asciiText text ++ ['"'] ∧ utf8Bytes (asciiText text) = text := by
  have hranges : ∀ byte ∈ text, (48 ≤ byte.toNat ∧ byte.toNat ≤ 57) ∨
      (97 ≤ byte.toNat ∧ byte.toNat ≤ 102) ∨ (65 ≤ byte.toNat ∧ byte.toNat ≤ 70) :=
    fun byte hbyte ↦ hexValue_isSome (hexValue_of_mem h byte hbyte)
  have hascii : ∀ byte ∈ text, byte.toNat < 128 := by
    intro byte hbyte
    have hrange := hranges byte hbyte
    omega
  have hbytes := utf8Bytes_asciiText hascii
  refine ⟨?_, hbytes⟩
  have hrunes : runes text = (asciiText text).map .char := by
    conv_lhs => rw [← hbytes]
    exact runes_utf8Bytes _
  have hescape : ((asciiText text).map Rune.char).flatMap escape = asciiText text := by
    rw [List.flatMap_map]
    refine (List.flatMap_congr fun c hc ↦ ?_).trans (List.flatMap_singleton' (asciiText text))
    obtain ⟨byte, hbyte, rfl⟩ := List.mem_map.mp hc
    refine escapeChar_of_alphanumeric ?_
    rw [toNat_ofNat_ascii (hascii byte hbyte)]
    exact hranges byte hbyte
  rw [quote, quoteRunes, hrunes, hescape]

/-! ### Blanks -/

/-- The byte is in no white space. -/
def IsInk (byte : UInt8) : Prop :=
  ∀ encoding ∈ spaces, encoding.head? ≠ some byte ∧ encoding.getLast? ≠ some byte

theorem dropEncodings_of_head {encodings : List Bytes} {fuel : ℕ}
    (h : ∀ encoding ∈ encodings, encoding ≠ [] ∧ encoding.head? ≠ text.head?) :
    dropEncodings encodings fuel text = text := by
  cases fuel with
  | zero => rfl
  | succ fuel =>
    have hnone : encodings.find? (·.isPrefixOf text) = none := by
      rw [List.find?_eq_none]
      intro encoding hin hprefix
      obtain ⟨hne, hhead⟩ := h encoding hin
      obtain ⟨rest, rfl⟩ := List.isPrefixOf_iff_prefix.mp hprefix
      cases encoding with
      | nil => exact hne rfl
      | cons byte encoding => exact hhead rfl
    rw [dropEncodings, hnone]

/-- A text without white space is not trimmed. -/
theorem trimBytes_of_ink (h : ∀ byte ∈ text, IsInk byte) : trimBytes text = text := by
  have hspaces : ∀ encoding ∈ spaces, encoding ≠ [] := by decide
  cases text with
  | nil => rfl
  | cons first rest =>
    have hleft : dropEncodings spaces (first :: rest).length (first :: rest) = first :: rest := by
      refine dropEncodings_of_head fun encoding hin ↦ ⟨hspaces encoding hin, ?_⟩
      exact (h first (.head _) encoding hin).1
    have hright : dropEncodings (spaces.map List.reverse) (first :: rest).length
        (first :: rest).reverse = (first :: rest).reverse := by
      refine dropEncodings_of_head fun encoding hin ↦ ?_
      obtain ⟨space, hspace, rfl⟩ := List.mem_map.mp hin
      refine ⟨by simpa using hspaces space hspace, ?_⟩
      rw [List.head?_reverse, List.head?_reverse, List.getLast?_eq_getLast_of_ne_nil
        (List.cons_ne_nil _ _)]
      exact (h _ (List.getLast_mem _) space hspace).2
    rw [trimBytes]
    simp only [hleft, hright, List.reverse_reverse]

/-- Digits and letters are in no white space. -/
theorem isInk_of_hexValue (h : (hexValue byte).isSome = true) : IsInk byte := by
  have hspaces : ∀ encoding ∈ spaces,
      (encoding.head?.all fun b ↦ b.toNat < 48 || 102 < b.toNat) = true ∧
        (encoding.getLast?.all fun b ↦ b.toNat < 48 || 102 < b.toNat) = true := by
    decide
  have hrange := hexValue_isSome h
  intro encoding hin
  obtain ⟨hhead, hlast⟩ := hspaces encoding hin
  constructor
  · intro heq
    simp only [heq, Option.all_some, Bool.or_eq_true, decide_eq_true_eq] at hhead
    omega
  · intro heq
    simp only [heq, Option.all_some, Bool.or_eq_true, decide_eq_true_eq] at hlast
    omega

theorem trimBytes_hex (h : decodeHex text = some bytes) : trimBytes text = text :=
  trimBytes_of_ink fun byte hbyte ↦ isInk_of_hexValue (hexValue_of_mem h byte hbyte)

theorem validString_hex (h : decodeHex text = some bytes) : validString text = true := by
  rw [← (quote_hex h).2]
  exact validString_utf8Bytes _

end

/-- `hex.EncodeToString`, as a text. -/
def hexText (bytes : Bytes) : String := String.ofList (asciiText (encodeHex bytes))

theorem hexText_injective : Function.Injective hexText := by
  intro a b h
  have htext : encodeHex a = encodeHex b := by
    rw [← (quote_hex (decodeHex_encodeHex a)).2, ← (quote_hex (decodeHex_encodeHex b)).2]
    exact congrArg utf8Bytes (String.ofList_injective h)
  have hbytes := congrArg decodeHex htext
  rwa [decodeHex_encodeHex, decodeHex_encodeHex, Option.some.injEq] at hbytes

end Go
