import HMaigc.Go.Scanner

/-!
# The characters of a string

A Go string is any sequence of bytes.  Where its bytes are not UTF-8, a loop over the string takes
them one by one.

* `Rune` — a character, or a byte that belongs to none; `runes` — those of a string.
* `runes_utf8Bytes` — the text that was encoded is what is read.
* `validString` — `utf8.ValidString`, and `utf8Bytes_of_valid`: what it accepts is an encoded text.
-/

set_option autoImplicit false

namespace Go

/-- `[]byte(text)`, for a text of characters. -/
def utf8Bytes (text : List Char) : Bytes :=
  text.flatMap String.utf8EncodeChar

/-- `utf8.DecodeRune`, apart from the width. -/
def decodeRune (bytes : Bytes) : Option Char :=
  bytes.toByteArray.utf8DecodeChar? 0

inductive Rune
  | char (c : Char)
  | invalid (byte : UInt8)

namespace Rune

/-- The character a loop sees: U+FFFD for a byte that belongs to none. -/
def toChar : Rune → Char
  | .char c => c
  | .invalid _ => '\ufffd'

def isChar : Rune → Bool
  | .char _ => true
  | .invalid _ => false

end Rune

/-- The runes of a string, after the bytes of the rune being read. -/
def runesFrom : ℕ → Bytes → List Rune
  | _, [] => []
  | width + 1, _ :: rest => runesFrom width rest
  | 0, byte :: rest =>
    match decodeRune (byte :: rest) with
    | some c => .char c :: runesFrom (c.utf8Size - 1) rest
    | none => .invalid byte :: runesFrom 0 rest

def runes (bytes : Bytes) : List Rune :=
  runesFrom 0 bytes

/-- `utf8.ValidString`. -/
def validString (bytes : Bytes) : Bool :=
  (runes bytes).all Rune.isChar

/-! ### Encoding and decoding -/

section

variable {bytes rest : Bytes} {text : List Char} {c : Char}

theorem runesFrom_append {front : Bytes} {width : ℕ} (h : front.length = width) :
    runesFrom width (front ++ rest) = runes rest := by
  induction front generalizing width with
  | nil =>
    subst h
    rfl
  | cons byte front ih =>
    subst h
    exact ih rfl

theorem decodeRune_encode (c : Char) (rest : Bytes) :
    decodeRune (String.utf8EncodeChar c ++ rest) = some c := by
  rw [decodeRune, List.toByteArray_append]
  exact ByteArray.utf8DecodeChar?_utf8EncodeChar_append

/-- A character that is decoded is in front. -/
theorem eq_append_of_decodeRune (h : decodeRune bytes = some c) :
    ∃ rest, bytes = String.utf8EncodeChar c ++ rest := by
  obtain ⟨l, hl⟩ := ByteArray.exists_of_utf8DecodeChar?_eq_some h
  refine ⟨l.data.toList, ?_⟩
  have hdata := congrArg (fun array ↦ array.data.toList) hl
  simpa using hdata

theorem encode_ne_nil : String.utf8EncodeChar c ≠ [] := by
  intro h
  have hlength := String.length_utf8EncodeChar c
  rw [h] at hlength
  exact absurd hlength.symm (Nat.ne_of_gt c.utf8Size_pos)

theorem runes_encode : runes (String.utf8EncodeChar c ++ rest) = .char c :: runes rest := by
  cases hencode : String.utf8EncodeChar c with
  | nil => exact absurd hencode encode_ne_nil
  | cons byte tail =>
    have hlength := String.length_utf8EncodeChar c
    rw [hencode, List.length_cons] at hlength
    have hdecode := decodeRune_encode c rest
    rw [hencode, List.cons_append] at hdecode
    rw [runes, List.cons_append, runesFrom, hdecode]
    dsimp only
    rw [runesFrom_append (by omega)]

theorem runes_invalid {byte : UInt8} (h : decodeRune (byte :: rest) = none) :
    runes (byte :: rest) = .invalid byte :: runes rest := by
  rw [runes, runesFrom, h]
  rfl

/-- Runes are read one after another, characters and bytes that are none. -/
theorem runes_induction {P : Bytes → Prop} (nil : P [])
    (char : ∀ c rest, P rest → P (String.utf8EncodeChar c ++ rest))
    (invalid : ∀ byte rest, decodeRune (byte :: rest) = none → P rest → P (byte :: rest))
    (bytes : Bytes) : P bytes := by
  induction hlength : bytes.length using Nat.strong_induction_on generalizing bytes with
  | _ length ih =>
    cases bytes with
    | nil => exact nil
    | cons byte rest =>
      cases hdecode : decodeRune (byte :: rest) with
      | none =>
        refine invalid byte rest hdecode (ih rest.length ?_ rest rfl)
        rw [← hlength, List.length_cons]
        omega
      | some c =>
        obtain ⟨tail, htail⟩ := eq_append_of_decodeRune hdecode
        rw [htail]
        refine char c tail (ih tail.length ?_ tail rfl)
        rw [← hlength, htail, List.length_append, String.length_utf8EncodeChar]
        have hpos := c.utf8Size_pos
        omega

theorem utf8Bytes_cons : utf8Bytes (c :: text) = String.utf8EncodeChar c ++ utf8Bytes text :=
  rfl

theorem utf8Bytes_append {text' : List Char} :
    utf8Bytes (text ++ text') = utf8Bytes text ++ utf8Bytes text' :=
  List.flatMap_append

/-- **What was encoded is what is read.** -/
theorem runes_utf8Bytes (text : List Char) : runes (utf8Bytes text) = text.map .char := by
  induction text with
  | nil => rfl
  | cons c text ih => rw [utf8Bytes_cons, runes_encode, ih, List.map_cons]

theorem utf8Bytes_injective : Function.Injective utf8Bytes := by
  intro text text' h
  have hrunes := congrArg runes h
  rw [runes_utf8Bytes, runes_utf8Bytes] at hrunes
  exact List.map_injective_iff.mpr (fun c c' hc ↦ by cases hc; rfl) hrunes

/-- An ASCII character is one byte. -/
theorem encode_ascii (h : c.toNat < 128) : String.utf8EncodeChar c = [c.toNat.toUInt8] := by
  have hsize : c.utf8Size = 1 := by
    rw [Char.utf8Size_eq_one_iff, UInt32.le_iff_toNat_le]
    have htoNat : c.toNat = c.val.toNat := rfl
    have hlast : (127 : UInt32).toNat = 127 := rfl
    omega
  rw [String.utf8EncodeChar_eq_singleton hsize]
  rfl

theorem utf8Bytes_ascii (h : ∀ c ∈ text, c.toNat < 128) :
    utf8Bytes text = text.map fun c ↦ c.toNat.toUInt8 := by
  induction text with
  | nil => rfl
  | cons c text ih =>
    rw [utf8Bytes_cons, encode_ascii (h c (.head _)), ih fun d hd ↦ h d (.tail _ hd)]
    rfl

/-- The characters a loop over a valid string sees are its text. -/
theorem utf8Bytes_of_valid (h : validString bytes = true) :
    utf8Bytes ((runes bytes).map Rune.toChar) = bytes := by
  induction bytes using runes_induction with
  | nil => rfl
  | char c rest ih =>
    rw [validString, runes_encode, List.all_cons, Bool.and_eq_true] at h
    rw [runes_encode, List.map_cons, utf8Bytes_cons, ih h.2]
    rfl
  | invalid byte rest hdecode ih =>
    rw [validString, runes_invalid hdecode, List.all_cons, Bool.and_eq_true] at h
    exact absurd h.1 (by simp [Rune.isChar])

theorem validString_utf8Bytes (text : List Char) : validString (utf8Bytes text) = true := by
  rw [validString, runes_utf8Bytes, List.all_map, List.all_eq_true]
  intro c _
  rfl

end

end Go
