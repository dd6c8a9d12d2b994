import HMaigc.Go.Decode
import HMaigc.Go.ParseInt
import HMaigc.Go.Utf8

/-!
# `json.Marshal` of structures

* `quote` — a string.  Characters that HTML gives a meaning are escaped, and a byte that is no
  character is written as the replacement character.
* `natText` — a number that is not negative.
* `object` — a structure, given the names and the texts of its fields.
* `ReadsAs` — what the text of a field is decoded to; `quote_readsAs`, `natText_readsAs` and
  `object_readsAs` are the cases, and `parse_object` is a whole text.
-/

set_option autoImplicit false

namespace Go

/-! ### Strings -/

/-- A digit of `0123456789abcdef`. -/
def hexChar (digit : ℕ) : Char :=
  "0123456789abcdef".toList.getD digit '0'

def escapeChar (c : Char) : List Char :=
  if c = '\\' ∨ c = '"' then ['\\', c]
  else if c = '\x08' then ['\\', 'b']
  else if c = '\x0c' then ['\\', 'f']
  else if c = '\n' then ['\\', 'n']
  else if c = '\r' then ['\\', 'r']
  else if c = '\t' then ['\\', 't']
  else if c.toNat < 0x20 ∨ c = '<' ∨ c = '>' ∨ c = '&' then
    ['\\', 'u', '0', '0', hexChar (c.toNat / 16), hexChar (c.toNat % 16)]
  else if c = '\u2028' ∨ c = '\u2029' then ['\\', 'u', '2', '0', '2', hexChar (c.toNat % 16)]
  else [c]

def escape : Rune → List Char
  | .char c => escapeChar c
  | .invalid _ => ['\\', 'u', 'f', 'f', 'f', 'd']

def quoteRunes (body : List Rune) : List Char :=
  '"' :: body.flatMap escape ++ ['"']

/-- `appendString`. -/
def quote (bytes : Bytes) : List Char :=
  quoteRunes (runes bytes)

/-- The shapes of what a rune is written as. -/
inductive Escaped (r : Rune) : Prop
  | plain (hne : r.toChar ≠ '\\' ∧ r.toChar ≠ '"') (hlarge : ¬r.toChar.toNat < 0x20)
      (heq : escape r = [r.toChar])
  | short (letter : Char) (hletter : letter ∈ ['b', 'f', 'n', 'r', 't', '\\', '/', '"'])
      (hunescape : unescape letter = r.toChar) (heq : escape r = ['\\', letter])
  | long (a b c d : Char)
      (hdigits : [a, b, c, d].all (fun x ↦ (hexDigit x).isSome) = true)
      (hunit : codeUnit a b c d = r.toChar.toNat)
      (heq : escape r = ['\\', 'u', a, b, c, d])

section

variable {stack : List Frame} {body rest : List Char} {r : Rune} {c : Char}

theorem hexDigit_hexChar : ∀ digit < 16, hexDigit (hexChar digit) = some digit := by
  decide

/-- Two digits are enough below 256. -/
theorem codeUnit_hexChar {n : ℕ} (h : n < 256) :
    codeUnit '0' '0' (hexChar (n / 16)) (hexChar (n % 16)) = n := by
  have hhigh := hexDigit_hexChar (n / 16) (by omega)
  have hlow := hexDigit_hexChar (n % 16) (by omega)
  have hzero : hexDigit '0' = some 0 := rfl
  simp only [codeUnit, List.foldl_cons, List.foldl_nil, hhigh, hlow, hzero, Option.getD_some]
  omega

theorem escaped_of_small (hsmall : c.toNat < 256)
    (heq : escape (.char c) = ['\\', 'u', '0', '0', hexChar (c.toNat / 16),
      hexChar (c.toNat % 16)]) : Escaped (.char c) := by
  have hhigh := hexDigit_hexChar (c.toNat / 16) (by omega)
  have hlow := hexDigit_hexChar (c.toNat % 16) (by omega)
  refine .long '0' '0' (hexChar (c.toNat / 16)) (hexChar (c.toNat % 16)) ?_
    (codeUnit_hexChar hsmall) heq
  simp only [List.all_cons, List.all_nil, hhigh, hlow]
  rfl

theorem escaped (r : Rune) : Escaped r := by
  cases r with
  | invalid byte => exact .long 'f' 'f' 'f' 'd' rfl rfl rfl
  | char c =>
    by_cases hquoted : c = '\\' ∨ c = '"'
    · rcases hquoted with rfl | rfl
      · exact .short '\\' (by decide) rfl rfl
      · exact .short '"' (by decide) rfl rfl
    by_cases hb : c = '\x08'
    · subst hb
      exact .short 'b' (by decide) rfl rfl
    by_cases hf : c = '\x0c'
    · subst hf
      exact .short 'f' (by decide) rfl rfl
    by_cases hn : c = '\n'
    · subst hn
      exact .short 'n' (by decide) rfl rfl
    by_cases hr : c = '\r'
    · subst hr
      exact .short 'r' (by decide) rfl rfl
    by_cases ht : c = '\t'
    · subst ht
      exact .short 't' (by decide) rfl rfl
    by_cases hhtml : c.toNat < 0x20 ∨ c = '<' ∨ c = '>' ∨ c = '&'
    · refine escaped_of_small ?_ ?_
      · rcases hhtml with hsmall | rfl | rfl | rfl
        · omega
        · decide
        · decide
        · decide
      · rw [escape, escapeChar, if_neg hquoted, if_neg hb, if_neg hf, if_neg hn, if_neg hr,
          if_neg ht, if_pos hhtml]
    by_cases hseparator : c = '\u2028' ∨ c = '\u2029'
    · rcases hseparator with rfl | rfl
      · exact .long '2' '0' '2' '8' rfl rfl rfl
      · exact .long '2' '0' '2' '9' rfl rfl rfl
    · refine .plain (not_or.mp hquoted) (fun hsmall ↦ hhtml (.inl hsmall)) ?_
      rw [escape, escapeChar, if_neg hquoted, if_neg hb, if_neg hf, if_neg hn, if_neg hr,
        if_neg ht, if_neg hhtml, if_neg hseparator]
      rfl

/-! ### Strings are read -/

theorem scan_cons {s s' : Scan} (h : step s c = some s') :
    scanFrom s (c :: rest) = scanFrom s' rest := by
  rw [scanFrom, h, Option.bind_some]

theorem step_plain (hquote : c ≠ '"') (hbackslash : c ≠ '\\') (hlarge : ¬c.toNat < 0x20) :
    step ⟨stack, .inString body⟩ c = some ⟨stack, .inString (c :: body)⟩ := by
  rw [step]
  simp only [if_neg hquote, if_neg hbackslash, if_neg hlarge]

theorem step_letter (h : c ∈ ['b', 'f', 'n', 'r', 't', '\\', '/', '"']) :
    step ⟨stack, .inStringEsc body⟩ c = some ⟨stack, .inString (c :: body)⟩ := by
  rw [step]
  simp only [if_pos h]

theorem step_digit {missing : ℕ} (h : (hexDigit c).isSome = true) :
    step ⟨stack, .inStringEscU (missing + 2) body⟩ c =
      some ⟨stack, .inStringEscU (missing + 1) (c :: body)⟩ := by
  rw [step]
  have hdigit : (hexDigit c).isNone = false := by simpa using h
  simp [hdigit]

theorem step_last_digit (h : (hexDigit c).isSome = true) :
    step ⟨stack, .inStringEscU 1 body⟩ c = some ⟨stack, .inString (c :: body)⟩ := by
  rw [step]
  have hdigit : (hexDigit c).isNone = false := by simpa using h
  simp [hdigit]

/-- The scanner stays in the string. -/
theorem scan_escape : scanFrom ⟨stack, .inString body⟩ (escape r ++ rest) =
    scanFrom ⟨stack, .inString ((escape r).reverse ++ body)⟩ rest := by
  cases escaped r with
  | plain hne hlarge heq =>
    rw [heq]
    exact scan_cons (step_plain hne.2 hne.1 hlarge)
  | short letter hletter hunescape heq =>
    rw [heq]
    calc scanFrom ⟨stack, .inString body⟩ ('\\' :: letter :: rest)
        = scanFrom ⟨stack, .inStringEsc ('\\' :: body)⟩ (letter :: rest) := scan_cons rfl
      _ = scanFrom ⟨stack, .inString (letter :: '\\' :: body)⟩ rest :=
          scan_cons (step_letter hletter)
  | long a b c d hdigits hunit heq =>
    rw [heq]
    simp only [List.all_cons, Bool.and_eq_true] at hdigits
    obtain ⟨ha, hb, hc, hd, -⟩ := hdigits
    calc scanFrom ⟨stack, .inString body⟩ ('\\' :: 'u' :: a :: b :: c :: d :: rest)
        = scanFrom ⟨stack, .inStringEsc ('\\' :: body)⟩ ('u' :: a :: b :: c :: d :: rest) :=
          scan_cons rfl
      _ = scanFrom ⟨stack, .inStringEscU 4 ('u' :: '\\' :: body)⟩ (a :: b :: c :: d :: rest) :=
          scan_cons rfl
      _ = scanFrom ⟨stack, .inStringEscU 3 (a :: 'u' :: '\\' :: body)⟩ (b :: c :: d :: rest) :=
          scan_cons (step_digit ha)
      _ = scanFrom ⟨stack, .inStringEscU 2 (b :: a :: 'u' :: '\\' :: body)⟩ (c :: d :: rest) :=
          scan_cons (step_digit hb)
      _ = scanFrom ⟨stack, .inStringEscU 1 (c :: b :: a :: 'u' :: '\\' :: body)⟩ (d :: rest) :=
          scan_cons (step_digit hc)
      _ = scanFrom ⟨stack, .inString (d :: c :: b :: a :: 'u' :: '\\' :: body)⟩ rest :=
          scan_cons (step_last_digit hd)

theorem not_surrogate (c : Char) :
    isHighSurrogate c.toNat = false ∧ isLowSurrogate c.toNat = false := by
  have hvalid := c.valid
  have htoNat : c.toNat = c.val.toNat := rfl
  rw [UInt32.isValidChar, Nat.isValidChar] at hvalid
  simp only [isHighSurrogate, isLowSurrogate, Bool.and_eq_false_iff, decide_eq_false_iff_not]
  omega

theorem unquote_escape :
    unquoteFrom none (escape r ++ rest) = r.toChar :: unquoteFrom none rest := by
  cases escaped r with
  | plain hne hlarge heq =>
    rw [heq, List.singleton_append, unquoteFrom.eq_def]
    simp [hne.1]
  | short letter hletter hunescape heq =>
    have hne : letter ≠ 'u' := by
      rintro rfl
      exact absurd hletter (by decide)
    rw [heq, ← hunescape, List.cons_append, List.singleton_append, unquoteFrom.eq_def]
    simp [hne]
  | long a b c d hdigits hunit heq =>
    obtain ⟨hhigh, hlow⟩ := not_surrogate r.toChar
    rw [heq]
    simp only [List.cons_append, List.nil_append]
    rw [unquoteFrom.eq_def]
    simp [hunit, hhigh, hlow]

theorem unquote_flatMap (runes : List Rune) :
    unquoteFrom none (runes.flatMap escape) = runes.map Rune.toChar := by
  induction runes with
  | nil => rfl
  | cons r runes ih => rw [List.flatMap_cons, unquote_escape, ih, List.map_cons]

theorem scan_flatMap (runes : List Rune) :
    scanFrom ⟨stack, .inString body⟩ (runes.flatMap escape ++ rest) =
      scanFrom ⟨stack, .inString ((runes.flatMap escape).reverse ++ body)⟩ rest := by
  induction runes generalizing body with
  | nil => rfl
  | cons r runes ih =>
    rw [List.flatMap_cons, List.append_assoc, scan_escape, ih]
    simp

theorem step_quote :
    step ⟨stack, .inString body⟩ '"' = completeString body stack (readsKey stack) :=
  rfl

/-- **A string is read to its end**, with the characters a loop over it sees. -/
theorem scan_string {s : Scan} (runes : List Rune)
    (h : completeString ((runes.flatMap escape).reverse) stack (readsKey stack) = some s) :
    scanFrom ⟨stack, .inString []⟩ (runes.flatMap escape ++ '"' :: rest) = scanFrom s rest := by
  rw [scan_flatMap, List.append_nil]
  exact scan_cons (step_quote.trans h)

/-- What a string is decoded to. -/
def runeText (runes : List Rune) : String :=
  String.ofList (runes.map Rune.toChar)

theorem unquote_runes (runes : List Rune) :
    unquote (runes.flatMap escape).reverse.reverse = runeText runes := by
  rw [List.reverse_reverse, unquote, unquote_flatMap, runeText]

end

/-! ### Fields -/

/-- Does a text of this kind end before the character? -/
def EndsField (c : Char) : Prop :=
  c = ',' ∨ c = '}'

/-- The text of a field is read as the value; `depth` is how many objects are open in it. -/
def ReadsAs (depth : ℕ) (text : List Char) (value : Json) : Prop :=
  ∀ members key stack c rest, stack.length + 1 + depth ≤ maxNestingDepth → EndsField c →
    scanFrom ⟨.parseObjectValue members key :: stack, .beginValue⟩ (text ++ c :: rest) =
      scanFrom ⟨.parseObjectKey ((key, value) :: members) :: stack, .endValue⟩ (c :: rest)

theorem quoteRunes_readsAs (runes : List Rune) :
    ReadsAs 0 (quoteRunes runes) (.str (runeText runes)) := by
  intro members key stack c rest _ _
  have hcomplete : completeString (runes.flatMap escape).reverse
      (.parseObjectValue members key :: stack) (readsKey (.parseObjectValue members key :: stack)) =
        some ⟨.parseObjectKey ((key, .str (runeText runes)) :: members) :: stack, .endValue⟩ := by
    rw [← unquote_runes]
    rfl
  calc scanFrom ⟨.parseObjectValue members key :: stack, .beginValue⟩
        (quoteRunes runes ++ c :: rest)
      = scanFrom ⟨.parseObjectValue members key :: stack, .inString []⟩
          (runes.flatMap escape ++ '"' :: c :: rest) := by
        rw [quoteRunes, List.cons_append, List.cons_append, List.append_assoc]
        exact scan_cons rfl
    _ = _ := scan_string runes hcomplete

theorem quote_readsAs (bytes : Bytes) : ReadsAs 0 (quote bytes) (.str (runeText (runes bytes))) :=
  quoteRunes_readsAs (runes bytes)

/-! ### Numbers -/

/-- `strconv.AppendInt`, for a number that is not negative. -/
def natText (n : ℕ) : List Char :=
  Nat.toDigits 10 n

/-- `strconv.AppendInt`, in base 10. -/
def intText (n : ℤ) : List Char :=
  if n < 0 then '-' :: natText n.natAbs else natText n.natAbs

/-- The digits of a positive number do not start with zero. -/
theorem natText_cons {n : ℕ} (h : 0 < n) :
    ∃ d ds, natText n = d :: ds ∧ d ≠ '0' ∧ ∀ c ∈ d :: ds, c.isDigit = true := by
  have hdigits : ∀ c ∈ natText n, c.isDigit = true := by
    intro c hc
    exact Nat.isDigit_of_mem_toDigits (by omega) (by omega) hc
  have hhead : ∃ d ds, natText n = d :: ds ∧ d ≠ '0' := by
    induction n using Nat.strong_induction_on with
    | _ n ih =>
      by_cases hsmall : n < 10
      · refine ⟨n.digitChar, [], Nat.toDigits_of_lt_base hsmall, ?_⟩
        have hchar : ∀ m < 10, 0 < m → Nat.digitChar m ≠ '0' := by decide
        exact hchar n hsmall h
      · have hquo : n / 10 < n := by omega
        obtain ⟨d, ds, hds, hne⟩ := ih (n / 10) hquo (by omega) fun c hc ↦
          Nat.isDigit_of_mem_toDigits (by omega) (by omega) hc
        refine ⟨d, ds ++ [(n % 10).digitChar], ?_, hne⟩
        rw [natText, Nat.toDigits_of_base_le (by omega) (by omega)]
        rw [natText] at hds
        rw [hds, List.cons_append]
  obtain ⟨d, ds, heq, hne⟩ := hhead
  rw [heq] at hdigits
  exact ⟨d, ds, heq, hne, hdigits⟩

section

variable {stack : List Frame} {digits rest : List Char} {c : Char} {n : ℕ}

theorem step_int_digit (h : c.isDigit = true) :
    step ⟨stack, .int digits⟩ c = some ⟨stack, .int (c :: digits)⟩ := by
  rw [step]
  simp [h]

theorem scan_digits {more : List Char} (h : ∀ c ∈ more, c.isDigit = true) :
    scanFrom ⟨stack, .int digits⟩ (more ++ rest) =
      scanFrom ⟨stack, .int (more.reverse ++ digits)⟩ rest := by
  induction more generalizing digits with
  | nil => rfl
  | cons c more ih =>
    rw [List.cons_append, scan_cons (step_int_digit (h c (.head _))),
      ih fun c hc ↦ h c (.tail _ hc)]
    simp

/-- The first digit says that a number begins. -/
theorem step_first_digit (h : c.isDigit = true) (hzero : c ≠ '0') :
    step ⟨stack, .beginValue⟩ c = some ⟨stack, .int [c]⟩ := by
  have hne : ∀ d : Char, d.isDigit = false → c ≠ d := by
    rintro d hd rfl
    rw [hd] at h
    cases h
  have hspace : isJsonSpace c = false := by
    simp [isJsonSpace, hne ' ' rfl, hne '\t' rfl, hne '\r' rfl, hne '\n' rfl]
  have hstep : step ⟨stack, .beginValue⟩ c = stateBeginValue ⟨stack, .beginValue⟩ c := rfl
  rw [hstep, stateBeginValue]
  simp [hspace, hne '\x7b' rfl, hne '[' rfl, hne '"' rfl, hne '-' rfl, hzero, hne 't' rfl,
    hne 'f' rfl, hne 'n' rfl, h]

/-- A number ends where the field does. -/
theorem step_end_number {members : List (String × Json)} {key : String} (h : EndsField c) :
    step ⟨.parseObjectValue members key :: stack, .int digits⟩ c =
      step ⟨.parseObjectKey ((key, .num (String.ofList digits.reverse)) :: members) :: stack,
        .endValue⟩ c := by
  rcases h with rfl | rfl
  · rfl
  · rfl

theorem natText_readsAs (h : 0 < n) : ReadsAs 0 (natText n) (.num (String.ofList (natText n))) := by
  intro members key stack c rest _ hend
  obtain ⟨d, ds, heq, hne, hdigits⟩ := natText_cons h
  have hreverse : (ds.reverse ++ [d]).reverse = natText n := by simp [heq]
  calc scanFrom ⟨.parseObjectValue members key :: stack, .beginValue⟩ (natText n ++ c :: rest)
      = scanFrom ⟨.parseObjectValue members key :: stack, .int [d]⟩ (ds ++ c :: rest) := by
        rw [heq]
        exact scan_cons (step_first_digit (hdigits d (.head _)) hne)
    _ = scanFrom ⟨.parseObjectValue members key :: stack, .int (ds.reverse ++ [d])⟩ (c :: rest) :=
        scan_digits fun x hx ↦ hdigits x (.tail _ hx)
    _ = _ := by
        rw [scanFrom, step_end_number hend, hreverse]
        rfl

theorem intText_readsAs {n : ℤ} (h : 0 < n) :
    ReadsAs 0 (intText n) (.num (String.ofList (intText n))) := by
  rw [intText, if_neg (by omega)]
  exact natText_readsAs (by omega)

theorem isDigit_toNat (h : c.isDigit = true) : 48 ≤ c.toNat ∧ c.toNat ≤ 57 := by
  have htoNat : c.toNat = c.val.toNat := rfl
  simp only [Char.isDigit, Bool.and_eq_true, decide_eq_true_eq, ge_iff_le, UInt32.le_iff_toNat_le]
    at h
  rw [htoNat]
  exact h

/-- A digit is read from its byte. -/
theorem isDigitByte_toUInt8 (h : c.isDigit = true) : isDigitByte c.toNat.toUInt8 = true := by
  obtain ⟨hlow, hhigh⟩ := isDigit_toNat h
  have htoNat : c.toNat.toUInt8.toNat = c.toNat := by
    simp only [Nat.toUInt8_eq, UInt8.toNat_ofNat']
    omega
  simp only [isDigitByte, Bool.and_eq_true, decide_eq_true_eq, UInt8.le_iff_toNat_le, htoNat]
  exact ⟨hlow, hhigh⟩

theorem decimal_toUInt8 (h : ∀ c ∈ digits, c.isDigit = true) :
    decimal (digits.map fun c ↦ c.toNat.toUInt8) = Nat.ofDigitChars 10 digits 0 := by
  rw [decimal, Nat.ofDigitChars_eq_foldl, List.foldl_map]
  refine List.foldl_ext _ _ _ ?_
  intro value c hc
  obtain ⟨hlow, hhigh⟩ := isDigit_toNat (h c hc)
  have htoNat : c.toNat.toUInt8.toNat = c.toNat := by
    simp only [Nat.toUInt8_eq, UInt8.toNat_ofNat']
    omega
  rw [htoNat]
  rfl

/-- **A number is parsed from its text.** -/
theorem parseInt64_natText (hrange : n < 2 ^ 63) :
    parseInt64 (utf8Bytes (natText n)) = some (n : ℤ) := by
  have hdigits : ∀ c ∈ natText n, c.isDigit = true := by
    intro c hc
    exact Nat.isDigit_of_mem_toDigits (by omega) (by omega) hc
  have hbytes : utf8Bytes (natText n) = (natText n).map fun c ↦ c.toNat.toUInt8 := by
    refine utf8Bytes_ascii fun c hc ↦ ?_
    have hle := (isDigit_toNat (hdigits c hc)).2
    omega
  have hvalue : decimal (utf8Bytes (natText n)) = n := by
    rw [hbytes, decimal_toUInt8 hdigits, natText, Nat.ofDigitChars_ten_toDigits]
  rw [parseInt64_nonneg]
  refine ⟨?_, hrange⟩
  have hreads : Reads (utf8Bytes (natText n)) (decimal (utf8Bytes (natText n))) := by
    refine .plain _ ⟨?_, ?_⟩
    · rw [hbytes, Ne, List.map_eq_nil_iff]
      exact Nat.toDigits_ne_nil
    · rw [hbytes]
      intro byte hbyte
      obtain ⟨c, hc, rfl⟩ := List.mem_map.mp hbyte
      exact isDigitByte_toUInt8 (hdigits c hc)
  rw [hvalue] at hreads
  exact hreads

end

/-! ### Structures -/

def memberText (name : String) (text : List Char) : List Char :=
  quoteRunes (name.toList.map .char) ++ ':' :: text

/-- The texts of the members, with commas between them. -/
def memberTexts : List (String × List Char) → List Char
  | [] => []
  | [member] => memberText member.1 member.2
  | member :: next :: members =>
    memberText member.1 member.2 ++ ',' :: memberTexts (next :: members)

/-- A structure, given the names of its fields and their texts. -/
def object (members : List (String × List Char)) : List Char :=
  '\x7b' :: memberTexts members ++ ['\x7d']

/-- A field of a structure: its name, its text, and what the text is read as. -/
structure Member where
  name : String
  text : List Char
  value : Json

namespace Member

def nameRunes (member : Member) : List Rune :=
  member.name.toList.map .char

def encoded (member : Member) : String × List Char :=
  (member.name, member.text)

def decoded (member : Member) : String × Json :=
  (member.name, member.value)

theorem runeText_nameRunes (member : Member) : runeText member.nameRunes = member.name := by
  rw [runeText, nameRunes, List.map_map]
  have hid : Rune.toChar ∘ Rune.char = id := rfl
  rw [hid, List.map_id, String.ofList_toList]

end Member


section

variable {stack : List Frame} {done : List (String × Json)} {members : List Member}
  {rest : List Char} {c : Char} {depth : ℕ}

/-- A name may come here. -/
def BeginsName (phase : Phase) : Prop :=
  phase = .beginString ∨ phase = .beginStringOrEmpty

theorem scan_member {phase : Phase} {member : Member} (hphase : BeginsName phase)
    (htext : ReadsAs depth member.text member.value)
    (hdepth : stack.length + 1 + depth ≤ maxNestingDepth) (hend : EndsField c) :
    scanFrom ⟨.parseObjectKey done :: stack, phase⟩
        (memberText member.name member.text ++ c :: rest) =
      scanFrom ⟨.parseObjectKey (member.decoded :: done) :: stack, .endValue⟩ (c :: rest) := by
  have hkey : completeString (member.nameRunes.flatMap escape).reverse
      (.parseObjectKey done :: stack) (readsKey (.parseObjectKey done :: stack)) =
        some ⟨.parseObjectKey done :: stack, .endKey member.name⟩ := by
    rw [← member.runeText_nameRunes, ← unquote_runes]
    rfl
  have hquote : step ⟨.parseObjectKey done :: stack, phase⟩ '"' =
      some ⟨.parseObjectKey done :: stack, .inString []⟩ := by
    rcases hphase with rfl | rfl
    · rfl
    · rfl
  calc scanFrom ⟨.parseObjectKey done :: stack, phase⟩
        (memberText member.name member.text ++ c :: rest)
      = scanFrom ⟨.parseObjectKey done :: stack, .inString []⟩
          (member.nameRunes.flatMap escape ++ '"' :: ':' :: (member.text ++ c :: rest)) := by
        rw [memberText, quoteRunes]
        simp only [List.cons_append, List.append_assoc, List.nil_append]
        exact scan_cons hquote
    _ = scanFrom ⟨.parseObjectKey done :: stack, .endKey member.name⟩
          (':' :: (member.text ++ c :: rest)) := scan_string _ hkey
    _ = scanFrom ⟨.parseObjectValue done member.name :: stack, .beginValue⟩
          (member.text ++ c :: rest) := scan_cons rfl
    _ = _ := htext done member.name stack c rest hdepth hend

theorem scan_members {phase : Phase} (hphase : BeginsName phase) (hne : members ≠ [])
    (hmembers : ∀ member ∈ members, ReadsAs depth member.text member.value)
    (hdepth : stack.length + 1 + depth ≤ maxNestingDepth) :
    scanFrom ⟨.parseObjectKey done :: stack, phase⟩
        (memberTexts (members.map Member.encoded) ++ '\x7d' :: rest) =
      scanFrom ⟨.parseObjectKey ((members.map Member.decoded).reverse ++ done) :: stack, .endValue⟩
        ('\x7d' :: rest) := by
  induction members generalizing done phase with
  | nil => exact absurd rfl hne
  | cons member members ih =>
    have hmember := hmembers member (.head _)
    cases members with
    | nil => exact scan_member hphase hmember hdepth (.inr rfl)
    | cons next members =>
      calc scanFrom ⟨.parseObjectKey done :: stack, phase⟩
            (memberTexts ((member :: next :: members).map Member.encoded) ++ '\x7d' :: rest)
          = scanFrom ⟨.parseObjectKey (member.decoded :: done) :: stack, .endValue⟩
              (',' :: (memberTexts ((next :: members).map Member.encoded) ++ '\x7d' :: rest)) := by
            simp only [List.map_cons, memberTexts]
            rw [List.append_assoc, List.cons_append]
            exact scan_member hphase hmember hdepth (.inl rfl)
        _ = scanFrom ⟨.parseObjectKey (member.decoded :: done) :: stack, .beginString⟩
              (memberTexts ((next :: members).map Member.encoded) ++ '\x7d' :: rest) :=
            scan_cons rfl
        _ = _ := ih (.inl rfl) (List.cons_ne_nil _ _) fun m hm ↦ hmembers m (.tail _ hm)
        _ = _ := by simp

/-- The members of an object are read, and its end. -/
theorem scan_object {s : Scan} (hne : members ≠ [])
    (hmembers : ∀ member ∈ members, ReadsAs depth member.text member.value)
    (hdepth : stack.length + 1 + depth ≤ maxNestingDepth)
    (h : complete (.obj (members.map Member.decoded)) stack = some s) :
    scanFrom ⟨stack, .beginValue⟩ (object (members.map Member.encoded) ++ rest) =
      scanFrom s rest := by
  have hpush : step ⟨stack, .beginValue⟩ '\x7b' =
      some ⟨.parseObjectKey [] :: stack, .beginStringOrEmpty⟩ := by
    have hstep : step ⟨stack, .beginValue⟩ '\x7b' =
        Scan.push ⟨stack, .beginValue⟩ (.parseObjectKey []) .beginStringOrEmpty := rfl
    rw [hstep, Scan.push, if_pos (by dsimp only; omega)]
  calc scanFrom ⟨stack, .beginValue⟩ (object (members.map Member.encoded) ++ rest)
      = scanFrom ⟨.parseObjectKey [] :: stack, .beginStringOrEmpty⟩
          (memberTexts (members.map Member.encoded) ++ '\x7d' :: rest) := by
        rw [object, List.cons_append, List.cons_append, List.append_assoc]
        exact scan_cons hpush
    _ = scanFrom ⟨.parseObjectKey ((members.map Member.decoded).reverse ++ []) :: stack, .endValue⟩
          ('\x7d' :: rest) := scan_members (.inr rfl) hne hmembers hdepth
    _ = scanFrom s rest := by
        refine scan_cons ?_
        rw [List.append_nil]
        have hstep : step ⟨.parseObjectKey (members.map Member.decoded).reverse :: stack, .endValue⟩
            '\x7d' = complete (.obj (members.map Member.decoded).reverse.reverse) stack := rfl
        rw [hstep, List.reverse_reverse, h]

theorem object_readsAs (hne : members ≠ [])
    (hmembers : ∀ member ∈ members, ReadsAs depth member.text member.value) :
    ReadsAs (depth + 1) (object (members.map Member.encoded))
      (.obj (members.map Member.decoded)) := by
  intro done key stack c rest hdepth _
  refine scan_object hne hmembers ?_ rfl
  rw [List.length_cons]
  omega

theorem ReadsAs.mono {text : List Char} {value : Json} {depth' : ℕ}
    (h : ReadsAs depth text value) (hle : depth ≤ depth') : ReadsAs depth' text value := by
  intro done key stack c rest hdepth hend
  exact h done key stack c rest (by omega) hend

/-- **A structure is parsed from its text.** -/
theorem parse_object (hne : members ≠ [])
    (hmembers : ∀ member ∈ members, ReadsAs depth member.text member.value)
    (hdepth : depth + 1 ≤ maxNestingDepth) :
    parse (String.ofList (object (members.map Member.encoded))) =
      some (.obj (members.map Member.decoded)) := by
  have hlevel : ([] : List Frame).length + 1 + depth ≤ maxNestingDepth := by
    rw [List.length_nil]
    omega
  have hscan : scanFrom ⟨[], .beginValue⟩ (object (members.map Member.encoded) ++ []) =
      scanFrom ⟨[], .endTop (.obj (members.map Member.decoded))⟩ [] :=
    scan_object hne hmembers hlevel rfl
  rw [List.append_nil] at hscan
  rw [parse, String.toList_ofList]
  exact (congrArg (Option.bind · Scan.eof) hscan).trans rfl

end

end Go
