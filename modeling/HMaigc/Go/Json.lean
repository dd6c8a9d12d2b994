import HMaigc.Go.Basic

/-!
# `encoding/json`, as far as a decoder into `RawMessage` reads it

The scanner below is a machine that takes one character at a time, with a stack of the objects and
arrays that are still open, as the scanner of the standard library is.  It needs no fuel: reading a
text is a fold, and so it can be evaluated.

* `Json` — a decoded text.  A number keeps its spelling, an object its members in the order of the
  text, repeated names included.
* `unquote` — the characters a string literal stands for.  A surrogate that is not half of a pair
  reads as U+FFFD.
* `Scan`, `step`, `parse` — the scanner, its step, and what a whole text reads as.
-/

set_option autoImplicit false

namespace Go

/-- A JSON text. -/
inductive Json
  | null
  | bool (b : Bool)
  | num (digits : String)
  | str (s : String)
  | arr (items : List Json)
  | obj (members : List (String × Json))

/-! ## String literals -/

/-- The value of a hexadecimal digit. -/
def hexDigit (c : Char) : Option ℕ :=
  if '0' ≤ c ∧ c ≤ '9' then some (c.toNat - '0'.toNat)
  else if 'a' ≤ c ∧ c ≤ 'f' then some (c.toNat - 'a'.toNat + 10)
  else if 'A' ≤ c ∧ c ≤ 'F' then some (c.toNat - 'A'.toNat + 10)
  else none

/-- `getu4`: the code unit four hexadecimal digits stand for. -/
def codeUnit (a b c d : Char) : ℕ :=
  [a, b, c, d].foldl (fun n x ↦ 16 * n + (hexDigit x).getD 0) 0

/-- `unicode.ReplacementChar`. -/
def replacementChar : Char := '\ufffd'

/-- The character after a backslash, when it is not a `u`. -/
def unescape : Char → Char
  | 'b' => '\x08'
  | 'f' => '\x0c'
  | 'n' => '\n'
  | 'r' => '\r'
  | 't' => '\t'
  | c => c

/-- Is this code unit the first half of a surrogate pair? -/
def isHighSurrogate (u : ℕ) : Bool := 0xd800 ≤ u && u < 0xdc00

/-- Is this code unit the second half of a surrogate pair? -/
def isLowSurrogate (u : ℕ) : Bool := 0xdc00 ≤ u && u < 0xe000

/-- `unquote`: what the text between the quotes of a scanned literal stands for.  `high` is the
first half of a pair whose second half has not been read yet. -/
def unquoteFrom : Option ℕ → List Char → List Char
  | high, '\\' :: 'u' :: a :: b :: c :: d :: rest =>
    let unit := codeUnit a b c d
    match high with
    | some h =>
      if isLowSurrogate unit then
        Char.ofNat (0x10000 + (h - 0xd800) * 0x400 + (unit - 0xdc00)) :: unquoteFrom none rest
      else if isHighSurrogate unit then replacementChar :: unquoteFrom (some unit) rest
      else replacementChar :: Char.ofNat unit :: unquoteFrom none rest
    | none =>
      if isHighSurrogate unit then unquoteFrom (some unit) rest
      else if isLowSurrogate unit then replacementChar :: unquoteFrom none rest
      else Char.ofNat unit :: unquoteFrom none rest
  | some _, '\\' :: c :: rest => replacementChar :: unescape c :: unquoteFrom none rest
  | none, '\\' :: c :: rest => unescape c :: unquoteFrom none rest
  | some _, c :: rest => replacementChar :: c :: unquoteFrom none rest
  | none, c :: rest => c :: unquoteFrom none rest
  | some _, [] => [replacementChar]
  | none, [] => []

def unquote (body : List Char) : String := String.ofList (unquoteFrom none body)

/-! ## The scanner -/

/-- An object or an array that is still open: what it holds so far, the last first. -/
inductive Frame
  | parseArrayValue (items : List Json)
  | parseObjectKey (members : List (String × Json))
  | parseObjectValue (members : List (String × Json)) (key : String)

/-- What the scanner expects next. -/
inductive Phase
  | beginValue
  | beginValueOrEmpty
  | beginString
  | beginStringOrEmpty
  | endKey (key : String)
  | endValue
  | endTop (value : Json)
  | inString (body : List Char)
  | inStringEsc (body : List Char)
  | inStringEscU (missing : ℕ) (body : List Char)
  | literal (rest : List Char) (value : Json)
  | neg (digits : List Char)
  | zero (digits : List Char)
  | int (digits : List Char)
  | dot (digits : List Char)
  | frac (digits : List Char)
  | exp (digits : List Char)
  | expSign (digits : List Char)
  | expDigits (digits : List Char)

/-- The scanner: the open objects and arrays, the innermost first, and what comes next. -/
structure Scan where
  stack : List Frame := []
  phase : Phase := .beginValue

/-- `maxNestingDepth`. -/
def maxNestingDepth : ℕ := 10000

/-- JSON's own white space, which is less than Unicode's. -/
def isJsonSpace (c : Char) : Bool := c == ' ' || c == '\t' || c == '\r' || c == '\n'

/-- `pushParseState`: an object or an array is opened. -/
def Scan.push (s : Scan) (frame : Frame) (phase : Phase) : Option Scan :=
  if s.stack.length < maxNestingDepth then some ⟨frame :: s.stack, phase⟩ else none

/-- A value has been read to its end. -/
def complete (value : Json) : List Frame → Option Scan
  | [] => some ⟨[], .endTop value⟩
  | .parseArrayValue items :: stack => some ⟨.parseArrayValue (value :: items) :: stack, .endValue⟩
  | .parseObjectValue members key :: stack =>
    some ⟨.parseObjectKey ((key, value) :: members) :: stack, .endValue⟩
  | .parseObjectKey _ :: _ => none

/-- A string literal has been read to its end: it is a name where a name is expected. -/
def completeString (body : List Char) : List Frame → Bool → Option Scan
  | stack, true => some ⟨stack, .endKey (unquote body.reverse)⟩
  | stack, false => complete (.str (unquote body.reverse)) stack

/-- Is the literal being read the name of a member? -/
def readsKey : List Frame → Bool
  | .parseObjectKey _ :: _ => true
  | _ => false

/-- `stateBeginValue`. -/
def stateBeginValue (s : Scan) (c : Char) : Option Scan :=
  if isJsonSpace c then some s
  else if c = '{' then s.push (.parseObjectKey []) .beginStringOrEmpty
  else if c = '[' then s.push (.parseArrayValue []) .beginValueOrEmpty
  else if c = '"' then some { s with phase := .inString [] }
  else if c = '-' then some { s with phase := .neg [c] }
  else if c = '0' then some { s with phase := .zero [c] }
  else if c = 't' then some { s with phase := .literal "rue".toList (.bool true) }
  else if c = 'f' then some { s with phase := .literal "alse".toList (.bool false) }
  else if c = 'n' then some { s with phase := .literal "ull".toList .null }
  else if c.isDigit then some { s with phase := .int [c] }
  else none

/-- `stateEndValue`: the character after a value. -/
def stateEndValue (s : Scan) (c : Char) : Option Scan :=
  if isJsonSpace c then some s
  else match s.stack with
    | .parseArrayValue items :: stack =>
      if c = ',' then some { s with phase := .beginValue }
      else if c = ']' then complete (.arr items.reverse) stack
      else none
    | .parseObjectKey members :: stack =>
      if c = ',' then some { s with phase := .beginString }
      else if c = '}' then complete (.obj members.reverse) stack
      else none
    | _ => none

/-- The character after a number: it ends the value, and is then read as what follows it. -/
def endNumber (s : Scan) (digits : List Char) (c : Char) : Option Scan := do
  let done ← complete (.num (String.ofList digits.reverse)) s.stack
  match done.phase with
  | .endTop _ => if isJsonSpace c then some done else none
  | _ => stateEndValue done c

/-- The scanner reads one character. -/
def step (s : Scan) (c : Char) : Option Scan :=
  match s.phase with
  | .beginValue => stateBeginValue s c
  | .beginValueOrEmpty =>
    if isJsonSpace c then some s
    else if c = ']' then stateEndValue s c
    else stateBeginValue s c
  | .beginString =>
    if isJsonSpace c then some s
    else if c = '"' then some { s with phase := .inString [] }
    else none
  | .beginStringOrEmpty =>
    if isJsonSpace c then some s
    else if c = '}' then stateEndValue s c
    else if c = '"' then some { s with phase := .inString [] }
    else none
  | .endKey key =>
    if isJsonSpace c then some s
    else match s.stack with
      | .parseObjectKey members :: stack =>
        if c = ':' then some ⟨.parseObjectValue members key :: stack, .beginValue⟩ else none
      | _ => none
  | .endValue => stateEndValue s c
  | .endTop _ => if isJsonSpace c then some s else none
  | .inString body =>
    if c = '"' then completeString body s.stack (readsKey s.stack)
    else if c = '\\' then some { s with phase := .inStringEsc (c :: body) }
    else if c.toNat < 0x20 then none
    else some { s with phase := .inString (c :: body) }
  | .inStringEsc body =>
    if c ∈ ['b', 'f', 'n', 'r', 't', '\\', '/', '"'] then
      some { s with phase := .inString (c :: body) }
    else if c = 'u' then some { s with phase := .inStringEscU 4 (c :: body) }
    else none
  | .inStringEscU missing body =>
    if (hexDigit c).isNone then none
    else if missing ≤ 1 then some { s with phase := .inString (c :: body) }
    else some { s with phase := .inStringEscU (missing - 1) (c :: body) }
  | .literal rest value =>
    match rest with
    | [] => none
    | [last] => if c = last then complete value s.stack else none
    | expected :: rest => if c = expected then some { s with phase := .literal rest value } else none
  | .neg digits =>
    if c = '0' then some { s with phase := .zero (c :: digits) }
    else if c.isDigit then some { s with phase := .int (c :: digits) }
    else none
  | .int digits =>
    if c.isDigit then some { s with phase := .int (c :: digits) }
    else if c = '.' then some { s with phase := .dot (c :: digits) }
    else if c = 'e' ∨ c = 'E' then some { s with phase := .exp (c :: digits) }
    else endNumber s digits c
  | .zero digits =>
    if c = '.' then some { s with phase := .dot (c :: digits) }
    else if c = 'e' ∨ c = 'E' then some { s with phase := .exp (c :: digits) }
    else endNumber s digits c
  | .dot digits => if c.isDigit then some { s with phase := .frac (c :: digits) } else none
  | .frac digits =>
    if c.isDigit then some { s with phase := .frac (c :: digits) }
    else if c = 'e' ∨ c = 'E' then some { s with phase := .exp (c :: digits) }
    else endNumber s digits c
  | .exp digits =>
    if c = '+' ∨ c = '-' then some { s with phase := .expSign (c :: digits) }
    else if c.isDigit then some { s with phase := .expDigits (c :: digits) }
    else none
  | .expSign digits =>
    if c.isDigit then some { s with phase := .expDigits (c :: digits) } else none
  | .expDigits digits =>
    if c.isDigit then some { s with phase := .expDigits (c :: digits) } else endNumber s digits c

/-- The scanner reads a text. -/
def scanFrom : Scan → List Char → Option Scan
  | s, [] => some s
  | s, c :: rest => (step s c).bind (scanFrom · rest)

/-- `eof`: what the scanner has read when the text ends. -/
def Scan.eof (s : Scan) : Option Json :=
  match s.stack, s.phase with
  | [], .endTop value => some value
  | [], .zero digits => some (.num (String.ofList digits.reverse))
  | [], .int digits => some (.num (String.ofList digits.reverse))
  | [], .frac digits => some (.num (String.ofList digits.reverse))
  | [], .expDigits digits => some (.num (String.ofList digits.reverse))
  | _, _ => none

/-- What a text reads as; `none` where `Unmarshal` fails. -/
def parse (text : String) : Option Json := (scanFrom {} text.toList).bind Scan.eof

end Go
