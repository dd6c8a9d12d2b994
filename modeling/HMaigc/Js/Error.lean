import HMaigc.Js.Value
import Mathlib.Data.Int.Notation
import Mathlib.Data.List.DropRight

/-!
# What is thrown

* `Thrown` — a thrown value, as far as a handler looks at it.
* `trim` — `String.prototype.trim`, by the white space of the language.
-/

set_option autoImplicit false

namespace Js

/-- A thrown value: an `Error`, which may have a `status`, or anything else. -/
inductive Thrown
  | error (message : String) (status : Option ℤ)
  | other
deriving DecidableEq

/-- White space and line ends. -/
def isSpace (c : Char) : Bool :=
  c ∈ ['\t', '\n', '\x0b', '\x0c', '\r', ' ', '\u00a0', '\u1680', '\u2028', '\u2029', '\u202f',
    '\u205f', '\u3000', '\ufeff'] ||
  (0x2000 ≤ c.toNat && c.toNat ≤ 0x200a)

def trim (text : String) : String :=
  String.ofList ((text.toList.dropWhile isSpace).rdropWhile isSpace)

end Js
