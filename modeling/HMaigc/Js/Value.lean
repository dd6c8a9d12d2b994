import Mathlib.Data.List.Basic

/-!
# Values of the browser's language, as far as they are data

* `Value` — a value without functions in it.  An object has its own properties in the order in which
  they are enumerated; a finite number is given by its decimal text, which determines it, except
  that both zeros have one.
* `stringify` — `JSON.stringify`.  It writes properties in their order, leaves out the undefined
  ones, and writes every number that is not finite as `null`.
* `Same` — two values nobody can tell apart by reading properties: the order of an object's
  properties does not count.
-/

set_option autoImplicit false

namespace Js

inductive Number where
  | finite (decimal : String)
  | nan
  | infinity (negative : Bool)
  deriving DecidableEq

inductive Value where
  | undefined
  | null
  | boolean (b : Bool)
  | number (n : Number)
  | string (s : String)
  | array (items : List Value)
  | object (properties : List (String × Value))

/-! ## `JSON.stringify` -/

/-- A digit of a `\u` escape. -/
def hexDigit (n : ℕ) : Char :=
  if n < 10 then Char.ofNat ('0'.toNat + n) else Char.ofNat ('a'.toNat + (n - 10))

/-- `QuoteJSONString`, for one character. -/
def quoteChar (c : Char) : List Char :=
  if c = '\x08' then ['\\', 'b']
  else if c = '\t' then ['\\', 't']
  else if c = '\n' then ['\\', 'n']
  else if c = '\x0c' then ['\\', 'f']
  else if c = '\r' then ['\\', 'r']
  else if c = '"' then ['\\', '"']
  else if c = '\\' then ['\\', '\\']
  else if c.toNat < 0x20 then
    ['\\', 'u', '0', '0', hexDigit (c.toNat / 16), hexDigit (c.toNat % 16)]
  else [c]

/-- `QuoteJSONString`. -/
def quote (s : String) : List Char :=
  '"' :: s.toList.flatMap quoteChar ++ ['"']

mutual

/-- `JSON.stringify`, without indentation; `none` is the `undefined` it returns for `undefined`. -/
def stringify : Value → Option (List Char)
  | .undefined => none
  | .null => some "null".toList
  | .boolean true => some "true".toList
  | .boolean false => some "false".toList
  | .number (.finite decimal) => some decimal.toList
  | .number _ => some "null".toList
  | .string s => some (quote s)
  | .array items => some ('[' :: [','].intercalate (stringifyItems items) ++ [']'])
  | .object properties =>
    some ('\x7b' :: [','].intercalate (stringifyProperties properties) ++ ['\x7d'])

/-- What stands between the brackets of an array. -/
def stringifyItems : List Value → List (List Char)
  | [] => []
  | item :: items => (stringify item).getD "null".toList :: stringifyItems items

/-- What stands between the braces of an object. -/
def stringifyProperties : List (String × Value) → List (List Char)
  | [] => []
  | (key, value) :: properties =>
    (stringify value).toList.map (fun text ↦ quote key ++ ':' :: text) ++
      stringifyProperties properties

end

/-! ## Equal values -/

/-- The two values have the same structure and the same leaves. -/
inductive Same : Value → Value → Prop
  | refl (v : Value) : Same v v
  | array {items items' : List Value} (h : List.Forall₂ Same items items') :
    Same (.array items) (.array items')
  | object {properties properties' : List (String × Value)}
    (h : ∀ key, Option.Rel Same (properties.lookup key) (properties'.lookup key)) :
    Same (.object properties) (.object properties')

end Js
