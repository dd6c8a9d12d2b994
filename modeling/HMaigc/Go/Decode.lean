import HMaigc.Go.Json

/-!
# `json.Unmarshal` into a structure of strings

* `RawMessage` — the text of a value that has not been decoded.
* `unmarshalString` — the value a `string` field of a structure has after decoding.  A member sets
  the field when its name is the field's, in capital or small letters; of several such members the
  last counts, `null` sets nothing, and any other value is an error.
-/

set_option autoImplicit false

namespace Go

/-- `json.RawMessage`. -/
abbrev RawMessage : Type := String

/-- A letter without its case, as far as names in ASCII are concerned. -/
def foldLetter (c : Char) : Char :=
  if 'A' ≤ c ∧ c ≤ 'Z' then Char.ofNat (c.toNat + 32) else c

/-- Does the decoder take this member for this field? -/
def matchesField (field name : String) : Bool :=
  name.toList.map foldLetter = field.toList.map foldLetter

/-- A `string` field after one more member. -/
def setString (field : String) (current : Option String) : String × Json → Option String
  | (name, value) =>
    if matchesField field name then
      match value with
      | .str s => current.map fun _ ↦ s
      | .null => current
      | _ => none
    else current

/-- The field of the structure `value` is decoded into, or `none` when the decoder returns an
error. -/
def stringField (field : String) : Json → Option String
  | .obj members => members.foldl (setString field) (some "")
  | .null => some ""
  | _ => none

/-- The field after `json.Unmarshal(raw, &structure)`. -/
def unmarshalString (field : String) (raw : RawMessage) : Option String :=
  (parse raw).bind (stringField field)

end Go
