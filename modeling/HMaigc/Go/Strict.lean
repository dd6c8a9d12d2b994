import HMaigc.Go.Decode

/-!
# `decoder.DisallowUnknownFields`

A decoder into a structure all of whose members have to be fields of it.

* `FieldDecoder` — a field, and how a value of it is stored.
* `decodeFields` — the decoder.
* `Slice` — a slice of texts.  An array is written over the one the field had before, and where it
  holds `null` the old text stays, even behind the end of the slice.
-/

set_option autoImplicit false

namespace Go

/-- A field, and the structure with a value stored in it. -/
structure FieldDecoder (α : Type) where
  name : String
  set : Json → α → Option α

section Fields

variable {α : Type}

/-- The decoder, into a structure that has these values. -/
def decodeFields (fields : List (FieldDecoder α)) (current : α) : Json → Option α
  | .obj members => members.foldlM (fun current member ↦ do
      let field ← fields.find? fun field ↦ matchesField field.name member.1
      field.set member.2 current) current
  | .null => some current
  | _ => none

/-- A string. -/
def textField (name : String) (get : α → String) (put : α → String → α) : FieldDecoder α where
  name := name
  set
    | .str s, current => some (put current s)
    | .null, current => some (put current (get current))
    | _, _ => none

end Fields

/-! ## Slices -/

/-- A slice of texts, and the texts that are left behind its end. -/
structure Slice where
  values : List String
  spare : List String
  deriving DecidableEq

/-- The items of an array are written over texts: the values, and what is left. -/
def overwrite : List String → List Json → Option Slice
  | behind, [] => some ⟨[], behind⟩
  | behind, item :: items => do
    let value ← match item with
      | .str s => some s
      | .null => some (behind.headD "")
      | _ => none
    let slice ← overwrite behind.tail items
    some { slice with values := value :: slice.values }

/-- A slice field; `none` is `nil`. -/
def decodeSlice (current : Option Slice) : Json → Option (Option Slice)
  | .arr [] => some (some ⟨[], []⟩)
  | .arr items =>
    let behind := (current.map fun slice ↦ slice.values ++ slice.spare).getD []
    (overwrite behind items).map some
  | .null => some none
  | _ => none

/-- A slice of strings. -/
def sliceField {α : Type} (name : String) (get : α → Option Slice)
    (put : α → Option Slice → α) : FieldDecoder α where
  name := name
  set value current := (decodeSlice (get current) value).map (put current)

end Go
