import HMaigc.Go.Marshal

/-!
# Structures as JSON

A structure is a table of fields.  `json.Marshal` writes them in this order, and a decoder that
disallows unknown fields takes the members of an object in any order.

* `StructField` — one that is a string, a number or again a structure.
* `marshal`, `decodeStruct` — the encoder and the decoder.
* `replaced` — a string as the decoder returns it: bytes that are no character are replaced.
* `marshal_readsAs`, `decodeStruct_fields` — what the text of a structure is decoded to.
-/

set_option autoImplicit false

namespace Go

variable {α β : Type}

/-- A field of a structure `α`: its text, and the structure with a value set. -/
structure StructField (α : Type) where
  name : String
  text : α → List Char
  set : Json → α → Option α

/-- `json.Marshal`. -/
def marshal (fields : List (StructField α)) (value : α) : List Char :=
  object (fields.map fun field ↦ (field.name, field.text value))

/-- The decoder takes one member; a name that belongs to no field is an error. -/
def decodeMember (fields : List (StructField α)) (current : α) (member : String × Json) :
    Option α :=
  match fields.find? fun field ↦ matchesField field.name member.1 with
  | some field => field.set member.2 current
  | none => none

/-- `decoder.Decode`, into a structure with these values. -/
def decodeStruct (fields : List (StructField α)) (current : α) : Json → Option α
  | .obj members => members.foldlM (decodeMember fields) current
  | .null => some current
  | _ => none

/-- A string field after a value. -/
def decodeString (current : Bytes) : Json → Option Bytes
  | .str s => some (utf8Bytes s.toList)
  | .null => some current
  | _ => none

/-- An `int64` field after a value. -/
def decodeInt (current : Int64) : Json → Option Int64
  | .num digits => (parseInt64 (utf8Bytes digits.toList)).map Int64.ofInt
  | .null => some current
  | _ => none

def StructField.string (name : String) (get : α → Bytes) (put : α → Bytes → α) : StructField α where
  name := name
  text value := quote (get value)
  set json current := (decodeString (get current) json).map (put current)

def StructField.int (name : String) (get : α → Int64) (put : α → Int64 → α) : StructField α where
  name := name
  text value := intText (get value).toInt
  set json current := (decodeInt (get current) json).map (put current)

def StructField.struct (name : String) (fields : List (StructField β)) (get : α → β)
    (put : α → β → α) : StructField α where
  name := name
  text value := marshal fields (get value)
  set json current := (decodeStruct fields (get current) json).map (put current)

/-! ### Strings that are decoded -/

/-- A string after it was encoded and decoded. -/
def replaced (bytes : Bytes) : Bytes :=
  utf8Bytes ((runes bytes).map Rune.toChar)

section

variable {bytes : Bytes}

theorem replaced_of_valid (h : validString bytes = true) : replaced bytes = bytes :=
  utf8Bytes_of_valid h

theorem valid_of_replaced (h : replaced bytes = bytes) : validString bytes = true := by
  rw [← h]
  exact validString_utf8Bytes _

theorem decodeString_runeText (current : Bytes) :
    decodeString current (.str (runeText (runes bytes))) = some (replaced bytes) := by
  rw [decodeString, runeText, String.toList_ofList, replaced]

theorem decodeInt_intText {current n : Int64} (hpos : 0 < n.toInt) :
    decodeInt current (.num (String.ofList (intText n.toInt))) = some n := by
  have hlt := n.toInt_lt
  have hnat : n.toInt.natAbs < 2 ^ 63 := by omega
  have hcast : ((n.toInt.natAbs : ℕ) : ℤ) = n.toInt := by omega
  rw [decodeInt, String.toList_ofList, intText, if_neg (by omega), parseInt64_natText hnat,
    Option.map_some, hcast, Int64.ofInt_toInt]

/-- A byte that is no character is written in more characters than the one it is replaced by. -/
theorem length_escape_toChar (r : Rune) :
    (escape (.char r.toChar)).length ≤ (escape r).length ∧
      (r.isChar = false → (escape (.char r.toChar)).length < (escape r).length) := by
  cases r with
  | char c => exact ⟨le_rfl, fun h ↦ by cases h⟩
  | invalid byte =>
    have hone : (escape (.char '\ufffd')).length = 1 := by decide
    have hsix : (escape (.invalid byte)).length = 6 := rfl
    rw [Rune.toChar, hone, hsix]
    exact ⟨by omega, fun _ ↦ by omega⟩

theorem length_flatMap_toChar (body : List Rune) :
    ((body.map Rune.toChar).flatMap escapeChar).length ≤ (body.flatMap escape).length ∧
      (body.all Rune.isChar = false →
        ((body.map Rune.toChar).flatMap escapeChar).length < (body.flatMap escape).length) := by
  induction body with
  | nil => exact ⟨le_rfl, fun h ↦ by cases h⟩
  | cons r body ih =>
    obtain ⟨hle, hlt⟩ := length_escape_toChar r
    obtain ⟨ihle, ihlt⟩ := ih
    simp only [List.map_cons, List.flatMap_cons, List.length_append, List.all_cons,
      Bool.and_eq_false_iff]
    rw [escape] at hle hlt
    constructor
    · omega
    · rintro (hr | hbody)
      · have := hlt hr
        omega
      · have := ihlt hbody
        omega

theorem quote_replaced : quote (replaced bytes) =
    '"' :: ((runes bytes).map Rune.toChar).flatMap escapeChar ++ ['"'] := by
  rw [quote, quoteRunes, replaced, runes_utf8Bytes, List.flatMap_map]
  rfl

/-- **A string is written as what it is decoded to is, just if it is valid.** -/
theorem valid_of_quote_replaced (h : quote (replaced bytes) = quote bytes) :
    validString bytes = true := by
  by_contra hinvalid
  have hlt := (length_flatMap_toChar (runes bytes)).2 (by simpa [validString] using hinvalid)
  rw [quote_replaced, quote, quoteRunes] at h
  have hlength := congrArg List.length h
  simp only [List.length_append, List.length_cons] at hlength
  omega

end

/-! ### Structures that are decoded -/

section

variable {fields : List (StructField α)} {value current : α} {depth : ℕ}

/-- No two fields are of one name. -/
def DistinctNames (fields : List (StructField α)) : Prop :=
  (fields.map fun field ↦ field.name.toList.map foldLetter).Nodup

theorem find_field {field : StructField α} (hdistinct : DistinctNames fields)
    (hin : field ∈ fields) :
    fields.find? (fun other ↦ matchesField other.name field.name) = some field := by
  induction fields with
  | nil => cases hin
  | cons first fields ih =>
    rw [DistinctNames, List.map_cons, List.nodup_cons] at hdistinct
    rcases List.mem_cons.mp hin with rfl | hin
    · rw [List.find?_cons_of_pos (by simp [matchesField])]
    · rw [List.find?_cons_of_neg, ih hdistinct.2 hin]
      intro hmatch
      refine hdistinct.1 (List.mem_map.mpr ⟨field, hin, ?_⟩)
      simpa [matchesField] using hmatch

/-- The members of an object, each for one of the fields. -/
def asMembers (pairs : List (StructField α × Json)) : List (String × Json) :=
  pairs.map fun pair ↦ (pair.1.name, pair.2)

/-- **The fields are set one after another.** -/
theorem decodeStruct_fields {pairs : List (StructField α × Json)}
    (hdistinct : DistinctNames fields) (hin : ∀ pair ∈ pairs, pair.1 ∈ fields) :
    decodeStruct fields current (.obj (asMembers pairs)) =
      pairs.foldlM (fun current pair ↦ pair.1.set pair.2 current) current := by
  rw [decodeStruct, asMembers]
  induction pairs generalizing current with
  | nil => rfl
  | cons pair pairs ih =>
    have hmember : decodeMember fields current (pair.1.name, pair.2) =
        pair.1.set pair.2 current := by
      rw [decodeMember, find_field hdistinct (hin pair (.head _))]
    rw [List.map_cons, List.foldlM_cons, List.foldlM_cons, hmember]
    refine congrArg _ (funext fun next ↦ ?_)
    exact ih fun p hp ↦ hin p (.tail _ hp)

/-- The fields as members of the text of a structure. -/
def memberOf (value : α) (pair : StructField α × Json) : Member :=
  ⟨pair.1.name, pair.1.text value, pair.2⟩

variable {pairs : List (StructField α × Json)}

theorem marshal_eq_object (hfields : pairs.map Prod.fst = fields) :
    marshal fields value = object ((pairs.map (memberOf value)).map Member.encoded) := by
  rw [marshal, ← hfields, List.map_map, List.map_map]
  rfl

theorem map_decoded_memberOf (value : α) :
    (pairs.map (memberOf value)).map Member.decoded = asMembers pairs := by
  rw [List.map_map]
  rfl

theorem reads_memberOf (hreads : ∀ pair ∈ pairs, ReadsAs depth (pair.1.text value) pair.2) :
    ∀ member ∈ pairs.map (memberOf value), ReadsAs depth member.text member.value := by
  intro member hmember
  obtain ⟨pair, hpair, rfl⟩ := List.mem_map.mp hmember
  exact hreads pair hpair

/-- **The text of a structure**, as the field of another. -/
theorem marshal_readsAs (hne : pairs ≠ []) (hfields : pairs.map Prod.fst = fields)
    (hreads : ∀ pair ∈ pairs, ReadsAs depth (pair.1.text value) pair.2) :
    ReadsAs (depth + 1) (marshal fields value) (.obj (asMembers pairs)) := by
  rw [marshal_eq_object hfields, ← map_decoded_memberOf value]
  exact object_readsAs (by simpa using hne) (reads_memberOf hreads)

/-- **The text of a structure**, by itself. -/
theorem parse_marshal (hne : pairs ≠ []) (hfields : pairs.map Prod.fst = fields)
    (hreads : ∀ pair ∈ pairs, ReadsAs depth (pair.1.text value) pair.2)
    (hdepth : depth + 1 ≤ maxNestingDepth) :
    parse (String.ofList (marshal fields value)) = some (.obj (asMembers pairs)) := by
  rw [marshal_eq_object hfields, ← map_decoded_memberOf value]
  exact parse_object (by simpa using hne) (reads_memberOf hreads) hdepth

end

end Go
