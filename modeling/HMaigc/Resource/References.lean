import HMaigc.Go.Json
import HMaigc.Go.Text

/-!
# Resources named in documents

Assets, canvases and session records are JSON texts, and a media resource is in use when one of
them names it.  Two spellings name the resource `r`: the storage key `resource:r`, and an address
that contains `/api/resources/r`.  This file is about reading them.

* `canvasResourceID` — the resource a text names.
* `structuredPayloadResourceIDs` — the resources a document names: the texts under a storage key,
  wherever in the document it is.
* `canvasResourceID_valid` — a resource that is named has a valid identifier, so it holds no
  character that means something to `LIKE` but `_`.
-/

set_option autoImplicit false

namespace HMaigc

open Go

/-! ## The resource a text names -/

/-- The characters of a resource identifier. -/
def isResourceIDChar (c : Char) : Bool :=
  ('a' ≤ c && c ≤ 'z') || ('A' ≤ c && c ≤ 'Z') || ('0' ≤ c && c ≤ '9') || c == '-' || c == '_'

def validCanvasResourceID (value : String) : String :=
  let value := trimSpace value
  if value = "" ∨ value.utf8ByteSize > 80 then ""
  else if value.toList.all isResourceIDChar then value
  else ""

/-- The first of the two spellings. -/
def resourceScheme : List Char := "resource:".toList

/-- The second. -/
def resourcePath : List Char := "/api/resources/".toList

def canvasResourceID (value : String) : String :=
  let value := (trimSpace value).toList
  if resourceScheme.isPrefixOf value then
    validCanvasResourceID (String.ofList (value.drop resourceScheme.length))
  else match afterFirst resourcePath value with
    | none => ""
    | some remainder => validCanvasResourceID (String.ofList (remainder.takeWhile (· != '/')))

/-- A resource identifier. -/
def IsResourceID (r : String) : Prop := r ≠ "" ∧ ∀ c ∈ r.toList, isResourceIDChar c = true

theorem validCanvasResourceID_valid {value : String} (h : validCanvasResourceID value ≠ "") :
    IsResourceID (validCanvasResourceID value) := by
  refine ⟨h, ?_⟩
  by_cases hsize : trimSpace value = "" ∨ (trimSpace value).utf8ByteSize > 80
  · rw [validCanvasResourceID, if_pos hsize] at h
    exact absurd rfl h
  · by_cases hall : (trimSpace value).toList.all isResourceIDChar = true
    · rw [validCanvasResourceID, if_neg hsize, if_pos hall]
      exact List.all_eq_true.1 hall
    · rw [validCanvasResourceID, if_neg hsize, if_neg hall] at h
      exact absurd rfl h

/-- A text names nothing, or what `validCanvasResourceID` makes of a part of it. -/
theorem canvasResourceID_cases (value : String) :
    canvasResourceID value = "" ∨
      ∃ part, canvasResourceID value = validCanvasResourceID part := by
  by_cases hscheme : resourceScheme.isPrefixOf (trimSpace value).toList = true
  · right
    refine ⟨String.ofList ((trimSpace value).toList.drop resourceScheme.length), ?_⟩
    rw [canvasResourceID, if_pos hscheme]
  · rw [canvasResourceID, if_neg hscheme]
    cases afterFirst resourcePath (trimSpace value).toList with
    | none => exact .inl rfl
    | some remainder => exact .inr ⟨_, rfl⟩

/-- **What a text names is a resource identifier.** -/
theorem canvasResourceID_valid {value : String} (h : canvasResourceID value ≠ "") :
    IsResourceID (canvasResourceID value) := by
  rcases canvasResourceID_cases value with hnone | ⟨part, hpart⟩
  · exact absurd hnone h
  · rw [hpart] at h ⊢
    exact validCanvasResourceID_valid h

/-! ## The resources a document names -/

def isStructuredResourceKey (key : String) : Bool :=
  key == "storageKey" || key == "resourceKey" || "StorageKey".toList.isSuffixOf key.toList

/-- The resource the value under a storage key names. -/
def memberResourceID (key : String) : Json → List String
  | .str value =>
    if isStructuredResourceKey key && canvasResourceID value != "" then [canvasResourceID value]
    else []
  | _ => []

mutual

/-- `collectStructuredResourceIDs`.  Of the members with one name a Go map holds the last. -/
def collectStructuredResourceIDs : Json → List String
  | .obj members => collectMembers members
  | .arr items => collectItems items
  | _ => []

def collectItems : List Json → List String
  | [] => []
  | item :: rest => collectStructuredResourceIDs item ++ collectItems rest

def collectMembers : List (String × Json) → List String
  | [] => []
  | (key, child) :: rest =>
    if rest.any (·.1 == key) then collectMembers rest
    else memberResourceID key child ++ collectStructuredResourceIDs child ++ collectMembers rest

end

/-- `structuredPayloadResourceIDs`; `none` for a text that is not JSON. -/
def structuredPayloadResourceIDs (payloadJSON : String) : Option (List String) :=
  if trimSpace payloadJSON = "" then some []
  else (parse (trimSpace payloadJSON)).map collectStructuredResourceIDs

/-! ## What is collected is a resource identifier -/

theorem memberResourceID_valid {key : String} {child : Json} {r : String}
    (h : r ∈ memberResourceID key child) : IsResourceID r := by
  cases child with
  | str value =>
    rw [memberResourceID] at h
    split at h
    · rename_i hkey
      rw [Bool.and_eq_true, bne_iff_ne] at hkey
      rw [List.mem_singleton] at h
      rw [h]
      exact canvasResourceID_valid hkey.2
    · simp at h
  | _ => simp [memberResourceID] at h

mutual

theorem collectStructuredResourceIDs_valid {r : String} : ∀ json : Json,
    r ∈ collectStructuredResourceIDs json → IsResourceID r
  | .obj members, h => collectMembers_valid members (by rwa [collectStructuredResourceIDs] at h)
  | .arr items, h => collectItems_valid items (by rwa [collectStructuredResourceIDs] at h)
  | .null, h => by simp [collectStructuredResourceIDs] at h
  | .bool _, h => by simp [collectStructuredResourceIDs] at h
  | .num _, h => by simp [collectStructuredResourceIDs] at h
  | .str _, h => by simp [collectStructuredResourceIDs] at h

theorem collectItems_valid {r : String} : ∀ items : List Json,
    r ∈ collectItems items → IsResourceID r
  | [], h => by simp [collectItems] at h
  | item :: rest, h => by
    rw [collectItems, List.mem_append] at h
    rcases h with h | h
    · exact collectStructuredResourceIDs_valid item h
    · exact collectItems_valid rest h

theorem collectMembers_valid {r : String} : ∀ members : List (String × Json),
    r ∈ collectMembers members → IsResourceID r
  | [], h => by simp [collectMembers] at h
  | (key, child) :: rest, h => by
    rw [collectMembers] at h
    split at h
    · exact collectMembers_valid rest h
    · rw [List.mem_append, List.mem_append] at h
      rcases h with (h | h) | h
      · exact memberResourceID_valid h
      · exact collectStructuredResourceIDs_valid child h
      · exact collectMembers_valid rest h

end

/-- **Every resource a document names has a valid identifier.** -/
theorem structuredPayloadResourceIDs_valid {payloadJSON : String} {ids : List String}
    (h : structuredPayloadResourceIDs payloadJSON = some ids) {r : String} (hr : r ∈ ids) :
    IsResourceID r := by
  rw [structuredPayloadResourceIDs] at h
  split at h
  · cases h
    simp at hr
  · obtain ⟨json, -, rfl⟩ := Option.map_eq_some_iff.1 h
    exact collectStructuredResourceIDs_valid json hr

end HMaigc
