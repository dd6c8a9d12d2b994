import HMaigc.Js.Value
import Mathlib.Algebra.GroupWithZero.Nat

/-!
# The final decision of a turn

`canvas-agent/src/contracts.ts`: the last message of a turn is a JSON text, read by a strict schema.

* `FinalCodexDecision` — a message, and what is to be delivered.
* `parseFinalCodexDecision` — the reader.  `JSON.parse` and the text of a schema error are given.
-/

set_option autoImplicit false

namespace HMaigc

open Js

namespace LocalAgent

/-! ### The decision -/

inductive Artifact
  | image
  | video
  | audio
  | text
  | canvasRevision
deriving DecidableEq

inductive DeliveryKind
  | answer
  | canvasChange
  | generatedAsset
  | mixed
deriving DecidableEq

inductive CriterionFact
  | finalMessage
  | canvasRevision
  | artifact
  | artifactRevision
  | resource
  | taskBackedResource
  | publication
deriving DecidableEq

structure CompletionCriterion where
  fact : CriterionFact
  artifact : Option Artifact
deriving DecidableEq

structure LocalAgentExpectedDelivery where
  kind : DeliveryKind
  requiredArtifacts : Option (List Artifact)
  targetCanvasId : Option String
  completionCriteria : List CompletionCriterion
deriving DecidableEq

structure FinalCodexDecision where
  message : String
  expectedDelivery : LocalAgentExpectedDelivery
deriving DecidableEq

/-! ### The reader -/

/-- `length`: the number of 16-bit units. -/
def utf16Length (text : String) : ℕ :=
  (text.toList.map fun c ↦ if c.toNat < 0x10000 then 1 else 2).sum

def property (properties : List (String × Value)) (key : String) : Value :=
  ((properties.find? (·.1 == key)).map Prod.snd).getD .undefined

/-- The properties of an object that has no others. -/
def strictObject (keys : List String) : Value → Option (List (String × Value))
  | .object properties => if properties.all (keys.contains ·.1) then some properties else none
  | _ => none

def boundedString (least most : ℕ) : Value → Option String
  | .string text =>
    if least ≤ utf16Length text ∧ utf16Length text ≤ most then some text else none
  | _ => none

def boundedArray {α : Type} (least most : ℕ) (item : Value → Option α) : Value → Option (List α)
  | .array items =>
    if least ≤ items.length ∧ items.length ≤ most then items.mapM item else none
  | _ => none

def nullable {α : Type} (item : Value → Option α) : Value → Option (Option α)
  | .null => some none
  | value => (item value).map some

/-- `artifactSchema`. -/
def artifactSchema : Value → Option Artifact
  | .string "image" => some .image
  | .string "video" => some .video
  | .string "audio" => some .audio
  | .string "text" => some .text
  | .string "canvas_revision" => some .canvasRevision
  | _ => none

def deliveryKindSchema : Value → Option DeliveryKind
  | .string "answer" => some .answer
  | .string "canvas_change" => some .canvasChange
  | .string "generated_asset" => some .generatedAsset
  | .string "mixed" => some .mixed
  | _ => none

/-- The facts that name no artifact. -/
def plainFactSchema : Value → Option CriterionFact
  | .string "final_message" => some .finalMessage
  | .string "canvas_revision" => some .canvasRevision
  | _ => none

/-- The facts that name one. -/
def artifactFactSchema : Value → Option CriterionFact
  | .string "artifact" => some .artifact
  | .string "artifact_revision" => some .artifactRevision
  | .string "resource" => some .resource
  | .string "task_backed_resource" => some .taskBackedResource
  | .string "publication" => some .publication
  | _ => none

def finalCompletionCriterionSchema (value : Value) : Option CompletionCriterion := do
  let properties ← strictObject ["fact", "artifact"] value
  match plainFactSchema (property properties "fact"), property properties "artifact" with
  | some fact, .null => some ⟨fact, none⟩
  | _, artifact =>
    let fact ← artifactFactSchema (property properties "fact")
    let artifact ← artifactSchema artifact
    some ⟨fact, some artifact⟩

def expectedDeliverySchema (value : Value) : Option LocalAgentExpectedDelivery := do
  let properties ← strictObject
    ["kind", "requiredArtifacts", "targetCanvasId", "completionCriteria"] value
  let kind ← deliveryKindSchema (property properties "kind")
  let requiredArtifacts ← nullable (boundedArray 0 5 artifactSchema)
    (property properties "requiredArtifacts")
  let targetCanvasId ← nullable (boundedString 1 120) (property properties "targetCanvasId")
  let completionCriteria ← boundedArray 1 20 finalCompletionCriterionSchema
    (property properties "completionCriteria")
  some ⟨kind, requiredArtifacts, targetCanvasId, completionCriteria⟩

def finalCodexDecisionSchema (value : Value) : Option FinalCodexDecision := do
  let properties ← strictObject ["message", "expectedDelivery"] value
  let message ← boundedString 1 (64 * 1024) (property properties "message")
  let expectedDelivery ← expectedDeliverySchema (property properties "expectedDelivery")
  some ⟨message, expectedDelivery⟩

/-- The language's reader of JSON texts, and the message of the error a schema throws. -/
structure Parsing where
  json : String → Option Value
  schemaMessage : Value → String

def parseFinalCodexDecision (parsing : Parsing) (text : String) :
    Except String FinalCodexDecision :=
  match parsing.json text with
  | none => .error "Codex 最终回答不是有效 JSON"
  | some value =>
    match finalCodexDecisionSchema value with
    | none => .error (parsing.schemaMessage value)
    | some decision => .ok decision

theorem length_mapM {α β : Type} {f : α → Option β} {l : List α} {l' : List β}
    (h : l.mapM f = some l') : l'.length = l.length := by
  induction l generalizing l' with
  | nil =>
    cases h
    rfl
  | cons a l ih =>
    rw [List.mapM_cons] at h
    simp only [Option.bind_eq_bind, Option.bind_eq_some_iff, Option.pure_def,
      Option.some.injEq] at h
    obtain ⟨b, -, rest, hrest, rfl⟩ := h
    rw [List.length_cons, List.length_cons, ih hrest]

theorem length_boundedArray {α : Type} {least most : ℕ} {item : Value → Option α} {value : Value}
    {items : List α} (h : boundedArray least most item value = some items) :
    least ≤ items.length := by
  cases value with
  | array values =>
    rw [boundedArray] at h
    split_ifs at h with hbounds
    rw [length_mapM h]
    exact hbounds.1
  | _ => exact absurd h (by simp [boundedArray])

/-- A decision has a criterion. -/
theorem completionCriteria_ne_nil {parsing : Parsing} {text : String}
    {decision : FinalCodexDecision} (h : parseFinalCodexDecision parsing text = .ok decision) :
    decision.expectedDelivery.completionCriteria ≠ [] := by
  rw [parseFinalCodexDecision] at h
  cases hjson : parsing.json text with
  | none => simp [hjson] at h
  | some value =>
    cases hschema : finalCodexDecisionSchema value with
    | none => simp [hjson, hschema] at h
    | some result =>
      simp only [hjson, hschema, Except.ok.injEq] at h
      subst h
      simp only [finalCodexDecisionSchema, expectedDeliverySchema, Option.bind_eq_bind,
        Option.bind_eq_some_iff] at hschema
      obtain ⟨_, -, _, -, _, ⟨_, -, _, -, _, -, _, -, criteria, hcriteria, hdelivery⟩, hresult⟩ :=
        hschema
      cases hdelivery
      cases hresult
      exact List.ne_nil_of_length_pos (length_boundedArray hcriteria)

end LocalAgent

end HMaigc
