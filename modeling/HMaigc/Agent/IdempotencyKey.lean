import HMaigc.Agent.Decision
import HMaigc.Agent.Runtime
import HMaigc.Go.Hex
import HMaigc.Go.Join
import HMaigc.Go.Strict
import HMaigc.Model.AgentTree
import Mathlib.Data.Option.Basic

/-!
# The idempotency keys of capabilities

`agentruntime/capability_replay.go` and `capability_contracts.go`: a tool call that costs something
gets a key from the thread, the tool and what the call asks for, so that a call that is repeated can
be recognised.

* `decodeMediaGenerateArguments`, `decodeVisionAnalyzeArguments` — what the two tools accept.
* `capabilityIdempotencyKey` — the key, by SHA-256 of the facts that are joined by NUL.
* `SameFacts` — the facts that count; of a vision call the run is one of them.
* `capabilityIdempotencyKey_eq_iff` — **two keys are equal exactly if these facts are**, where NUL
  stands neither in the scopes, nor in both the prompts and the model keys.
* `key_ne_of_run` — another run of the thread is another vision call.
* `not_injective_nul` — with NUL, the end of a model key may be taken for a resource.
-/

set_option autoImplicit false

namespace HMaigc.AgentRuntime

open Go

/-! ## Scopes -/

/-- `Scope`: what `AgentScope` says, and the access it grants. -/
structure GrantedScope extends AgentScope where
  accessLevel : String
  deriving DecidableEq

/-- `Scope.Validate` -/
def GrantedScope.validate (scope : GrantedScope) : Except String Unit :=
  if scope.tenantKind ≠ "personal" ∧ scope.tenantKind ≠ "team" then
    .error "agent scope tenant kind is invalid"
  else if isBlank scope.tenantID then .error "agent scope tenant id is required"
  else if isBlank scope.actorUserID then .error "agent scope actor user id is required"
  else if scope.tenantKind = "personal" ∧ scope.tenantID ≠ scope.actorUserID then
    .error "personal agent scope tenant must equal actor"
  else if isBlank scope.canvasID then .error "agent scope canvas id is required"
  else if isBlank scope.threadID then .error "agent scope thread id is required"
  else if isBlank scope.runID then .error "agent scope run id is required"
  else if scope.accessLevel ≠ "viewer" ∧ scope.accessLevel ≠ "editor" ∧
      scope.accessLevel ≠ "manager" then
    .error "agent scope access level is invalid"
  else .ok ()

/-! ## Arguments -/

def capabilityParametersLimit : ℕ := 32 * 1024

def capabilityIdentifierLimit : ℕ := 120

def capabilityResourceLimit : ℕ := 100

def visionResourceLimit : ℕ := 12

def visionPromptLimit : ℕ := 64 * 1024

/-- What the keys take from elsewhere. -/
structure KeyContext where
  /-- `url.Parse` finds an absolute URL. -/
  isAbsoluteURL : String → Bool
  /-- The length in bytes of the text of `parameters` in a payload. -/
  parametersLength : String → ℕ
  /-- SHA-256 of a text in UTF-8. -/
  sha256 : String → Bytes

/-- `unicode.IsControl` -/
def isControl (c : Char) : Bool := c.toNat < 0x20 || (0x7f ≤ c.toNat && c.toNat < 0xa0)

def normalizeIdentifier (value : String) (limit : ℕ) : Option String := do
  let normalized ← normalizeText value limit
  guard (normalized.toList.all fun c ↦ !isControl c && !isSpace c)
  return normalized

structure MediaGenerateArguments where
  mediaKind : String
  modelRecordID : String
  modelKey : String
  parameters : Json
  sourceResourceIDs : List String
  targetCanvasNodeID : String
  clientRequestID : String

structure VisionAnalyzeArguments where
  modelRecordID : String
  modelKey : String
  sourceResourceIDs : List String
  prompt : String
  detail : String
  clientRequestID : String
  deriving DecidableEq

/-- `CapabilityArguments` of the tools that get a key. -/
inductive CapabilityArguments
  | mediaGenerate (arguments : MediaGenerateArguments)
  | visionAnalyze (arguments : VisionAnalyzeArguments)

/-- `decodeStrictCapabilityJSON` -/
def decodeStrictCapabilityJSON {α : Type} (fields : List (FieldDecoder α)) (zero : α)
    (payload : String) : Option α := do
  let trimmed := trimSpace payload
  guard (trimmed ≠ "" ∧ trimmed.utf8ByteSize ≤ capabilityPayloadLimit ∧
    trimmed.toList.head? = some '\x7b')
  (parse trimmed).bind (decodeFields fields zero)

structure MediaWire where
  mediaKind : String := ""
  modelRecordID : String := ""
  modelKey : String := ""
  parameters : Option Json := none
  sourceResourceIDs : Option Slice := none
  targetCanvasNodeID : String := ""
  clientRequestID : String := ""

def mediaFields : List (FieldDecoder MediaWire) :=
  [textField "mediaKind" (·.mediaKind) fun wire s ↦ { wire with mediaKind := s },
    textField "modelRecordId" (·.modelRecordID) fun wire s ↦ { wire with modelRecordID := s },
    textField "modelKey" (·.modelKey) fun wire s ↦ { wire with modelKey := s },
    ⟨"parameters", fun value wire ↦ some { wire with parameters := some value }⟩,
    sliceField "sourceResourceIds" (·.sourceResourceIDs) fun wire slice ↦
      { wire with sourceResourceIDs := slice },
    textField "targetCanvasNodeId" (·.targetCanvasNodeID) fun wire s ↦
      { wire with targetCanvasNodeID := s },
    textField "clientRequestId" (·.clientRequestID) fun wire s ↦ { wire with clientRequestID := s }]

structure VisionWire where
  modelRecordID : String := ""
  modelKey : String := ""
  sourceResourceIDs : Option Slice := none
  prompt : String := ""
  detail : String := ""
  clientRequestID : String := ""

def visionFields : List (FieldDecoder VisionWire) :=
  [textField "modelRecordId" (·.modelRecordID) fun wire s ↦ { wire with modelRecordID := s },
    textField "modelKey" (·.modelKey) fun wire s ↦ { wire with modelKey := s },
    sliceField "sourceResourceIds" (·.sourceResourceIDs) fun wire slice ↦
      { wire with sourceResourceIDs := slice },
    textField "prompt" (·.prompt) fun wire s ↦ { wire with prompt := s },
    textField "detail" (·.detail) fun wire s ↦ { wire with detail := s },
    textField "clientRequestId" (·.clientRequestID) fun wire s ↦ { wire with clientRequestID := s }]

section Decoders

variable (ctx : KeyContext)

def normalizeResourceIdentifier (value : String) : Option String := do
  let normalized ← normalizeIdentifier value capabilityIdentifierLimit
  guard (ctx.isAbsoluteURL normalized = false)
  return normalized

/-- All identifiers, unless one occurs twice. -/
def normalizeResourceIdentifiers (values : List String) (limit : ℕ) (allowEmpty : Bool) :
    Option (List String) := do
  guard (values.length ≤ limit ∧ (allowEmpty = true ∨ values ≠ []))
  let result ← values.mapM (normalizeResourceIdentifier ctx)
  guard result.Nodup
  return result

/-- `normalizeJSONObject` of the parameters, which are not optional. -/
def normalizeParameters (payload : String) : Option Json → Option Json
  | some (.obj members) => do
    guard (ctx.parametersLength payload ≤ capabilityParametersLimit)
    return .obj members
  | _ => none

def decodeMediaGenerateArguments (payload : String) : Option MediaGenerateArguments := do
  let wire ← decodeStrictCapabilityJSON mediaFields {} payload
  guard (wire.mediaKind = "image" ∨ wire.mediaKind = "video" ∨ wire.mediaKind = "audio")
  let slice ← wire.sourceResourceIDs
  let modelRecordID ← normalizeIdentifier wire.modelRecordID capabilityIdentifierLimit
  let modelKey ← normalizeText wire.modelKey capabilityIdentifierLimit
  let parameters ← normalizeParameters ctx payload wire.parameters
  let resourceIDs ← normalizeResourceIdentifiers ctx slice.values capabilityResourceLimit true
  let targetNodeID ← normalizeIdentifier wire.targetCanvasNodeID capabilityIdentifierLimit
  let requestID ← normalizeIdentifier wire.clientRequestID capabilityIdentifierLimit
  return ⟨wire.mediaKind, modelRecordID, modelKey, parameters, resourceIDs, targetNodeID, requestID⟩

def decodeVisionAnalyzeArguments (payload : String) : Option VisionAnalyzeArguments := do
  let wire ← decodeStrictCapabilityJSON visionFields {} payload
  guard (wire.detail = "low" ∨ wire.detail = "original")
  let slice ← wire.sourceResourceIDs
  let modelRecordID ← normalizeIdentifier wire.modelRecordID capabilityIdentifierLimit
  let modelKey ← normalizeText wire.modelKey capabilityIdentifierLimit
  let resourceIDs ← normalizeResourceIdentifiers ctx slice.values visionResourceLimit false
  let prompt ← normalizeText wire.prompt visionPromptLimit
  let requestID ← normalizeIdentifier wire.clientRequestID capabilityIdentifierLimit
  return ⟨modelRecordID, modelKey, resourceIDs, prompt, wire.detail, requestID⟩

/-- `DecodeCapabilityArguments`, of the tools that get a key. -/
def decodeCapabilityArguments (name : ToolName) (payload : String) : Option CapabilityArguments :=
  match name with
  | .mediaGenerate => (decodeMediaGenerateArguments ctx payload).map .mediaGenerate
  | .visionAnalyze => (decodeVisionAnalyzeArguments ctx payload).map .visionAnalyze
  | _ => none

/-! ## Keys -/

/-- The facts of a call, joined by NUL. -/
def idempotencyFacts (scope : AgentScope) (call : ToolCallDecision) :
    CapabilityArguments → String
  | .mediaGenerate arguments => join '\x00'
      [scope.tenantKind, scope.tenantID, scope.actorUserID, scope.domainProjectID, scope.canvasID,
        scope.threadID, call.toolName.name, toString call.actionVersion,
        arguments.targetCanvasNodeID, arguments.clientRequestID]
  | .visionAnalyze arguments => join '\x00'
      [scope.tenantKind, scope.tenantID, scope.actorUserID, scope.domainProjectID, scope.canvasID,
        scope.threadID, scope.runID, call.toolName.name, toString call.actionVersion,
        arguments.modelRecordID, arguments.modelKey, join '\x1f' arguments.sourceResourceIDs,
        arguments.prompt, arguments.detail, arguments.clientRequestID]

/-- The bytes of the hash that the key shows. -/
def factsDigest (facts : String) : Bytes := (ctx.sha256 facts).take 16

/-- `CapabilityIdempotencyKey` -/
def capabilityIdempotencyKey (scope : GrantedScope) (call : ToolCallDecision) :
    Except String String := do
  scope.validate
  if call.toolName ≠ .mediaGenerate ∧ call.toolName ≠ .visionAnalyze then return ""
  match decodeCapabilityArguments ctx call.toolName call.arguments with
  | none => throw "agent capability arguments are invalid"
  | some decoded =>
    if call.actionVersion ≠ 1 then throw "commercial capability idempotency facts are invalid"
    let facts := idempotencyFacts scope.toAgentScope call decoded
    return "cap-" ++ hexText (factsDigest ctx facts)

end Decoders

/-! ## What is accepted -/

/-- No character is a control character. -/
def Plain (s : String) : Prop := ∀ c ∈ s.toList, isControl c = false

theorem Plain.lacks {s : String} {sep : Char} (h : Plain s) (hsep : isControl sep = true) :
    Lacks sep s := by
  intro hmem
  rw [h sep hmem] at hsep
  cases hsep

theorem plain_of_all {s : String} (h : (s.toList.all fun c ↦ !isControl c) = true) : Plain s :=
  fun c hc ↦ Bool.not_eq_true' _ |>.mp (List.all_eq_true.mp h c hc)

theorem plain_of_normalizeIdentifier {value result : String} {limit : ℕ}
    (h : normalizeIdentifier value limit = some result) : Plain result := by
  obtain ⟨normalized, -, hrest⟩ := Option.bind_eq_some_iff.mp h
  obtain ⟨_, hall, hresult⟩ := Option.bind_eq_some_iff.mp hrest
  cases hresult
  intro c hc
  have hplain := List.all_eq_true.mp ((Option.guard_eq_some' _).mp hall) c hc
  rw [Bool.and_eq_true, Bool.not_eq_true'] at hplain
  exact hplain.1

/-- Every result is that of a value. -/
theorem exists_of_mapM {α β : Type} {f : α → Option β} {values : List α} {results : List β}
    (h : values.mapM f = some results) :
    (∀ b ∈ results, ∃ a ∈ values, f a = some b) ∧ (values ≠ [] → results ≠ []) := by
  induction values generalizing results with
  | nil =>
    cases h
    exact ⟨nofun, fun hne ↦ absurd rfl hne⟩
  | cons a values ih =>
    rw [List.mapM_cons] at h
    obtain ⟨b, hb, h⟩ := Option.bind_eq_some_iff.mp h
    obtain ⟨rest, hrest, h⟩ := Option.bind_eq_some_iff.mp h
    cases h
    refine ⟨fun b' hb' ↦ ?_, fun _ ↦ List.cons_ne_nil _ _⟩
    rcases List.mem_cons.mp hb' with rfl | hb'
    · exact ⟨a, List.mem_cons_self, hb⟩
    · obtain ⟨a', ha', hfa'⟩ := (ih hrest).1 b' hb'
      exact ⟨a', List.mem_cons_of_mem _ ha', hfa'⟩

/-- What is known of the arguments of a call that is accepted. -/
def ArgumentsPlain : CapabilityArguments → Prop
  | .mediaGenerate arguments => Plain arguments.targetCanvasNodeID ∧ Plain arguments.clientRequestID
  | .visionAnalyze arguments => Plain arguments.modelRecordID ∧
      (∀ s ∈ arguments.sourceResourceIDs, Plain s) ∧ arguments.sourceResourceIDs ≠ [] ∧
      Plain arguments.detail ∧ Plain arguments.clientRequestID

section Accepted

variable {ctx : KeyContext} {payload : String} {decoded : CapabilityArguments}
  {scope : GrantedScope} {call : ToolCallDecision} {key : String}

theorem plain_of_normalizeResourceIdentifiers {values result : List String} {limit : ℕ}
    {allowEmpty : Bool}
    (h : normalizeResourceIdentifiers ctx values limit allowEmpty = some result) :
    (∀ s ∈ result, Plain s) ∧ (allowEmpty = false → result ≠ []) := by
  obtain ⟨_, hguard, hrest⟩ := Option.bind_eq_some_iff.mp h
  obtain ⟨found, hfound, hrest⟩ := Option.bind_eq_some_iff.mp hrest
  obtain ⟨-, -, hresult⟩ := Option.bind_eq_some_iff.mp hrest
  cases hresult
  obtain ⟨hall, hne⟩ := exists_of_mapM hfound
  refine ⟨fun s hs ↦ ?_, fun hnot ↦ ?_⟩
  · obtain ⟨value, -, hvalue⟩ := hall s hs
    obtain ⟨normalized, hnormalized, hrest⟩ := Option.bind_eq_some_iff.mp hvalue
    obtain ⟨-, -, hresult⟩ := Option.bind_eq_some_iff.mp hrest
    cases hresult
    exact plain_of_normalizeIdentifier hnormalized
  · rcases ((Option.guard_eq_some' _).mp hguard).2 with hallow | hvalues
    · rw [hallow] at hnot
      cases hnot
    · exact hne hvalues

theorem plain_of_decodeMedia {arguments : MediaGenerateArguments}
    (h : decodeMediaGenerateArguments ctx payload = some arguments) :
    ArgumentsPlain (.mediaGenerate arguments) := by
  obtain ⟨wire, -, h⟩ := Option.bind_eq_some_iff.mp h
  obtain ⟨-, -, h⟩ := Option.bind_eq_some_iff.mp h
  obtain ⟨slice, -, h⟩ := Option.bind_eq_some_iff.mp h
  obtain ⟨modelRecordID, -, h⟩ := Option.bind_eq_some_iff.mp h
  obtain ⟨modelKey, -, h⟩ := Option.bind_eq_some_iff.mp h
  obtain ⟨parameters, -, h⟩ := Option.bind_eq_some_iff.mp h
  obtain ⟨resourceIDs, -, h⟩ := Option.bind_eq_some_iff.mp h
  obtain ⟨targetNodeID, htarget, h⟩ := Option.bind_eq_some_iff.mp h
  obtain ⟨requestID, hrequest, h⟩ := Option.bind_eq_some_iff.mp h
  cases h
  exact ⟨plain_of_normalizeIdentifier htarget, plain_of_normalizeIdentifier hrequest⟩

theorem plain_of_decodeVision {arguments : VisionAnalyzeArguments}
    (h : decodeVisionAnalyzeArguments ctx payload = some arguments) :
    ArgumentsPlain (.visionAnalyze arguments) := by
  obtain ⟨wire, -, h⟩ := Option.bind_eq_some_iff.mp h
  obtain ⟨_, hdetail, h⟩ := Option.bind_eq_some_iff.mp h
  obtain ⟨slice, -, h⟩ := Option.bind_eq_some_iff.mp h
  obtain ⟨modelRecordID, hrecord, h⟩ := Option.bind_eq_some_iff.mp h
  obtain ⟨modelKey, -, h⟩ := Option.bind_eq_some_iff.mp h
  obtain ⟨resourceIDs, hresources, h⟩ := Option.bind_eq_some_iff.mp h
  obtain ⟨prompt, -, h⟩ := Option.bind_eq_some_iff.mp h
  obtain ⟨requestID, hrequest, h⟩ := Option.bind_eq_some_iff.mp h
  cases h
  obtain ⟨hall, hne⟩ := plain_of_normalizeResourceIdentifiers hresources
  have hplain : Plain wire.detail := by
    rcases (Option.guard_eq_some' _).mp hdetail with hlow | horiginal
    · exact hlow ▸ plain_of_all (by decide)
    · exact horiginal ▸ plain_of_all (by decide)
  exact ⟨plain_of_normalizeIdentifier hrecord, hall, hne rfl, hplain,
    plain_of_normalizeIdentifier hrequest⟩

theorem plain_of_decode
    (h : decodeCapabilityArguments ctx call.toolName payload = some decoded) :
    ArgumentsPlain decoded := by
  unfold decodeCapabilityArguments at h
  split at h
  · obtain ⟨arguments, harguments, rfl⟩ := Option.map_eq_some_iff.mp h
    exact plain_of_decodeMedia harguments
  · obtain ⟨arguments, harguments, rfl⟩ := Option.map_eq_some_iff.mp h
    exact plain_of_decodeVision harguments
  · cases h

/-- The tool of the arguments. -/
def CapabilityArguments.toolName : CapabilityArguments → ToolName
  | mediaGenerate _ => .mediaGenerate
  | visionAnalyze _ => .visionAnalyze

theorem toolName_of_decode
    (h : decodeCapabilityArguments ctx call.toolName payload = some decoded) :
    call.toolName = decoded.toolName := by
  unfold decodeCapabilityArguments at h
  split at h
  · rename_i hname
    obtain ⟨arguments, -, rfl⟩ := Option.map_eq_some_iff.mp h
    exact hname
  · rename_i hname
    obtain ⟨arguments, -, rfl⟩ := Option.map_eq_some_iff.mp h
    exact hname
  · cases h

/-- **The key of a call that is accepted.** -/
theorem key_of_decode (h : capabilityIdempotencyKey ctx scope call = .ok key)
    (hdecoded : decodeCapabilityArguments ctx call.toolName call.arguments = some decoded) :
    key = "cap-" ++ hexText (factsDigest ctx (idempotencyFacts scope.toAgentScope call decoded)) ∧
      call.actionVersion = 1 ∧ Plain scope.tenantKind := by
  rw [capabilityIdempotencyKey] at h
  obtain ⟨_, hvalid, h⟩ := bind_eq_ok.mp h
  have htool : ¬ (call.toolName ≠ .mediaGenerate ∧ call.toolName ≠ .visionAnalyze) := by
    rw [toolName_of_decode hdecoded]
    cases decoded <;> simp [CapabilityArguments.toolName]
  rw [if_neg htool, hdecoded] at h
  dsimp only at h
  have hkind : scope.tenantKind = "personal" ∨ scope.tenantKind = "team" := by
    by_contra hnot
    unfold GrantedScope.validate at hvalid
    rw [if_pos (not_or.mp hnot)] at hvalid
    cases hvalid
  have hplain : Plain scope.tenantKind := by
    rcases hkind with hkind | hkind
    · exact hkind ▸ plain_of_all (by decide)
    · exact hkind ▸ plain_of_all (by decide)
  split at h
  · cases h
  · rename_i hversion
    cases h
    exact ⟨rfl, not_not.mp hversion, hplain⟩

theorem capabilityIdempotencyKey_of_decode (scope : GrantedScope) (hvalid : scope.validate = .ok ())
    (hdecoded : decodeCapabilityArguments ctx call.toolName call.arguments = some decoded)
    (hversion : call.actionVersion = 1) : capabilityIdempotencyKey ctx scope call =
      .ok ("cap-" ++ hexText (factsDigest ctx
        (idempotencyFacts scope.toAgentScope call decoded))) := by
  have htool : ¬ (call.toolName ≠ .mediaGenerate ∧ call.toolName ≠ .visionAnalyze) := by
    rw [toolName_of_decode hdecoded]
    cases decoded <;> simp [CapabilityArguments.toolName]
  rw [capabilityIdempotencyKey]
  refine bind_eq_ok.mpr ⟨(), hvalid, ?_⟩
  rw [if_neg htool, hdecoded]
  dsimp only
  rw [if_neg (not_not.mpr hversion)]
  rfl

end Accepted

/-! ## Equal keys -/

/-- The facts of two calls are the same.  Of a media call only the node and the request count, and
the run does not. -/
def SameFacts (scope scope' : AgentScope) : CapabilityArguments → CapabilityArguments → Prop
  | .mediaGenerate arguments, .mediaGenerate arguments' =>
    { scope with runID := "" } = { scope' with runID := "" } ∧
      arguments.targetCanvasNodeID = arguments'.targetCanvasNodeID ∧
      arguments.clientRequestID = arguments'.clientRequestID
  | .visionAnalyze arguments, .visionAnalyze arguments' => scope = scope' ∧ arguments = arguments'
  | _, _ => False

/-- The arguments that count are the same, in any scope. -/
def SameArguments : CapabilityArguments → CapabilityArguments → Prop
  | .mediaGenerate arguments, .mediaGenerate arguments' =>
    arguments.targetCanvasNodeID = arguments'.targetCanvasNodeID ∧
      arguments.clientRequestID = arguments'.clientRequestID
  | .visionAnalyze arguments, .visionAnalyze arguments' => arguments = arguments'
  | _, _ => False

/-- No identifier of the scope holds NUL. -/
structure ScopeLacksNul (scope : AgentScope) : Prop where
  tenantID : Lacks '\x00' scope.tenantID
  actorUserID : Lacks '\x00' scope.actorUserID
  domainProjectID : Lacks '\x00' scope.domainProjectID
  canvasID : Lacks '\x00' scope.canvasID
  threadID : Lacks '\x00' scope.threadID
  runID : Lacks '\x00' scope.runID

/-- Of two vision calls, the model keys do not hold NUL, or the prompts do not. -/
def TextsLackNul : CapabilityArguments → CapabilityArguments → Prop
  | .visionAnalyze arguments, .visionAnalyze arguments' =>
    (Lacks '\x00' arguments.modelKey ∧ Lacks '\x00' arguments'.modelKey) ∨
      (Lacks '\x00' arguments.prompt ∧ Lacks '\x00' arguments'.prompt)
  | _, _ => True

section Equal

variable {scope scope' : AgentScope} {call call' : ToolCallDecision}
  {decoded decoded' : CapabilityArguments}

/-- What the facts of a call begin with. -/
def scopeFacts (scope : AgentScope) : List String :=
  [scope.tenantKind, scope.tenantID, scope.actorUserID, scope.domainProjectID, scope.canvasID,
    scope.threadID]

theorem lacks_scopeFacts (hkind : Plain scope.tenantKind) (hscope : ScopeLacksNul scope) :
    ∀ s ∈ scopeFacts scope, Lacks '\x00' s := by
  simp only [scopeFacts, List.forall_mem_cons, List.not_mem_nil, false_imp_iff, implies_true,
    and_true]
  exact ⟨hkind.lacks rfl, hscope.tenantID, hscope.actorUserID, hscope.domainProjectID,
    hscope.canvasID, hscope.threadID⟩

theorem scope_eq_of_scopeFacts (h : scopeFacts scope = scopeFacts scope') :
    { scope with runID := "" } = { scope' with runID := "" } := by
  cases scope
  cases scope'
  simpa [scopeFacts, and_comm, and_assoc, and_left_comm] using h

/-- What follows in the facts of a media call. -/
def mediaFacts (arguments : MediaGenerateArguments) : List String :=
  ["media.generate", "1", arguments.targetCanvasNodeID, arguments.clientRequestID]

theorem lacks_mediaFacts {arguments : MediaGenerateArguments}
    (h : ArgumentsPlain (.mediaGenerate arguments)) :
    ∀ s ∈ mediaFacts arguments, Lacks '\x00' s := by
  simp only [mediaFacts, List.forall_mem_cons, List.not_mem_nil, false_imp_iff, implies_true,
    and_true]
  exact ⟨by decide, by decide, h.1.lacks rfl, h.2.lacks rfl⟩

/-- What follows in the facts of a vision call, up to the model key. -/
def visionFacts (scope : AgentScope) (arguments : VisionAnalyzeArguments) : List String :=
  [scope.runID, "vision.analyze", "1", arguments.modelRecordID]

theorem lacks_visionFacts {arguments : VisionAnalyzeArguments} (hscope : ScopeLacksNul scope)
    (h : ArgumentsPlain (.visionAnalyze arguments)) :
    ∀ s ∈ visionFacts scope arguments, Lacks '\x00' s := by
  simp only [visionFacts, List.forall_mem_cons, List.not_mem_nil, false_imp_iff, implies_true,
    and_true]
  exact ⟨hscope.runID, by decide, by decide, h.1.lacks rfl⟩

/-- The rest of them. -/
def visionTexts (arguments : VisionAnalyzeArguments) : List String :=
  [arguments.modelKey, join '\x1f' arguments.sourceResourceIDs, arguments.prompt,
    arguments.detail, arguments.clientRequestID]

theorem idempotencyFacts_media {arguments : MediaGenerateArguments}
    (hversion : call.actionVersion = 1) (htool : call.toolName = .mediaGenerate) :
    idempotencyFacts scope call (.mediaGenerate arguments) =
      join '\x00' (scopeFacts scope ++ mediaFacts arguments) := by
  rw [idempotencyFacts, hversion, htool]
  rfl

theorem idempotencyFacts_vision {arguments : VisionAnalyzeArguments}
    (hversion : call.actionVersion = 1) (htool : call.toolName = .visionAnalyze) :
    idempotencyFacts scope call (.visionAnalyze arguments) =
      join '\x00' (scopeFacts scope ++ visionFacts scope arguments ++ visionTexts arguments) := by
  rw [idempotencyFacts, hversion, htool]
  rfl

/-- **The facts of two media calls.** -/
theorem mediaFacts_inj {arguments arguments' : MediaGenerateArguments}
    (h : join '\x00' (scopeFacts scope ++ mediaFacts arguments) =
      join '\x00' (scopeFacts scope' ++ mediaFacts arguments'))
    (hstart : ∀ s ∈ scopeFacts scope ++ mediaFacts arguments, Lacks '\x00' s)
    (hstart' : ∀ s ∈ scopeFacts scope' ++ mediaFacts arguments', Lacks '\x00' s) :
    SameFacts scope scope' (.mediaGenerate arguments) (.mediaGenerate arguments') := by
  have hparts := join_inj h hstart hstart' (List.cons_ne_nil _ _) (List.cons_ne_nil _ _)
  obtain ⟨hscope, hmedia⟩ := List.append_inj hparts rfl
  simp only [mediaFacts, List.cons.injEq, true_and, and_true] at hmedia
  exact ⟨scope_eq_of_scopeFacts hscope, hmedia.1, hmedia.2⟩

theorem scope_eq_of_facts {arguments arguments' : VisionAnalyzeArguments}
    (hscope : scopeFacts scope = scopeFacts scope')
    (hvision : visionFacts scope arguments = visionFacts scope' arguments') :
    scope = scope' ∧ arguments.modelRecordID = arguments'.modelRecordID := by
  simp only [visionFacts, List.cons.injEq, true_and, and_true] at hvision
  have hrest := scope_eq_of_scopeFacts hscope
  cases scope
  cases scope'
  simp only [AgentScope.mk.injEq] at hrest hvision ⊢
  exact ⟨⟨hrest.1, hrest.2.1, hrest.2.2.1, hvision.1, hrest.2.2.2.2⟩, hvision.2⟩

/-- If NUL is in one place at most, the texts can be told from what is joined. -/
theorem visionTexts_inj {arguments arguments' : VisionAnalyzeArguments}
    {before before' : List String}
    (h : join '\x00' (before ++ visionTexts arguments) =
      join '\x00' (before' ++ visionTexts arguments'))
    (hlen : before.length = before'.length) (hbefore : ∀ s ∈ before, Lacks '\x00' s)
    (hbefore' : ∀ s ∈ before', Lacks '\x00' s) (hplain : ArgumentsPlain (.visionAnalyze arguments))
    (hplain' : ArgumentsPlain (.visionAnalyze arguments'))
    (htexts : TextsLackNul (.visionAnalyze arguments) (.visionAnalyze arguments')) :
    before = before' ∧ visionTexts arguments = visionTexts arguments' := by
  obtain ⟨-, hsources, -, hdetail, hrequest⟩ := hplain
  obtain ⟨-, hsources', -, hdetail', hrequest'⟩ := hplain'
  have hjoined : Lacks '\x00' (join '\x1f' arguments.sourceResourceIDs) :=
    lacks_join (by decide) fun s hs ↦ (hsources s hs).lacks rfl
  have hjoined' : Lacks '\x00' (join '\x1f' arguments'.sourceResourceIDs) :=
    lacks_join (by decide) fun s hs ↦ (hsources' s hs).lacks rfl
  have hend : ∀ s ∈ [arguments.detail, arguments.clientRequestID], Lacks '\x00' s :=
    lacks_pair (hdetail.lacks rfl) (hrequest.lacks rfl)
  have hend' : ∀ s ∈ [arguments'.detail, arguments'.clientRequestID], Lacks '\x00' s :=
    lacks_pair (hdetail'.lacks rfl) (hrequest'.lacks rfl)
  rcases htexts with ⟨hkey, hkey'⟩ | ⟨hprompt, hprompt'⟩
  · -- Only the prompts may hold it.
    have hsplit (arguments : VisionAnalyzeArguments) (before : List String) :
        before ++ visionTexts arguments =
          (before ++ [arguments.modelKey, join '\x1f' arguments.sourceResourceIDs]) ++
            arguments.prompt :: [arguments.detail, arguments.clientRequestID] := by
      simp [visionTexts]
    rw [hsplit, hsplit] at h
    obtain ⟨hstart, hprompt, hrest⟩ := join_inj_around h (by simp [hlen]) rfl
      (List.forall_mem_append.mpr ⟨hbefore, lacks_pair hkey hjoined⟩)
      (List.forall_mem_append.mpr ⟨hbefore', lacks_pair hkey' hjoined'⟩) hend hend'
    obtain ⟨hbegin, hmiddle⟩ := List.append_inj hstart hlen
    simp only [List.cons.injEq, and_true] at hmiddle hrest
    exact ⟨hbegin, by simp [visionTexts, hmiddle, hprompt, hrest]⟩
  · -- Only the model keys may.
    rw [visionTexts, visionTexts] at h
    obtain ⟨hbegin, hkey, hrest⟩ := join_inj_around h hlen rfl hbefore hbefore'
      (List.forall_mem_cons.mpr ⟨hjoined, List.forall_mem_cons.mpr ⟨hprompt, hend⟩⟩)
      (List.forall_mem_cons.mpr ⟨hjoined', List.forall_mem_cons.mpr ⟨hprompt', hend'⟩⟩)
    exact ⟨hbegin, by rw [visionTexts, visionTexts, hkey, hrest]⟩

/-- **The facts of two vision calls.** -/
theorem visionFacts_inj {arguments arguments' : VisionAnalyzeArguments}
    (h : join '\x00' (scopeFacts scope ++ visionFacts scope arguments ++ visionTexts arguments) =
      join '\x00' (scopeFacts scope' ++ visionFacts scope' arguments' ++ visionTexts arguments'))
    (hstart : ∀ s ∈ scopeFacts scope ++ visionFacts scope arguments, Lacks '\x00' s)
    (hstart' : ∀ s ∈ scopeFacts scope' ++ visionFacts scope' arguments', Lacks '\x00' s)
    (hplain : ArgumentsPlain (.visionAnalyze arguments))
    (hplain' : ArgumentsPlain (.visionAnalyze arguments'))
    (htexts : TextsLackNul (.visionAnalyze arguments) (.visionAnalyze arguments')) :
    SameFacts scope scope' (.visionAnalyze arguments) (.visionAnalyze arguments') := by
  obtain ⟨hbegin, hrest⟩ := visionTexts_inj h rfl hstart hstart' hplain hplain' htexts
  obtain ⟨hscopeFacts, hvision⟩ := List.append_inj hbegin rfl
  obtain ⟨hsame, hrecord⟩ := scope_eq_of_facts hscopeFacts hvision
  simp only [visionTexts, List.cons.injEq, and_true] at hrest
  obtain ⟨hkey, hjoin, hprompt, hdetail, hrequest⟩ := hrest
  obtain ⟨-, hsources, hne, -⟩ := hplain
  obtain ⟨-, hsources', hne', -⟩ := hplain'
  have hids : arguments.sourceResourceIDs = arguments'.sourceResourceIDs :=
    join_inj hjoin (fun s hs ↦ (hsources s hs).lacks rfl)
      (fun s hs ↦ (hsources' s hs).lacks rfl) hne hne'
  refine ⟨hsame, ?_⟩
  cases arguments
  cases arguments'
  simp_all only

/-- **The facts of a media call are not those of a vision call**: the one has its version where the
other has its name. -/
theorem media_ne_vision {arguments : MediaGenerateArguments} {arguments' : VisionAnalyzeArguments}
    (hstart : ∀ s ∈ scopeFacts scope ++ mediaFacts arguments, Lacks '\x00' s)
    (hstart' : ∀ s ∈ scopeFacts scope' ++ visionFacts scope' arguments', Lacks '\x00' s) :
    join '\x00' (scopeFacts scope ++ mediaFacts arguments) ≠
      join '\x00'
        (scopeFacts scope' ++ visionFacts scope' arguments' ++ visionTexts arguments') := by
  intro h
  rw [← List.append_nil (scopeFacts scope ++ mediaFacts arguments)] at h
  have hsame := join_inj_start h (List.cons_ne_nil _ _) rfl hstart hstart'
  obtain ⟨-, hfacts⟩ := List.append_inj hsame rfl
  have hname := congrArg (·[1]?) hfacts
  exact absurd (Option.some.inj hname) (by decide)

/-- **The facts of two calls that are accepted.** -/
theorem idempotencyFacts_inj
    (h : idempotencyFacts scope call decoded = idempotencyFacts scope' call' decoded')
    (htool : call.toolName = decoded.toolName) (htool' : call'.toolName = decoded'.toolName)
    (hversion : call.actionVersion = 1) (hversion' : call'.actionVersion = 1)
    (hkind : Plain scope.tenantKind) (hkind' : Plain scope'.tenantKind)
    (hplain : ArgumentsPlain decoded) (hplain' : ArgumentsPlain decoded')
    (hscope : ScopeLacksNul scope) (hscope' : ScopeLacksNul scope')
    (htexts : TextsLackNul decoded decoded') : SameFacts scope scope' decoded decoded' := by
  have hmedia {scope : AgentScope} {arguments : MediaGenerateArguments}
      (hkind : Plain scope.tenantKind) (hscope : ScopeLacksNul scope)
      (hplain : ArgumentsPlain (.mediaGenerate arguments)) :
      ∀ s ∈ scopeFacts scope ++ mediaFacts arguments, Lacks '\x00' s :=
    List.forall_mem_append.mpr ⟨lacks_scopeFacts hkind hscope, lacks_mediaFacts hplain⟩
  have hvision {scope : AgentScope} {arguments : VisionAnalyzeArguments}
      (hkind : Plain scope.tenantKind) (hscope : ScopeLacksNul scope)
      (hplain : ArgumentsPlain (.visionAnalyze arguments)) :
      ∀ s ∈ scopeFacts scope ++ visionFacts scope arguments, Lacks '\x00' s :=
    List.forall_mem_append.mpr ⟨lacks_scopeFacts hkind hscope, lacks_visionFacts hscope hplain⟩
  cases decoded with
  | mediaGenerate arguments =>
    rw [idempotencyFacts_media hversion htool] at h
    cases decoded' with
    | mediaGenerate arguments' =>
      rw [idempotencyFacts_media hversion' htool'] at h
      exact mediaFacts_inj h (hmedia hkind hscope hplain) (hmedia hkind' hscope' hplain')
    | visionAnalyze arguments' =>
      rw [idempotencyFacts_vision hversion' htool'] at h
      exact absurd h
        (media_ne_vision (hmedia hkind hscope hplain) (hvision hkind' hscope' hplain'))
  | visionAnalyze arguments =>
    rw [idempotencyFacts_vision hversion htool] at h
    cases decoded' with
    | mediaGenerate arguments' =>
      rw [idempotencyFacts_media hversion' htool'] at h
      exact absurd h.symm
        (media_ne_vision (hmedia hkind' hscope' hplain') (hvision hkind hscope hplain))
    | visionAnalyze arguments' =>
      rw [idempotencyFacts_vision hversion' htool'] at h
      exact visionFacts_inj h (hvision hkind hscope hplain) (hvision hkind' hscope' hplain')
        hplain hplain' htexts

/-- The same facts are joined to the same text, whatever they are. -/
theorem idempotencyFacts_of_same (htool : call.toolName = decoded.toolName)
    (htool' : call'.toolName = decoded'.toolName) (hversion : call.actionVersion = 1)
    (hversion' : call'.actionVersion = 1) (h : SameFacts scope scope' decoded decoded') :
    idempotencyFacts scope call decoded = idempotencyFacts scope' call' decoded' := by
  cases decoded with
  | mediaGenerate arguments =>
    cases decoded' with
    | mediaGenerate arguments' =>
      obtain ⟨hscope, htarget, hrequest⟩ := h
      have hfacts : scopeFacts { scope with runID := "" } =
          scopeFacts { scope' with runID := "" } := congrArg _ hscope
      change scopeFacts scope = scopeFacts scope' at hfacts
      rw [idempotencyFacts_media hversion htool, idempotencyFacts_media hversion' htool', hfacts,
        mediaFacts, mediaFacts, htarget, hrequest]
    | visionAnalyze => exact h.elim
  | visionAnalyze arguments =>
    cases decoded' with
    | mediaGenerate => exact h.elim
    | visionAnalyze arguments' =>
      obtain ⟨rfl, rfl⟩ := h
      rw [idempotencyFacts_vision hversion htool, idempotencyFacts_vision hversion' htool']

end Equal

/-- **Two keys are equal just if the facts are**, where NUL does not hide the parts and the hash
tells the two texts apart. -/
theorem capabilityIdempotencyKey_eq_iff {ctx : KeyContext} {scope scope' : GrantedScope}
    {call call' : ToolCallDecision} {key key' : String} {decoded decoded' : CapabilityArguments}
    (hkey : capabilityIdempotencyKey ctx scope call = .ok key)
    (hkey' : capabilityIdempotencyKey ctx scope' call' = .ok key')
    (hdecoded : decodeCapabilityArguments ctx call.toolName call.arguments = some decoded)
    (hdecoded' : decodeCapabilityArguments ctx call'.toolName call'.arguments = some decoded')
    (hhash : factsDigest ctx (idempotencyFacts scope.toAgentScope call decoded) =
        factsDigest ctx (idempotencyFacts scope'.toAgentScope call' decoded') →
      idempotencyFacts scope.toAgentScope call decoded =
        idempotencyFacts scope'.toAgentScope call' decoded') :
    (SameFacts scope.toAgentScope scope'.toAgentScope decoded decoded' → key = key') ∧
      (ScopeLacksNul scope.toAgentScope → ScopeLacksNul scope'.toAgentScope →
        TextsLackNul decoded decoded' → key = key' →
          SameFacts scope.toAgentScope scope'.toAgentScope decoded decoded') := by
  obtain ⟨rfl, hversion, hkind⟩ := key_of_decode hkey hdecoded
  obtain ⟨rfl, hversion', hkind'⟩ := key_of_decode hkey' hdecoded'
  have htool := toolName_of_decode hdecoded
  have htool' := toolName_of_decode hdecoded'
  constructor
  · intro hsame
    rw [idempotencyFacts_of_same htool htool' hversion hversion' hsame]
  · intro hscope hscope' htexts hequal
    have hdigest := hexText_injective (String.append_right_inj _ |>.mp hequal)
    exact idempotencyFacts_inj (hhash hdigest) htool htool' hversion hversion' hkind hkind'
      (plain_of_decode hdecoded) (plain_of_decode hdecoded') hscope hscope' htexts

/-! ## Vision calls -/

namespace KeyExample

/-- The member of an editor in a run of a personal thread. -/
def scopeOf (runID : String) : GrantedScope where
  tenantKind := "personal"
  tenantID := "u"
  threadID := "t"
  runID := runID
  actorUserID := "u"
  domainProjectID := "d"
  canvasID := "c"
  accessLevel := "editor"

/-- A vision call; the texts are written as they stand in JSON. -/
def callOf (modelKey resource prompt : String) : ToolCallDecision where
  toolCallID := "call"
  toolName := .visionAnalyze
  actionVersion := 1
  arguments := "\x7b\"modelRecordId\":\"r\",\"modelKey\":\"" ++ modelKey ++
    "\",\"sourceResourceIds\":[\"" ++ resource ++ "\"],\"prompt\":\"" ++ prompt ++
    "\",\"detail\":\"low\",\"clientRequestId\":\"q\"\x7d"
  expectedDelivery := { kind := .answer, completionCriteria := [{ fact := .finalMessage }] }

/-- Two calls that are joined to the same text. -/
def firstReading : ToolCallDecision := callOf "m" "a" "b\\u0000p"

def secondReading : ToolCallDecision := callOf "m\\u0000a" "b" "p"

def argumentsOf (modelKey resource prompt : String) : CapabilityArguments :=
  .visionAnalyze ⟨"r", modelKey, [resource], prompt, "low", "q"⟩

/-- The SHA-256 of the facts in the first run, and in the second. -/
def firstRunHash : Bytes :=
  [181, 2, 14, 3, 92, 140, 73, 191, 31, 88, 156, 165, 219, 242, 8, 62, 114, 45, 247, 155, 242,
    81, 233, 207, 100, 12, 4, 61, 209, 187, 126, 179]

def secondRunHash : Bytes :=
  [201, 142, 165, 155, 19, 48, 145, 234, 30, 153, 122, 145, 171, 182, 180, 129, 169, 41, 243,
    235, 92, 137, 181, 128, 90, 22, 129, 8, 72, 119, 67, 23]

def context : KeyContext where
  isAbsoluteURL _ := false
  parametersLength _ := 0
  sha256 facts :=
    if facts = idempotencyFacts (scopeOf "run-2").toAgentScope firstReading
        (argumentsOf "m" "a" "b\x00p") then
      secondRunHash
    else firstRunHash

set_option maxRecDepth 20000 in
theorem decode_firstReading :
    decodeCapabilityArguments context firstReading.toolName firstReading.arguments =
      some (argumentsOf "m" "a" "b\x00p") := by
  rfl

set_option maxRecDepth 20000 in
theorem decode_secondReading :
    decodeCapabilityArguments context secondReading.toolName secondReading.arguments =
      some (argumentsOf "m\x00a" "b" "p") := by
  rfl

theorem scopeLacksNul_scopeOf {runID : String} (h : Lacks '\x00' runID) :
    ScopeLacksNul (scopeOf runID).toAgentScope where
  tenantID := show Lacks '\x00' "u" by decide
  actorUserID := show Lacks '\x00' "u" by decide
  domainProjectID := show Lacks '\x00' "d" by decide
  canvasID := show Lacks '\x00' "c" by decide
  threadID := show Lacks '\x00' "t" by decide
  runID := h

end KeyExample

open KeyExample in
/-- **The same call has another key in another run of the thread.** -/
theorem key_ne_of_run :
    capabilityIdempotencyKey context (scopeOf "run-1") firstReading ≠
      capabilityIdempotencyKey context (scopeOf "run-2") firstReading := by
  have hfirst := capabilityIdempotencyKey_of_decode (scopeOf "run-1") (by decide)
    decode_firstReading rfl
  have hsecond := capabilityIdempotencyKey_of_decode (scopeOf "run-2") (by decide)
    decode_firstReading rfl
  have hkeys := (capabilityIdempotencyKey_eq_iff hfirst hsecond decode_firstReading
    decode_firstReading (fun hdigest ↦ absurd hdigest (by decide))).2
    (scopeLacksNul_scopeOf (by decide)) (scopeLacksNul_scopeOf (by decide))
    (.inl ⟨by decide, by decide⟩)
  rw [hfirst, hsecond]
  intro hequal
  have hsame := (hkeys (Except.ok.inj hequal)).1
  exact absurd (congrArg AgentScope.runID hsame) (by decide)

open KeyExample in
/-- **Two calls with different texts have one key.** -/
theorem not_injective_nul :
    ¬∀ (ctx : KeyContext) (scope scope' : GrantedScope) (call call' : ToolCallDecision)
      (key key' : String) (decoded decoded' : CapabilityArguments),
      capabilityIdempotencyKey ctx scope call = .ok key →
      capabilityIdempotencyKey ctx scope' call' = .ok key' →
      decodeCapabilityArguments ctx call.toolName call.arguments = some decoded →
      decodeCapabilityArguments ctx call'.toolName call'.arguments = some decoded' →
      (factsDigest ctx (idempotencyFacts scope.toAgentScope call decoded) =
          factsDigest ctx (idempotencyFacts scope'.toAgentScope call' decoded') →
        idempotencyFacts scope.toAgentScope call decoded =
          idempotencyFacts scope'.toAgentScope call' decoded') →
      (key = key' ↔ scope.threadID = scope'.threadID ∧ SameArguments decoded decoded') := by
  intro h
  have hfacts : idempotencyFacts (scopeOf "run-1").toAgentScope firstReading
        (argumentsOf "m" "a" "b\x00p") =
      idempotencyFacts (scopeOf "run-1").toAgentScope secondReading
        (argumentsOf "m\x00a" "b" "p") := by
    decide
  have hfirst := capabilityIdempotencyKey_of_decode (scopeOf "run-1") (by decide)
    decode_firstReading rfl
  have hsecond := capabilityIdempotencyKey_of_decode (scopeOf "run-1") (by decide)
    decode_secondReading rfl
  rw [← hfacts] at hsecond
  have hiff := h _ _ _ _ _ _ _ _ _ hfirst hsecond decode_firstReading decode_secondReading
    fun _ ↦ hfacts
  have hsame := (hiff.mp rfl).2
  exact absurd (congrArg VisionAnalyzeArguments.prompt hsame) (by decide)

end HMaigc.AgentRuntime
