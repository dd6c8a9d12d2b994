import HMaigc.Agent.Decision

/-!
# The configuration a run is started with

`ValidateRunConfiguration` of `agentruntime/runtime.go`: the generation models, skills and
attachments the user chose, frozen when the run is created.  The code outside the package that the
runtime calls is `RuntimeContext`.
-/

set_option autoImplicit false

namespace HMaigc.AgentRuntime

open Go

structure GenerationModelSelection where
  channelID : String
  modelRecordID : String := ""
  model : String
  priceVersion : ℤ := 0

structure GenerationModelSelections where
  image : Option GenerationModelSelection := none
  video : Option GenerationModelSelection := none
  audio : Option GenerationModelSelection := none
  vision : Option GenerationModelSelection := none

structure SkillCapabilityManifest where
  specialists : List String := []
  tools : List ToolName := []
  artifactSchemas : List String := []

structure SkillSelection where
  dir : String
  name : String
  description : String := ""
  instructions : String
  version : ℤ
  checksum : String
  capabilityManifest : SkillCapabilityManifest := {}
  sourceKind : String := ""
  sourceURL : String := ""
  sourceRevision : String := ""
  sourceLicense : String := ""
  publishedAt : String := ""

inductive ExecutionMode
  | guided | automatic | other (name : String)
  deriving DecidableEq

structure ResourceAttachment where
  resourceID : String
  name : String
  kind : String
  mimeType : String
  sizeBytes : ℤ
  width : ℤ := 0
  height : ℤ := 0
  durationMS : ℤ := 0

structure RunConfiguration where
  generationModels : GenerationModelSelections := {}
  skills : List SkillSelection := []
  attachments : List ResourceAttachment := []
  executionMode : ExecutionMode

structure SkillsLoadResult where
  skillDir : String
  version : ℤ
  checksum : String
  instructions : String

/-- The code outside the package: the strict decoders of the tools' schemas, and SHA-256. -/
structure RuntimeContext where
  /-- `DecodeCapabilityArguments`, and the arguments marshalled again. -/
  canonicalArguments : ToolName → String → Option String
  /-- The strict decoding of a `skills.load` result. -/
  decodeSkillsLoad : String → Option SkillsLoadResult
  /-- The lower-case hexadecimal digest of a text. -/
  sha256Hex : String → String

namespace GenerationModelSelection

def trimmed (selection : GenerationModelSelection) : GenerationModelSelection :=
  { selection with
    channelID := trimSpace selection.channelID
    modelRecordID := trimSpace selection.modelRecordID
    model := trimSpace selection.model }

/-- The check of one selection, on trimmed texts. -/
def check (selection : GenerationModelSelection) : Except String Unit :=
  if selection.channelID = "" ∨ selection.channelID.utf8ByteSize > 80 ∨
      selection.modelRecordID.utf8ByteSize > 80 ∨ selection.model = "" ∨
      selection.model.utf8ByteSize > 120 ∨ selection.priceVersion < 0 then
    .error "agent runtime generation model selection is invalid"
  else .ok ()

end GenerationModelSelection

def specialistKeys : List String :=
  ["asset", "audio", "narrative", "storyboard", "video_assembly", "visual"]

def validSkillCapabilityToolName : ToolName → Bool
  | .specialistDelegate | .visionAnalyze | .mediaGenerate | .mediaAssemble | .canvasProject
  | .canvasRead | .canvasApplyOps | .assetsRead | .assetsPublish | .skillsLoad => true
  | _ => false

def validArtifactSchemaName (value : String) : Bool :=
  value ≠ "" && value.utf8ByteSize ≤ 120 && trimSpace value == value &&
    value.toList.all fun c ↦
      ('a' ≤ c && c ≤ 'z') || ('0' ≤ c && c ≤ '9') || c = '_' || c = '-' || c = '.'

def errSkillCapabilityManifestInvalid : String := "agent runtime skill capability manifest is invalid"

def validateSkillCapabilityManifest (manifest : SkillCapabilityManifest) : Except String Unit :=
  if manifest.specialists = [] ∨ manifest.specialists.length > specialistKeys.length ∨
      manifest.tools.length > 8 ∨ manifest.artifactSchemas = [] ∨
      manifest.artifactSchemas.length > 16 then
    .error errSkillCapabilityManifestInvalid
  else do
    checkAscending id
      (fun key ↦ if key ∈ specialistKeys then .ok () else .error errSkillCapabilityManifestInvalid)
      errSkillCapabilityManifestInvalid (fun _ ↦ .ok ()) "" manifest.specialists
    checkAscending ToolName.name
      (fun tool ↦
        if validSkillCapabilityToolName tool then .ok ()
        else .error errSkillCapabilityManifestInvalid)
      errSkillCapabilityManifestInvalid (fun _ ↦ .ok ()) "" manifest.tools
    checkAscending id
      (fun schema ↦
        if validArtifactSchemaName schema then .ok () else .error errSkillCapabilityManifestInvalid)
      errSkillCapabilityManifestInvalid (fun _ ↦ .ok ()) "" manifest.artifactSchemas

def errSkillSelectionInvalid : String := "agent runtime skill selection is invalid"

/-- The first checks of a selected skill, on its trimmed texts. -/
def checkSkill (ctx : RuntimeContext) (skill : SkillSelection) : Except String Unit :=
  let dir := trimSpace skill.dir
  let name := trimSpace skill.name
  let instructions := trimSpace skill.instructions
  if dir = "" ∨ dir.utf8ByteSize > 120 ∨ name = "" ∨ name.utf8ByteSize > 160 ∨
      (trimSpace skill.description).utf8ByteSize > 4 * 1024 ∨ instructions = "" ∨
      instructions.utf8ByteSize > 32 * 1024 ∨ skill.version ≤ 0 ∨
      trimSpace skill.checksum ≠ ctx.sha256Hex instructions then
    .error errSkillSelectionInvalid
  else .ok ()

/-- The source facts of a skill that declares capabilities. -/
def checkSkillSource (skill : SkillSelection) : Except String Unit :=
  let manifest := skill.capabilityManifest
  if manifest.specialists = [] ∧ manifest.tools = [] ∧ manifest.artifactSchemas = [] then .ok ()
  else do
    validateSkillCapabilityManifest manifest
    if trimSpace skill.sourceKind ≠ skill.sourceKind ∨
        trimSpace skill.sourceLicense ≠ skill.sourceLicense ∨ skill.sourceKind = "" ∨
        skill.sourceKind.utf8ByteSize > 32 ∨ skill.sourceLicense = "" ∨
        skill.sourceLicense.utf8ByteSize > 80 ∨ trimSpace skill.sourceURL ≠ skill.sourceURL ∨
        skill.sourceURL.utf8ByteSize > 1000 ∨ trimSpace skill.sourceRevision ≠ skill.sourceRevision ∨
        skill.sourceRevision.utf8ByteSize > 160 ∨ trimSpace skill.publishedAt ≠ skill.publishedAt ∨
        skill.publishedAt = "" ∨ skill.publishedAt.utf8ByteSize > 64 then
      .error "agent runtime frozen skill source facts are invalid"
    else .ok ()

/-- The characters allowed after the prefix leave neither upper case nor a separator. -/
def validFrozenMediaMIME (kind mimeType : String) : Bool :=
  (kind = "image" || kind = "audio" || kind = "video") &&
    (kind ++ "/").toList.isPrefixOf mimeType.toList &&
    mimeType.utf8ByteSize > (kind ++ "/").utf8ByteSize &&
    (mimeType.toList.drop (kind ++ "/").length).all fun c ↦
      ('a' ≤ c && c ≤ 'z') || ('0' ≤ c && c ≤ '9') || c = '.' || c = '+' || c = '-'

def validFrozenMediaDimensions (attachment : ResourceAttachment) (kind : String) : Bool :=
  if kind = "image" then
    0 < attachment.width && 0 < attachment.height && 0 ≤ attachment.durationMS
  else if kind = "audio" then
    attachment.width = 0 && attachment.height = 0 && 0 < attachment.durationMS
  else if kind = "video" then
    0 < attachment.width && 0 < attachment.height && 0 < attachment.durationMS
  else false

def errAttachmentSelectionInvalid : String := "agent runtime attachment selection is invalid"

def maxAttachmentBytes : ℤ := 4 * 2 ^ 30

def checkAttachment (attachment : ResourceAttachment) : Except String Unit :=
  let resourceID := trimSpace attachment.resourceID
  let name := trimSpace attachment.name
  let kind := trimSpace attachment.kind
  let mimeType := trimSpace attachment.mimeType
  if resourceID = "" ∨ resourceID.utf8ByteSize > 80 ∨ name = "" ∨ name.utf8ByteSize > 240 ∨
      validFrozenMediaMIME kind mimeType = false ∨ mimeType.utf8ByteSize > 120 ∨
      attachment.sizeBytes ≤ 0 ∨ attachment.sizeBytes > maxAttachmentBytes ∨
      validFrozenMediaDimensions attachment kind = false then
    .error errAttachmentSelectionInvalid
  else .ok ()

/-- The configuration as its validation leaves it. -/
def RunConfiguration.trimmed (configuration : RunConfiguration) : RunConfiguration :=
  { configuration with
    generationModels :=
      { image := configuration.generationModels.image.map (·.trimmed)
        video := configuration.generationModels.video.map (·.trimmed)
        audio := configuration.generationModels.audio.map (·.trimmed)
        vision := configuration.generationModels.vision.map (·.trimmed) } }

/-- A check of a selection that need not be there. -/
def checkSelection (selection : Option GenerationModelSelection) : Except String Unit :=
  match selection with
  | none => .ok ()
  | some selection => selection.check

/-- `ValidateRunConfiguration`, on the trimmed texts. -/
def RunConfiguration.check (ctx : RuntimeContext) (configuration : RunConfiguration) :
    Except String Unit :=
  let models := configuration.generationModels
  if configuration.executionMode ≠ .guided ∧ configuration.executionMode ≠ .automatic then
    .error "agent runtime execution mode is invalid"
  else do
    checkSelection models.image
    checkSelection models.video
    checkSelection models.audio
    checkSelection models.vision
    if models.vision.any fun vision ↦ vision.modelRecordID = "" || vision.priceVersion ≤ 0 then
      .error "agent runtime vision model snapshot is invalid"
    else if configuration.skills.length > 8 then .error errSkillSelectionInvalid
    else do
    checkAscending (fun skill ↦ trimSpace skill.dir) (checkSkill ctx) errSkillSelectionInvalid
      checkSkillSource "" configuration.skills
    if (configuration.skills.map fun skill ↦ (trimSpace skill.instructions).utf8ByteSize).sum >
        64 * 1024 then
      .error errSkillSelectionInvalid
    else if configuration.attachments.length > 12 then .error errAttachmentSelectionInvalid
    else do
    checkAscending (fun attachment ↦ trimSpace attachment.resourceID) checkAttachment
      errAttachmentSelectionInvalid (fun _ ↦ .ok ()) "" configuration.attachments
    -- Every refusal in the loop over the attachments has one text, so their sum may come last.
    if (configuration.attachments.map (·.sizeBytes)).sum > maxAttachmentBytes then
      .error errAttachmentSelectionInvalid
    else .ok ()

end HMaigc.AgentRuntime
