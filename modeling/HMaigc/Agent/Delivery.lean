import HMaigc.Go.Checks

/-!
# What an agent's run has to deliver

`agentruntime/delivery.go`: the delivery contract a model declares with its first decision, what
makes one well formed, and how a final answer is held against it.
-/

set_option autoImplicit false

namespace HMaigc.AgentRuntime

open Go

inductive DeliveryKind
  | answer | canvasChange | generatedAsset | mixed | other (name : String)
  deriving DecidableEq

/-- The empty name is that of no artifact. -/
inductive ArtifactKind
  | image | video | audio | text | canvasRevision | other (name : String)
  deriving DecidableEq

def ArtifactKind.valid : ArtifactKind → Bool
  | .image | .video | .audio | .text | .canvasRevision => true
  | .other _ => false

inductive DeliveryFact
  | finalMessage | canvasRevision | artifact | artifactRevision | resource | publication
  | taskBackedResource | canvasBoundResource | other (name : String)
  deriving DecidableEq

structure DeliveryCriterion where
  fact : DeliveryFact
  artifact : ArtifactKind := .other ""
  deriving DecidableEq

structure ExpectedDelivery where
  kind : DeliveryKind
  requiredArtifacts : List ArtifactKind := []
  targetCanvasID : String := ""
  completionCriteria : List DeliveryCriterion
  deriving DecidableEq

namespace ExpectedDelivery

def equal (expected other : ExpectedDelivery) : Bool :=
  expected.kind == other.kind && expected.targetCanvasID == other.targetCanvasID &&
    expected.requiredArtifacts == other.requiredArtifacts &&
    expected.completionCriteria == other.completionCriteria

theorem equal_iff {expected other : ExpectedDelivery} :
    expected.equal other = true ↔ expected = other := by
  cases expected
  cases other
  simp [equal, and_assoc, and_left_comm]

/-- What the completion criteria are about. -/
structure CriteriaFacts where
  hasFinalMessage : Bool := false
  hasCanvasRevision : Bool := false
  artifacts : List ArtifactKind := []

/-- The loop over the completion criteria. -/
def criteriaFacts (facts : CriteriaFacts) : List DeliveryCriterion → Except String CriteriaFacts
  | [] => .ok facts
  | criterion :: rest =>
    match criterion.fact with
    | .finalMessage =>
      if criterion.artifact ≠ .other "" then
        .error "expected delivery criterion artifact is unexpected"
      else criteriaFacts { facts with hasFinalMessage := true } rest
    | .canvasRevision =>
      if criterion.artifact ≠ .other "" then
        .error "expected delivery criterion artifact is unexpected"
      else criteriaFacts { facts with hasCanvasRevision := true } rest
    | .other _ => .error "expected delivery criterion fact is invalid"
    | _ =>
      if !criterion.artifact.valid then
        .error "expected delivery criterion artifact is required"
      else criteriaFacts { facts with artifacts := criterion.artifact :: facts.artifacts } rest

/-- The criteria say when a required artifact is there. -/
def CriteriaFacts.covers (facts : CriteriaFacts) (artifact : ArtifactKind) : Bool :=
  (artifact == .text && facts.hasFinalMessage) ||
    (artifact == .canvasRevision && facts.hasCanvasRevision) || facts.artifacts.contains artifact

/-- The criteria fit the kind of the delivery. -/
def consistent (expected : ExpectedDelivery) (facts : CriteriaFacts) : Except String Unit :=
  match expected.kind with
  | .answer =>
    if !facts.hasFinalMessage || facts.hasCanvasRevision || !facts.artifacts.isEmpty ||
        !isBlank expected.targetCanvasID then
      .error "answer delivery facts are inconsistent"
    else .ok ()
  | .canvasChange =>
    if !facts.hasCanvasRevision || !facts.artifacts.isEmpty then
      .error "canvas delivery facts are inconsistent"
    else .ok ()
  | .generatedAsset =>
    if expected.requiredArtifacts.isEmpty || facts.artifacts.isEmpty || facts.hasCanvasRevision ||
        !isBlank expected.targetCanvasID then
      .error "generated asset delivery facts are inconsistent"
    else .ok ()
  | .mixed =>
    if !facts.hasCanvasRevision || (!facts.hasFinalMessage && facts.artifacts.isEmpty) then
      .error "mixed delivery facts are incomplete"
    else .ok ()
  | .other _ => .ok ()

def validate (expected : ExpectedDelivery) : Except String Unit :=
  if expected.kind ≠ .answer ∧ expected.kind ≠ .canvasChange ∧ expected.kind ≠ .generatedAsset ∧
      expected.kind ≠ .mixed then
    .error "expected delivery kind is invalid"
  else if expected.completionCriteria.isEmpty ∨ expected.completionCriteria.length > 16 then
    .error "expected delivery criteria are invalid"
  else if (expected.kind = .canvasChange ∨ expected.kind = .mixed) ∧
      isBlank expected.targetCanvasID then
    .error "expected delivery canvas is required"
  else do
    checkDistinct id
      (fun artifact ↦
        if !artifact.valid then .error "expected delivery artifact is invalid" else .ok ())
      "expected delivery artifact is duplicated" (fun _ ↦ .ok ()) [] expected.requiredArtifacts
    let facts ← criteriaFacts {} expected.completionCriteria
    if expected.requiredArtifacts.any fun artifact ↦ !facts.covers artifact then
      .error "required artifact lacks a completion criterion"
    else expected.consistent facts

end ExpectedDelivery

/-! ## Evidence -/

structure DeliveryArtifact where
  kind : ArtifactKind
  artifactID : String := ""
  revisionID : String := ""
  resourceID : String := ""
  url : String := ""
  resourceReady : Bool := false
  approved : Bool := false
  publicationID : String := ""
  sourceTaskID : String := ""
  sourceTaskSucceeded : Bool := false
  currentRevision : Bool := false
  targetCanvasNodeID : String := ""
  canvasBound : Bool := false

structure DeliveryEvidence where
  finalMessage : String := ""
  canvasID : String := ""
  canvasRevision : ℤ := 0
  canvasCurrent : Bool := false
  artifacts : List DeliveryArtifact := []

inductive VerificationStatus
  | satisfied | repairable | failed
  deriving DecidableEq

structure DeliveryVerification where
  status : VerificationStatus
  rationale : String
  missingCriteria : List DeliveryCriterion := []

def validOptionalDeliveryIdentity (value : String) : Bool :=
  trimSpace value == value && value.utf8ByteSize ≤ 120

def validDeliveryArtifact (artifact : DeliveryArtifact) : Bool :=
  let hasExactRevision := artifact.artifactID ≠ "" && artifact.revisionID ≠ ""
  if !artifact.kind.valid || !validOptionalDeliveryIdentity artifact.artifactID ||
      !validOptionalDeliveryIdentity artifact.revisionID ||
      !validOptionalDeliveryIdentity artifact.resourceID ||
      !validOptionalDeliveryIdentity artifact.publicationID ||
      !validOptionalDeliveryIdentity artifact.sourceTaskID ||
      !validOptionalDeliveryIdentity artifact.targetCanvasNodeID ||
      trimSpace artifact.url != artifact.url || artifact.url.utf8ByteSize > 4 * 1024 ||
      (artifact.artifactID == "") != (artifact.revisionID == "") then
    false
  else if artifact.canvasBound && (artifact.targetCanvasNodeID == "" ||
      artifact.resourceID == "" || artifact.url == "" || !artifact.resourceReady ||
      artifact.sourceTaskID == "" || !artifact.sourceTaskSucceeded) then
    false
  else if artifact.url == "" && !hasExactRevision then false
  else if artifact.approved && !hasExactRevision && artifact.publicationID == "" then false
  else if artifact.resourceReady && (artifact.resourceID == "" || artifact.url == "") then false
  else if artifact.currentRevision && !hasExactRevision then false
  else artifact.publicationID == "" || (artifact.approved && artifact.resourceReady)

/-- What an artifact has to show for a criterion about its kind. -/
def artifactSatisfies (criterion : DeliveryCriterion) (artifact : DeliveryArtifact) : Bool :=
  let stored := artifact.resourceID ≠ "" && artifact.resourceReady && artifact.url ≠ ""
  let fromTask := artifact.sourceTaskID ≠ "" && artifact.sourceTaskSucceeded
  let approvedRevision :=
    artifact.artifactID ≠ "" && artifact.revisionID ≠ "" && artifact.approved
  match criterion.fact with
  | .artifact =>
    if criterion.artifact = .text then approvedRevision && artifact.currentRevision
    else artifact.url ≠ ""
  | .artifactRevision => approvedRevision
  | .resource => approvedRevision && stored
  | .publication => artifact.approved && stored && artifact.publicationID ≠ ""
  | .taskBackedResource =>
    (artifact.artifactID == "" || artifact.currentRevision) && stored && fromTask
  | .canvasBoundResource =>
    stored && fromTask && artifact.targetCanvasNodeID ≠ "" && artifact.canvasBound
  | _ => false

def criterionSatisfied (expected : ExpectedDelivery) (evidence : DeliveryEvidence)
    (criterion : DeliveryCriterion) : Bool :=
  match criterion.fact with
  | .finalMessage => !isBlank evidence.finalMessage
  | .canvasRevision =>
    0 < evidence.canvasRevision && evidence.canvasID == expected.targetCanvasID &&
      evidence.canvasCurrent
  | _ =>
    evidence.artifacts.any fun artifact ↦
      artifact.kind == criterion.artifact && artifactSatisfies criterion artifact

def verifyDelivery (expected : ExpectedDelivery) (evidence : DeliveryEvidence) :
    DeliveryVerification :=
  match expected.validate with
  | .error e => ⟨.failed, e, []⟩
  | .ok () =>
    if evidence.artifacts.any fun artifact ↦ !validDeliveryArtifact artifact then
      ⟨.failed, "delivery evidence artifact is invalid", []⟩
    else
      let missing := expected.completionCriteria.filter fun criterion ↦
        !criterionSatisfied expected evidence criterion
      if missing ≠ [] then ⟨.repairable, "delivery evidence is incomplete", missing⟩
      else ⟨.satisfied, "delivery evidence satisfies every criterion", []⟩

/-- A delivery is repairable where criteria are missing, and only there. -/
theorem verifyDelivery_cases (expected : ExpectedDelivery) (evidence : DeliveryEvidence) :
    ((verifyDelivery expected evidence).status = .satisfied ∧
        (verifyDelivery expected evidence).missingCriteria = []) ∨
      ((verifyDelivery expected evidence).status = .repairable ∧
        (verifyDelivery expected evidence).missingCriteria ≠ []) ∨
      (verifyDelivery expected evidence).status = .failed := by
  rw [verifyDelivery]
  cases expected.validate with
  | error e => exact .inr (.inr rfl)
  | ok u =>
    dsimp only
    split_ifs with hinvalid hmissing
    · exact .inr (.inr rfl)
    · exact .inr (.inl ⟨rfl, hmissing⟩)
    · exact .inl ⟨rfl, rfl⟩

end HMaigc.AgentRuntime
