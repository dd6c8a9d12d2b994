import HMaigc.Agent.ProductionGraph
import HMaigc.Model.AgentTree
import HMaigc.Model.Credit
import HMaigc.Model.Task

/-!
# The next step of a production

`agentruntime/production_progress.go`: which stage of a production is the current one, what blocks
it and what may be done about it, from what is stored about the stages.

The stages come in the order of the graph's draft, and a stage is refused unless those it depends on
came before it.  A stage counts as done when it is completed, delivered, and its tasks and billings
are settled.

* `offersNext_iff` — **there is a way on exactly where the dependencies come first and the current
  stage is not a finished one that was refunded.**
-/

set_option autoImplicit false

namespace HMaigc.AgentRuntime

open Go

def errProductionProgressInvalid : String := "production progress facts are invalid"

inductive BlockerCode where
  | dependencyIncomplete | taskActive | taskFailed | taskCancelled | billingPending
  | billingUncertain | deliveryIncomplete | resourceNotReady | reviewRevisionMissing
  deriving DecidableEq

inductive ProductionAction where
  | executeStage | submitReview | reviewStage | completeStage
  deriving DecidableEq

structure EvidenceRef where
  kind : String
  id : String
  deriving DecidableEq

structure ProductionBlocker where
  code : BlockerCode
  evidenceRefs : List EvidenceRef
  deriving DecidableEq

structure EligibleAction where
  action : ProductionAction
  requiredEvidence : List DeliveryCriterion
  deriving DecidableEq

/-- `none` where there is no current stage. -/
structure NextActionProjection where
  graphVersionID : String
  graphVersion : ℤ
  currentStageKey : Option String := none
  stageStatus : Option ProductionStageStatus := none
  reviewRevisionID : String := ""
  blockers : List ProductionBlocker := []
  eligibleActions : List EligibleAction := []
  activeTaskRefs : List EvidenceRef := []
  staleRevisionRefs : List EvidenceRef := []
  computedAt : Option Time
  deriving DecidableEq

structure TaskEvidence where
  taskID : String
  status : TaskStatus
  billingOrderID : String

structure BillingEvidence where
  billingOrderID : String
  status : BillingStatus

structure ProgressStageFacts where
  stageKey : String
  status : ProductionStageStatus
  dependsOnStageKeys : List String
  reviewRevisionID : String := ""
  expectedDelivery : ExpectedDelivery
  deliveryEvidence : DeliveryEvidence := {}
  tasks : List TaskEvidence := []
  billings : List BillingEvidence := []
  staleRevisionIDs : List String := []

/-- `computedAt` is `none` for the zero time. -/
structure ProgressFacts where
  graphVersionID : String
  graphVersion : ℤ
  stages : List ProgressStageFacts
  computedAt : Option Time

def validProgressIdentity (value : String) (maximum : ℕ) : Bool :=
  value ≠ "" && trimSpace value == value && value.utf8ByteSize ≤ maximum

/-! ## Evidence -/

def EvidenceRef.le (a b : EvidenceRef) : Bool :=
  if a.kind = b.kind then a.id ≤ b.id else a.kind ≤ b.kind

def sortEvidenceRefs (refs : List EvidenceRef) : List EvidenceRef := refs.mergeSort EvidenceRef.le

def appendProductionBlocker (blockers : List ProductionBlocker) (code : BlockerCode)
    (ref : EvidenceRef) : List ProductionBlocker :=
  match blockers with
  | [] => [⟨code, [ref]⟩]
  | blocker :: rest =>
    if blocker.code ≠ code then blocker :: appendProductionBlocker rest code ref
    else if ref ∈ blocker.evidenceRefs then blocker :: rest
    else { blocker with evidenceRefs := sortEvidenceRefs (blocker.evidenceRefs ++ [ref]) } :: rest

namespace ProgressStageFacts

/-- The artifacts of a stage that is not reviewed yet count as approved. -/
def progressEvidence (stage : ProgressStageFacts) : DeliveryEvidence :=
  if stage.status = .running ∨ stage.status = .awaitingReview then
    { stage.deliveryEvidence with
      artifacts := stage.deliveryEvidence.artifacts.map fun artifact ↦
        if artifact.artifactID ≠ "" ∧ artifact.revisionID ≠ "" then
          { artifact with approved := true }
        else artifact }
  else stage.deliveryEvidence

def deliveryVerification (stage : ProgressStageFacts) : DeliveryVerification :=
  verifyDelivery stage.expectedDelivery stage.progressEvidence

def evidenceCompleted (stage : ProgressStageFacts) : Bool :=
  if stage.status ≠ .completed ∨ stage.deliveryVerification.status ≠ .satisfied then false
  else stage.tasks.all (·.status = .succeeded) && stage.billings.all (·.status = .settled)

def requiresDeliveryEvidence : ProductionStageStatus → Bool
  | .running | .awaitingReview | .approved | .completed => true
  | .planned | .failed | .stopped | .stale => false

/-- The stage itself as evidence. -/
def ref (stage : ProgressStageFacts) : EvidenceRef := ⟨"stage", stage.stageKey⟩

def resourceEvidenceRefs (stage : ProgressStageFacts) (kind : ArtifactKind) : List EvidenceRef :=
  let refs := (stage.deliveryEvidence.artifacts.filter (·.kind = kind)).filterMap fun artifact ↦
    if artifact.resourceID ≠ "" then some ⟨"resource", artifact.resourceID⟩
    else if artifact.revisionID ≠ "" then some ⟨"artifact_revision", artifact.revisionID⟩
    else none
  if refs = [] then [stage.ref] else refs

/-- What blocks a stage, one finding after another, before those of one kind are gathered. -/
abbrev Findings : Type := List (BlockerCode × EvidenceRef)

def dependencyFindings (stage : ProgressStageFacts) (completed : String → Bool) : Findings :=
  (stage.dependsOnStageKeys.filter fun dependency ↦ !completed dependency).map fun dependency ↦
    (.dependencyIncomplete, ⟨"stage", dependency⟩)

/-- The end of a failed or cancelled task is no obstacle to a stage that is to be run again. -/
def taskFinding (stage : ProgressStageFacts) (task : TaskEvidence) :
    Option (BlockerCode × EvidenceRef) :=
  let again := stage.status = .failed ∨ stage.status = .stale
  match task.status with
  | .queued | .running => some (.taskActive, ⟨"task", task.taskID⟩)
  | .failed => if again then none else some (.taskFailed, ⟨"task", task.taskID⟩)
  | .cancelled => if again then none else some (.taskCancelled, ⟨"task", task.taskID⟩)
  | .succeeded => none

def billingFinding (billing : BillingEvidence) : Option (BlockerCode × EvidenceRef) :=
  match billing.status with
  | .reserved | .running => some (.billingPending, ⟨"billing_order", billing.billingOrderID⟩)
  | .uncertain => some (.billingUncertain, ⟨"billing_order", billing.billingOrderID⟩)
  | .settled | .refunded => none

def criterionFindings (stage : ProgressStageFacts) (criterion : DeliveryCriterion) : Findings :=
  if criterion.fact = .resource then
    (stage.resourceEvidenceRefs criterion.artifact).map fun ref ↦ (.resourceNotReady, ref)
  else [(.deliveryIncomplete, stage.ref)]

def deliveryFindings (stage : ProgressStageFacts) : Findings :=
  if requiresDeliveryEvidence stage.status then
    stage.deliveryVerification.missingCriteria.flatMap stage.criterionFindings ++
      if stage.deliveryVerification.status = .failed then [(.deliveryIncomplete, stage.ref)] else []
  else []

def reviewFindings (stage : ProgressStageFacts) : Findings :=
  if stage.status = .awaitingReview ∧ stage.reviewRevisionID = "" then
    [(.reviewRevisionMissing, stage.ref)]
  else []

def findings (stage : ProgressStageFacts) (completed : String → Bool) : Findings :=
  stage.dependencyFindings completed ++ stage.tasks.filterMap stage.taskFinding ++
    stage.billings.filterMap billingFinding ++ stage.deliveryFindings ++ stage.reviewFindings

def blockers (stage : ProgressStageFacts) (completed : String → Bool) : List ProductionBlocker :=
  (stage.findings completed).foldl
    (fun blockers finding ↦ appendProductionBlocker blockers finding.1 finding.2) []

def activeTasks (stage : ProgressStageFacts) : List EvidenceRef :=
  sortEvidenceRefs <|
    (stage.tasks.filter fun task ↦ task.status = .queued ∨ task.status = .running).map
      fun task ↦ ⟨"task", task.taskID⟩

def staleRevisions (stage : ProgressStageFacts) : List EvidenceRef :=
  sortEvidenceRefs <| stage.staleRevisionIDs.map fun revisionID ↦ ⟨"artifact_revision", revisionID⟩

/-- What is done next with a stage nothing blocks. -/
def action : ProductionStageStatus → Option ProductionAction
  | .planned | .failed | .stale => some .executeStage
  | .running => some .submitReview
  | .awaitingReview => some .reviewStage
  | .approved => some .completeStage
  | .completed | .stopped => none

def eligibleActions (stage : ProgressStageFacts) (blockers : List ProductionBlocker) :
    List EligibleAction :=
  if blockers ≠ [] then []
  else (action stage.status).toList.map fun action ↦
    ⟨action, stage.expectedDelivery.completionCriteria⟩

/-! ## Validation -/

/-- The dependencies of a stage are among `preceding`. -/
def checkDependencies (preceding : List String) (stage : ProgressStageFacts) :
    Except String Unit :=
  checkDistinct id
    (fun dependency ↦
      if !validProgressIdentity dependency 120 || dependency == stage.stageKey then
        .error errProductionProgressInvalid
      else .ok ())
    errProductionProgressInvalid
    (fun dependency ↦
      if dependency ∉ preceding then .error errProductionProgressInvalid else .ok ())
    [] stage.dependsOnStageKeys

/-- The tasks, billings and revisions of a stage. -/
def checkEvidence (stage : ProgressStageFacts) : Except String Unit :=
  if !(stage.tasks.all fun task ↦ validProgressIdentity task.taskID 80 &&
        trimSpace task.billingOrderID == task.billingOrderID &&
        task.billingOrderID.utf8ByteSize ≤ 80) ||
      !(stage.billings.all fun billing ↦ validProgressIdentity billing.billingOrderID 80) ||
      !(stage.staleRevisionIDs.all fun revisionID ↦ validProgressIdentity revisionID 80) then
    .error errProductionProgressInvalid
  else .ok ()

/-- What is checked of a stage after those with the keys `preceding`. -/
def validate (preceding : List String) (stage : ProgressStageFacts) : Except String Unit :=
  if !validProgressIdentity stage.stageKey 120 ||
      trimSpace stage.reviewRevisionID != stage.reviewRevisionID ||
      stage.reviewRevisionID.utf8ByteSize > 80 || !stage.expectedDelivery.validate.isOk then
    .error errProductionProgressInvalid
  else if stage.stageKey ∈ preceding then .error errProductionProgressInvalid
  else do
    stage.checkDependencies preceding
    stage.checkEvidence

end ProgressStageFacts

/-- The stages are checked in their order. -/
def validateProgressStages (preceding : List String) : List ProgressStageFacts → Except String Unit
  | [] => .ok ()
  | stage :: rest => do
    stage.validate preceding
    validateProgressStages (stage.stageKey :: preceding) rest

/-- The stage with a key is done. -/
def completedStage (stages : List ProgressStageFacts) (stageKey : String) : Bool :=
  stages.any fun stage ↦ stage.stageKey == stageKey && stage.evidenceCompleted

/-- The first stage that is neither stopped nor done. -/
def currentStage (stages : List ProgressStageFacts) : Option ProgressStageFacts :=
  stages.find? fun stage ↦ !(stage.status = .stopped || completedStage stages stage.stageKey)

/-- What is reported of stages that passed the checks. -/
def progressProjection (facts : ProgressFacts) : NextActionProjection :=
  let projection : NextActionProjection :=
    { graphVersionID := facts.graphVersionID, graphVersion := facts.graphVersion,
      computedAt := facts.computedAt }
  match currentStage facts.stages with
  | none => projection
  | some stage =>
    let blockers := stage.blockers (completedStage facts.stages)
    { projection with
      currentStageKey := some stage.stageKey
      stageStatus := some stage.status
      reviewRevisionID := stage.reviewRevisionID
      blockers
      activeTaskRefs := stage.activeTasks
      staleRevisionRefs := stage.staleRevisions
      eligibleActions := stage.eligibleActions blockers }

def buildProductionProgress (facts : ProgressFacts) : Except String NextActionProjection :=
  if !validProgressIdentity facts.graphVersionID 80 || facts.graphVersion < 1 ||
      facts.computedAt.isNone || facts.stages.isEmpty then
    .error errProductionProgressInvalid
  else do
    validateProgressStages [] facts.stages
    .ok (progressProjection facts)

/-! ## What is stored, and what is to come of it -/

/-- What is stored for a graph: the stages of its draft in their order, with whatever statuses,
tasks and billings they have. -/
structure Stored (draft : ProductionGraphDraft) (facts : ProgressFacts) : Prop where
  graphVersionID : validProgressIdentity facts.graphVersionID 80 = true
  graphVersion : 1 ≤ facts.graphVersion
  computedAt : facts.computedAt ≠ none
  stages : List.Forall₂ (fun (drafted : ProductionStageDraft) (stage : ProgressStageFacts) ↦
    stage.stageKey = drafted.stageKey ∧ stage.dependsOnStageKeys = drafted.dependsOnStageKeys ∧
      stage.expectedDelivery = drafted.expectedDelivery) draft.stages facts.stages
  reviewRevisionID : ∀ stage ∈ facts.stages,
    trimSpace stage.reviewRevisionID = stage.reviewRevisionID ∧
      stage.reviewRevisionID.utf8ByteSize ≤ 80
  tasks : ∀ stage ∈ facts.stages, ∀ task ∈ stage.tasks,
    validProgressIdentity task.taskID 80 = true ∧
      trimSpace task.billingOrderID = task.billingOrderID ∧ task.billingOrderID.utf8ByteSize ≤ 80
  billings : ∀ stage ∈ facts.stages, ∀ billing ∈ stage.billings,
    validProgressIdentity billing.billingOrderID 80 = true
  staleRevisionIDs : ∀ stage ∈ facts.stages, ∀ revisionID ∈ stage.staleRevisionIDs,
    validProgressIdentity revisionID 80 = true

/-- It is not decided yet whether the billing is paid. -/
def BillingEvidence.unresolved (billing : BillingEvidence) : Bool :=
  match billing.status with
  | .reserved | .running | .uncertain => true
  | .settled | .refunded => false

/-- **There is a way on.** -/
def OffersNext (facts : ProgressFacts) : Prop :=
  ∃ projection, buildProductionProgress facts = .ok projection ∧
    (projection.currentStageKey ≠ none →
      projection.blockers ≠ [] ∨ projection.eligibleActions ≠ []) ∧
    (projection.eligibleActions ≠ [] → ∃ stage ∈ facts.stages,
      projection.currentStageKey = some stage.stageKey ∧
        (∀ task ∈ stage.tasks, task.status ≠ .queued ∧ task.status ≠ .running) ∧
        (∀ billing ∈ stage.billings, billing.unresolved = false) ∧
        ∀ dependency ∈ stage.dependsOnStageKeys, completedStage facts.stages dependency = true)

/-- Each stage comes after those it depends on. -/
def DependenciesFirst (preceding : List String) : List ProductionStageDraft → Prop
  | [] => True
  | stage :: rest =>
    (∀ dependency ∈ stage.dependsOnStageKeys, dependency ∈ preceding) ∧
      DependenciesFirst (stage.stageKey :: preceding) rest

/-- A stage that was completed and delivered and one of whose billings was refunded. -/
structure Refunded (stages : List ProgressStageFacts) (stage : ProgressStageFacts) : Prop where
  status : stage.status = .completed
  dependencies : ∀ dependency ∈ stage.dependsOnStageKeys, completedStage stages dependency = true
  delivered : stage.deliveryVerification.status = .satisfied
  tasks : ∀ task ∈ stage.tasks, task.status = .succeeded
  billings : ∀ billing ∈ stage.billings, billing.status = .settled ∨ billing.status = .refunded
  refunded : ∃ billing ∈ stage.billings, billing.status = .refunded

/-- The first stage that is neither stopped nor done is a refunded one. -/
def RefundedComesFirst (stages : List ProgressStageFacts) : Prop :=
  ∃ before stage after, stages = before ++ stage :: after ∧
    (∀ earlier ∈ before, earlier.status = .stopped ∨ earlier.evidenceCompleted = true) ∧
      Refunded stages stage

/-! ## One stage -/

section Stage

variable {stage : ProgressStageFacts} {completed : String → Bool}

theorem appendProductionBlocker_ne_nil (blockers : List ProductionBlocker) (code : BlockerCode)
    (ref : EvidenceRef) : appendProductionBlocker blockers code ref ≠ [] := by
  cases blockers with
  | nil => exact List.cons_ne_nil _ _
  | cons blocker rest =>
    rw [appendProductionBlocker]
    split_ifs <;> exact List.cons_ne_nil _ _

theorem foldl_appendProductionBlocker_ne_nil {findings : ProgressStageFacts.Findings}
    {blockers : List ProductionBlocker} (h : blockers ≠ []) :
    findings.foldl (fun blockers finding ↦ appendProductionBlocker blockers finding.1 finding.2)
      blockers ≠ [] := by
  induction findings generalizing blockers with
  | nil => exact h
  | cons finding findings ih => exact ih (appendProductionBlocker_ne_nil _ _ _)

namespace ProgressStageFacts

theorem blockers_eq_nil : stage.blockers completed = [] ↔ stage.findings completed = [] := by
  rw [blockers]
  cases stage.findings completed with
  | nil => exact iff_of_true rfl rfl
  | cons finding findings =>
    refine iff_of_false ?_ (List.cons_ne_nil _ _)
    rw [List.foldl_cons]
    exact foldl_appendProductionBlocker_ne_nil (appendProductionBlocker_ne_nil _ _ _)

theorem resourceEvidenceRefs_ne_nil (stage : ProgressStageFacts) (kind : ArtifactKind) :
    stage.resourceEvidenceRefs kind ≠ [] := by
  rw [resourceEvidenceRefs]
  intro h
  split at h
  · cases h
  · exact absurd h ‹_›

theorem criterionFindings_ne_nil (criterion : DeliveryCriterion) :
    stage.criterionFindings criterion ≠ [] := by
  rw [criterionFindings]
  split_ifs with hresource
  · rw [Ne, List.map_eq_nil_iff]
    exact stage.resourceEvidenceRefs_ne_nil _
  · exact List.cons_ne_nil _ _

/-- Where evidence is required, its absence is a finding. -/
theorem deliveryFindings_eq_nil :
    stage.deliveryFindings = [] ↔ (requiresDeliveryEvidence stage.status = true →
      stage.deliveryVerification.status = .satisfied) := by
  rw [deliveryFindings]
  by_cases hrequired : requiresDeliveryEvidence stage.status = true
  · rw [if_pos hrequired, List.append_eq_nil_iff, List.flatMap_eq_nil_iff]
    simp only [criterionFindings_ne_nil, hrequired, forall_const, imp_false]
    have hcases := verifyDelivery_cases stage.expectedDelivery stage.progressEvidence
    rw [← deliveryVerification] at hcases
    rcases hcases with ⟨hstatus, hmissing⟩ | ⟨hstatus, hmissing⟩ | hstatus
    · simp [hstatus, hmissing]
    · have hsome := List.exists_mem_of_ne_nil _ hmissing
      simp [hstatus, hsome]
    · simp [hstatus]
  · rw [if_neg hrequired]
    exact iff_of_true rfl fun h ↦ absurd h hrequired

theorem billingFinding_eq_none {billing : BillingEvidence} :
    billingFinding billing = none ↔ billing.unresolved = false := by
  rw [billingFinding, BillingEvidence.unresolved]
  cases billing.status <;> simp

/-- Nothing blocks a stage: the parts it takes. -/
theorem findings_eq_nil :
    stage.findings completed = [] ↔
      (∀ dependency ∈ stage.dependsOnStageKeys, completed dependency = true) ∧
        (∀ task ∈ stage.tasks, stage.taskFinding task = none) ∧
        (∀ billing ∈ stage.billings, billing.unresolved = false) ∧
        stage.deliveryFindings = [] ∧ stage.reviewFindings = [] := by
  simp [findings, dependencyFindings, billingFinding_eq_none]

/-- An active task blocks its stage. -/
theorem not_active_of_taskFinding {task : TaskEvidence} (h : stage.taskFinding task = none) :
    task.status ≠ .queued ∧ task.status ≠ .running := by
  rw [taskFinding] at h
  cases htask : task.status with
  | queued | running => rw [htask] at h; cases h
  | succeeded | failed | cancelled => exact ⟨nofun, nofun⟩

/-- Only succeeded tasks leave a completed stage unblocked. -/
theorem taskFinding_eq_none {task : TaskEvidence} (hstatus : stage.status = .completed) :
    stage.taskFinding task = none ↔ task.status = .succeeded := by
  rw [taskFinding, hstatus]
  cases task.status <;> simp

theorem eligibleActions_ne_nil {blockers : List ProductionBlocker} :
    stage.eligibleActions blockers ≠ [] ↔ blockers = [] ∧ action stage.status ≠ none := by
  rw [eligibleActions]
  by_cases hblockers : blockers = []
  · rw [if_neg (not_not.mpr hblockers), Ne, List.map_eq_nil_iff]
    cases action stage.status <;> simp [hblockers]
  · rw [if_pos hblockers]
    exact iff_of_false (not_not.mpr rfl) fun h ↦ hblockers h.1

/-- **Where there is neither a blocker nor an action**, the stage is done but for a refund. -/
theorem idle_iff {stages : List ProgressStageFacts} (hstopped : stage.status ≠ .stopped)
    (hdone : stage.evidenceCompleted = false) :
    (stage.findings (completedStage stages) = [] ∧ action stage.status = none) ↔
      Refunded stages stage := by
  constructor
  · rintro ⟨hnone, haction⟩
    have hstatus : stage.status = .completed := by
      revert haction hstopped
      cases stage.status <;> simp [action]
    obtain ⟨hdependencies, htasks, hbillings, hdelivery, -⟩ := findings_eq_nil.mp hnone
    have hdelivered := deliveryFindings_eq_nil.mp hdelivery (by rw [hstatus]; rfl)
    have htasks : ∀ task ∈ stage.tasks, task.status = .succeeded := fun task htask ↦
      (taskFinding_eq_none hstatus).mp (htasks task htask)
    have hbillings : ∀ billing ∈ stage.billings,
        billing.status = .settled ∨ billing.status = .refunded := by
      intro billing hbilling
      have h := hbillings billing hbilling
      revert h
      rw [BillingEvidence.unresolved]
      cases billing.status <;> simp
    refine ⟨hstatus, hdependencies, hdelivered, htasks, hbillings, ?_⟩
    by_contra hrefunded
    have hsettled : ∀ billing ∈ stage.billings, billing.status = .settled := fun billing hbilling ↦
      (hbillings billing hbilling).resolve_right fun h ↦ hrefunded ⟨billing, hbilling, h⟩
    have hcompleted : stage.evidenceCompleted = true := by
      rw [evidenceCompleted, if_neg (by simp [hstatus, hdelivered]), Bool.and_eq_true,
        List.all_eq_true, List.all_eq_true]
      exact ⟨fun task htask ↦ decide_eq_true (htasks task htask),
        fun billing hbilling ↦ decide_eq_true (hsettled billing hbilling)⟩
    rw [hdone] at hcompleted
    cases hcompleted
  · intro h
    refine ⟨findings_eq_nil.mpr ⟨h.dependencies, fun task htask ↦
      (taskFinding_eq_none h.status).mpr (h.tasks task htask), fun billing hbilling ↦ ?_,
      deliveryFindings_eq_nil.mpr fun _ ↦ h.delivered, ?_⟩, by rw [h.status]; rfl⟩
    · rw [BillingEvidence.unresolved]
      rcases h.billings billing hbilling with h | h <;> rw [h]
    · rw [reviewFindings, h.status]
      rfl

end ProgressStageFacts

end Stage

/-! ## The checks -/

theorem validKey_iff {key : String} : validKey key = true ↔ validProgressIdentity key 120 = true := by
  simp [validKey, validProgressIdentity, and_left_comm, and_assoc]

/-- What a stage has to be whatever came before it. -/
structure ProgressStageFacts.Valid (stage : ProgressStageFacts) : Prop where
  stageKey : validProgressIdentity stage.stageKey 120 = true
  reviewRevisionID : trimSpace stage.reviewRevisionID = stage.reviewRevisionID ∧
    stage.reviewRevisionID.utf8ByteSize ≤ 80
  expectedDelivery : stage.expectedDelivery.validate = .ok ()
  dependencies : ∀ dependency ∈ stage.dependsOnStageKeys,
    validProgressIdentity dependency 120 = true ∧ dependency ≠ stage.stageKey
  distinct : stage.dependsOnStageKeys.Nodup
  tasks : ∀ task ∈ stage.tasks, validProgressIdentity task.taskID 80 = true ∧
    trimSpace task.billingOrderID = task.billingOrderID ∧ task.billingOrderID.utf8ByteSize ≤ 80
  billings : ∀ billing ∈ stage.billings, validProgressIdentity billing.billingOrderID 80 = true
  staleRevisionIDs : ∀ revisionID ∈ stage.staleRevisionIDs,
    validProgressIdentity revisionID 80 = true

namespace ProgressStageFacts

variable {preceding : List String} {stage : ProgressStageFacts}

theorem Valid.checkDependencies_eq_ok (hvalid : stage.Valid) :
    stage.checkDependencies preceding = .ok () ↔
      ∀ dependency ∈ stage.dependsOnStageKeys, dependency ∈ preceding := by
  rw [checkDependencies, checkDistinct_eq_ok]
  simp only [refuse_eq_ok, not_not, and_true, List.map_id_fun, id_eq, List.not_mem_nil,
    not_false_eq_true, implies_true, hvalid.distinct]
  refine ⟨fun h dependency hdependency ↦ (h dependency hdependency).2,
    fun h dependency hdependency ↦ ⟨?_, h dependency hdependency⟩⟩
  have hvalid := hvalid.dependencies dependency hdependency
  simp [hvalid]

theorem Valid.checkEvidence_eq_ok (hvalid : stage.Valid) : stage.checkEvidence = .ok () := by
  have hevidence : (stage.tasks.all fun task ↦ validProgressIdentity task.taskID 80 &&
        trimSpace task.billingOrderID == task.billingOrderID &&
        task.billingOrderID.utf8ByteSize ≤ 80) = true ∧
      (stage.billings.all fun billing ↦ validProgressIdentity billing.billingOrderID 80) = true ∧
      (stage.staleRevisionIDs.all fun revisionID ↦ validProgressIdentity revisionID 80) = true := by
    simp only [List.all_eq_true, Bool.and_eq_true, beq_iff_eq, decide_eq_true_eq, and_assoc]
    exact ⟨hvalid.tasks, hvalid.billings, hvalid.staleRevisionIDs⟩
  rw [checkEvidence, hevidence.1, hevidence.2.1, hevidence.2.2]
  rfl

theorem Valid.validate_eq_ok (hvalid : stage.Valid) :
    stage.validate preceding = .ok () ↔ stage.stageKey ∉ preceding ∧
      ∀ dependency ∈ stage.dependsOnStageKeys, dependency ∈ preceding := by
  have hreview := hvalid.reviewRevisionID
  rw [validate, refuse_eq_ok, refuse_eq_ok, bind_eq_ok]
  simp only [hvalid.checkDependencies_eq_ok, hvalid.checkEvidence_eq_ok, hvalid.stageKey,
    isOk_iff.mpr hvalid.expectedDelivery, hreview.1]
  have hsize : ¬stage.reviewRevisionID.utf8ByteSize > 80 := Nat.not_lt.mpr hreview.2
  simp [hsize]

end ProgressStageFacts

theorem exists_of_forall₂ {α β : Type} {R : α → β → Prop} {as : List α} {bs : List β}
    (h : List.Forall₂ R as bs) {b : β} (hb : b ∈ bs) : ∃ a ∈ as, R a b := by
  induction h with
  | nil => cases hb
  | @cons a _ as _ hab _ ih =>
    rcases List.mem_cons.mp hb with rfl | hb
    · exact ⟨a, .head _, hab⟩
    · obtain ⟨a', ha', hab'⟩ := ih hb
      exact ⟨a', .tail _ ha', hab'⟩

section Stages

variable {draft : ProductionGraphDraft} {facts : ProgressFacts}

theorem Stored.stageKeys (h : Stored draft facts) :
    facts.stages.map (·.stageKey) = draft.stageKeys := by
  have hkeys : List.Forall₂ (fun (drafted : ProductionStageDraft) (stage : ProgressStageFacts) ↦
      stage.stageKey = drafted.stageKey) draft.stages facts.stages := h.stages.imp fun _ _ h ↦ h.1
  rw [ProductionGraphDraft.stageKeys, ← List.forall₂_eq_eq_eq, List.forall₂_map_left_iff,
    List.forall₂_map_right_iff]
  exact hkeys.flip

theorem Stored.facts_valid (h : Stored draft facts) (hwell : draft.WellFormed) :
    ¬(!validProgressIdentity facts.graphVersionID 80 || facts.graphVersion < 1 ||
      facts.computedAt.isNone || facts.stages.isEmpty) = true := by
  have hstages : facts.stages ≠ [] := by
    rintro hnil
    have hlength := h.stages.length_eq
    rw [hnil, List.length_nil] at hlength
    exact absurd hlength hwell.stageCount.1.ne'
  have hversion := h.graphVersion
  simp [h.graphVersionID, h.computedAt, hstages]
  omega

/-- What is stored for an accepted graph is valid, stage by stage. -/
theorem Stored.valid (h : Stored draft facts) (hwell : draft.WellFormed) :
    ∀ stage ∈ facts.stages, stage.Valid := by
  intro stage hstage
  obtain ⟨drafted, hdrafted, hkey, hdependencies, hdelivery⟩ :=
    exists_of_forall₂ h.stages hstage
  have hdrafted' := hwell.stages drafted hdrafted
  refine ⟨?_, h.reviewRevisionID stage hstage, ?_, fun dependency hdependency ↦ ?_, ?_,
    h.tasks stage hstage, h.billings stage hstage, h.staleRevisionIDs stage hstage⟩
  · rw [hkey, ← validKey_iff]
    exact hdrafted'.stageKey
  · rw [hdelivery]
    exact hdrafted'.expectedDelivery
  · rw [hdependencies] at hdependency
    obtain ⟨-, -, hother, hmem⟩ := hwell.dependencies drafted hdrafted dependency hdependency
    obtain ⟨other, hother', rfl⟩ := List.mem_map.mp hmem
    exact ⟨validKey_iff.mp (hwell.stages other hother').stageKey, hkey ▸ hother⟩
  · rw [hdependencies]
    exact hwell.dependenciesDistinct drafted hdrafted

/-- The stages are accepted exactly where each comes after those it depends on. -/
theorem validateProgressStages_eq_ok {drafted : List ProductionStageDraft}
    {stages : List ProgressStageFacts} {preceding : List String}
    (hstages : List.Forall₂ (fun (drafted : ProductionStageDraft) (stage : ProgressStageFacts) ↦
      stage.stageKey = drafted.stageKey ∧ stage.dependsOnStageKeys = drafted.dependsOnStageKeys ∧
        stage.expectedDelivery = drafted.expectedDelivery) drafted stages)
    (hvalid : ∀ stage ∈ stages, stage.Valid) (hnodup : (stages.map (·.stageKey)).Nodup)
    (hnew : ∀ stage ∈ stages, stage.stageKey ∉ preceding) :
    validateProgressStages preceding stages = .ok () ↔ DependenciesFirst preceding drafted := by
  induction hstages generalizing preceding with
  | nil => exact iff_of_true rfl trivial
  | @cons drafted stage after rest hstage _ ih =>
    obtain ⟨hkey, hdependencies, -⟩ := hstage
    rw [List.map_cons, List.nodup_cons] at hnodup
    have hrest : validateProgressStages (stage.stageKey :: preceding) rest = .ok () ↔
        DependenciesFirst (stage.stageKey :: preceding) after := by
      refine ih (fun stage hstage ↦ hvalid stage (.tail _ hstage)) hnodup.2 fun other hother ↦ ?_
      rw [List.mem_cons, not_or]
      exact ⟨fun h ↦ hnodup.1 (h ▸ List.mem_map_of_mem hother), hnew other (.tail _ hother)⟩
    rw [validateProgressStages, bind_eq_ok, DependenciesFirst, ← hkey, ← hdependencies, ← hrest]
    simp only [(hvalid stage (.head _)).validate_eq_ok]
    exact ⟨fun ⟨_, hstage, h⟩ ↦ ⟨hstage.2, h⟩, fun ⟨hstage, h⟩ ↦
      ⟨(), ⟨hnew stage (.head _), hstage⟩, h⟩⟩

theorem completedStage_eq {stages : List ProgressStageFacts} {stage : ProgressStageFacts}
    (hnodup : (stages.map (·.stageKey)).Nodup) (hstage : stage ∈ stages) :
    completedStage stages stage.stageKey = stage.evidenceCompleted := by
  rw [completedStage, Bool.eq_iff_iff, List.any_eq_true]
  constructor
  · rintro ⟨other, hother, h⟩
    rw [Bool.and_eq_true, beq_iff_eq] at h
    rw [← List.inj_on_of_nodup_map hnodup hother hstage h.1]
    exact h.2
  · intro h
    exact ⟨stage, hstage, by rw [h, beq_self_eq_true]; rfl⟩

/-- Which stage is the current one. -/
theorem currentStage_eq_some {stages : List ProgressStageFacts} {stage : ProgressStageFacts}
    (hnodup : (stages.map (·.stageKey)).Nodup) :
    currentStage stages = some stage ↔
      (stage.status ≠ .stopped ∧ stage.evidenceCompleted = false) ∧
        ∃ before after, stages = before ++ stage :: after ∧
          ∀ earlier ∈ before, earlier.status = .stopped ∨ earlier.evidenceCompleted = true := by
  rw [currentStage, List.find?_eq_some_iff_append]
  constructor
  · rintro ⟨hstage, before, after, rfl, hbefore⟩
    rw [completedStage_eq hnodup (by simp)] at hstage
    refine ⟨by simpa using hstage, before, after, rfl, fun earlier hearlier ↦ ?_⟩
    have h := hbefore earlier hearlier
    rw [completedStage_eq hnodup (List.mem_append_left _ hearlier)] at h
    simpa using h
  · rintro ⟨hstage, before, after, rfl, hbefore⟩
    refine ⟨?_, before, after, rfl, fun earlier hearlier ↦ ?_⟩
    · rw [completedStage_eq hnodup (by simp)]
      simpa using hstage
    · rw [completedStage_eq hnodup (List.mem_append_left _ hearlier)]
      simpa using hbefore earlier hearlier

theorem Refunded.not_done {stages : List ProgressStageFacts} {stage : ProgressStageFacts}
    (h : Refunded stages stage) : stage.status ≠ .stopped ∧ stage.evidenceCompleted = false := by
  refine ⟨by rw [h.status]; exact nofun, ?_⟩
  obtain ⟨billing, hbilling, hrefunded⟩ := h.refunded
  rw [ProgressStageFacts.evidenceCompleted, if_neg (by simp [h.status, h.delivered]),
    Bool.and_eq_false_iff]
  refine .inr (List.all_eq_false.mpr ⟨billing, hbilling, ?_⟩)
  simp [hrefunded]

/-- The current stage is the one that comes first. -/
theorem refundedComesFirst_iff {stages : List ProgressStageFacts}
    (hnodup : (stages.map (·.stageKey)).Nodup) :
    RefundedComesFirst stages ↔ ∃ stage, currentStage stages = some stage ∧ Refunded stages stage := by
  simp only [currentStage_eq_some hnodup]
  constructor
  · rintro ⟨before, stage, after, hsplit, hbefore, hrefunded⟩
    exact ⟨stage, ⟨hrefunded.not_done, before, after, hsplit, hbefore⟩, hrefunded⟩
  · rintro ⟨stage, ⟨-, before, after, hsplit, hbefore⟩, hrefunded⟩
    exact ⟨before, stage, after, hsplit, hbefore, hrefunded⟩

/-- **There is a way on exactly where the dependencies come first and the current stage is not a
finished one that was refunded.** -/
theorem offersNext_iff (haccepted : validateProductionGraph draft = .ok ())
    (hstored : Stored draft facts) :
    OffersNext facts ↔
      DependenciesFirst [] draft.stages ∧ ¬RefundedComesFirst facts.stages := by
  have hwell := (validateProductionGraph_eq_ok.mp haccepted).1
  have hnodup : (facts.stages.map (·.stageKey)).Nodup := hstored.stageKeys ▸ hwell.stageKeys
  have hordered := validateProgressStages_eq_ok hstored.stages (hstored.valid hwell) hnodup
    fun _ _ ↦ List.not_mem_nil
  have hbuild : ∀ projection, buildProductionProgress facts = .ok projection ↔
      DependenciesFirst [] draft.stages ∧ projection = progressProjection facts := by
    intro projection
    rw [buildProductionProgress, if_neg (hstored.facts_valid hwell), bind_eq_ok, ← hordered]
    exact ⟨fun ⟨_, hstages, h⟩ ↦ ⟨hstages, (Except.ok.inj h).symm⟩,
      fun ⟨hstages, h⟩ ↦ ⟨(), hstages, h ▸ rfl⟩⟩
  rw [refundedComesFirst_iff hnodup, OffersNext]
  simp only [hbuild, and_assoc, exists_and_left, exists_eq_left]
  refine and_congr_right fun _ ↦ ?_
  rw [progressProjection]
  cases hcurrent : currentStage facts.stages with
  | none => simp
  | some stage =>
    obtain ⟨⟨hstopped, hdone⟩, before, after, hsplit, -⟩ := (currentStage_eq_some hnodup).mp hcurrent
    have hmem : stage ∈ facts.stages := hsplit ▸ List.mem_append_right _ (.head _)
    let blockers := stage.blockers (completedStage facts.stages)
    have hway : (blockers ≠ [] ∨ stage.eligibleActions blockers ≠ []) ↔
        ¬Refunded facts.stages stage := by
      rw [ProgressStageFacts.eligibleActions_ne_nil, ← stage.idle_iff hstopped hdone, Ne,
        ProgressStageFacts.blockers_eq_nil]
      constructor
      · rintro (hfindings | ⟨-, haction⟩) ⟨hnone, hidle⟩
        · exact hfindings hnone
        · exact haction hidle
      · intro hbusy
        by_cases hnone : stage.findings (completedStage facts.stages) = []
        · exact .inr ⟨hnone, fun hidle ↦ hbusy ⟨hnone, hidle⟩⟩
        · exact .inl hnone
    have hwhy : stage.eligibleActions blockers ≠ [] → ∃ other ∈ facts.stages,
        stage.stageKey = other.stageKey ∧
          (∀ task ∈ other.tasks, task.status ≠ .queued ∧ task.status ≠ .running) ∧
          (∀ billing ∈ other.billings, billing.unresolved = false) ∧
          ∀ dependency ∈ other.dependsOnStageKeys, completedStage facts.stages dependency = true := by
      intro haction
      have hnone := (ProgressStageFacts.eligibleActions_ne_nil.mp haction).1
      obtain ⟨hdependencies, htasks, hbillings, -⟩ :=
        ProgressStageFacts.findings_eq_nil.mp (ProgressStageFacts.blockers_eq_nil.mp hnone)
      exact ⟨stage, hmem, rfl, fun task htask ↦
        ProgressStageFacts.not_active_of_taskFinding (htasks task htask), hbillings, hdependencies⟩
    simp only [Option.some.injEq, exists_eq_left', ← hway]
    exact ⟨fun h ↦ h.1 (Option.some_ne_none _), fun h ↦ ⟨fun _ ↦ h, hwhy⟩⟩

end Stages

namespace ProductionProgressExample

open Graph
open ProductionGraphExample (stage answered)

/-- A film that is only a script. -/
def scriptDraft : ProductionGraphDraft := ⟨"film", [stage "script" [] []]⟩

def delivered : DeliveryEvidence := { finalMessage := "the script" }

/-- The script, with a status and with a billing of another. -/
def scriptFacts (status : ProductionStageStatus) (billing : BillingStatus) : ProgressFacts :=
  ⟨"graph", 1, [
    { stageKey := "script", status := status, dependsOnStageKeys := [],
      expectedDelivery := answered, deliveryEvidence := delivered,
      tasks := [⟨"task", .succeeded, "order"⟩], billings := [⟨"order", billing⟩] }], some 1⟩

/-- The storyboard is listed before the script it depends on. -/
def storyboardDraft : ProductionGraphDraft :=
  ⟨"film", [stage "storyboard" ["script"] [], stage "script" [] []]⟩

def storyboardFacts : ProgressFacts :=
  ⟨"graph", 1, [
    { stageKey := "storyboard", status := .planned, dependsOnStageKeys := ["script"],
      expectedDelivery := answered },
    { stageKey := "script", status := .planned, dependsOnStageKeys := [],
      expectedDelivery := answered }], some 1⟩

theorem scriptDraft_accepted : validateProductionGraph scriptDraft = .ok () := by
  have hcheck : scriptDraft.check = .ok () := by decide
  have hedges : scriptDraft.edges = [] := rfl
  have hstageKeys : scriptDraft.stageKeys = ["script"] := rfl
  have hvisited : drain scriptDraft.edges (incoming scriptDraft.edges)
      (scriptDraft.stageKeys.filter fun stageKey ↦ incoming scriptDraft.edges stageKey = 0) 0 = 1 := by
    simp [hedges, hstageKeys, drain, release, next, incoming]
  rw [validateProductionGraph, hcheck]
  exact if_neg (not_not.mpr hvisited)

theorem scriptFacts_stored (status : ProductionStageStatus) (billing : BillingStatus) :
    Stored scriptDraft (scriptFacts status billing) where
  graphVersionID := show validProgressIdentity "graph" 80 = true by decide
  graphVersion := le_refl 1
  computedAt := Option.some_ne_none 1
  stages := .cons ⟨rfl, rfl, rfl⟩ .nil
  reviewRevisionID := by simp [scriptFacts, trimSpace_empty]
  tasks := by
    have htask : validProgressIdentity "task" 80 = true ∧ trimSpace "order" = "order" ∧
        "order".utf8ByteSize ≤ 80 := by decide
    simpa [scriptFacts] using htask
  billings := by
    have hbilling : validProgressIdentity "order" 80 = true := by decide
    simpa [scriptFacts] using hbilling
  staleRevisionIDs := by simp [scriptFacts]

theorem storyboardDraft_accepted : validateProductionGraph storyboardDraft = .ok () := by
  have hcheck : storyboardDraft.check = .ok () := by decide
  have hedges : storyboardDraft.edges = [("script", "storyboard")] := rfl
  have hstageKeys : storyboardDraft.stageKeys = ["storyboard", "script"] := rfl
  have hvisited : drain storyboardDraft.edges (incoming storyboardDraft.edges)
      (storyboardDraft.stageKeys.filter fun stageKey ↦
        incoming storyboardDraft.edges stageKey = 0) 0 = 2 := by
    simp [hedges, hstageKeys, drain, release, next, incoming]
  rw [validateProductionGraph, hcheck]
  exact if_neg (not_not.mpr hvisited)

theorem storyboardFacts_stored : Stored storyboardDraft storyboardFacts where
  graphVersionID := by decide
  graphVersion := by decide
  computedAt := nofun
  stages := .cons ⟨rfl, rfl, rfl⟩ (.cons ⟨rfl, rfl, rfl⟩ .nil)
  reviewRevisionID := by simp [storyboardFacts, trimSpace_empty]
  tasks := by simp [storyboardFacts]
  billings := by simp [storyboardFacts]
  staleRevisionIDs := by simp [storyboardFacts]

end ProductionProgressExample

open ProductionProgressExample in
theorem offersNext_script : OffersNext (scriptFacts .running .settled) :=
  (offersNext_iff scriptDraft_accepted (scriptFacts_stored _ _)).mpr
    ⟨by simp [DependenciesFirst, scriptDraft, ProductionGraphExample.stage], by
      rintro ⟨before, stage, after, hsplit, -, hrefunded⟩
      have hmem : stage ∈ (scriptFacts .running .settled).stages :=
        hsplit ▸ List.mem_append_right _ (.head _)
      cases List.mem_singleton.mp hmem
      exact nomatch hrefunded.status⟩

open ProductionProgressExample in
/-- Nothing is reported to be done about a script that was completed, delivered and refunded, and
nothing at all of a film whose storyboard is listed before its script. -/
theorem exists_not_offersNext :
    (∃ draft facts, validateProductionGraph draft = .ok () ∧ Stored draft facts ∧
        DependenciesFirst [] draft.stages ∧ ¬OffersNext facts) ∧
      ∃ draft facts, validateProductionGraph draft = .ok () ∧ Stored draft facts ∧
        ¬OffersNext facts ∧ buildProductionProgress facts = .error errProductionProgressInvalid := by
  refine ⟨⟨scriptDraft, scriptFacts .completed .refunded, scriptDraft_accepted,
    scriptFacts_stored _ _, ⟨nofun, trivial⟩, ?_⟩, storyboardDraft, storyboardFacts,
    storyboardDraft_accepted, storyboardFacts_stored, ?_⟩
  · rintro ⟨projection, hbuild, hway, -⟩
    have hchecked : validateProgressStages [] (scriptFacts .completed .refunded).stages = .ok () := by
      decide
    rw [buildProductionProgress, if_neg (by decide), hchecked] at hbuild
    cases hbuild
    rcases hway (by decide) with h | h
    · exact h (by decide)
    · exact h (by decide)
  · have hbuild : buildProductionProgress storyboardFacts =
        .error errProductionProgressInvalid := by
      decide
    refine ⟨?_, hbuild⟩
    rintro ⟨projection, hok, -⟩
    rw [hbuild] at hok
    cases hok

end HMaigc.AgentRuntime
