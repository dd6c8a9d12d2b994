import HMaigc.Go.Text
import HMaigc.Keyed.Patch
import HMaigc.Repository.TaskBilling
import Mathlib.Data.List.Sort

/-!
# Disposing of an agent run's tasks

`repository/agent_run_tree.go` and the part of `repository/admin_agent_run_control.go` it uses.
When an agent run is cancelled, or exceeds its deadline, the transaction that records it also fails
the run's tool calls, cancels its specialists, and disposes of every queued or running task of the
run.

The tasks are collected by several queries, each locking the rows it finds.  A task found by several
of them counts as found by the last one (`sortedTargets`), and only the query for vision tasks reads
the column `poll_stage`.
-/

set_option autoImplicit false

namespace HMaigc

open Sql Go

def errAdminAgentRunStateConflict : RepoError := .text "admin agent run state conflict"

def errAdminAgentRunBillingUnresolved : RepoError := .text "admin agent run billing is unresolved"

def errAgentSpecialistRunConflict : RepoError := .text "agent specialist run conflict"

def errProductionStageConflict : RepoError := .text "production stage conflict"

def errArtifactPayloadInvalid : RepoError := .text "artifact payload is invalid"

def agentRunTreeCancelledCode : String := "parent_run_cancelled"

/-! ## Tool calls, specialists and stages -/

/-- The statuses in which a tool call has no result yet. -/
def ToolCallStatus.isOpen : ToolCallStatus → Bool
  | .pending | .waitingApproval | .running => true
  | .succeeded | .failed => false

/-- The columns `cancelAgentToolCallsTx` sets. -/
def AgentToolCall.cancel (call : AgentToolCall) : AgentToolCall :=
  { call with status := .failed, outputJSON := "\x7b\x7d", errorCode := agentRunTreeCancelledCode }

/-- `cancelAgentToolCallsTx`. -/
def cancelAgentToolCallsTx (scope : AgentScope) : DbTx Unit := do
  let _ ← Prog.updateAll fun
    | .agentToolCall _, call =>
      if call.runID = scope.runID ∧ call.status.isOpen then some call.cancel else none
    | _, _ => none

/-- The columns cancelling a specialist sets. -/
def AgentSpecialistRun.cancel (run : AgentSpecialistRun) (now : Time) : AgentSpecialistRun :=
  { run with
    status := .cancelled
    version := run.version + 1
    errorCode := agentRunTreeCancelledCode
    lastHeartbeatAt := some now
    completedAt := some now }

/-- `ORDER BY id ASC`. -/
def idBefore {α : Type} (a b : String × α) : Prop := ¬b.1 < a.1

instance {α : Type} : DecidableRel (@idBefore α) := fun _ _ ↦ inferInstanceAs (Decidable ¬_)

/-- The specialists of the scope that have not ended. -/
def openSpecialists (scope : AgentScope) (s : Store) : List (String × AgentSpecialistRun) :=
  (s.select fun
    | .agentSpecialistRun id, run =>
      if run.scope = scope ∧ run.status.isNonTerminal then some (id, run) else none
    | _, _ => none).insertionSort idBefore

def cancelSpecialists (scope : AgentScope) (now : Time) :
    List (String × AgentSpecialistRun) → DbTx Unit
  | [] => pure ()
  | (id, run) :: runs => do
    let updated ← Prog.update (.agentSpecialistRun id)
      (fun r ↦ r.scope = scope && r.status = run.status && r.version = run.version)
      fun r ↦ .ok (r.cancel now)
    if updated ≠ 1 then throw errAgentSpecialistRunConflict
    cancelSpecialists scope now runs

/-- The statuses a stage keeps. -/
def ProductionStageStatus.isFinal : ProductionStageStatus → Bool
  | .completed | .failed | .stopped | .stale => true
  | .planned | .running | .awaitingReview | .approved => false

/-- The columns stopping a stage sets. -/
def AgentProductionStage.stop (stage : AgentProductionStage) : AgentProductionStage :=
  { stage with
    status := .stopped
    version := stage.version + 1
    lastErrorCode := agentRunTreeCancelledCode }

def stopStages (scope : AgentScope) : List String → DbTx Unit
  | [] => pure ()
  | stageID :: stageIDs => do
    let stage ← firstForUpdate (.agentProductionStage stageID) fun stage ↦ stage.scope = scope
    if stage.status.isFinal then
      stopStages scope stageIDs
    else
      let updated ← Prog.update (.agentProductionStage stageID)
        (fun r ↦ r.scope = scope && r.status = stage.status && r.version = stage.version)
        fun r ↦ .ok r.stop
      if updated ≠ 1 then throw errProductionStageConflict
      stopStages scope stageIDs

/-- `cancelAgentSpecialistLifecyclesTx`. -/
def cancelAgentSpecialistLifecyclesTx (scope : AgentScope) (now : Time) : DbTx Unit := do
  let runs ← Prog.queryForUpdate
    (fun v ↦ (openSpecialists scope v).map fun run ↦ .agentSpecialistRun run.1)
    (openSpecialists scope)
  cancelSpecialists scope now runs
  stopStages scope ((runs.map fun run ↦ run.2.stageID).dedup.insertionSort fun a b ↦ ¬b < a)

/-! ## The tasks of the tree -/

inductive ControlTargetKind where
  | model
  | vision
  | media
  | assembly
  | specialist
  deriving DecidableEq, Repr

/-- `adminAgentRunControlTarget`. -/
structure ControlTarget where
  taskID : String
  kind : ControlTargetKind
  userID : String
  status : TaskStatus
  billingOrderID : String
  providerRequestID : String
  pollStage : String := ""
  deriving DecidableEq, Repr

/-- `MediaAssemblyOperationForRun`; `digest` is the hexadecimal form of the first half of a SHA-256
hash. -/
def mediaAssemblyOperationForRun (digest : String → String) (runID : String) :
    Except RepoError String :=
  if trimSpace runID = runID ∧ runID ≠ "" ∧ runID.utf8ByteSize ≤ 80 then
    .ok ("media_assembly:" ++ digest runID)
  else .error errArtifactPayloadInvalid

/-- A task of a model call of the run. -/
def Task.isModelTask (task : Task) (runID : String) : Bool :=
  task.operation = "agent_model:" ++ runID

def Task.isVisionTask (task : Task) (runID : String) : Bool :=
  task.operation = "agent_vision:" ++ runID && task.type = "agent_vision_analysis" &&
    task.audience = "internal"

/-- A task of an artifact of one of the run's production plans. -/
def isMediaTask (runID taskID : String) (s : Store) : Bool :=
  s.any fun
    | .agentProductionArtifact _, artifact => artifact.taskID = taskID &&
      (s.lookup (.agentProductionPlanVersion artifact.planVersionID)).any (·.createdByRunID = runID)
    | _, _ => false

/-- A media assembly task, as the query of the admin's control selects it. -/
def Task.isAssemblyTask (task : Task) (operation : String) : Bool :=
  task.operation = operation && task.type = "agent_media_assembly" && task.audience = "internal" &&
    task.executionKind = "local_media_assembly"

/-- A media assembly task, as the query of the run tree selects it. -/
def Task.isTreeAssemblyTask (task : Task) (operation : String) (scope : AgentScope) : Bool :=
  task.operation = operation && task.userID = scope.actorUserID &&
    task.projectID = scope.canvasID && task.audience = "internal" &&
    task.executionKind = "local_media_assembly"

/-- The tasks the specialists of the scope, and the billing orders of their calls, are for. -/
def specialistTaskIDs (scope : AgentScope) (s : Store) : List String :=
  s.select fun
    | .agentSpecialistRun _, run =>
      if run.scope = scope ∧ run.taskID ≠ "" then some run.taskID else none
    | .billingOrder _, order =>
      if like ("agent-specialist:" ++ scope.runID ++ ":%").toList order.idempotencyKey.toList ∧
          order.taskID ≠ "" then
        some order.taskID
      else none
    | _, _ => none

/-- A task of one of the specialists, whose identifiers are `taskIDs`. -/
def Task.isSpecialistTask (task : Task) (id : String) (taskIDs : List String)
    (scope : AgentScope) : Bool :=
  id ∈ taskIDs && task.userID = scope.actorUserID

/-- The columns a query selects; `poll` says whether `poll_stage` is one of them. -/
def Task.target (task : Task) (id : String) (kind : ControlTargetKind) (poll : Bool) :
    ControlTarget where
  taskID := id
  kind := kind
  userID := task.userID
  status := task.status
  billingOrderID := task.billingOrderID
  providerRequestID := task.providerRequestID
  pollStage := if poll then task.pollStage else ""

/-- The queued and running tasks a query finds. -/
def activeTargets (kind : ControlTargetKind) (poll : Bool) (which : String → Task → Bool)
    (s : Store) : List ControlTarget :=
  s.select fun
    | .task id, task =>
      if which id task ∧ task.status.isActive then some (task.target id kind poll) else none
    | _, _ => none

/-- `SELECT … FOR UPDATE` of tasks. -/
def selectTargets (kind : ControlTargetKind) (poll : Bool) (which : Store → String → Task → Bool) :
    DbTx (List ControlTarget) :=
  Prog.queryForUpdate
    (fun v ↦ (activeTargets kind poll (which v) v).map fun target ↦ .task target.taskID)
    fun v ↦ activeTargets kind poll (which v) v

/-- The targets of the map `targetByID`, `sort.Slice`d by their tasks. -/
def sortedTargets (targets : List ControlTarget) : List ControlTarget :=
  (Keyed.values ControlTarget.taskID targets).insertionSort fun a b ↦ ¬b.taskID < a.taskID

/-- `loadAdminAgentRunControlTargets`. -/
def loadAdminAgentRunControlTargets (digest : String → String) (runID : String) :
    DbTx (List ControlTarget) := do
  let modelTargets ← selectTargets .model false fun _ _ task ↦ task.isModelTask runID
  let visionTargets ← selectTargets .vision true fun _ _ task ↦ task.isVisionTask runID
  let mediaTargets ← selectTargets .media false fun v id _ ↦ isMediaTask runID id v
  match mediaAssemblyOperationForRun digest runID with
  | .error e => throw e
  | .ok operation =>
    let assemblyTargets ← selectTargets .assembly false fun _ _ task ↦ task.isAssemblyTask operation
    return sortedTargets (modelTargets ++ visionTargets ++ mediaTargets ++ assemblyTargets)

/-- `loadAgentRunTreeControlTargets`. -/
def loadAgentRunTreeControlTargets (digest : String → String) (scope : AgentScope) :
    DbTx (List ControlTarget) := do
  let targets ← loadAdminAgentRunControlTargets digest scope.runID
  match mediaAssemblyOperationForRun digest scope.runID with
  | .error e => throw e
  | .ok operation =>
    let assemblyTargets ← selectTargets .assembly false fun _ _ task ↦
      task.isTreeAssemblyTask operation scope
    let taskIDs ← Prog.query (specialistTaskIDs scope)
    let specialistTargets ← selectTargets .specialist false fun _ id task ↦
      task.isSpecialistTask id taskIDs scope
    return sortedTargets (targets ++ assemblyTargets ++ specialistTargets)

/-! ## Disposing of them -/

/-- Whether a task's provider request was sent, and whether it may have been. -/
structure Submission where
  submitted : Bool
  possibly : Bool
  deriving DecidableEq, Repr

/-- What a target says of it. -/
def ControlTarget.submission (target : ControlTarget) (allowRunningReconciliation : Bool) :
    Submission where
  submitted := !isBlank target.providerRequestID
  possibly := !isBlank target.providerRequestID || !isBlank target.pollStage ||
    (allowRunningReconciliation && target.status = .running)

/-- What the target's order adds. -/
def Submission.withOrder (submission : Submission) (order : BillingOrder) : Submission where
  submitted := submission.submitted || !isBlank order.providerRequestID
  possibly := submission.possibly || submission.submitted || !isBlank order.providerRequestID

/-- `AdminAgentRunTaskDisposition`. -/
structure TaskDisposition where
  taskID : String
  kind : ControlTargetKind
  previousStatus : TaskStatus
  status : TaskStatus
  billingStatus : Option BillingStatus
  providerRequestSubmitted : Bool
  reconciliationPending : Bool
  deriving DecidableEq, Repr

def ControlTarget.disposition (target : ControlTarget) (billingStatus : Option BillingStatus)
    (submission : Submission) : TaskDisposition where
  taskID := target.taskID
  kind := target.kind
  previousStatus := target.status
  status := .cancelled
  billingStatus := billingStatus
  providerRequestSubmitted := submission.submitted
  reconciliationPending := submission.possibly || billingStatus = some .uncertain

/-- The `switch` over the states of the task and of its order. -/
def disposeBillingOrder (target : ControlTarget) (order : BillingOrder) (possibly : Bool)
    (reason entryID : String) (now : Time) : DbTx BillingStatus := do
  if !possibly && target.status = .queued && order.status = .reserved then
    refundBillingOrderTx target.billingOrderID order ("终止未提交的 Agent 任务：" ++ reason) entryID now
    return .refunded
  else if possibly && order.status.isOpen then
    if order.status ≠ .uncertain then
      let updated ← Prog.update (.billingOrder target.billingOrderID)
        (fun o ↦ o.status = order.status)
        fun o ↦ .ok (o.uncertain order "管理员终止已提交的 Agent 任务，费用状态待核对" now)
      if updated ≠ 1 then throw errAdminAgentRunBillingUnresolved
    return .uncertain
  else if !possibly && order.status.isOpen then
    throw errAdminAgentRunBillingUnresolved
  else
    return order.status

/-- What happens to the target's order, if it has one. -/
def disposeTargetBilling (target : ControlTarget) (submission : Submission)
    (reason entryID : String) (now : Time) : DbTx (Option BillingStatus × Submission) := do
  if target.billingOrderID = "" then
    return (none, submission)
  let order ← firstForUpdate (.billingOrder target.billingOrderID) (fun _ ↦ true)
    errAdminAgentRunBillingUnresolved
  if order.userID ≠ target.userID ∨ (order.taskID ≠ "" ∧ order.taskID ≠ target.taskID) then
    throw errAdminAgentRunBillingUnresolved
  let billingStatus ← disposeBillingOrder target order (submission.withOrder order).possibly reason
    entryID now
  return (some billingStatus, submission.withOrder order)

/-- The columns disposing of a task sets. -/
def Task.terminate (task : Task) (possibly : Bool) (now : Time) : Task :=
  { task.dropLease with
    status := .cancelled
    stage := if possibly then "已请求取消上游 Agent 任务，等待结果核对" else "Agent 任务已终止"
    pollStage := if possibly then "cancel_reconcile" else ""
    nextPollAt := if possibly then some now else none
    completedAt := some now
    cancelRequestedAt := some now
    cancelReasonCode := "admin_terminated"
    leaseGeneration := task.leaseGeneration + 1 }

/-- One round of the loop of `disposeAdminAgentRunControlTargets`. -/
def disposeTarget (target : ControlTarget) (reason entryID : String) (now : Time)
    (allowRunningReconciliation : Bool) : DbTx TaskDisposition := do
  let billed ← disposeTargetBilling target (target.submission allowRunningReconciliation) reason
    entryID now
  let updated ← Prog.update (.task target.taskID)
    (fun t ↦ t.userID = target.userID && t.status = target.status)
    fun t ↦ .ok (t.terminate billed.2.possibly now)
  if updated ≠ 1 then throw errAdminAgentRunStateConflict
  return target.disposition billed.1 billed.2

/-- `disposeAdminAgentRunControlTargets`; `entryID taskID` is the identifier drawn for the ledger
entry of a refund. -/
def disposeAdminAgentRunControlTargets (reason : String) (entryID : String → String) (now : Time)
    (allowRunningReconciliation : Bool) :
    List ControlTarget → DbTx (List TaskDisposition × Bool)
  | [] => pure ([], false)
  | target :: targets => do
    let disposition ← disposeTarget target reason (entryID target.taskID) now
      allowRunningReconciliation
    let rest ← disposeAdminAgentRunControlTargets reason entryID now allowRunningReconciliation
      targets
    return (disposition :: rest.1, disposition.reconciliationPending || rest.2)

/-- `cancelAgentRunTreeTx`. -/
def cancelAgentRunTreeTx (digest : String → String) (scope : AgentScope)
    (entryID : String → String) (now : Time) : DbTx Unit := do
  cancelAgentToolCallsTx scope
  cancelAgentSpecialistLifecyclesTx scope now
  let targets ← loadAgentRunTreeControlTargets digest scope
  let _ ← disposeAdminAgentRunControlTargets "父 Agent 运行已终止" entryID now true targets

end HMaigc
