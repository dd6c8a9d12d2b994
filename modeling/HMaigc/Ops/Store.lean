import HMaigc.Ops.Journal

/-!
# The controller's store

The controller keeps one row for each operation in a database of its own.  A row is a *projection*
of the facts in the state directory; every update of it names the status, and mostly the stage, it
expects to find, so that an update computed from an older row is refused.
-/

set_option autoImplicit false

namespace HMaigc.Ops

open Go

structure Operation where
  id : String
  action : Action
  targetVersion : String := ""
  currentVersionAtStart : String := ""
  resultVersion : String := ""
  status : OperationStatus
  stage : OperationStage
  phase : String := ""
  runnerVersion : String := ""
  runnerDigest : String := ""
  runnerGeneration : ℕ := 0
  heartbeatAt : Option Time := none
  serviceState : ServiceState
  checkpointSequence : ℕ := 0
  cancelRequestedAt : Option Time := none
  recoveryAction : Option RecoveryAction := none
  controllerVersionAtStart : String := ""
  resultControllerVersion : String := ""
  controllerHandoff : Option ControllerHandoff := none
  warnings : List OperationWarning := []
  errorCode : Option OperationErrorCode := none
  error : String := ""
  actorUserID : String := ""
  actorDisplayName : String := ""
  idempotencyKey : String
  requestHash : String := ""
  createdAt : Time := 0
  startedAt : Option Time := none
  completedAt : Option Time := none
  updatedAt : Time := 0
  deriving DecidableEq, Repr

/-- An operation that is not over. -/
def Operation.isLive (operation : Operation) : Bool := !isTerminalStatus operation.status

/-- The rows, by operation. -/
abbrev Store : Type := AList fun _ : String ↦ Operation

/-- What a statement reports, and the store after it. -/
abbrev Stored (α : Type) : Type := Except OpsError α × Store

/-! ## Texts -/

def phaseForStage : OperationStage → String
  | .accepted => "等待控制器调度"
  | .runnerPreparing => "准备独立 Runner"
  | .onlinePreflight => "在线预检"
  | .publicVerifying => "校验公网静态资源"
  | .quiescing => "停止新写入"
  | .quiescedAudit => "停写后审计"
  | .backingUp => "创建一致性备份"
  | .startingTarget => "启动目标版本"
  | .verifyingTarget => "验证目标版本"
  | .restoringCurrent => "恢复当前版本"
  | .restoringBackup => "恢复已验证备份"
  | .restoringRollbackBackup => "恢复上一版本数据"
  | .committingRelease => "提交发布事实"
  | .controllerHandoff => "切换运维控制器"
  | .completed => "已完成"

def phaseForRecoveryAction : Option RecoveryAction → String
  | some .restoreCurrent => "等待恢复当前版本"
  | some .restoreBackup => "等待恢复已校验备份"
  | some .commitTarget => "等待提交目标版本"
  | some .continueControllerHandoff => "等待继续控制器交接"
  | _ => "等待人工确认恢复动作"

def phaseForResult (status : OperationStatus) (recoveryAction : Option RecoveryAction) : String :=
  match status with
  | .succeeded => "已完成"
  | .cancelled => "已安全停止"
  | .recoveryRequired => phaseForRecoveryAction recoveryAction
  | _ => "执行失败"

/-! ## Errors -/

def errIdempotencyConflict : OpsError := ⟨.idempotencyConflict, "幂等键已用于不同的运维请求"⟩
def errOperationActive : OpsError :=
  ⟨.operationActive, "已有升级、回滚、备份或校验任务正在执行"⟩
def errCancellationNotAllowed : OpsError :=
  ⟨.cancellationNotAllowed, "当前运维任务状态不允许停止"⟩
def errRecoveryNotAllowed : OpsError :=
  ⟨.recoveryNotAllowed, "当前运维任务没有可安全执行的恢复路径"⟩
def errRunnerStartOutcomeUnknown : OpsError :=
  ⟨.runnerStartOutcomeUnknown, "Runner 启动结果无法确认"⟩
def errRecordNotFound : OpsError := errOther "record not found"

/-! ## Queries -/

namespace Store

variable (s : Store)

def operation (operationID : String) : Except OpsError Operation :=
  match s.lookup operationID with
  | some operation => .ok operation
  | none => .error errRecordNotFound

def operationByIdempotencyKey (key : String) : Option Operation :=
  (s.entries.map (·.2)).find? fun operation ↦ operation.idempotencyKey == key

/-- The oldest operation that is not over. -/
def activeOperation : Option Operation :=
  (((s.entries.map (·.2)).filter (·.isLive)).insertionSort (·.createdAt ≤ ·.createdAt)).head?

end Store

/-! ## Statements -/

/-- `UPDATE … WHERE id = ? AND …`; to find no such row is an error. -/
def Store.update (s : Store) (operationID : String) (expected : Operation → Bool)
    (f : Operation → Operation) (message : String) : Stored Unit :=
  match s.lookup operationID with
  | some operation =>
    if expected operation then (.ok (), s.insert operationID (f operation))
    else (.error (errOther message), s)
  | none => (.error (errOther message), s)

/-- The row of an idempotency key, if it is for the same request. -/
def sameRequest (record existing : Operation) : Except OpsError (Operation × Bool) :=
  if existing.requestHash = record.requestHash then .ok (existing, false)
  else .error errIdempotencyConflict

/-- Find the row of an idempotency key or create it.  Besides the key the operation id is unique. -/
def createOrGetOperation (record : Operation) (s : Store) : Stored (Operation × Bool) :=
  match s.operationByIdempotencyKey record.idempotencyKey with
  | some existing => (sameRequest record existing, s)
  | none =>
    match s.lookup record.id with
    | some _ => (.error (errOther "UNIQUE constraint failed: operation_records.id"), s)
    | none => (.ok (record, true), s.insert record.id record)

def operationTargetVersion (request : OperationRequestFile) : String :=
  match request.request.action with
  | .install | .upgrade | .rollback => request.expectedVersion
  | .backup | .verify => ""

/-- The row of a request nothing has happened to yet. -/
def OperationRequestFile.record (request : OperationRequestFile) : Operation where
  id := request.operationID
  action := request.request.action
  targetVersion := operationTargetVersion request
  currentVersionAtStart := request.currentVersion
  status := .queued
  stage := .accepted
  phase := "等待控制器调度"
  serviceState := if request.currentVersion ≠ "" then .currentOnline else .unknown
  controllerVersionAtStart := request.controllerVersionAtStart
  actorUserID := request.request.actorUserID
  actorDisplayName := request.request.actorDisplayName
  idempotencyKey := request.request.idempotencyKey
  requestHash := request.requestHash
  createdAt := request.createdAt
  updatedAt := request.createdAt

def importRequest (request : OperationRequestFile) (s : Store) : Stored (Operation × Bool) :=
  createOrGetOperation request.record s

structure ResolvedRunner where
  version : String
  digest : String
  deriving DecidableEq, Repr

def markRunnerStarted (operationID : String) (runner : ResolvedRunner) (generation : ℕ)
    (now : Time) (s : Store) : Stored Unit :=
  s.update operationID (fun o ↦ o.status == .queued && o.stage == .accepted)
    (fun o ↦ { o with
      status := .running, stage := .runnerPreparing, phase := "独立 Runner 已调度"
      runnerVersion := runner.version, runnerDigest := runner.digest
      runnerGeneration := generation, startedAt := some now, updatedAt := now })
    "运维任务状态已变化，拒绝重复调度 Runner"

def markRunnerStartFailed (operationID message : String) (now : Time) (s : Store) : Stored Unit :=
  s.update operationID (fun o ↦ o.status == .running && o.stage == .runnerPreparing)
    (fun o ↦ { o with
      status := .failed, phase := "Runner 启动失败", errorCode := some .runnerStartFailed
      error := message, completedAt := some now, updatedAt := now })
    "运维任务状态已变化，拒绝覆盖 Runner 启动失败事实"

def validateStatusTransition (source target : OperationStatus) : Except OpsError Unit :=
  if target ∈ allowedStatusTransitions source then .ok ()
  else .error ⟨.invalidStatusTransition, "运维操作状态迁移无效"⟩

def markCancelling (operationID : String) (expectedStatus : OperationStatus) (now : Time)
    (s : Store) : Stored Unit :=
  match validateStatusTransition expectedStatus .cancelling with
  | .error err => (.error err, s)
  | .ok () =>
    s.update operationID (fun o ↦ o.status == expectedStatus)
      (fun o ↦ { o with
        status := .cancelling, phase := "已收到停止请求，等待安全点"
        cancelRequestedAt := some now, updatedAt := now })
      "运维任务状态已变化，拒绝覆盖停止事实"

def markRecovering (operationID : String) (stage : OperationStage) (runner : ResolvedRunner)
    (generation : ℕ) (now : Time) (s : Store) : Stored Unit :=
  s.update operationID (fun o ↦ o.status == .recoveryRequired)
    (fun o ↦ { o with
      status := .recovering, stage := stage, phase := "已验证旧 Runner 停止，正在安全恢复"
      runnerVersion := runner.version, runnerDigest := runner.digest
      runnerGeneration := generation, errorCode := none, error := "", updatedAt := now })
    "运维任务状态已变化，拒绝重复启动恢复 Runner"

def markRecoveryLaunchFailed (operationID : String) (generation : ℕ)
    (recoveryAction : RecoveryAction) (message : String) (now : Time) (s : Store) : Stored Unit :=
  s.update operationID (fun o ↦ o.status == .recovering && o.runnerGeneration == generation)
    (fun o ↦ { o with
      status := .recoveryRequired, phase := "恢复 Runner 启动失败"
      errorCode := some .runnerStartFailed, error := message
      recoveryAction := some recoveryAction, updatedAt := now })
    "运维任务状态已变化，拒绝覆盖恢复启动失败事实"

def markRecoveryRequired (operationID : String) (expectedStatus : OperationStatus)
    (expectedStage : OperationStage) (recoveryAction : Option RecoveryAction) (message : String)
    (now : Time) (s : Store) : Stored Unit :=
  s.update operationID (fun o ↦ o.status == expectedStatus && o.stage == expectedStage)
    (fun o ↦ { o with
      status := .recoveryRequired, phase := phaseForRecoveryAction recoveryAction
      errorCode := some .stateConflict, error := message
      recoveryAction := recoveryAction, updatedAt := now })
    "运维任务状态或阶段已变化，拒绝覆盖恢复事实"

/-- The columns a projection replaces are all but those the row was created with. -/
def projectOperation (operationID : String) (expectedStatus : OperationStatus)
    (expectedStage : OperationStage) (projection : Operation) (s : Store) : Stored Unit :=
  s.update operationID (fun o ↦ o.status == expectedStatus && o.stage == expectedStage)
    (fun o ↦ { projection with
      id := o.id, action := o.action, targetVersion := o.targetVersion
      currentVersionAtStart := o.currentVersionAtStart
      controllerVersionAtStart := o.controllerVersionAtStart
      actorUserID := o.actorUserID, actorDisplayName := o.actorDisplayName
      idempotencyKey := o.idempotencyKey, requestHash := o.requestHash, createdAt := o.createdAt })
    "运维任务状态或阶段已变化，拒绝覆盖投影"

end HMaigc.Ops
