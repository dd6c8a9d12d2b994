import HMaigc.Repository.TaskBilling

/-!
# Creating, claiming, retrying and cancelling tasks

The parts of `repository/repository.go`, `repository/finance.go`, `repository/provider_request.go`
and `repository/watermark_policy.go` that move a task through its life.

* Creating and retrying (`createTaskWithCreditReservation`, `createTaskWithActiveLimit`,
  `retryTaskWithBilling`, `resumeTaskWithUncertainBilling`) all begin with `enforceActiveTaskLimit`,
  which counts the user's active tasks and locks nothing.
* A worker gets hold of a task with `claimNextTask`, which draws a new lease token and raises the
  generation; what it does afterwards is conditional on that lease.
* Cancelling (`cancelTaskIfStatus`) takes the lease away.
* Under its lease a worker reports (`updateTaskProgress`, `updateTaskProviderState`) and ends with
  one of `saveTaskCompletion`, `failClaimedTaskFacts` and, for a task cancelled meanwhile,
  `saveCancelledTaskResultWithOutbox`.
-/

set_option autoImplicit false

namespace HMaigc

open Sql Go

def errActiveTaskLimit : RepoError := .text "active task limit reached"

def errCapabilityTaskLimit : RepoError := .text "capability task limit reached"

def errTaskNotRetryable : RepoError := .text "task is not retryable"

def errProviderCreateStateConflict : RepoError := .text "provider create state conflict"

def errInternalTaskFactConflict : RepoError := .text "internal task fact conflict"

def errProviderCreateUncertain : RepoError := .text "provider create may already have been sent"

/-! ## The active task limit -/

structure ActiveTaskPolicy where
  totalLimit : ℤ
  concurrencyClass : String
  capabilities : List String
  classLimit : ℤ
  unlimited : Bool := false
  billingTeamID : Option String := none

namespace ActiveTaskPolicy

/-- The join of `enforceActiveTaskLimit`: the task has an order of the same user, paid by the
policy's team. -/
def paidBy (task : Task) (teamID : String) (s : Store) : Bool :=
  (s.lookup (.billingOrder task.billingOrderID)).any fun o ↦
    o.userID = task.userID && o.teamID = trimSpace teamID

/-- The tasks a policy counts for a user. -/
def counts (policy : ActiveTaskPolicy) (userID : String) (s : Store) : ∀ k, Row k → Bool
  | .task _, t =>
    t.userID = userID && t.status.isActive &&
      policy.billingTeamID.all fun teamID ↦ paidBy t teamID s
  | _, _ => false

/-- The tasks a policy counts for a user in the policy's class. -/
def countsInClass (policy : ActiveTaskPolicy) (userID : String) (s : Store) :
    ∀ k, Row k → Bool
  | .task id, t => policy.counts userID s (.task id) t && policy.capabilities.contains t.capability
  | _, _ => false

/-- The number of active tasks of a user. -/
def total (policy : ActiveTaskPolicy) (userID : String) (s : Store) : ℕ :=
  s.count (policy.counts userID s)

/-- The number of active tasks of a user in the policy's class. -/
def inClass (policy : ActiveTaskPolicy) (userID : String) (s : Store) : ℕ :=
  s.count (policy.countsInClass userID s)

end ActiveTaskPolicy

/-- `enforceActiveTaskLimit`. -/
def enforceActiveTaskLimit (userID : String) (policy : ActiveTaskPolicy) : DbTx Unit := do
  if policy.unlimited then
    return
  let count ← Prog.query (policy.total userID)
  if (count : ℤ) ≥ policy.totalLimit then
    throw errActiveTaskLimit
  if isBlank policy.concurrencyClass || policy.capabilities.isEmpty || policy.classLimit ≤ 0 then
    throw (RepoError.text "active task concurrency policy is invalid")
  let capabilityCount ← Prog.query (policy.inClass userID)
  if (capabilityCount : ℤ) ≥ policy.classLimit then
    throw errCapabilityTaskLimit

/-! ## Freezing the provider runtime and the watermark policy -/

/-- The healthy runtimes of a provider credential: an enabled account, an active endpoint version
and an active credential version. -/
def healthyRuntimes (credentialID : String) (s : Store) : List ProviderTaskRuntime :=
  match s.lookup (RowKey.providerCredential credentialID) with
  | some credential =>
    if credential.enabled ∧ credential.healthStatus = "healthy" ∧
        (s.lookup (.providerAccount credential.providerAccountID)).any (·.enabled) then do
      let endpointID ← s.select fun
        | .providerEndpointVersion id, e =>
          if e.providerAccountID = credential.providerAccountID ∧ e.status = "active" then some id
          else none
        | _, _ => none
      let versionID ← s.select fun
        | .providerCredentialVersion id, v =>
          if v.providerCredentialID = credentialID ∧ v.status = "active" then some id else none
        | _, _ => none
      return ⟨credential.providerAccountID, endpointID, versionID⟩
    else []
  | none => []

/-- `freezeProviderTaskRuntimeTx`, returning the runtime the task gets. -/
def freezeProviderTaskRuntimeTx (current : ProviderTaskRuntime) (channelModelID : String) :
    DbTx ProviderTaskRuntime := do
  let channelModel ← first (.channelModel channelModelID)
  -- a soft-deleted model is not found
  if channelModel.deleted then
    throw RepoError.recordNotFound
  if channelModel.providerCredentialID = "" then
    return current
  let some runtime ← Prog.query fun v ↦ (healthyRuntimes channelModel.providerCredentialID v).head?
    | throw (RepoError.text "provider runtime is unavailable: record not found")
  return runtime

def policyKindAIWatermark : String := "ai_watermark"

/-- `freezeTaskWatermarkTx`, returning the watermark the task gets. -/
def freezeTaskWatermarkTx (userID capability : String) : DbTx Watermark := do
  let fallback : Watermark := { capability := capability }
  if capability = "unsupported" ∨ capability = "not_applicable" then
    return fallback
  if capability ≠ "controlled" then
    throw (RepoError.text ("unknown watermark capability \"" ++ capability ++ "\""))
  let marked : Watermark :=
    { fallback with
      directive := .withWatermark
      parameterApplied := true
      parameterValue := some true }
  let head ← Prog.query fun v ↦ v.lookup (.policyPublicationHead policyKindAIWatermark)
  match head with
  | none => return marked
  | some head =>
    if isBlank head.currentPublicationID then
      return marked
    let some _ ← Prog.query fun v ↦
        (v.lookup (.policyPublication head.currentPublicationID)).filter fun p ↦
          p.kind = policyKindAIWatermark && p.version = head.currentVersion
      | throw (RepoError.text ("freeze current watermark publication " ++
          head.currentPublicationID ++ ": record not found"))
    let preference ← Prog.query fun v ↦ v.lookup (.userWatermarkPreference userID)
    match preference with
    | none => return marked
    | some preference =>
      if !preference.removeWatermark ||
          preference.acceptedPublicationID ≠ head.currentPublicationID then
        return marked
      return { marked with
        directive := .withoutWatermark
        parameterValue := some false
        policyPublicationID := head.currentPublicationID
        policyVersion := head.currentVersion }

/-- `createFrozenWatermarkTaskLogTx`. -/
def createFrozenWatermarkTaskLogTx (logID taskID userID : String) (watermark : Watermark) :
    DbTx Unit :=
  Prog.create (.taskLog logID)
    { userID := userID, taskID := taskID, level := "info"
      message := "水印执行指令已冻结", payload := watermark } .duplicatedKey

/-! ## Creating -/

/-- The identifiers the creation of a task draws. -/
structure CreationIDs where
  order : String
  entry : String
  log : String

/-- `tx.Create(task)`. -/
def createTask (id : String) (task : Task) : DbTx Unit :=
  Prog.create (.task id) task .duplicatedKey

/-- The order with the provider versions of the task's runtime. -/
def BillingOrder.freeze (order : BillingOrder) (runtime : ProviderTaskRuntime) : BillingOrder :=
  { order with
    providerEndpointVersionID := runtime.providerEndpointVersionID
    providerCredentialVersionID := runtime.providerCredentialVersionID }

@[simp] theorem BillingOrder.freeze_status (order : BillingOrder) (runtime : ProviderTaskRuntime) :
    (order.freeze runtime).status = order.status := rfl

@[simp] theorem BillingOrder.freeze_amount (order : BillingOrder) (runtime : ProviderTaskRuntime) :
    (order.freeze runtime).amountMicrocredits = order.amountMicrocredits := rfl

@[simp] theorem BillingOrder.freeze_payer (order : BillingOrder) (runtime : ProviderTaskRuntime) :
    (order.freeze runtime).payer = order.payer := rfl

/-- `CreateTaskWithCreditReservation`. -/
def createTaskWithCreditReservation (taskID : String) (task : Task) (order : BillingOrder)
    (policy : ActiveTaskPolicy) (watermark : String) (month : Month) (ids : CreationIDs) :
    DbTx Unit := do
  enforceActiveTaskLimit task.userID policy
  let runtime ← freezeProviderTaskRuntimeTx task.runtime order.channelModelID
  -- the versions compared by the source have just been copied, which leaves the task id
  if order.billingMode = "token_usage" ∧ order.taskID ≠ taskID then
    throw (RepoError.text "token billing runtime does not match frozen task runtime")
  let frozen ← freezeTaskWatermarkTx task.userID watermark
  reserveBillingOrder ids.order (order.freeze runtime) month ids.entry
  createTask taskID { task with runtime := runtime, watermark := frozen }
  createFrozenWatermarkTaskLogTx ids.log taskID task.userID frozen

/-- `CreateTaskWithActiveLimit`. -/
def createTaskWithActiveLimit (taskID : String) (task : Task) (policy : ActiveTaskPolicy)
    (watermark : String) (ids : CreationIDs) : DbTx Unit := do
  enforceActiveTaskLimit task.userID policy
  let frozen ← freezeTaskWatermarkTx task.userID watermark
  createTask taskID { task with watermark := frozen }
  createFrozenWatermarkTaskLogTx ids.log taskID task.userID frozen

/-! ## Retrying -/

/-- The statuses a task is retried from. -/
def TaskStatus.isRetryable : TaskStatus → Bool
  | .failed | .cancelled => true
  | .queued | .running | .succeeded => false

/-- The columns a retry and a resumption both reset. -/
def Task.requeue (task : Task) (stage : String) (progress : ℤ) : Task :=
  { task.dropLease with
    status := .queued
    stage := stage
    progress := progress
    error := ""
    resultJSON := ""
    startedAt := none
    completedAt := none
    nextPollAt := none
    cancelRequestedAt := none
    cancelReasonCode := "" }

/-- The columns `RetryTaskWithBilling` sets; with an order, the task is billed to it. -/
def Task.retry (task : Task) (watermark : Watermark)
    (order : Option (String × BillingOrder × ProviderTaskRuntime)) : Task :=
  { task.requeue "等待队列调度" 5 with
    providerRequestID := ""
    pollStage := ""
    watermark := watermark
    billingOrderID := (order.map (·.1)).getD task.billingOrderID
    capability := (order.map (·.2.1.capability)).getD task.capability
    runtime := (order.map (·.2.2)).getD task.runtime }

/-- The reservation of a retried task, when it is paid for. -/
def reserveForRetry (task : Task) (month : Month) (ids : CreationIDs) :
    Option BillingOrder → DbTx (Option (String × BillingOrder × ProviderTaskRuntime))
  | none => pure none
  | some order => do
    let runtime ← freezeProviderTaskRuntimeTx task.runtime order.channelModelID
    reserveBillingOrder ids.order (order.freeze runtime) month ids.entry
    return some (ids.order, order, runtime)

/-- `RetryTaskWithBilling`. -/
def retryTaskWithBilling (userID taskID : String) (order : Option BillingOrder)
    (policy : ActiveTaskPolicy) (watermark : String) (month : Month) (ids : CreationIDs) :
    DbTx Task := do
  enforceActiveTaskLimit userID policy
  let some task ← Prog.query fun v ↦ (v.lookup (.task taskID)).filter fun t ↦
      t.userID = userID && t.status.isRetryable
    | throw errTaskNotRetryable
  let reserved ← reserveForRetry task month ids order
  let frozen ← freezeTaskWatermarkTx userID watermark
  let updated ← Prog.update (.task taskID) (fun t ↦ t.userID = userID && t.status.isRetryable)
    fun t ↦ .ok (t.retry frozen reserved)
  if updated ≠ 1 then throw errTaskNotRetryable
  let task ← first (.task taskID)
  createFrozenWatermarkTaskLogTx ids.log taskID task.userID task.watermark
  return task

/-- `ResumeTaskWithUncertainBilling`. -/
def resumeTaskWithUncertainBilling (userID taskID : String) (policy : ActiveTaskPolicy) :
    DbTx Task := do
  enforceActiveTaskLimit userID policy
  let task ← firstForUpdate (.task taskID) fun t ↦ t.userID = userID
  if !task.status.isRetryable || isBlank task.providerRequestID || isBlank task.billingOrderID then
    throw errTaskNotRetryable
  let order ← firstForUpdate (.billingOrder task.billingOrderID) fun o ↦
    o.userID = userID && o.taskID = taskID
  if order.status ≠ .uncertain ∨
      trimSpace order.providerRequestID ≠ trimSpace task.providerRequestID then
    throw errBillingStateConflict
  let updated ← Prog.update (.task taskID)
    (fun t ↦ t.userID = userID && t.status.isRetryable &&
      t.providerRequestID = task.providerRequestID)
    fun t ↦ .ok { t.requeue "等待上游结果核对" 35 with pollStage := "provider_resume" }
  if updated ≠ 1 then throw errTaskNotRetryable
  first (.task taskID)

/-! ## Claiming and cancelling -/

/-- A worker may claim the task now: it waits, its worker's lease ran out, or it was cancelled and
its provider request has yet to be looked up. -/
def Task.isClaimable (task : Task) (now : Time) : Bool :=
  let leaseOver := task.leaseExpiresAt.all (· ≤ now)
  (task.cancelRequestedAt.isNone &&
      (task.status = .queued || task.status = .running && leaseOver)) ||
    (task.status = .cancelled && task.cancelRequestedAt.isSome && task.providerRequestID ≠ "" &&
      task.resultJSON = "" && (task.pollStage = "accepted" || task.pollStage = "cancel_reconcile") &&
      task.nextPollAt.all (· ≤ now) && leaseOver)

/-- The columns `ClaimNextTask` sets. -/
def Task.claim (task : Task) (owner token : String) (now expiresAt : Time) : Task :=
  { task with
    status := if task.status = .cancelled then .cancelled else .running
    stage := "后端接管任务"
    progress := 15
    attempts := task.attempts + 1
    startedAt := some (task.startedAt.getD now)
    leaseOwner := owner
    leaseExpiresAt := some expiresAt
    leaseGeneration := task.leaseGeneration + 1
    leaseToken := token }

/-- `ClaimNextTask`.  The search takes the oldest claimable task that nobody has locked
(`SKIP LOCKED`); which one that is depends on the other sessions and is the argument `taskID`. -/
def claimNextTask (taskID owner token : String) (now expiresAt : Time) : DbTx (Option Task) := do
  let found ← Prog.queryForUpdate
    (fun v ↦ if (v.lookup (.task taskID)).any (·.isClaimable now) then [.task taskID] else [])
    fun v ↦ (v.lookup (.task taskID)).filter (·.isClaimable now)
  match found with
  | none => return none
  | some task =>
    let updated ← Prog.update (.task taskID)
      (fun t ↦ t.leaseGeneration = task.leaseGeneration && t.leaseToken = task.leaseToken)
      fun t ↦ .ok (t.claim owner token now expiresAt)
    if updated = 0 then
      return none
    let task ← first (.task taskID)
    return some task

/-- The row is running or cancelled under this lease. -/
def Task.leasedUnder (task : Task) (lease : Lease) : Bool :=
  (task.status = .running || task.status = .cancelled) && task.lease = lease

/-- `RenewTaskLease`. -/
def renewTaskLease (taskID : String) (lease : Lease) (expiresAt : Time) : DbTx Unit := do
  if !lease.isValid then throw errTaskCompletionStateConflict
  let rows ← Prog.update (.task taskID) (·.leasedUnder lease) fun t ↦
    .ok { t with leaseExpiresAt := some expiresAt }
  if rows ≠ 1 then throw errTaskCompletionStateConflict

/-- `ScheduleCancelledTaskReconciliation`. -/
def scheduleCancelledTaskReconciliation (taskID : String) (lease : Lease) (next : Time) :
    DbTx Unit := do
  if !lease.isValid then throw errTaskCompletionStateConflict
  let rows ← Prog.update (.task taskID)
    (fun t ↦ t.status = .cancelled && t.lease = lease && t.providerRequestID ≠ "")
    fun t ↦ .ok { t.dropLease with pollStage := "cancel_reconcile", nextPollAt := some next }
  if rows ≠ 1 then throw errTaskCompletionStateConflict

/-- `ClaimCancelledTaskResult`. -/
def claimCancelledTaskResult (taskID userID : String) (producerGeneration : ℕ)
    (owner token : String) (expiresAt : Time) : DbTx Task := do
  if isBlank taskID || isBlank userID || isBlank owner || producerGeneration = 0 then
    throw errTaskCompletionStateConflict
  let updated ← Prog.update (.task taskID)
    (fun t ↦ t.userID = userID && t.status = .cancelled && t.cancelRequestedAt.isSome &&
      t.resultJSON = "" && t.leaseOwner = "" && t.leaseToken = "" &&
      t.leaseGeneration = producerGeneration + 1)
    fun t ↦ .ok { t with
      leaseOwner := owner
      leaseExpiresAt := some expiresAt
      leaseGeneration := t.leaseGeneration + 1
      leaseToken := token }
  if updated ≠ 1 then throw errTaskCompletionStateConflict
  first (.task taskID)

/-- `UpdateTaskProviderState`. -/
def updateTaskProviderState (taskID : String) (lease : Lease) (providerRequestID pollStage : String)
    (nextPollAt : Option Time) : DbTx Unit := do
  if !lease.isValid then throw errTaskCompletionStateConflict
  let rows ← Prog.update (.task taskID) (·.leasedUnder lease) fun t ↦
    .ok { t with
      pollStage := pollStage
      nextPollAt := nextPollAt
      providerRequestID :=
        if isBlank providerRequestID then t.providerRequestID else trimSpace providerRequestID }
  if rows ≠ 1 then throw errTaskCompletionStateConflict

/-- The columns `CancelTaskIfStatus` sets. -/
def Task.cancel (task : Task) (reasonCode : String) (now : Time) : Task :=
  { task.dropLease with
    status := .cancelled
    stage := "任务已取消"
    completedAt := some now
    cancelRequestedAt := some now
    cancelReasonCode := reasonCode
    pollStage := if task.providerRequestID ≠ "" then "cancel_reconcile" else task.pollStage
    nextPollAt := if task.providerRequestID ≠ "" then some now else task.nextPollAt
    leaseGeneration := task.leaseGeneration + 1 }

/-- `CancelTaskIfStatus`; the result says whether the task was cancelled now. -/
def cancelTaskIfStatus (userID taskID : String) (expected : TaskStatus) (reasonCode : String)
    (now : Time) : DbTx Bool := do
  if isBlank reasonCode || isZero now then
    throw (RepoError.text "取消任务事实无效")
  let rows ← Prog.update (.task taskID) (fun t ↦ t.userID = userID && t.status = expected) fun t ↦
    .ok (t.cancel (trimSpace reasonCode) now)
  return rows = 1

/-! ## What a worker writes under its lease -/

/-- `UpdateTaskProgress`. -/
def updateTaskProgress (taskID : String) (lease : Lease) (stage : String) (progress : ℤ) :
    DbTx Unit := do
  if !lease.isValid then throw errTaskCompletionStateConflict
  let rows ← Prog.update (.task taskID) (·.runsUnder lease) fun t ↦
    .ok { t with stage := stage, progress := progress }
  if rows ≠ 1 then throw errTaskCompletionStateConflict

/-- The columns `SaveTaskCompletion` sets. -/
def Task.complete (row task : Task) : Task :=
  { row.dropLease with
    status := task.status
    stage := task.stage
    progress := task.progress
    resultJSON := task.resultJSON
    inputJSON := task.inputJSON
    completedAt := task.completedAt }

/-- `SaveTaskCompletion`. -/
def saveTaskCompletion (taskID : String) (task : Task) (session : Option (String × Session))
    (message : Option (String × Message)) (results : List (String × TaskResult)) :
    DbTx Unit := do
  if !task.lease.isValid then throw errTaskCompletionStateConflict
  let updated ← Prog.update (.task taskID)
    (fun t ↦ t.userID = task.userID && t.runsUnder task.lease) fun t ↦ .ok (t.complete task)
  if updated ≠ 1 then throw errTaskCompletionStateConflict
  saveSession session
  createMessage message
  createResults results

/-- The columns `SaveCancelledTaskResultWithOutbox` sets. -/
def Task.keepResult (row task : Task) : Task :=
  { row.dropLease with
    stage := "任务已取消（已保留生成结果）"
    progress := 100
    resultJSON := task.resultJSON
    inputJSON := task.inputJSON
    pollStage := "cancel_reconciled"
    nextPollAt := none }

/-- The stored result of a task of some kind; `First` takes the one with the least id. -/
def resultOfKind (taskID kind : String) (s : Store) : Option String :=
  Db.firstBy (fun id id' ↦ id < id') (s.select fun
    | .result id, r => if r.taskID = taskID ∧ r.kind = kind then some id else none
    | _, _ => none)

/-- The result row of `SaveCancelledTaskResultWithOutbox`. -/
def storeLateResult (resultID : String) (result : TaskResult) : DbTx Unit := do
  let existing ← Prog.query (resultOfKind result.taskID result.kind)
  match existing with
  | none => Prog.create (.result resultID) result .duplicatedKey
  | some id => do
    let _ ← Prog.update (.result id) (fun _ ↦ true) fun r ↦
      .ok { r with payload := result.payload, url := result.url }

/-- The order of `SaveCancelledTaskResultWithOutbox`: what a late result costs has to be looked up. -/
def markLateResultUncertain (orderID billingError : String) (now : Time) : DbTx Unit := do
  if orderID ≠ "" then
    let order ← firstForUpdate (.billingOrder orderID)
    if !order.status.isOpen then throw errBillingStateConflict
    let updated ← Prog.update (.billingOrder orderID) (fun o ↦ o.status.isOpen) fun o ↦
      .ok (o.uncertain order billingError now)
    if updated ≠ 1 then throw errBillingStateConflict

/-- `SaveCancelledTaskResultWithOutbox`. -/
def saveCancelledTaskResultWithOutbox (taskID : String) (task : Task) (resultID : String)
    (result : TaskResult) (billingError : String) (outbox : Option TaskOutboxDraft)
    (outboxID : String) (now : Time) : DbTx Unit := do
  if !task.lease.isValid then throw errTaskCompletionStateConflict
  let updated ← Prog.update (.task taskID)
    (fun t ↦ t.userID = task.userID && t.status = .cancelled && t.lease = task.lease)
    fun t ↦ .ok (t.keepResult task)
  if updated ≠ 1 then throw errTaskCompletionStateConflict
  storeLateResult resultID result
  markLateResultUncertain task.billingOrderID billingError now
  enqueueIfAny outboxID taskID outbox now

/-- The columns `FailClaimedTaskFacts` sets. -/
def Task.failFacts (row : Task) (failure : String) (now : Time) : Task :=
  { row.dropLease with
    status := .failed
    stage := "任务执行事实无效"
    error := failure
    completedAt := some now }

/-- `FailClaimedTaskFacts`; `failure` is the text of the error, if there is one. -/
def failClaimedTaskFacts (taskID userID : String) (lease : Lease) (failure : Option String)
    (now : Time) : DbTx Unit := do
  let some failure := failure | throw errInternalTaskFactConflict
  if taskID = "" || userID = "" || !lease.isValid || isZero now then
    throw errInternalTaskFactConflict
  let rows ← Prog.update (.task taskID) (fun t ↦ t.userID = userID && t.runsUnder lease) fun t ↦
    .ok (t.failFacts failure now)
  if rows ≠ 1 then throw errTaskCompletionStateConflict

/-! ## The provider request -/

/-- `BeginProviderCreate`. -/
def beginProviderCreate (taskID : String) (lease : Lease) : DbTx Unit := do
  if !lease.isValid then throw errProviderCreateStateConflict
  let task ← firstForUpdate (.task taskID)
  if !task.runsUnder lease || !isBlank task.providerRequestID then
    throw errProviderCreateStateConflict
  if task.pollStage = "creating" then
    throw errProviderCreateUncertain
  if !isBlank task.pollStage then
    throw errProviderCreateStateConflict
  let updated ← Prog.update (.task taskID)
    (fun t ↦ t.runsUnder lease && t.providerRequestID = "" && t.pollStage = "")
    fun t ↦ .ok { t with pollStage := "creating", nextPollAt := none }
  if updated ≠ 1 then throw errProviderCreateStateConflict

/-- The first transaction of `SaveProviderCall`: the provider's identifier of an accepted request is
stored with the task, under the worker's lease or, when the task has been cancelled meanwhile,
under the generation the cancellation left. -/
def saveProviderCallTx (taskID billingOrderID providerRequestID : String) (lease : Lease)
    (now : Time) : DbTx Unit := do
  if !lease.isValid then throw errProviderCreateStateConflict
  let running ← Prog.update (.task taskID)
    (fun t ↦ t.runsUnder lease && t.pollStage = "creating" && t.providerRequestID = "")
    fun t ↦ .ok { t with
      providerRequestID := trimSpace providerRequestID
      pollStage := "accepted"
      nextPollAt := some (now + second 2) }
  if running ≠ 1 then
    let cancelled ← Prog.update (.task taskID)
      (fun t ↦ t.status = .cancelled && t.cancelRequestedAt.isSome &&
        t.leaseGeneration = lease.generation + 1 && t.leaseOwner = "" && t.leaseToken = "" &&
        t.pollStage = "creating" && t.providerRequestID = "")
      fun t ↦ .ok { t with
        providerRequestID := trimSpace providerRequestID
        pollStage := "cancel_reconcile"
        nextPollAt := some now }
    if cancelled ≠ 1 then throw errProviderCreateStateConflict
  if billingOrderID ≠ "" then
    let _ ← Prog.update (.billingOrder billingOrderID) (fun _ ↦ true) fun o ↦
      .ok (o.noteProviderRequest (trimSpace providerRequestID))

end HMaigc
