import HMaigc.Repository.TokenBilling

/-!
# Dispatching and finishing billed tasks

`repository/task_billing.go`.  A worker that holds a task's lease starts the paid provider call with
`beginClaimedTokenProviderDispatch` and ends it with one of the two finalizations, which put the
task's terminal status, the billing outcome of its order and the outbox record into one transaction.

The task row is always updated under its lease — owner, generation and token (`Task.heldBy`) — so a
worker whose lease has been taken over changes nothing.
-/

set_option autoImplicit false

namespace HMaigc

open Sql Go

def errTaskCompletionStateConflict : RepoError := .text "task completion state conflict"

def errTaskOutboxConflict : RepoError := .text "task outbox conflict"

def errTaskProviderDispatchConflict : RepoError := .text "task provider dispatch conflict"

/-! ## Leases -/

/-- The lease a worker holds on a task. -/
structure Lease where
  owner : String
  generation : ℕ
  token : String
  deriving DecidableEq, Repr

/-- `validTaskLease`. -/
def Lease.isValid (lease : Lease) : Bool :=
  !isBlank lease.owner && 0 < lease.generation && lease.token.utf8ByteSize = 64

/-- The lease columns of a task. -/
def Task.lease (task : Task) : Lease := ⟨task.leaseOwner, task.leaseGeneration, task.leaseToken⟩

/-- The row is running under this lease. -/
def Task.runsUnder (task : Task) (lease : Lease) : Bool :=
  task.status = .running && task.lease = lease

/-- The lease columns cleared. -/
def Task.dropLease (task : Task) : Task :=
  { task with leaseOwner := "", leaseExpiresAt := none, leaseToken := "" }

/-! ## Starting the provider call -/

/-- The order can be dispatched for the task. -/
def BillingOrder.isDispatchable (order : BillingOrder) (taskID userID : String) : Bool :=
  order.taskID = taskID && order.userID = userID && order.billingMode = "token_usage" &&
    order.status = .reserved && order.providerRequestID = ""

/-- `BeginClaimedTokenProviderDispatch`. -/
def beginClaimedTokenProviderDispatch (taskID : String) (task : Task) (pollStage : String)
    (now : Time) : DbTx Unit := do
  if isBlank taskID || isBlank task.userID || isBlank task.billingOrderID || isBlank pollStage ||
      isZero now || !task.lease.isValid then
    throw errTaskProviderDispatchConflict
  let stored ← firstForUpdate (.task taskID)
    (fun t ↦ t.userID = task.userID && t.runsUnder task.lease) errTaskProviderDispatchConflict
  if stored.billingOrderID ≠ task.billingOrderID ∨ stored.pollStage ≠ "" ∨
      stored.providerRequestID ≠ "" then
    throw errTaskProviderDispatchConflict
  let order ← firstForUpdate (.billingOrder stored.billingOrderID)
  if !order.isDispatchable taskID stored.userID then
    throw errTaskProviderDispatchConflict
  let updatedOrder ← Prog.update (.billingOrder stored.billingOrderID)
    (fun o ↦ o.status = .reserved && o.providerRequestID = "") fun o ↦ .ok (o.start now)
  if updatedOrder ≠ 1 then throw errTaskProviderDispatchConflict
  let updatedTask ← Prog.update (.task taskID)
    (fun t ↦ t.runsUnder stored.lease && t.pollStage = "" && t.providerRequestID = "")
    fun t ↦ .ok { t with pollStage := pollStage }
  if updatedTask ≠ 1 then throw errTaskProviderDispatchConflict

/-! ## The outbox -/

/-- `TaskOutboxDraft`; a zero `AvailableAt` means now. -/
structure TaskOutboxDraft where
  idempotencyKey : String
  eventType : String
  payloadJSON : String
  availableAt : Time := 0

/-- The outbox record with this idempotency key. -/
def taskOutboxByKey (key : String) (s : Store) : Option TaskOutbox :=
  (s.select fun
    | .taskOutbox _, o => if o.idempotencyKey = key then some o else none
    | _, _ => none).head?

/-- The record a draft is stored as. -/
def TaskOutboxDraft.record (draft : TaskOutboxDraft) (taskID : String) (now : Time) :
    TaskOutbox where
  idempotencyKey := trimSpace draft.idempotencyKey
  taskID := trimSpace taskID
  eventType := draft.eventType
  payloadJSON := draft.payloadJSON
  status := .pending
  availableAt := if isZero draft.availableAt then now else draft.availableAt
  createdAt := now

/-- `tx.Clauses(clause.OnConflict{Columns: "idempotency_key", DoNothing: true}).Create(&record)`. -/
def createTaskOutbox (outboxID : String) (record : TaskOutbox) : DbTx ℕ :=
  Prog.createUnlessTaken (.taskOutbox outboxID) record .duplicatedKey
    [.index (.taskOutboxIdempotency record.idempotencyKey)]
    fun v ↦ (taskOutboxByKey record.idempotencyKey v).isSome

/-- `enqueueTaskOutboxTx`. -/
def enqueueTaskOutboxTx (outboxID taskID : String) (draft : TaskOutboxDraft) (now : Time) :
    DbTx Unit := do
  if isBlank taskID || isBlank draft.idempotencyKey || draft.eventType = "" ||
      isBlank draft.payloadJSON then
    throw errTaskOutboxConflict
  let record := draft.record taskID now
  let created ← createTaskOutbox outboxID record
  if created = 1 then
    return
  let some existing ← Prog.query (taskOutboxByKey record.idempotencyKey)
    | throw RepoError.recordNotFound
  if existing.taskID ≠ record.taskID ∨ existing.eventType ≠ record.eventType ∨
      existing.payloadJSON ≠ record.payloadJSON then
    throw errTaskOutboxConflict

/-- The optional outbox of a finalization. -/
def enqueueIfAny (outboxID taskID : String) (outbox : Option TaskOutboxDraft) (now : Time) :
    DbTx Unit :=
  match outbox with
  | some draft => enqueueTaskOutboxTx outboxID taskID draft now
  | none => pure ()

/-! ## Finishing successfully -/

inductive CompletedTaskBillingAction where
  | settle
  | settleFromUsage
  | uncertain
  | other (action : String)
  deriving DecidableEq, Repr

structure SucceededTaskFinalization where
  taskID : String
  task : Task
  session : Option (String × Session) := none
  message : Option (String × Message) := none
  results : List (String × TaskResult) := []
  billingAction : CompletedTaskBillingAction
  billingError : String := ""
  reportedTokenUsage : Option TokenUsageFact := none
  responseUsageSettlement : Option ResponseUsageSettlementFact := none
  outbox : Option TaskOutboxDraft := none

/-- The identifiers a finalization draws. -/
structure FinalizationIDs where
  entry : String
  consume : String
  release : String
  outbox : String

/-- The token usage a completion reports must be a real one. -/
def TokenUsageFact.isReportable (usage : TokenUsageFact) : Bool :=
  0 < usage.inputTokens && 0 ≤ usage.cachedTokens && usage.cachedTokens ≤ usage.inputTokens &&
    0 < usage.outputTokens

namespace BillingOrder

/-- The provider request and the reported usage a completion writes on an order that stays
uncertain. -/
def reportCompletion (order : BillingOrder) (providerRequestID : String)
    (usage : Option TokenUsageFact) : BillingOrder :=
  { order with
    providerRequestID :=
      if ¬isBlank providerRequestID then providerRequestID else order.providerRequestID
    inputTokens := (usage.map (·.inputTokens)).getD order.inputTokens
    cachedTokens := (usage.map (·.cachedTokens)).getD order.cachedTokens
    outputTokens := (usage.map (·.outputTokens)).getD order.outputTokens
    tokenUsageStatus := if usage.isSome then "reported" else order.tokenUsageStatus }

@[simp] theorem reportCompletion_status (order : BillingOrder) (providerRequestID : String)
    (usage : Option TokenUsageFact) :
    (order.reportCompletion providerRequestID usage).status = order.status := rfl

@[simp] theorem reportCompletion_amount (order : BillingOrder) (providerRequestID : String)
    (usage : Option TokenUsageFact) :
    (order.reportCompletion providerRequestID usage).amountMicrocredits =
      order.amountMicrocredits := rfl

@[simp] theorem reportCompletion_payer (order : BillingOrder) (providerRequestID : String)
    (usage : Option TokenUsageFact) :
    (order.reportCompletion providerRequestID usage).payer = order.payer := rfl

end BillingOrder

/-- The branch `CompletedTaskBillingUncertain` of `finalizeSucceededBillingTx`. -/
def finalizeUncertainTx (orderID : String) (order : BillingOrder)
    (input : SucceededTaskFinalization) (now : Time) : DbTx Unit := do
  if isBlank input.billingError then
    throw (RepoError.text "uncertain completion billing requires an audit reason")
  if input.reportedTokenUsage.any (!·.isReportable) then
    throw (RepoError.text "reported completion token usage is invalid")
  if order.status = .uncertain then
    -- `Updates(order)` writes back the values of the order as it was read
    let _ ← Prog.update (.billingOrder orderID) (fun o ↦ o.status = .uncertain) fun o ↦
      .ok ((o.reportCompletion input.task.providerRequestID input.reportedTokenUsage).noteError
        input.billingError)
    return
  if order.status ≠ .reserved ∧ order.status ≠ .running then
    throw errBillingStateConflict
  let rows ← Prog.update (.billingOrder orderID)
    (fun o ↦ o.status = .reserved || o.status = .running) fun o ↦
      .ok ((o.uncertain order input.billingError now).reportCompletion
        input.task.providerRequestID input.reportedTokenUsage)
  if rows ≠ 1 then throw errBillingStateConflict

/-- `finalizeSucceededBillingTx`. -/
def finalizeSucceededBillingTx (input : SucceededTaskFinalization) (ids : FinalizationIDs)
    (now : Time) : DbTx Unit := do
  let orderID := input.task.billingOrderID
  if isBlank orderID then
    return
  let order ← firstForUpdate (.billingOrder orderID)
  if order.taskID ≠ "" ∧ order.taskID ≠ input.taskID then
    throw errBillingStateConflict
  match input.billingAction with
  | .settle =>
    if order.billingMode = "token_usage" then
      throw (RepoError.text "token usage billing must be reconciled explicitly")
    -- `New(tx).SettleBillingOrder` runs in a savepoint; its error ends the outer transaction too
    settleBillingOrder orderID input.task.providerRequestID ids.entry now
  | .settleFromUsage =>
    match input.responseUsageSettlement with
    | some fact =>
      if isBlank input.task.providerRequestID ∨
          trimSpace input.task.providerRequestID ≠ trimSpace fact.providerRequestID then
        throw (RepoError.text
          "response usage completion billing requires exact provider request facts")
      settleTokenBillingFromResponseUsageTx orderID fact ids.consume ids.release
    | none =>
      throw (RepoError.text
        "response usage completion billing requires exact provider request facts")
  | .uncertain => finalizeUncertainTx orderID order input now
  | .other action =>
    throw (RepoError.text ("unsupported completed task billing action: " ++ action))

/-- The task columns `FinalizeSucceededTaskAndBilling` sets. -/
def Task.succeed (row task : Task) : Task :=
  { row.dropLease with
    status := task.status
    stage := task.stage
    progress := task.progress
    resultJSON := task.resultJSON
    inputJSON := task.inputJSON
    error := ""
    providerRequestID := task.providerRequestID
    pollStage := task.pollStage
    completedAt := task.completedAt }

/-- `tx.Save` of the session, when there is one. -/
def saveSession : Option (String × Session) → DbTx Unit
  | some (id, session) =>
    Prog.statement (fun _ ↦ []) fun _ ↦ .ok ([⟨.session id, session⟩], ())
  | none => pure ()

def createMessage : Option (String × Message) → DbTx Unit
  | some (id, message) => Prog.create (.message id) message .duplicatedKey
  | none => pure ()

def createResults : List (String × TaskResult) → DbTx Unit
  | [] => pure ()
  | (id, result) :: results => do
    Prog.create (.result id) result .duplicatedKey
    createResults results

/-- What `FinalizeSucceededTaskAndBilling` does after the billing action: the task is finished under
its lease, and what it produced is stored. -/
def completeSucceededTask (input : SucceededTaskFinalization) (ids : FinalizationIDs)
    (now : Time) : DbTx Unit := do
  let updated ← Prog.update (.task input.taskID)
    (fun t ↦ t.userID = input.task.userID && t.runsUnder input.task.lease)
    fun t ↦ .ok (t.succeed input.task)
  if updated ≠ 1 then throw errTaskCompletionStateConflict
  saveSession input.session
  createMessage input.message
  createResults input.results
  enqueueIfAny ids.outbox input.taskID input.outbox now

/-- `FinalizeSucceededTaskAndBilling`. -/
def finalizeSucceededTaskAndBilling (input : SucceededTaskFinalization) (ids : FinalizationIDs)
    (now : Time) : DbTx Unit := do
  if isBlank input.taskID || input.task.status ≠ .succeeded || input.task.completedAt.isNone ||
      !input.task.lease.isValid then
    throw errTaskCompletionStateConflict
  finalizeSucceededBillingTx input ids now
  completeSucceededTask input ids now

/-! ## Finishing with a failure -/

inductive FailedTaskBillingAction where
  | refund
  | uncertain
  | other (action : String)
  deriving DecidableEq, Repr

/-- `finalizeFailedBillingTx`. -/
def finalizeFailedBillingTx (orderID taskID providerRequestID : String)
    (action : FailedTaskBillingAction) (errorText entryID : String) (now : Time) :
    DbTx Unit := do
  if isBlank orderID then
    return
  let order ← firstForUpdate (.billingOrder orderID)
  if order.taskID ≠ "" ∧ order.taskID ≠ taskID then
    throw errBillingStateConflict
  match action with
  | .refund =>
    if order.status ≠ .reserved ∧ order.status ≠ .running then
      throw errBillingStateConflict
    refundBillingOrderTx orderID order errorText entryID now
  | .uncertain =>
    if order.status ≠ .uncertain then
      let updated ← Prog.update (.billingOrder orderID)
        (fun o ↦ o.status = .reserved || o.status = .running) fun o ↦
          .ok ((o.uncertain order errorText now).reportCompletion (trimSpace providerRequestID) none)
      if updated ≠ 1 then throw errBillingStateConflict
      return
    let _ ← Prog.update (.billingOrder orderID) (fun o ↦ o.status = .uncertain) fun o ↦
      .ok ((o.uncertain order (if isBlank order.error then errorText else order.error)
        now).reportCompletion (trimSpace providerRequestID) none)
  | .other action =>
    throw (RepoError.text ("unsupported failed task billing action: " ++ action))

/-- The task columns `FinalizeFailedTaskAndBilling` sets. -/
def Task.fail (row task : Task) (now : Time) : Task :=
  { row.dropLease with
    status := .failed
    stage := task.stage
    progress := task.progress
    error := task.error
    providerRequestID := task.providerRequestID
    pollStage := task.pollStage
    completedAt := some now }

/-- What `FinalizeFailedTaskAndBillingWithOutbox` does after the billing action. -/
def completeFailedTask (taskID : String) (task : Task) (outbox : Option TaskOutboxDraft)
    (outboxID : String) (now : Time) : DbTx Unit := do
  let updatedTask ← Prog.update (.task taskID) (fun t ↦ t.runsUnder task.lease) fun t ↦
    .ok (t.fail task now)
  if updatedTask ≠ 1 then throw errTaskCompletionStateConflict
  enqueueIfAny outboxID taskID outbox now

/-- `FinalizeFailedTaskAndBillingWithOutbox`. -/
def finalizeFailedTaskAndBillingWithOutbox (taskID : String) (task : Task)
    (action : FailedTaskBillingAction) (errorText : String) (outbox : Option TaskOutboxDraft)
    (ids : FinalizationIDs) (now : Time) : DbTx Unit := do
  if isBlank taskID || !task.lease.isValid then
    throw errTaskCompletionStateConflict
  finalizeFailedBillingTx task.billingOrderID taskID task.providerRequestID action errorText
    ids.entry now
  completeFailedTask taskID task outbox ids.outbox now

/-- `FinalizeFailedTaskAndBilling`. -/
def finalizeFailedTaskAndBilling (taskID : String) (task : Task)
    (action : FailedTaskBillingAction) (errorText : String) (ids : FinalizationIDs)
    (now : Time) : DbTx Unit :=
  finalizeFailedTaskAndBillingWithOutbox taskID task action errorText none ids now

end HMaigc
