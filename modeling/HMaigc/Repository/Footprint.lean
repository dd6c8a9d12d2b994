import HMaigc.Sql.RowStep
import HMaigc.Repository.Task
import HMaigc.Repository.Payment

/-!
# Which rows the pieces write

Most pieces of the repository's transactions only look: they check a limit, freeze a version, lock
an order (`ReadOnly`).  Others write rows of a few tables, whatever happens (`WritesOnly`): finishing
a task writes `RowKey.isTaskSide` rows, closing an order writes checkouts and audit events.  These
facts do not depend on any particular property, and every property uses them.
-/

set_option autoImplicit false

namespace HMaigc

open Sql Go Prog

/-! ## Pieces that only look -/

theorem readOnly_checkMemberLimit (order : BillingOrder) (month : Month) :
    (checkMemberLimit order month).ReadOnly := by
  simp [checkMemberLimit, keeps_ite, keeps_statement]
  intro member _ _ v ws used hused
  cases hsum : bigint RepoError.outOfRange (monthlyUsage order.teamID order.userID month v) with
  | error e => simp [hsum, Except.map] at hused
  | ok n =>
    obtain ⟨rfl, -⟩ : [] = ws ∧ n = used := by simpa [hsum, Except.map] using hused
    trivial

theorem readOnly_enforceActiveTaskLimit (userID : String) (policy : ActiveTaskPolicy) :
    (enforceActiveTaskLimit userID policy).ReadOnly := by
  simp [enforceActiveTaskLimit, keeps_ite]

theorem readOnly_freezeProviderTaskRuntimeTx (current : ProviderTaskRuntime)
    (channelModelID : String) : (freezeProviderTaskRuntimeTx current channelModelID).ReadOnly := by
  simp [freezeProviderTaskRuntimeTx, keeps_ite]
  intro model _ _ v
  split <;> simp

theorem readOnly_freezeTaskWatermarkTx (userID capability : String) :
    (freezeTaskWatermarkTx userID capability).ReadOnly := by
  simp [freezeTaskWatermarkTx, keeps_ite]
  intro _ _ _ v
  split
  · simp
  · simp [keeps_ite]
    intro _ v
    split
    · simp
      intro v
      split <;> simp [keeps_ite]
    · simp

theorem readOnly_lockPaymentOrderTx (orderType : PaymentOrderType) (orderID userID : String) :
    (lockPaymentOrderTx orderType orderID userID).ReadOnly := by
  cases orderType <;> simp [lockPaymentOrderTx]

theorem readOnly_lockCheckout (orderType : PaymentOrderType) (orderID : String) :
    (lockCheckout orderType orderID).ReadOnly := by
  simp [lockCheckout, findCheckoutForUpdate]
  intro v
  split <;> simp

theorem readOnly_lockEventTransaction (candidate : PaymentWebhookEvent) :
    (lockEventTransaction candidate).ReadOnly := by
  have horder := readOnly_lockPaymentOrderTx
  have hcheckout := readOnly_lockCheckout
  simp [lockEventTransaction, keeps_ite]
  intro _ transaction
  exact (horder _ _ _).mono fun _ _ ↦ (hcheckout _ _).mono fun _ _ ↦ trivial

theorem readOnly_lockSubscriber (order : MembershipOrder) : (lockSubscriber order).ReadOnly := by
  simp [lockSubscriber, keeps_ite]

theorem readOnly_rejectPayablePaymentTx (orderType : PaymentOrderType) (orderID : String) :
    (rejectPayablePaymentTx orderType orderID).ReadOnly := by
  simp [rejectPayablePaymentTx, keeps_ite]

/-! ## What a finished task leaves -/

/-- The rows a task produces, the task itself apart. -/
def RowKey.isProduct : RowKey → Bool
  | .session _ | .message _ | .result _ | .taskLog _ | .taskOutbox _ => true
  | _ => false

/-- The rows of tasks and of what they produce. -/
def RowKey.isTaskSide : RowKey → Bool
  | .task _ | .session _ | .message _ | .result _ | .taskLog _ | .taskOutbox _ => true
  | _ => false

section TaskSide

variable (id : String)

@[simp] theorem isTaskSide_task : (RowKey.task id).isTaskSide = true := rfl
@[simp] theorem isTaskSide_session : (RowKey.session id).isTaskSide = true := rfl
@[simp] theorem isTaskSide_message : (RowKey.message id).isTaskSide = true := rfl
@[simp] theorem isTaskSide_result : (RowKey.result id).isTaskSide = true := rfl
@[simp] theorem isTaskSide_taskLog : (RowKey.taskLog id).isTaskSide = true := rfl
@[simp] theorem isTaskSide_taskOutbox : (RowKey.taskOutbox id).isTaskSide = true := rfl

@[simp] theorem isProduct_session : (RowKey.session id).isProduct = true := rfl
@[simp] theorem isProduct_message : (RowKey.message id).isProduct = true := rfl
@[simp] theorem isProduct_result : (RowKey.result id).isProduct = true := rfl
@[simp] theorem isProduct_taskLog : (RowKey.taskLog id).isProduct = true := rfl
@[simp] theorem isProduct_taskOutbox : (RowKey.taskOutbox id).isProduct = true := rfl

end TaskSide

theorem isTaskSide_of_isProduct {k : RowKey} (h : k.isProduct = true) : k.isTaskSide = true := by
  cases k <;> first | rfl | cases h

theorem writes_enqueueIfAny (outboxID taskID : String) (outbox : Option TaskOutboxDraft)
    (now : Time) : (enqueueIfAny outboxID taskID outbox now).WritesOnly (·.isProduct) := by
  cases outbox with
  | none => simp [enqueueIfAny]
  | some draft =>
    simp [enqueueIfAny, enqueueTaskOutboxTx, createTaskOutbox, keeps_ite]
    intro _ _ _ _ _ _ v
    split <;> simp [keeps_ite]

theorem writes_saveSession (session : Option (String × Session)) :
    (saveSession session).WritesOnly (·.isProduct) := by
  cases session <;> simp [saveSession, keeps_statement, WritesOk]

theorem writes_createMessage (message : Option (String × Message)) :
    (createMessage message).WritesOnly (·.isProduct) := by
  cases message <;> simp [createMessage]

theorem writes_createResults (results : List (String × TaskResult)) :
    (createResults results).WritesOnly (·.isProduct) := by
  induction results with
  | nil => simp [createResults]
  | cons result results ih => simp [createResults, ih]

/-- What a finished task stores. -/
theorem writes_products (session : Option (String × Session)) (message : Option (String × Message))
    (results : List (String × TaskResult)) :
    (do
      saveSession session
      createMessage message
      createResults results : DbTx Unit).WritesOnly (·.isProduct) :=
  (writes_saveSession session).bind fun _ ↦
    (writes_createMessage message).bind fun _ ↦ writes_createResults results

theorem writes_completeSucceededTask (input : SucceededTaskFinalization)
    (ids : FinalizationIDs) (now : Time) :
    (completeSucceededTask input ids now).WritesOnly (·.isTaskSide) := by
  have hrest := (writes_saveSession input.session).bind fun _ ↦
    (writes_createMessage input.message).bind fun _ ↦
      (writes_createResults input.results).bind fun _ ↦
        writes_enqueueIfAny ids.outbox input.taskID input.outbox now
  rw [completeSucceededTask, WritesOnly, keeps_bind, keeps_update]
  refine ⟨fun _ _ _ _ ↦ ⟨rfl, ?_⟩, by simp⟩
  simpa using hrest.imp fun _ _ _ ↦ isTaskSide_of_isProduct

theorem writes_completeFailedTask (taskID : String) (task : Task)
    (outbox : Option TaskOutboxDraft) (outboxID : String) (now : Time) :
    (completeFailedTask taskID task outbox outboxID now).WritesOnly (·.isTaskSide) := by
  rw [completeFailedTask, WritesOnly, keeps_bind, keeps_update]
  refine ⟨fun _ _ _ _ ↦ ⟨rfl, ?_⟩, by simp⟩
  simpa using (writes_enqueueIfAny outboxID taskID outbox now).imp fun _ _ _ ↦
    isTaskSide_of_isProduct

theorem writes_createTask (id : String) (task : Task) :
    (createTask id task).WritesOnly (·.isTaskSide) := by
  simp [createTask]

theorem writes_createFrozenWatermarkTaskLogTx (logID taskID userID : String)
    (watermark : Watermark) :
    (createFrozenWatermarkTaskLogTx logID taskID userID watermark).WritesOnly (·.isProduct) := by
  simp [createFrozenWatermarkTaskLogTx]

/-! ## Checkouts and audit events -/

/-- The rows that closing and paying an order writes besides the order and its payments. -/
def RowKey.isOrderSide : RowKey → Bool
  | .paymentCheckoutSession _ | .adminAuditEvent _ => true
  | _ => false

theorem writes_updateCheckouts (which : PaymentCheckoutSession → Bool)
    (status : PaymentCheckoutStatus) :
    (updateCheckouts which status).WritesOnly (·.isOrderSide) := by
  simp [updateCheckouts]
  intro k r r' hr
  cases k with
  | paymentCheckoutSession id => rfl
  | _ => cases hr

theorem writes_createAudit (audit : Option (String × AdminAuditEvent)) :
    (createAudit audit).WritesOnly (·.isOrderSide) := by
  cases audit <;> simp [createAudit, RowKey.isOrderSide]

end HMaigc
