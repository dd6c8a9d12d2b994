import HMaigc.Sql.Serial
import HMaigc.Credit.Replay
import HMaigc.Repository.Footprint

/-!
# Finishing a task is all or nothing

Both finalizations put the billing action, the end of the task and the outbox record into one
transaction.  Whatever they find, and wherever the database fails under them, they commit all three
or change nothing.

* `Finalization` — a call of either, with its arguments.
* `Finalization.Billed`, `Finalization.Finished` — what the order looks like, and what everything
  looks like, after a call that committed.
* `finalization_atomic` — a call commits and has finished the task, or returns an error and leaves
  the database as it was.
* `exists_uncertain_unscheduled` — an order that becomes uncertain is not always scheduled for
  reconciliation: `uncertainBillingUpdates` schedules only those whose provider request can be
  looked up.
-/

set_option autoImplicit false

namespace HMaigc

open Sql Go Prog

/-! ## Calls -/

/-- A call of `FinalizeSucceededTaskAndBilling` or of `FinalizeFailedTaskAndBillingWithOutbox`. -/
inductive Finalization where
  | succeeded (input : SucceededTaskFinalization) (ids : FinalizationIDs) (now : Time)
  | failed (taskID : String) (task : Task) (action : FailedTaskBillingAction) (errorText : String)
    (outbox : Option TaskOutboxDraft) (ids : FinalizationIDs) (now : Time)

/-- The provider's request of the order can be looked up again. -/
def BillingOrder.isLookable (order : BillingOrder) : Bool :=
  order.billingMode ≠ "token_usage" && !isBlank order.providerRequestID &&
    !isBlank order.providerEndpointVersionID && !isBlank order.providerCredentialVersionID

namespace Finalization

def prog : Finalization → DbTx Unit
  | .succeeded input ids now => finalizeSucceededTaskAndBilling input ids now
  | .failed taskID task action errorText outbox ids now =>
    finalizeFailedTaskAndBillingWithOutbox taskID task action errorText outbox ids now

def taskID : Finalization → String
  | .succeeded input .. => input.taskID
  | .failed taskID .. => taskID

/-- The task as the worker holds it. -/
def task : Finalization → Task
  | .succeeded input .. => input.task
  | .failed _ task .. => task

def now : Finalization → Time
  | .succeeded _ _ now => now
  | .failed _ _ _ _ _ _ now => now

def outbox : Finalization → Option TaskOutboxDraft
  | .succeeded input .. => input.outbox
  | .failed _ _ _ _ outbox .. => outbox

/-- The status the task ends in. -/
def status : Finalization → TaskStatus
  | .succeeded .. => .succeeded
  | .failed .. => .failed

/-- The status the billing action leaves the order in. -/
def billedStatus : Finalization → Option BillingStatus
  | .succeeded input .. =>
    match input.billingAction with
    | .settle | .settleFromUsage => some .settled
    | .uncertain => some .uncertain
    | .other _ => none
  | .failed _ _ action .. =>
    match action with
    | .refund => some .refunded
    | .uncertain => some .uncertain
    | .other _ => none

/-- The order the action is about: a settlement from the response trims its identifier. -/
def billedID : Finalization → String
  | .succeeded input .. =>
    match input.billingAction with
    | .settleFromUsage => trimSpace input.task.billingOrderID
    | _ => input.task.billingOrderID
  | .failed _ task .. => task.billingOrderID

/-- The call schedules the order for reconciliation.  A success does not schedule an order that was
uncertain before. -/
def schedules (c : Finalization) (order : BillingOrder) : Bool :=
  order.isLookable &&
    match c with
    | .succeeded .. => order.status ≠ .uncertain
    | .failed .. => true

/-- The order has the outcome of the billing action. -/
def Billed (c : Finalization) (s s' : Store) : Prop :=
  ∃ o', s'.lookup (.billingOrder c.billedID) = some o' ∧ c.billedStatus = some o'.status ∧
    (o'.status = .uncertain → ∀ o, s.lookup (.billingOrder c.billedID) = some o →
      c.schedules o = true → o'.nextReconcileAt = some (c.now + second 5))

/-- The record of the draft is in the outbox. -/
def Enqueued (taskID : String) (draft : TaskOutboxDraft) (s' : Store) : Prop :=
  ∃ id o, s'.lookup (.taskOutbox id) = some o ∧
    o.idempotencyKey = trimSpace draft.idempotencyKey ∧ o.taskID = trimSpace taskID ∧
    o.eventType = draft.eventType ∧ o.payloadJSON = draft.payloadJSON

/-- What a call that committed has done. -/
structure Finished (c : Finalization) (s s' : Store) : Prop where
  task : ∃ r r', s.lookup (.task c.taskID) = some r ∧ r.runsUnder c.task.lease = true ∧
    s'.lookup (.task c.taskID) = some r' ∧ r'.status = c.status ∧ r'.completedAt.isSome = true
  billing : isBlank c.task.billingOrderID = true ∨ c.Billed s s'
  outbox : ∀ draft, c.outbox = some draft → Enqueued c.taskID draft s'

end Finalization

/-! ## The billing actions -/

/-- The rows of accounts, their books and their orders. -/
def RowKey.isBilling : RowKey → Bool
  | .creditAccount _ | .creditLedgerEntry _ _ | .billingOrder _ => true
  | _ => false

section IsBilling

@[simp] theorem isBilling_creditAccount (p : Payer) : (RowKey.creditAccount p).isBilling = true :=
  rfl
@[simp] theorem isBilling_creditLedgerEntry (b : Book) (id : String) :
    (RowKey.creditLedgerEntry b id).isBilling = true := rfl
@[simp] theorem isBilling_billingOrder (id : String) :
    (RowKey.billingOrder id).isBilling = true := rfl

end IsBilling

theorem writes_settleBillingOrder (id providerRequestID entryID : String) (now : Time) :
    (settleBillingOrder id providerRequestID entryID now).WritesOnly (·.isBilling) := by
  simp [settleBillingOrder, settleReservation, readAccount, createLedgerEntry, keeps_ite]

theorem writes_settleTokenBillingFromResponseUsageTx (id : String)
    (fact : ResponseUsageSettlementFact) (consumeEntryID releaseEntryID : String) :
    (settleTokenBillingFromResponseUsageTx id fact consumeEntryID releaseEntryID).WritesOnly
      (·.isBilling) := by
  unfold settleTokenBillingFromResponseUsageTx
  cases fact.settlement id with
  | error e => simp
  | ok settlement =>
    simp [settleTokenBillingTx, settleTeamTokenBillingTx, settlePersonalTokenBillingTx,
      settleAccountTokenBillingTx, updateSettledTokenOrderTx, createLedgerEntry,
      keeps_ite]

theorem writes_finalizeSucceededBillingTx (input : SucceededTaskFinalization)
    (ids : FinalizationIDs) (now : Time) :
    (finalizeSucceededBillingTx input ids now).WritesOnly (·.isBilling) := by
  rw [finalizeSucceededBillingTx]
  cases input.billingAction with
  | settle => simp [keeps_ite, writes_settleBillingOrder]
  | settleFromUsage =>
    cases input.responseUsageSettlement with
    | none => simp [keeps_ite]
    | some fact => simp [keeps_ite, writes_settleTokenBillingFromResponseUsageTx]
  | uncertain => simp [finalizeUncertainTx, keeps_ite]
  | other action => simp [keeps_ite]

theorem writes_finalizeFailedBillingTx (orderID taskID providerRequestID : String)
    (action : FailedTaskBillingAction) (errorText entryID : String) (now : Time) :
    (finalizeFailedBillingTx orderID taskID providerRequestID action errorText entryID
      now).WritesOnly (·.isBilling) := by
  rw [finalizeFailedBillingTx]
  cases action with
  | refund =>
    simp [refundBillingOrderTx, readAccount, createLedgerEntry, keeps_ite]
  | uncertain => simp [keeps_ite]
  | other action => simp [keeps_ite]

/-- The order is there and has the status. -/
def HasStatus (id : String) (status : BillingStatus) (s : Store) : Prop :=
  ∃ o, s.lookup (.billingOrder id) = some o ∧ o.status = status

section Status

variable {s : Store} {id : String} {o : BillingOrder}

theorem hasStatus_settleReservation (ho : s.lookup (.billingOrder id) = some o)
    (order : BillingOrder) (providerRequestID entryID : String) (now : Time) :
    (settleReservation id order providerRequestID entryID now).Post s fun _ s' ↦
      HasStatus id .settled s' := by
  simp [settleReservation, readAccount, createLedgerEntry, post_ite, HasStatus, ho]

theorem hasStatus_settleBillingOrder (providerRequestID entryID : String) (now : Time) :
    (settleBillingOrder id providerRequestID entryID now).Post s fun _ s' ↦
      HasStatus id .settled s' := by
  simp only [settleBillingOrder, post_bind, post_first, post_ite, throw_eq_fail, post_fail,
    pure_eq_done, post_done]
  intro o ho
  exact ⟨fun hsettled ↦ ⟨o, ho, hsettled⟩, fun _ ↦ ⟨fun _ ↦ trivial, fun _ ↦
    hasStatus_settleReservation ho o providerRequestID entryID now⟩⟩

theorem hasStatus_refundBillingOrderTx (ho : s.lookup (.billingOrder id) = some o)
    (order : BillingOrder) (errorText entryID : String) (now : Time) :
    (refundBillingOrderTx id order errorText entryID now).Post s fun _ s' ↦
      HasStatus id .refunded s' := by
  simp [refundBillingOrderTx, readAccount, createLedgerEntry, post_ite, HasStatus, ho]

theorem hasStatus_settleTokenBillingTx (st : TokenBillingSettlement)
    (consumeEntryID releaseEntryID : String) :
    (settleTokenBillingTx id st true consumeEntryID releaseEntryID).Post s fun _ s' ↦
      HasStatus id .settled s' := by
  rw [settleTokenBillingTx, post_bind, post_firstForUpdate]
  intro o ho _
  simp only [post_bind, post_ite, throw_eq_fail, post_fail, pure_eq_done, post_done]
  have hsettle : ∀ payer, (settleAccountTokenBillingTx payer id o st o.reservedAmountMicrocredits
      consumeEntryID releaseEntryID).Post s fun _ s' ↦ HasStatus id .settled s' := fun payer ↦
    (post_settleAccountTokenBillingTx ho payer o st _ consumeEntryID releaseEntryID).mono
      fun _ _ hrow ↦ ⟨_, hrow, rfl⟩
  refine ⟨fun _ ↦ trivial, fun _ ↦ ⟨fun _ ↦ trivial, fun _ ↦ ⟨fun hsettled ↦ ?_, fun _ ↦ ?_⟩⟩⟩
  · exact ⟨fun _ ↦ ⟨o, ho, hsettled⟩, fun _ ↦ trivial⟩
  · exact ⟨fun _ ↦ trivial, fun _ ↦ ⟨fun _ ↦ trivial, fun _ ↦
      ⟨(fun h ↦ by cases h.2), fun _ ↦ ⟨fun _ ↦ hsettle _, fun _ ↦ hsettle _⟩⟩⟩⟩

theorem hasStatus_settleTokenBillingFromResponseUsageTx (fact : ResponseUsageSettlementFact)
    (consumeEntryID releaseEntryID : String) :
    (settleTokenBillingFromResponseUsageTx id fact consumeEntryID releaseEntryID).Post s fun _ s' ↦
      HasStatus (trimSpace id) .settled s' := by
  unfold settleTokenBillingFromResponseUsageTx
  cases fact.settlement id with
  | error e => simp
  | ok settlement => exact hasStatus_settleTokenBillingTx settlement consumeEntryID releaseEntryID

end Status

/-- Marking an order uncertain schedules it when its request can be looked up. -/
theorem nextReconcileAt_uncertain {order : BillingOrder} (h : order.isLookable = true)
    (row : BillingOrder) (errorText : String) (now : Time) :
    (row.uncertain order errorText now).nextReconcileAt = some (now + second 5) := by
  simp only [BillingOrder.isLookable, Bool.and_eq_true, decide_eq_true_eq, Bool.not_eq_true'] at h
  simp [BillingOrder.uncertain, h]

/-- An uncertain completion. -/
theorem post_finalizeUncertainTx {s : Store} {orderID : String} {o : BillingOrder}
    (ho : s.lookup (.billingOrder orderID) = some o) (input : SucceededTaskFinalization)
    (now : Time) :
    (finalizeUncertainTx orderID o input now).Post s fun _ s' ↦
      ∃ o', s'.lookup (.billingOrder orderID) = some o' ∧ o'.status = .uncertain ∧
        (o.isLookable = true → o.status ≠ .uncertain →
          o'.nextReconcileAt = some (now + second 5)) := by
  simp only [finalizeUncertainTx, post_bind, post_ite, throw_eq_fail, post_fail, pure_eq_done,
    post_done, post_update]
  refine ⟨fun _ ↦ trivial, fun _ ↦ ⟨fun _ ↦ trivial, fun _ ↦ ⟨fun huncertain ↦ ?_, fun _ ↦
    ⟨fun _ ↦ trivial, fun hopen ↦ ?_⟩⟩⟩⟩
  · refine ⟨fun r hr _ r' hr' ↦ ?_, fun hnone ↦ ?_⟩
    · cases ho.symm.trans hr
      cases hr'
      exact ⟨_, AList.lookup_insert s, huncertain, fun _ hne ↦ absurd huncertain hne⟩
    · exact ⟨o, ho, huncertain, fun _ hne ↦ absurd huncertain hne⟩
  · refine ⟨fun r hr _ r' hr' ↦ ⟨fun hne ↦ absurd rfl hne, fun _ ↦ ?_⟩, fun hnone ↦ ?_⟩
    · cases ho.symm.trans hr
      cases hr'
      exact ⟨_, AList.lookup_insert s, rfl, fun hlook _ ↦
        nextReconcileAt_uncertain hlook o input.billingError now⟩
    · exact ⟨fun _ ↦ trivial, fun h ↦ absurd h (by decide)⟩

/-- A status that is not uncertain is all there is to show. -/
theorem billed_of_hasStatus {c : Finalization} {s s' : Store} (status : BillingStatus)
    (hstatus : c.billedStatus = some status) (hne : status ≠ .uncertain)
    (h : HasStatus c.billedID status s') : c.Billed s s' := by
  obtain ⟨o', ho', rfl⟩ := h
  exact ⟨o', ho', hstatus, fun huncertain ↦ absurd huncertain hne⟩

/-- **The billing action of a success.** -/
theorem billed_finalizeSucceededBillingTx (input : SucceededTaskFinalization)
    (ids : FinalizationIDs) (now : Time) (s : Store) :
    (finalizeSucceededBillingTx input ids now).Post s fun _ s' ↦
      isBlank input.task.billingOrderID = true ∨
        (Finalization.succeeded input ids now).Billed s s' := by
  simp only [finalizeSucceededBillingTx, post_bind, post_ite, throw_eq_fail, post_fail,
    pure_eq_done, post_done, post_firstForUpdate]
  refine ⟨.inl, fun _ ↦ fun o ho _ ↦ ⟨fun _ ↦ trivial, fun _ ↦ ?_⟩⟩
  cases haction : input.billingAction with
  | settle =>
    simp only [post_bind, post_ite, post_fail]
    refine ⟨fun _ ↦ trivial, fun _ ↦ (hasStatus_settleBillingOrder _ _ _).mono fun _ s' h ↦
      .inr (billed_of_hasStatus .settled ?_ (by decide) ?_)⟩
    · simp [Finalization.billedStatus, haction]
    · simpa [Finalization.billedID, haction] using h
  | settleFromUsage =>
    cases hfact : input.responseUsageSettlement with
    | none => simp
    | some fact =>
      dsimp only
      rw [post_ite, post_bind, post_fail]
      refine ⟨fun _ ↦ trivial, fun _ ↦ (hasStatus_settleTokenBillingFromResponseUsageTx _ _ _).mono
        fun _ s' h ↦ .inr (billed_of_hasStatus .settled ?_ (by decide) ?_)⟩
      · simp [Finalization.billedStatus, haction]
      · simpa [Finalization.billedID, haction] using h
  | uncertain =>
    refine (post_finalizeUncertainTx ho input now).mono fun _ s' h ↦ .inr ?_
    obtain ⟨o', ho', hstatus, hnext⟩ := h
    have hid : (Finalization.succeeded input ids now).billedID = input.task.billingOrderID := by
      simp [Finalization.billedID, haction]
    refine ⟨o', hid ▸ ho', by simp [Finalization.billedStatus, haction, hstatus],
      fun _ o₁ ho₁ h ↦ ?_⟩
    rw [hid, ho] at ho₁
    cases ho₁
    simp only [Finalization.schedules, Bool.and_eq_true, decide_eq_true_eq] at h
    exact hnext h.1 h.2
  | other action => simp

/-- **The billing action of a failure.** -/
theorem billed_finalizeFailedBillingTx (taskID : String) (task : Task)
    (action : FailedTaskBillingAction) (errorText : String) (outbox : Option TaskOutboxDraft)
    (ids : FinalizationIDs) (now : Time) (s : Store) :
    (finalizeFailedBillingTx task.billingOrderID taskID task.providerRequestID action errorText
      ids.entry now).Post s fun _ s' ↦
      isBlank task.billingOrderID = true ∨
        (Finalization.failed taskID task action errorText outbox ids now).Billed s s' := by
  simp only [finalizeFailedBillingTx, post_bind, post_ite, throw_eq_fail, post_fail,
    pure_eq_done, post_done, post_firstForUpdate]
  refine ⟨.inl, fun _ ↦ fun o ho _ ↦ ⟨fun _ ↦ trivial, fun _ ↦ ?_⟩⟩
  cases action with
  | refund =>
    dsimp only
    rw [post_ite, post_bind, post_fail]
    exact ⟨fun _ ↦ trivial, fun _ ↦ (hasStatus_refundBillingOrderTx ho _ _ _ _).mono fun _ s' h ↦
      .inr (billed_of_hasStatus .refunded rfl (by decide) h)⟩
  | uncertain =>
    have hbilled : ∀ r errorText', s.lookup (.billingOrder task.billingOrderID) = some r →
        (Finalization.failed taskID task .uncertain errorText outbox ids now).Billed s
          (s.insert (.billingOrder task.billingOrderID)
            ((r.uncertain o errorText' now).reportCompletion (trimSpace task.providerRequestID)
              none)) := by
      intro r errorText' hr
      refine ⟨_, AList.lookup_insert s, rfl, fun _ o₁ ho₁ h ↦ ?_⟩
      cases ho.symm.trans ho₁
      simp only [Finalization.schedules, Bool.and_true] at h
      exact nextReconcileAt_uncertain h r errorText' now
    simp only [post_bind, post_ite, post_fail, post_done, post_update]
    refine ⟨fun _ ↦ ⟨fun r hr _ r' hr' ↦ ⟨fun _ ↦ trivial, fun _ ↦ ?_⟩, fun _ ↦ ⟨fun _ ↦ trivial,
      fun h ↦ absurd h (by decide)⟩⟩, fun huncertain ↦ ⟨fun r hr _ r' hr' ↦ ?_, fun hnone ↦ ?_⟩⟩
    · cases hr'
      exact .inr (hbilled r errorText hr)
    · cases hr'
      exact .inr (hbilled r _ hr)
    · have hopen := hnone o ho
      simp only [decide_eq_false_iff_not] at hopen
      exact absurd (not_not.mp huncertain) hopen
  | other action => simp

/-! ## The end of the task -/

/-- What the lookup by the idempotency key finds. -/
theorem lookup_of_taskOutboxByKey {key : String} {o : TaskOutbox} {s : Store}
    (h : taskOutboxByKey key s = some o) :
    ∃ id, s.lookup (.taskOutbox id) = some o ∧ o.idempotencyKey = key := by
  obtain ⟨k, r, hr, hmem⟩ := Db.mem_select.mp (List.mem_of_head? h)
  cases k with
  | taskOutbox id =>
    obtain ⟨hkey, heq⟩ := Option.ite_none_right_eq_some.mp hmem
    cases heq
    exact ⟨id, hr, hkey⟩
  | _ => cases hmem

/-- What is enqueued is there. -/
theorem enqueued_enqueueIfAny (outboxID taskID : String) (outbox : Option TaskOutboxDraft)
    (now : Time) (s : Store) :
    (enqueueIfAny outboxID taskID outbox now).Post s fun _ s' ↦
      ∀ draft, outbox = some draft → Finalization.Enqueued taskID draft s' := by
  cases outbox with
  | none =>
    rw [enqueueIfAny, pure_eq_done, post_done]
    intro draft h
    cases h
  | some draft =>
    simp only [enqueueIfAny, enqueueTaskOutboxTx, createTaskOutbox, post_bind, post_ite,
      throw_eq_fail, post_fail, pure_eq_done, post_done, post_createUnlessTaken, post_query]
    refine ⟨fun _ ↦ trivial, fun _ ↦ ⟨fun hfound ↦ ⟨fun h ↦ absurd h (by decide), fun _ ↦ ?_⟩,
      fun _ _ _ ↦ ⟨fun _ draft' h ↦ ?_, fun h ↦ absurd trivial h⟩⟩⟩
    · obtain ⟨existing, hexisting⟩ := Option.isSome_iff_exists.mp hfound
      obtain ⟨id, ho, hkey⟩ := lookup_of_taskOutboxByKey hexisting
      rw [hexisting]
      dsimp only
      rw [post_ite, post_fail, post_done]
      refine ⟨fun _ ↦ trivial, fun hsame draft' h ↦ ?_⟩
      cases h
      simp only [not_or, not_not] at hsame
      exact ⟨id, existing, ho, hkey, hsame⟩
    · cases h
      exact ⟨outboxID, _, AList.lookup_insert s, rfl, rfl, rfl, rfl⟩

/-- What a task produces leaves tasks and orders alone. -/
theorem post_of_products {p : DbTx Unit} (hp : p.WritesOnly (·.isProduct)) {k : RowKey}
    (hk : k.isProduct = false) (s : Store) :
    p.Post s fun _ s' ↦ s'.lookup k = s.lookup k :=
  (post_of_keeps (fun _ _ _ _ _ h ↦ by exact h) hp s).mono fun _ _ hstep ↦
    (hstep.1 k).resolve_right fun ⟨_, _, h⟩ ↦ absurd h (by simp [hk])

/-- What a finalization does to a task, its order and the outbox after the billing action. -/
structure TaskEnded (taskID : String) (task : Task) (orderID : String) (new : Task → Task)
    (outbox : Option TaskOutboxDraft) (s s' : Store) : Prop where
  task : ∃ r, s.lookup (.task taskID) = some r ∧ r.runsUnder task.lease = true ∧
    s'.lookup (.task taskID) = some (new r)
  order : s'.lookup (.billingOrder orderID) = s.lookup (.billingOrder orderID)
  outbox : ∀ draft, outbox = some draft → Finalization.Enqueued taskID draft s'

/-- Ending the row of the task under its lease, and then storing what it produced. -/
theorem ended_of_update {taskID orderID : String} {task : Task} {cond : Task → Bool}
    {new : Task → Task} {outbox : Option TaskOutboxDraft} {rest : DbTx Unit}
    (hcond : ∀ r, cond r = true → r.runsUnder task.lease = true)
    (hrest : rest.WritesOnly (·.isProduct))
    (henqueue : ∀ t, rest.Post t fun _ t' ↦
      ∀ draft, outbox = some draft → Finalization.Enqueued taskID draft t') (s : Store) :
    (do
      let updated ← Prog.update (.task taskID) cond fun t ↦ .ok (new t)
      if updated ≠ 1 then throw errTaskCompletionStateConflict
      rest : DbTx Unit).Post s fun _ s' ↦ TaskEnded taskID task orderID new outbox s s' := by
  simp only [post_bind, post_ite, throw_eq_fail, post_fail, post_update]
  refine ⟨fun r hr hc r' hr' ↦ ⟨fun _ ↦ trivial, fun _ ↦ fun u s' hrun ↦ ?_⟩,
    fun _ ↦ ⟨fun _ ↦ trivial, fun h ↦ absurd h (by decide)⟩⟩
  cases hr'
  have htask := post_of_products hrest (k := .task taskID) rfl _ u s' hrun
  have horder := post_of_products hrest (k := .billingOrder orderID) rfl _ u s' hrun
  rw [AList.lookup_insert] at htask
  rw [AList.lookup_insert_ne (by simp)] at horder
  exact ⟨⟨r, hr, hcond r hc, htask⟩, horder, henqueue _ u s' hrun⟩

theorem ended_completeSucceededTask (input : SucceededTaskFinalization) (ids : FinalizationIDs)
    (now : Time) (orderID : String) (s : Store) :
    (completeSucceededTask input ids now).Post s fun _ s' ↦
      TaskEnded input.taskID input.task orderID (·.succeed input.task) input.outbox s s' := by
  rw [completeSucceededTask]
  refine ended_of_update (fun r hr ↦ ((Bool.and_eq_true _ _).mp hr).2) ?_ (fun t ↦ ?_) s
  · exact (writes_saveSession input.session).bind fun _ ↦
      (writes_createMessage input.message).bind fun _ ↦
        (writes_createResults input.results).bind fun _ ↦
          writes_enqueueIfAny ids.outbox input.taskID input.outbox now
  · simp only [post_bind]
    exact fun _ _ _ _ _ _ _ t₁ _ ↦ enqueued_enqueueIfAny ids.outbox input.taskID input.outbox now t₁

theorem ended_completeFailedTask (taskID : String) (task : Task) (outbox : Option TaskOutboxDraft)
    (outboxID : String) (now : Time) (orderID : String) (s : Store) :
    (completeFailedTask taskID task outbox outboxID now).Post s fun _ s' ↦
      TaskEnded taskID task orderID (·.fail task now) outbox s s' := by
  rw [completeFailedTask]
  exact ended_of_update (fun _ h ↦ h) (writes_enqueueIfAny outboxID taskID outbox now)
    (enqueued_enqueueIfAny outboxID taskID outbox now) s

/-! ## All or nothing -/

/-- The billing action leaves the task alone. -/
theorem post_of_billing {p : DbTx Unit} (hp : p.WritesOnly (·.isBilling)) (taskID : String)
    (s : Store) :
    p.Post s fun _ s' ↦ s'.lookup (.task taskID) = s.lookup (.task taskID) :=
  (post_of_keeps (fun _ _ _ _ _ h ↦ by exact h) hp s).mono fun _ _ hstep ↦
    (hstep.1 _).resolve_right fun ⟨_, _, h⟩ ↦ by cases h

/-- The billing action, then the end of the task. -/
theorem finished_of_ended {c : Finalization} {new : Task → Task} {s t s' : Store}
    (htask : t.lookup (.task c.taskID) = s.lookup (.task c.taskID))
    (hbilled : isBlank c.task.billingOrderID = true ∨ c.Billed s t)
    (hnew : ∀ r, (new r).status = c.status ∧ (new r).completedAt.isSome = true)
    (h : TaskEnded c.taskID c.task c.billedID new c.outbox t s') : c.Finished s s' := by
  obtain ⟨r, hr, hruns, hr'⟩ := h.task
  refine ⟨⟨r, new r, htask ▸ hr, hruns, hr', hnew r⟩, ?_, h.outbox⟩
  rcases hbilled with hblank | ⟨o', ho', hstatus⟩
  · exact .inl hblank
  · exact .inr ⟨o', h.order.trans ho', hstatus⟩

/-- **A call that commits has finished the task.** -/
theorem finished_prog (c : Finalization) (s : Store) :
    c.prog.Post s fun _ s' ↦ c.Finished s s' := by
  cases c with
  | succeeded input ids now =>
    simp only [Finalization.prog, finalizeSucceededTaskAndBilling, post_bind, post_ite,
      throw_eq_fail, post_fail]
    refine ⟨fun _ ↦ trivial, fun hvalid u t hrun ↦ ?_⟩
    have htask := post_of_billing (writes_finalizeSucceededBillingTx input ids now) input.taskID s
      u t hrun
    have hbilled := billed_finalizeSucceededBillingTx input ids now s u t hrun
    refine (ended_completeSucceededTask input ids now _ t).mono fun _ s' hended ↦
      finished_of_ended htask hbilled (fun r ↦ ?_) hended
    simp only [Bool.or_eq_true, decide_eq_true_eq, not_or, not_not, Option.isNone_iff_eq_none,
      ← Option.isSome_iff_ne_none] at hvalid
    exact ⟨hvalid.1.1.2, hvalid.1.2⟩
  | failed taskID task action errorText outbox ids now =>
    simp only [Finalization.prog, finalizeFailedTaskAndBillingWithOutbox, post_bind, post_ite,
      throw_eq_fail, post_fail]
    refine ⟨fun _ ↦ trivial, fun _ u t hrun ↦ ?_⟩
    have htask := post_of_billing (writes_finalizeFailedBillingTx task.billingOrderID taskID
      task.providerRequestID action errorText ids.entry now) taskID s u t hrun
    have hbilled := billed_finalizeFailedBillingTx taskID task action errorText outbox ids now s u t
      hrun
    exact (ended_completeFailedTask taskID task outbox ids.outbox now _ t).mono fun _ s' hended ↦
      finished_of_ended htask hbilled (fun _ ↦ ⟨rfl, rfl⟩) hended

/-- **All or nothing.**  Whatever is in the database, and whichever statement the database fails
at, the call commits and has finished the task, its order and the outbox, or it returns an error
and changes nothing; and under a lease token that is not the task's it changes nothing. -/
theorem finalization_atomic (c : Finalization) (fault : Option ℕ) (s : Store) :
    ((c.prog.transact fault s).1 = .ok () ∧ c.Finished s (c.prog.transact fault s).2 ∨
      (∃ e, (c.prog.transact fault s).1 = .error e) ∧ (c.prog.transact fault s).2 = s) ∧
    ((∀ r, s.lookup (.task c.taskID) = some r → r.leaseToken ≠ c.task.leaseToken) →
      (c.prog.transact fault s).2 = s) := by
  rcases hrun : c.prog.transact fault s with ⟨e | u, s'⟩
  · exact ⟨.inr ⟨⟨e, rfl⟩, transact_error hrun⟩, fun _ ↦ transact_error hrun⟩
  · have hfinished := finished_prog c s u s' (run_of_transact hrun)
    refine ⟨.inl ⟨rfl, hfinished⟩, fun hstale ↦ ?_⟩
    obtain ⟨r, r', hr, hruns, -⟩ := hfinished.task
    simp only [Task.runsUnder, Bool.and_eq_true, decide_eq_true_eq] at hruns
    exact absurd (congrArg Lease.token hruns.2) (hstale r hr)

/-! ## An uncertain order that nobody looks at again -/

/-- A task in the hands of a worker, billed by tokens. -/
def tokenTask : Task where
  userID := "u"
  status := .running
  billingOrderID := "o"
  providerRequestID := "p"
  leaseOwner := "w"
  leaseGeneration := 1
  leaseToken := "0123456789abcdef0123456789abcdef0123456789abcdef0123456789abcdef"

/-- The task's order, whose request can be looked up but for its billing mode. -/
def tokenTaskOrder : BillingOrder where
  userID := "u"
  taskID := "t"
  idempotencyKey := "k"
  billingMode := "token_usage"
  status := .running
  amountMicrocredits := 1
  reservedAmountMicrocredits := 1
  providerRequestID := "p"
  providerEndpointVersionID := "e"
  providerCredentialVersionID := "c"

def tokenTaskStore : Store :=
  Db.apply [⟨.task "t", tokenTask⟩, ⟨.billingOrder "o", tokenTaskOrder⟩] ∅

/-- The call commits and leaves its order uncertain without a time for its reconciliation. -/
def Finalization.leavesUnscheduled (c : Finalization) (s : Store) : Bool :=
  match c.prog.transact none s with
  | (.ok (), s') => (s'.lookup (.billingOrder c.billedID)).any fun o ↦
      o.status = .uncertain && o.nextReconcileAt.isNone
  | (.error _, _) => false

/-- The worker gives up on the task: its order is uncertain, and nothing will look at it again. -/
theorem exists_uncertain_unscheduled :
    ∃ c s o', Finalization.billedStatus c = some .uncertain ∧
      (c.prog.transact none s).1 = .ok () ∧
      (c.prog.transact none s).2.lookup (.billingOrder c.billedID) = some o' ∧
      o'.status = .uncertain ∧ o'.nextReconcileAt = none := by
  have h : (Finalization.failed "t" tokenTask .uncertain "lost" none ⟨"e", "c", "r", "x"⟩
      1).leavesUnscheduled tokenTaskStore = true := by decide
  rw [Finalization.leavesUnscheduled] at h
  split at h
  · rename_i s' hrun
    obtain ⟨o', ho', h⟩ := (Option.any_eq_true _ _).mp h
    simp only [Bool.and_eq_true, decide_eq_true_eq, Option.isNone_iff_eq_none] at h
    exact ⟨_, tokenTaskStore, o', rfl, by rw [hrun], by rw [hrun]; exact ho', h.1, h.2⟩
  · cases h

end HMaigc
