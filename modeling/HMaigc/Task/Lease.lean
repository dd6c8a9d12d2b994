import HMaigc.Sql.Contract
import HMaigc.Repository.Footprint

/-!
# The lease protocol of tasks

Many workers claim, renew, report on and finish the same task while its user cancels, retries and
resumes it, under READ COMMITTED and in any interleaving.  A claim raises the task's generation and
draws a token; owner, generation and token are the lease, and what a worker writes afterwards is
conditional on it.

* `TaskCall` are the calls of workers and users, `TaskCall.Moves` is the one transition each makes,
  and `TaskPost` that a committed call made it, or none.
* `History` is what the log says about one task: each entry moved the row, or left it.
* `holding` reads off the log whose lease the task is under: that of the newest claim, unless the
  task was cancelled, queued again or finished since.
* `task_leaseFencing` puts these together for every run.
-/

set_option autoImplicit false

namespace HMaigc

open Sql Go Prog

/-! ## Calls -/

def RowKey.isTask : RowKey → Bool
  | .task _ => true
  | _ => false

/-- A worker's or a user's call on a task, or a transaction that writes none.  A kept result is one,
and a completion is a success. -/
inductive TaskCall where
  | claim (taskID owner token : String) (now expiresAt : Time)
  | renew (taskID : String) (lease : Lease) (expiresAt : Time)
  | report (taskID : String) (lease : Lease) (stage : String) (progress : ℤ)
  | providerState (taskID : String) (lease : Lease) (providerRequestID pollStage : String)
      (nextPollAt : Option Time)
  | cancel (userID taskID : String) (expected : TaskStatus) (reasonCode : String) (now : Time)
  | claimResult (taskID userID : String) (producerGeneration : ℕ) (owner token : String)
      (expiresAt : Time)
  | schedule (taskID : String) (lease : Lease) (next : Time)
  | saveResult (taskID : String) (task : Task) (hresult : task.resultJSON ≠ "")
      (resultID : String) (result : TaskResult) (billingError : String)
      (outbox : Option TaskOutboxDraft) (outboxID : String) (now : Time)
  | complete (taskID : String) (task : Task) (hsucceeded : task.status = .succeeded)
      (session : Option (String × Session)) (message : Option (String × Message))
      (results : List (String × TaskResult))
  | fail (taskID userID : String) (lease : Lease) (failure : Option String) (now : Time)
  | retry (userID taskID : String) (order : Option BillingOrder) (policy : ActiveTaskPolicy)
      (watermark : String) (month : Month) (ids : CreationIDs)
  | resume (userID taskID : String) (policy : ActiveTaskPolicy)
  | other (p : DbTx Unit) (hp : p.WritesOnly (·.isTask = false))

namespace TaskCall

/-- The transaction; the result says whether it changed its task. -/
def prog : TaskCall → DbTx Bool
  | .claim taskID owner token now expiresAt => do
    let task ← claimNextTask taskID owner token now expiresAt
    return task.isSome
  | .renew taskID lease expiresAt => do
    renewTaskLease taskID lease expiresAt
    return true
  | .report taskID lease stage progress => do
    updateTaskProgress taskID lease stage progress
    return true
  | .providerState taskID lease providerRequestID pollStage nextPollAt => do
    updateTaskProviderState taskID lease providerRequestID pollStage nextPollAt
    return true
  | .cancel userID taskID expected reasonCode now =>
    cancelTaskIfStatus userID taskID expected reasonCode now
  | .claimResult taskID userID producerGeneration owner token expiresAt => do
    let _ ← claimCancelledTaskResult taskID userID producerGeneration owner token expiresAt
    return true
  | .schedule taskID lease next => do
    scheduleCancelledTaskReconciliation taskID lease next
    return true
  | .saveResult taskID task _ resultID result billingError outbox outboxID now => do
    saveCancelledTaskResultWithOutbox taskID task resultID result billingError outbox outboxID now
    return true
  | .complete taskID task _ session message results => do
    saveTaskCompletion taskID task session message results
    return true
  | .fail taskID userID lease failure now => do
    failClaimedTaskFacts taskID userID lease failure now
    return true
  | .retry userID taskID order policy watermark month ids => do
    let _ ← retryTaskWithBilling userID taskID order policy watermark month ids
    return true
  | .resume userID taskID policy => do
    let _ ← resumeTaskWithUncertainBilling userID taskID policy
    return true
  | .other p _ => do
    p
    return false

/-- The task the call is about. -/
def taskID : TaskCall → Option String
  | .claim id .. | .renew id .. | .report id .. | .providerState id .. | .cancel _ id ..
  | .claimResult id .. | .schedule id .. | .saveResult id .. | .complete id .. | .fail id ..
  | .retry _ id .. | .resume _ id .. => some id
  | .other .. => none

/-- What the call makes of its task. -/
def Moves : TaskCall → Task → Task → Prop
  | .claim _ owner token now expiresAt, r, r' =>
    r.isClaimable now = true ∧ r' = r.claim owner token now expiresAt
  | .renew _ lease expiresAt, r, r' =>
    lease.isValid = true ∧ r.leasedUnder lease = true ∧
      r' = { r with leaseExpiresAt := some expiresAt }
  | .report _ lease stage progress, r, r' =>
    lease.isValid = true ∧ r.runsUnder lease = true ∧
      r' = { r with stage := stage, progress := progress }
  | .providerState _ lease providerRequestID pollStage nextPollAt, r, r' =>
    lease.isValid = true ∧ r.leasedUnder lease = true ∧
      r' = { r with
        pollStage := pollStage
        nextPollAt := nextPollAt
        providerRequestID :=
          if isBlank providerRequestID then r.providerRequestID else trimSpace providerRequestID }
  | .cancel userID _ expected reasonCode now, r, r' =>
    (r.userID = userID ∧ r.status = expected) ∧ r' = r.cancel (trimSpace reasonCode) now
  | .claimResult _ userID producerGeneration owner token expiresAt, r, r' =>
    (r.userID = userID ∧ r.status = .cancelled ∧ r.cancelRequestedAt.isSome = true ∧
      r.resultJSON = "" ∧ r.leaseToken = "" ∧ r.leaseGeneration = producerGeneration + 1) ∧
      r' = { r with
        leaseOwner := owner
        leaseExpiresAt := some expiresAt
        leaseGeneration := r.leaseGeneration + 1
        leaseToken := token }
  | .schedule _ lease next, r, r' =>
    lease.isValid = true ∧ (r.status = .cancelled ∧ r.lease = lease ∧ r.providerRequestID ≠ "") ∧
      r' = { r.dropLease with pollStage := "cancel_reconcile", nextPollAt := some next }
  | .saveResult _ task .., r, r' =>
    task.lease.isValid = true ∧
      (r.userID = task.userID ∧ r.status = .cancelled ∧ r.lease = task.lease) ∧
      r' = r.keepResult task
  | .complete _ task .., r, r' =>
    task.lease.isValid = true ∧ (r.userID = task.userID ∧ r.runsUnder task.lease = true) ∧
      r' = r.complete task
  | .fail _ userID lease failure now, r, r' =>
    lease.isValid = true ∧ (r.userID = userID ∧ r.runsUnder lease = true) ∧
      ∃ text, failure = some text ∧ r' = r.failFacts text now
  | .retry userID .., r, r' =>
    (r.userID = userID ∧ r.status.isRetryable = true) ∧
      ∃ watermark order, r' = r.retry watermark order
  | .resume userID .., r, r' =>
    (r.userID = userID ∧ r.status.isRetryable = true) ∧
      r' = { r.requeue "等待上游结果核对" 35 with pollStage := "provider_resume" }
  | .other .., _, _ => False

attribute [local simp] Moves

end TaskCall

/-! ## The contract -/

/-- What a committed call did to the tasks: with the result `true` it moved its task, and it did
nothing else to any. -/
structure TaskPost (c : TaskCall) (a : Bool) (s s' : Store) : Prop where
  moved : a = true → ∃ id r r', c.taskID = some id ∧ s.lookup (.task id) = some r ∧
    s'.lookup (.task id) = some r' ∧ c.Moves r r'
  others : ∀ id, ¬(a = true ∧ c.taskID = some id) → s'.lookup (.task id) = s.lookup (.task id)

def taskContract : Contract RowKey TaskCall Row Bool where
  inv _ := True
  row _ _ _ _ := True
  post c _ := TaskPost c

section Meets

variable {c : TaskCall} {locks : List RowKey} {ws : List (Sigma Row)} {s t : Store}

/-- The pending writes move the call's task, which is locked, and no other. -/
def Writing (c : TaskCall) (locks : List RowKey) (ws : List (Sigma Row)) (s : Store) : Prop :=
  ∃ id r r', c.taskID = some id ∧ Pinned locks ws s (.task id) (some r) (some r') ∧
    c.Moves r r' ∧ ∀ id', id' ≠ id → RowKey.task id' ∉ keysOf ws

/-- The pending writes leave the tasks alone. -/
def TasksIdle (ws : List (Sigma Row)) : Prop := ∀ id, RowKey.task id ∉ keysOf ws

theorem tasksIdle_nil : TasksIdle [] := fun id h ↦ by simp [keysOf] at h

theorem TasksIdle.append {ws' : List (Sigma Row)} (h : TasksIdle ws)
    (h' : ∀ k ∈ keysOf ws', k.isTask = false) : TasksIdle (ws ++ ws') := fun id hk ↦ by
  rw [keysOf, List.map_append, List.mem_append] at hk
  rcases hk with hk | hk
  · exact h id hk
  · cases h' _ hk

theorem TasksIdle.lookup (h : TasksIdle ws) (id : String) (s : Store) :
    (s.apply ws).lookup (.task id) = s.lookup (.task id) :=
  Db.lookup_apply_of_notMem (h id) s

theorem TasksIdle.writing {id : String} {r r' : Task} (h : TasksIdle ws) (locks : List RowKey)
    (hid : c.taskID = some id) (hr : (s.apply ws).lookup (.task id) = some r)
    (hmoves : c.Moves r r') :
    Writing c (locks ++ [.task id]) (ws ++ [⟨.task id, r'⟩]) s := by
  refine ⟨id, r, r', hid, .write ((h.lookup id s).symm.trans hr) (by simp) r', hmoves,
    fun id' hne hk ↦ ?_⟩
  rw [keysOf, List.map_append, List.mem_append] at hk
  rcases hk with hk | hk
  · exact h id' hk
  · exact hne (by simpa using hk)

theorem Writing.append {locks' : List RowKey} {ws' : List (Sigma Row)} (h : Writing c locks ws s)
    (hlocks : locks ⊆ locks') (h' : ∀ k ∈ keysOf ws', k.isTask = false) :
    Writing c locks' (ws ++ ws') s := by
  obtain ⟨id, r, r', hid, hpinned, hmoves, hothers⟩ := h
  refine ⟨id, r, r', hid, hpinned.append hlocks fun hk ↦ ?_, hmoves, fun id' hne hk ↦ ?_⟩
  · cases h' _ hk
  · rw [keysOf, List.map_append, List.mem_append] at hk
    rcases hk with hk | hk
    · exact hothers id' hne hk
    · cases h' _ hk

theorem Writing.rely (h : Writing c locks ws s) (ht : taskContract.Rely locks s t) :
    Writing c locks ws t := by
  obtain ⟨id, r, r', hid, hpinned, hmoves, hothers⟩ := h
  exact ⟨id, r, r', hid, hpinned.rely ht, hmoves, hothers⟩

/-- **A move commits well.** -/
theorem Writing.commits (h : Writing c locks ws s) :
    Commits (.free TaskCall.prog) taskContract c true locks ws s := by
  intro t ht _ _ _
  obtain ⟨id, r, r', hid, hpinned, hmoves, hothers⟩ := h.rely ht
  refine ⟨⟨fun _ ↦ ⟨id, r, r', hid, hpinned.committed, hpinned.view, hmoves⟩, fun id' hnot ↦ ?_⟩,
    trivial⟩
  have hne : id' ≠ id := by
    rintro rfl
    exact hnot ⟨rfl, hid⟩
  exact Db.lookup_apply_of_notMem (hothers id' hne) t

/-- **Leaving the tasks alone commits well.** -/
theorem TasksIdle.commits (h : TasksIdle ws) :
    Commits (.free TaskCall.prog) taskContract c false locks ws s := by
  intro t _ _ _ _
  exact ⟨⟨fun hmoved ↦ absurd hmoved (by simp), fun id _ ↦ h.lookup id t⟩, trivial⟩

/-- The rest of a transaction that has moved its task, and writes none any more. -/
theorem Writing.tail {α : Type} {p : DbTx α} (h : Writing c locks ws s)
    (hp : p.WritesOnly (·.isTask = false)) :
    p.Meets taskContract (fun _ ↦ Writing c) locks ws s :=
  meets_of_writesOnly hp trivial fun _ _ _ _ hlocks hws ht ↦ (h.rely ht).append hlocks hws

/-- The beginning of a transaction, before it comes to its task. -/
theorem TasksIdle.head {α : Type} {p : DbTx α} (h : TasksIdle ws)
    (hp : p.WritesOnly (·.isTask = false)) :
    p.Meets taskContract (fun _ _ ws _ ↦ TasksIdle ws) locks ws s :=
  meets_of_writesOnly hp trivial fun _ _ _ _ _ hws _ ↦ h.append hws

/-! ### The operations meet the contract -/

/-- An `UPDATE` of the call's task that must affect it. -/
theorem meets_updateTask {id : String} {cond : Task → Bool} {f : Task → Task} {e : RepoError}
    (hid : c.taskID = some id) (h : TasksIdle ws) (hmoves : ∀ r, cond r = true → c.Moves r (f r)) :
    (do
      let rows ← Prog.update (.task id) cond fun t ↦ .ok (f t)
      if rows ≠ 1 then throw e : DbTx Unit).Meets taskContract (fun _ ↦ Writing c) locks ws s :=
  meets_updateOne fun _ _ r hr hcond ↦ h.writing _ hid hr (hmoves r hcond)

/-- The `UPDATE` of the call's task, and then writes to other tables. -/
theorem meets_updateThen {α : Type} {id : String} {cond : Task → Bool} {f : Task → Task}
    {e : RepoError} {p : DbTx α} (hid : c.taskID = some id)
    (hmoves : ∀ r, cond r = true → c.Moves r (f r)) (hp : p.WritesOnly (·.isTask = false)) :
    (do
      let rows ← Prog.update (.task id) cond fun t ↦ .ok (f t)
      if rows ≠ 1 then throw e
      p : DbTx α).Meets taskContract (fun _ ↦ Writing c) [] [] s := by
  rw [meets_bind]
  refine meets_update (fun s₁ _ r hr hcond r' hr' ↦ ?_) fun _ _ _ ↦
    (meets_fail _ _ _ _ _).mpr trivial
  cases hr'
  exact (tasksIdle_nil.writing _ hid hr (hmoves r hcond)).tail hp

/-- The `UPDATE` of a worker: the lease it names is checked first. -/
theorem meets_updateLeased {id : String} {cond : Task → Bool} {f : Task → Task} {e e' : RepoError}
    {lease : Lease} (hid : c.taskID = some id)
    (hmoves : lease.isValid = true → ∀ r, cond r = true → c.Moves r (f r)) :
    (do
      if !lease.isValid then throw e
      let rows ← Prog.update (.task id) cond fun t ↦ .ok (f t)
      if rows ≠ 1 then throw e' : DbTx Unit).Meets taskContract (fun _ ↦ Writing c) [] [] s :=
  meets_ite (fun _ ↦ (meets_fail _ _ _ _ _).mpr trivial) fun hvalid ↦
    meets_updateTask hid tasksIdle_nil (hmoves (by simpa using hvalid))

/-- A transaction that moves its task or fails. -/
theorem meets_writing {α : Type} {p : DbTx α}
    (h : p.Meets taskContract (fun _ ↦ Writing c) [] [] s) :
    (do
      let _ ← p
      return true : DbTx Bool).Meets taskContract (Commits (.free TaskCall.prog) taskContract c)
      [] [] s := by
  rw [meets_bind]
  exact h.imp fun _ _ _ _ hwriting ↦ meets_pure hwriting.commits

/-- Reading the row again afterwards. -/
theorem Writing.meets_first {id : String} {e : RepoError} (h : Writing c locks ws s) :
    (Prog.first (RowKey.task id) e : DbTx Task).Meets taskContract (fun _ ↦ Writing c) locks ws s :=
  Prog.meets_first fun _ ht _ _ ↦ h.rely ht

theorem meets_claimNextTask (taskID owner token : String) (now expiresAt : Time) :
    (TaskCall.claim taskID owner token now expiresAt).prog.Meets taskContract
      (Commits (.free TaskCall.prog) taskContract (.claim taskID owner token now expiresAt))
      [] [] s := by
  rw [TaskCall.prog, meets_bind, claimNextTask, meets_bind]
  refine meets_queryForUpdate fun s₁ _ ↦ ?_
  cases hfound : ((s₁.apply []).lookup (.task taskID)).filter (·.isClaimable now) with
  | none => exact meets_pure (meets_pure tasksIdle_nil.commits)
  | some task =>
    obtain ⟨htask, hclaimable⟩ := Option.filter_eq_some_iff.mp hfound
    rw [htask, Option.any_some, if_pos hclaimable, meets_bind]
    refine meets_update (fun s₂ hs₂ r hr _ r' hr' ↦ ?_) fun s₂ hs₂ _ ↦ ?_
    · -- the row is still the one that was found, since the search locked it
      obtain rfl : r = task := by
        have heq := hs₂.lookup_eq (k := .task taskID) (by simp)
        exact Option.some.inj (hr.symm.trans (heq.trans htask))
      cases hr'
      rw [if_neg (by simp), meets_bind]
      have hwriting : Writing (.claim taskID owner token now expiresAt) ([] ++ [.task taskID] ++
          [.task taskID]) ([] ++ [⟨.task taskID, r.claim owner token now expiresAt⟩]) s₂ :=
        tasksIdle_nil.writing _ rfl hr ⟨hclaimable, rfl⟩
      exact meets_first fun s₃ hs₃ r₃ _ ↦ meets_pure (meets_pure (hwriting.rely hs₃).commits)
    · rw [if_pos rfl]
      exact meets_pure (meets_pure tasksIdle_nil.commits)

theorem meets_claimCancelledTaskResult (taskID userID : String) (producerGeneration : ℕ)
    (owner token : String) (expiresAt : Time) :
    (claimCancelledTaskResult taskID userID producerGeneration owner token expiresAt).Meets
      taskContract
      (fun _ ↦ Writing (.claimResult taskID userID producerGeneration owner token expiresAt))
      [] [] s := by
  rw [claimCancelledTaskResult]
  refine meets_ite (fun _ ↦ (meets_fail _ _ _ _ _).mpr trivial) fun _ ↦ ?_
  rw [meets_bind]
  refine meets_update (fun s₁ _ r hr hcond r' hr' ↦ ?_) fun _ _ _ ↦
    (meets_fail _ _ _ _ _).mpr trivial
  cases hr'
  simp only [Bool.and_eq_true, decide_eq_true_eq] at hcond
  obtain ⟨⟨⟨⟨⟨⟨huser, hstatus⟩, hrequested⟩, hresult⟩, -⟩, htoken⟩, hgeneration⟩ := hcond
  rw [if_neg (by simp)]
  refine Writing.meets_first (TasksIdle.writing tasksIdle_nil _ rfl hr ?_)
  exact ⟨⟨huser, hstatus, hrequested, hresult, htoken, hgeneration⟩, rfl⟩

theorem isTask_of_isProduct {k : RowKey} (h : k.isProduct = true) : k.isTask = false := by
  cases k <;> first | rfl | cases h

theorem meets_saveTaskCompletion (taskID : String) (task : Task)
    (hsucceeded : task.status = .succeeded) (session : Option (String × Session))
    (message : Option (String × Message)) (results : List (String × TaskResult)) :
    (saveTaskCompletion taskID task session message results).Meets taskContract
      (fun _ ↦ Writing (.complete taskID task hsucceeded session message results)) [] [] s := by
  have hrest := (writes_products session message results).imp fun _ _ _ ↦ isTask_of_isProduct
  rw [saveTaskCompletion]
  refine meets_ite (fun _ ↦ (meets_fail _ _ _ _ _).mpr trivial) fun hvalid ↦ ?_
  refine meets_updateThen (c := .complete taskID task hsucceeded session message results) rfl
    (fun r hr ↦ ?_) hrest
  exact ⟨by simpa using hvalid, by simpa using hr, rfl⟩

theorem writes_storeLateResult (resultID : String) (result : TaskResult) :
    (storeLateResult resultID result).WritesOnly (·.isTask = false) := by
  simp [storeLateResult]
  intro v
  split <;> simp [RowKey.isTask]

theorem writes_markLateResultUncertain (orderID billingError : String) (now : Time) :
    (markLateResultUncertain orderID billingError now).WritesOnly (·.isTask = false) := by
  simp [markLateResultUncertain, keeps_ite, RowKey.isTask]

theorem meets_saveCancelledTaskResult (taskID : String) (task : Task)
    (hresult : task.resultJSON ≠ "") (resultID : String) (result : TaskResult)
    (billingError : String) (outbox : Option TaskOutboxDraft) (outboxID : String) (now : Time) :
    (saveCancelledTaskResultWithOutbox taskID task resultID result billingError outbox outboxID
      now).Meets taskContract (fun _ ↦ Writing
        (.saveResult taskID task hresult resultID result billingError outbox outboxID now))
      [] [] s := by
  have hrest := (writes_storeLateResult resultID result).bind fun _ ↦
    (writes_markLateResultUncertain task.billingOrderID billingError now).bind fun _ ↦
      (writes_enqueueIfAny outboxID taskID outbox now).imp fun _ _ _ ↦ isTask_of_isProduct
  rw [saveCancelledTaskResultWithOutbox]
  refine meets_ite (fun _ ↦ (meets_fail _ _ _ _ _).mpr trivial) fun hvalid ↦ ?_
  refine meets_updateThen (c := .saveResult taskID task hresult resultID result billingError
    outbox outboxID now) rfl (fun r hr ↦ ?_) hrest
  exact ⟨by simpa using hvalid, by simpa [and_assoc] using hr, rfl⟩

theorem meets_failClaimedTaskFacts (taskID userID : String) (lease : Lease)
    (failure : Option String) (now : Time) :
    (failClaimedTaskFacts taskID userID lease failure now).Meets taskContract
      (fun _ ↦ Writing (.fail taskID userID lease failure now)) [] [] s := by
  cases failure with
  | none => exact (meets_fail _ _ _ _ _).mpr trivial
  | some failure =>
    rw [failClaimedTaskFacts]
    refine meets_ite (fun _ ↦ (meets_fail _ _ _ _ _).mpr trivial) fun hvalid ↦ ?_
    have hlease : lease.isValid = true := by
      simp only [Bool.or_eq_true, Bool.not_eq_true', not_or, Bool.not_eq_false] at hvalid
      exact hvalid.1.2
    exact meets_updateTask (c := .fail taskID userID lease (some failure) now) rfl tasksIdle_nil
      fun r hr ↦ ⟨hlease, by simpa using hr, failure, rfl, rfl⟩

theorem notTask_of_readOnly {α : Type} {p : DbTx α} (h : p.ReadOnly) :
    p.WritesOnly (·.isTask = false) := h.keeps

theorem writes_reserveBillingOrder (id : String) (order : BillingOrder) (month : Month)
    (entryID : String) :
    (reserveBillingOrder id order month entryID).WritesOnly (·.isTask = false) := by
  have hreserve : (reserveFromAccount id order entryID).WritesOnly (·.isTask = false) := by
    simp [reserveFromAccount, createAccountIfMissing, readAccount, createBillingOrder,
      createLedgerEntry, keeps_ite, RowKey.isTask]
  rw [reserveBillingOrder]
  split
  · exact (notTask_of_readOnly (readOnly_checkMemberLimit order month)).bind fun _ ↦ hreserve
  · exact hreserve

theorem writes_reserveForRetry (task : Task) (month : Month) (ids : CreationIDs)
    (order : Option BillingOrder) :
    (reserveForRetry task month ids order).WritesOnly (·.isTask = false) := by
  cases order with
  | none => simp [reserveForRetry]
  | some order =>
    refine (notTask_of_readOnly (readOnly_freezeProviderTaskRuntimeTx _ _)).bind fun runtime ↦ ?_
    exact (writes_reserveBillingOrder _ _ _ _).bind fun _ ↦ by simp

theorem meets_retryTaskWithBilling (userID taskID : String) (order : Option BillingOrder)
    (policy : ActiveTaskPolicy) (watermark : String) (month : Month) (ids : CreationIDs) :
    (retryTaskWithBilling userID taskID order policy watermark month ids).Meets taskContract
      (fun _ ↦ Writing (.retry userID taskID order policy watermark month ids)) [] [] s := by
  rw [retryTaskWithBilling, meets_bind]
  refine (tasksIdle_nil.head (notTask_of_readOnly (readOnly_enforceActiveTaskLimit _ _))).imp
    fun _ _ _ _ h ↦ ?_
  rw [meets_bind]
  refine meets_query fun s₁ _ ↦ ?_
  split
  · rename_i task _
    rw [meets_bind]
    refine (h.head (writes_reserveForRetry task month ids order)).imp fun reserved _ _ _ h ↦ ?_
    rw [meets_bind]
    refine (h.head (notTask_of_readOnly (readOnly_freezeTaskWatermarkTx _ _))).imp
      fun frozen locks _ _ h ↦ ?_
    rw [meets_bind]
    refine meets_update (fun s₂ _ r hr hcond r' hr' ↦ ?_) fun _ _ _ ↦
      (meets_fail _ _ _ _ _).mpr trivial
    cases hr'
    have hwriting := h.writing (c := .retry userID taskID order policy watermark month ids) locks
      rfl hr ⟨by simpa using hcond, frozen, reserved, rfl⟩
    rw [if_neg (by simp), meets_bind]
    refine hwriting.meets_first.imp fun _ _ _ _ h ↦ ?_
    rw [meets_bind]
    exact (h.tail ((writes_createFrozenWatermarkTaskLogTx _ _ _ _).imp fun _ _ _ ↦
      isTask_of_isProduct)).imp fun _ _ _ _ h ↦ meets_pure h
  · exact (meets_fail _ _ _ _ _).mpr trivial

theorem meets_resumeTaskWithUncertainBilling (userID taskID : String) (policy : ActiveTaskPolicy) :
    (resumeTaskWithUncertainBilling userID taskID policy).Meets taskContract
      (fun _ ↦ Writing (.resume userID taskID policy)) [] [] s := by
  rw [resumeTaskWithUncertainBilling, meets_bind]
  refine (tasksIdle_nil.head (notTask_of_readOnly (readOnly_enforceActiveTaskLimit _ _))).imp
    fun _ locks _ _ h ↦ ?_
  rw [meets_bind]
  refine meets_firstForUpdate fun s₁ _ task _ _ ↦ ?_
  refine meets_ite (fun _ ↦ (meets_fail _ _ _ _ _).mpr trivial) fun _ ↦ ?_
  rw [meets_bind]
  refine meets_firstForUpdate fun s₂ _ order _ _ ↦ ?_
  refine meets_ite (fun _ ↦ (meets_fail _ _ _ _ _).mpr trivial) fun _ ↦ ?_
  rw [meets_bind]
  refine meets_update (fun s₃ _ r hr hcond r' hr' ↦ ?_) fun _ _ _ ↦
    (meets_fail _ _ _ _ _).mpr trivial
  cases hr'
  have hmoves : (r.userID = userID ∧ r.status.isRetryable = true) := by
    simp only [Bool.and_eq_true, decide_eq_true_eq] at hcond
    exact hcond.1
  rw [if_neg (by simp)]
  exact Writing.meets_first (h.writing _ rfl hr ⟨hmoves, rfl⟩)

/-- **Every call meets the contract.** -/
theorem TaskCall.meets_prog (c : TaskCall) (s : Store) :
    c.prog.Meets taskContract (Commits (.free TaskCall.prog) taskContract c) [] [] s := by
  cases c with
  | claim taskID owner token now expiresAt => exact meets_claimNextTask _ _ _ _ _
  | renew taskID lease expiresAt =>
    exact meets_writing (meets_updateLeased (c := .renew taskID lease expiresAt) rfl
      fun hvalid r hr ↦ ⟨hvalid, hr, rfl⟩)
  | report taskID lease stage progress =>
    exact meets_writing (meets_updateLeased (c := .report taskID lease stage progress) rfl
      fun hvalid r hr ↦ ⟨hvalid, hr, rfl⟩)
  | providerState taskID lease providerRequestID pollStage nextPollAt =>
    exact meets_writing (meets_updateLeased
      (c := .providerState taskID lease providerRequestID pollStage nextPollAt) rfl
      fun hvalid r hr ↦ ⟨hvalid, hr, rfl⟩)
  | cancel userID taskID expected reasonCode now =>
    rw [prog, cancelTaskIfStatus]
    refine meets_ite (fun _ ↦ (meets_fail _ _ _ _ _).mpr trivial) fun _ ↦ ?_
    rw [meets_bind]
    refine meets_update (fun s₁ _ r hr hcond r' hr' ↦ ?_) fun _ _ _ ↦
      meets_pure tasksIdle_nil.commits
    cases hr'
    have hwriting := TasksIdle.writing (c := .cancel userID taskID expected reasonCode now)
      tasksIdle_nil [] rfl hr ⟨by simpa using hcond, rfl⟩
    exact meets_pure hwriting.commits
  | claimResult => exact meets_writing (meets_claimCancelledTaskResult _ _ _ _ _ _)
  | schedule taskID lease next =>
    exact meets_writing (meets_updateLeased (c := .schedule taskID lease next) rfl
      fun hvalid r hr ↦ ⟨hvalid, by simpa [and_assoc] using hr, rfl⟩)
  | saveResult => exact meets_writing (meets_saveCancelledTaskResult _ _ _ _ _ _ _ _ _)
  | complete => exact meets_writing (meets_saveTaskCompletion _ _ _ _ _ _)
  | fail => exact meets_writing (meets_failClaimedTaskFacts _ _ _ _ _)
  | retry => exact meets_writing (meets_retryTaskWithBilling _ _ _ _ _ _ _)
  | resume => exact meets_writing (meets_resumeTaskWithUncertainBilling _ _ _)
  | other p hp =>
    rw [prog, meets_bind]
    exact (tasksIdle_nil.head hp).imp fun _ _ _ _ h ↦ meets_pure h.commits

end Meets

/-! ## What a move can be -/

namespace TaskCall

/-- The call gives the task to a worker. -/
def isClaim : TaskCall → Bool
  | .claim .. | .claimResult .. => true
  | _ => false

def isCancel : TaskCall → Bool
  | .cancel .. => true
  | _ => false

/-- The call puts the task back into the queue. -/
def isRequeue : TaskCall → Bool
  | .retry .. | .resume .. => true
  | _ => false

/-- The call is a worker's, who goes on holding the task. -/
def isReport : TaskCall → Bool
  | .renew .. | .report .. | .providerState .. => true
  | _ => false

def isFail : TaskCall → Bool
  | .fail .. => true
  | _ => false

def isSaveResult : TaskCall → Bool
  | .saveResult .. => true
  | _ => false

/-- The lease a worker's write names. -/
def lease : TaskCall → Option Lease
  | .renew _ lease _ | .report _ lease _ _ | .providerState _ lease _ _ _ | .schedule _ lease _
  | .fail _ _ lease _ _ => some lease
  | .saveResult _ task .. | .complete _ task .. => some task.lease
  | _ => none

def isRetry : TaskCall → Bool
  | .retry .. => true
  | _ => false

/-- The provider request the call records with the task. -/
def records : TaskCall → Option String
  | .providerState _ _ providerRequestID .. =>
    if isBlank providerRequestID then none else some (trimSpace providerRequestID)
  | _ => none

/-- The call puts the task's poll under another stage than those a cancelled task is looked up
in. -/
def strays : TaskCall → Bool
  | .providerState _ _ _ pollStage _ => pollStage ≠ "accepted" && pollStage ≠ "cancel_reconcile"
  | _ => false

/-- The attempt whose late result a claim is for. -/
def producer : TaskCall → Option ℕ
  | .claimResult _ _ producerGeneration .. => some producerGeneration
  | _ => none

end TaskCall

theorem TaskStatus.isRetryable_iff (status : TaskStatus) :
    status.isRetryable = true ↔ status = .failed ∨ status = .cancelled := by
  cases status <;> simp [TaskStatus.isRetryable]

namespace Task

/-- The cancellation time agrees with the status. -/
def IsMarked (task : Task) : Prop :=
  (task.status = .queued ∨ task.status = .running → task.cancelRequestedAt = none) ∧
    (task.status = .cancelled → task.cancelRequestedAt.isSome = true)

/-- The task was cancelled while its provider request was out, and the result is not in. -/
def AwaitsResult (task : Task) : Prop :=
  task.status = .cancelled ∧ task.providerRequestID ≠ "" ∧ task.resultJSON = ""

/-- A task that awaits a result is in one of the stages it is looked up in. -/
def IsScheduled (task : Task) : Prop :=
  task.AwaitsResult → task.pollStage = "accepted" ∨ task.pollStage = "cancel_reconcile"

end Task

namespace TaskCall

variable {c : TaskCall} {r r' : Task}

/-- **The generation** grows by one at every claim and every cancellation, and at nothing else. -/
theorem Moves.generation (h : c.Moves r r') :
    r'.leaseGeneration = r.leaseGeneration + if c.isClaim || c.isCancel then 1 else 0 := by
  cases c with
  | fail | retry | resume =>
    grind [Moves, Task.failFacts, Task.retry, Task.requeue, Task.dropLease, isClaim, isCancel]
  | other => exact h.elim
  | _ =>
    grind [Moves, Task.claim, Task.cancel, Task.dropLease, Task.keepResult, Task.complete,
      isClaim, isCancel]

/-- A worker's write is made under the lease it names. -/
theorem Moves.lease_eq (h : c.Moves r r') {lease : Lease} (hlease : c.lease = some lease) :
    lease.isValid = true ∧ r.lease = lease := by
  cases c <;> grind [Moves, TaskCall.lease, Task.leasedUnder, Task.runsUnder]

/-- Only a claim gives a lease, and only reports leave it. -/
theorem Moves.report_of_token (h : c.Moves r r') (hclaim : c.isClaim = false)
    (htoken : r'.leaseToken ≠ "") :
    c.isReport = true ∧ r'.lease = r.lease ∧ r'.status = r.status := by
  cases c <;> grind [Moves, Task.failFacts, Task.retry, Task.requeue, Task.dropLease, isClaim,
    isReport, Task.cancel, Task.keepResult, Task.complete, Task.lease]

theorem Moves.status_of_claim (h : c.Moves r r') (hclaim : c.isClaim = true) :
    r'.status = if r.status = .cancelled then .cancelled else .running := by
  cases c <;> grind [Moves, isClaim, Task.claim]

theorem Moves.status_of_requeue (h : c.Moves r r') (hrequeue : c.isRequeue = true) :
    (r.status = .failed ∨ r.status = .cancelled) ∧ r'.status = .queued := by
  cases c <;> grind [Moves, isRequeue, Task.retry, Task.requeue, TaskStatus.isRetryable_iff]

/-- A task is cancelled only by cancelling it. -/
theorem Moves.cancelled (h : c.Moves r r') (hr' : r'.status = .cancelled) :
    r.status = .cancelled ∨ c.isCancel = true := by
  cases c <;> grind [Moves, isCancel, Task.claim, Task.failFacts, Task.retry, Task.requeue,
    Task.dropLease, Task.complete]

/-- **A cancelled task stays cancelled** until it is queued again. -/
theorem Moves.of_cancelled (h : c.Moves r r') (hr : r.status = .cancelled) :
    r'.status = .cancelled ∨ c.isRequeue = true ∧ r'.status = .queued := by
  cases c <;> grind [Moves, isRequeue, Task.claim, Task.cancel, Task.runsUnder, Task.keepResult,
    Task.dropLease, Task.retry, Task.requeue]

theorem Moves.failed (h : c.Moves r r') (hr' : r'.status = .failed) :
    r.status = .failed ∨ c.isFail = true := by
  cases c <;> grind [Moves, isFail, Task.claim, Task.cancel, Task.keepResult, Task.dropLease,
    Task.retry, Task.requeue, Task.complete]

theorem Moves.cancelled_of_saveResult (h : c.Moves r r') (hc : c.isSaveResult = true) :
    r.status = .cancelled := by
  cases c <;> grind [Moves, isSaveResult]

theorem Moves.generation_of_producer (h : c.Moves r r') {g : ℕ} (hc : c.producer = some g) :
    r.leaseGeneration = g + 1 := by
  cases c <;> grind [Moves, producer]

/-- A claim of a cancelled task that is for no particular attempt is of its provider request. -/
theorem Moves.request_of_lookup (h : c.Moves r r') (hclaim : c.isClaim = true)
    (hproducer : c.producer = none) (hr : r.status = .cancelled) : r.providerRequestID ≠ "" := by
  cases c <;> grind [Moves, isClaim, producer, Task.isClaimable]

theorem Moves.isMarked (h : c.Moves r r') (hr : r.IsMarked) : r'.IsMarked := by
  cases c <;> grind [Moves, Task.IsMarked, Task.claim, Task.cancel, Task.keepResult,
    Task.dropLease, Task.retry, Task.requeue, Task.complete, Task.failFacts, Task.isClaimable]

/-- A task that awaits a result stays where it is looked up, except by straying. -/
theorem Moves.isScheduled (h : c.Moves r r') (hr : r.IsScheduled) :
    r'.IsScheduled ∨ c.strays = true ∧ r.status = .cancelled := by
  cases c <;> grind [Moves, Task.IsScheduled, Task.AwaitsResult, strays, Task.claim, Task.cancel,
    Task.keepResult, Task.dropLease, Task.retry, Task.requeue, Task.complete, Task.failFacts]

/-- Cancelling and queueing again put the task where it is looked up, wherever it was. -/
theorem Moves.isScheduled_of (h : c.Moves r r') (hc : c.isCancel = true ∨ c.isRequeue = true) :
    r'.IsScheduled := by
  cases c <;> grind [Moves, Task.IsScheduled, Task.AwaitsResult, isCancel, isRequeue, Task.cancel,
    Task.dropLease, Task.retry, Task.requeue]

/-- The provider request is a worker's record, and a retry clears it. -/
theorem Moves.request (h : c.Moves r r') (hr' : r'.providerRequestID ≠ "") :
    c.isRetry = false ∧
      (r.providerRequestID = r'.providerRequestID ∨ c.records = some r'.providerRequestID) := by
  cases c <;> grind [Moves, isRetry, records, Task.claim, Task.cancel, Task.keepResult,
    Task.dropLease, Task.retry, Task.requeue, Task.complete, Task.failFacts]

end TaskCall

/-! ## The history of one task -/

section History

variable {id : String} {s t : Store} {p : TaskCall → Bool}
  {log earlier : List (Ended TaskCall Row Bool)} {e x : Ended TaskCall Row Bool}

/-- The entry of the log moved the task. -/
def ActsOn (id : String) (e : Ended TaskCall Row Bool) : Prop :=
  e.result = some true ∧ e.call.taskID = some id

/-- A call of this kind has moved the task. -/
def Happened (id : String) (p : TaskCall → Bool) (log : List (Ended TaskCall Row Bool)) : Prop :=
  ∃ e ∈ log, ActsOn id e ∧ p e.call = true

/-- The entry `e` of the log moved the task, and since then no call of this kind has. -/
def Latest (id : String) (p : TaskCall → Bool) (log : List (Ended TaskCall Row Bool))
    (e : Ended TaskCall Row Bool) (earlier : List (Ended TaskCall Row Bool)) : Prop :=
  ActsOn id e ∧ ∃ later, log = later ++ e :: earlier ∧ ¬Happened id p later

@[simp] theorem happened_nil : ¬Happened id p [] := fun ⟨e, he, _⟩ ↦ by simp at he

theorem happened_cons :
    Happened id p (e :: log) ↔ (ActsOn id e ∧ p e.call = true) ∨ Happened id p log := by
  simp [Happened]

theorem Latest.head (h : ActsOn id e) : Latest id p (e :: earlier) e earlier :=
  ⟨h, [], rfl, happened_nil⟩

theorem Latest.cons (h : Latest id p log e earlier) (hx : ActsOn id x → p x.call = false) :
    Latest id p (x :: log) e earlier := by
  obtain ⟨hacts, later, rfl, hnot⟩ := h
  refine ⟨hacts, x :: later, rfl, ?_⟩
  rw [happened_cons]
  rintro (⟨hacts', hp⟩ | hlater)
  · rw [hx hacts'] at hp
    cases hp
  · exact hnot hlater

theorem moved_or_left (h : taskContract.Fulfilled e) (id : String) :
    (ActsOn id e ∧ ∃ r r', e.before.lookup (.task id) = some r ∧
      e.after.lookup (.task id) = some r' ∧ e.call.Moves r r') ∨
    (¬ActsOn id e ∧ e.after.lookup (.task id) = e.before.lookup (.task id)) := by
  rw [Contract.Fulfilled] at h
  cases hresult : e.result with
  | none =>
    rw [hresult] at h
    refine .inr ⟨fun hacts ↦ ?_, by rw [h]⟩
    cases hresult.symm.trans hacts.1
  | some a =>
    rw [hresult] at h
    obtain ⟨locks, hcommit⟩ := h
    by_cases hacts : ActsOn id e
    · obtain ⟨id', r, r', hid', hr, hr', hmoves⟩ :=
        hcommit.post.moved (Option.some.inj (hresult.symm.trans hacts.1))
      cases hid'.symm.trans hacts.2
      exact .inl ⟨hacts, r, r', hr, hr', hmoves⟩
    · refine .inr ⟨hacts, hcommit.post.others id fun hnot ↦ hacts ⟨?_, hnot.2⟩⟩
      rw [hresult, hnot.1]

/-- **Induction over a task's history.** -/
theorem task_history {P : List (Ended TaskCall Row Bool) → Task → Prop}
    (hlinked : Linked s log t) (hlog : ∀ e ∈ log, taskContract.Fulfilled e)
    (hnil : ∀ r, s.lookup (.task id) = some r → P [] r)
    (hleft : ∀ e log r, ¬ActsOn id e → P log r → P (e :: log) r)
    (hmoved : ∀ e log r r', ActsOn id e → e.call.Moves r r' →
      e.before.lookup (.task id) = some r → e.after.lookup (.task id) = some r' → P log r →
      P (e :: log) r')
    {r : Task} (hr : t.lookup (.task id) = some r) : P log r := by
  induction hlinked generalizing r with
  | nil => exact hnil r hr
  | @cons e log _ ih =>
    have ih' : ∀ r, e.before.lookup (.task id) = some r → P log r := fun r hr ↦
      ih (fun e he ↦ hlog e (.tail _ he)) hr
    rcases moved_or_left (hlog e (.head _)) id with
      ⟨hacts, r₀, r', hr₀, hr', hmoves⟩ | ⟨hacts, hsame⟩
    · cases hr.symm.trans hr'
      exact hmoved e log r₀ r hacts hmoves hr₀ hr' (ih' r₀ hr₀)
    · exact hleft e log r hacts (ih' r (hsame.symm.trans hr))

/-! ### What the history says -/

variable {r : Task}

/-- **A lease is the newest claim's.**  A task that is under a lease got it from a claim, since when
only reports have moved it. -/
theorem held_of_token (hlinked : Linked s log t) (hlog : ∀ e ∈ log, taskContract.Fulfilled e)
    (hs : ∀ r, s.lookup (.task id) = some r → r.leaseToken = "")
    (hr : t.lookup (.task id) = some r) (htoken : r.leaseToken ≠ "") :
    ∃ e earlier r₀, Latest id (fun c ↦ !c.isReport) log e earlier ∧ e.call.isClaim = true ∧
      e.after.lookup (.task id) = some r₀ ∧ r₀.lease = r.lease ∧ r₀.status = r.status := by
  revert htoken
  refine task_history (P := fun log r ↦ r.leaseToken ≠ "" → ∃ e earlier r₀,
    Latest id (fun c ↦ !c.isReport) log e earlier ∧ e.call.isClaim = true ∧
      e.after.lookup (.task id) = some r₀ ∧ r₀.lease = r.lease ∧ r₀.status = r.status)
    hlinked hlog (fun r hr htoken ↦ absurd (hs r hr) htoken) ?_ ?_ hr
  · intro x log r hacts ih htoken
    obtain ⟨e, earlier, r₀, hlatest, hrest⟩ := ih htoken
    exact ⟨e, earlier, r₀, hlatest.cons fun hx ↦ absurd hx hacts, hrest⟩
  · intro x log r r' hacts hmoves _ hr' ih htoken
    cases hclaim : x.call.isClaim with
    | true => exact ⟨x, log, r', .head hacts, hclaim, hr', rfl, rfl⟩
    | false =>
      obtain ⟨hreport, hlease, hstatus⟩ := hmoves.report_of_token hclaim htoken
      have htoken' : r.leaseToken ≠ "" := by
        rwa [← show r'.leaseToken = r.leaseToken from congrArg Lease.token hlease]
      obtain ⟨e, earlier, r₀, hlatest, hissued, hr₀, hlease₀, hstatus₀⟩ := ih htoken'
      exact ⟨e, earlier, r₀, hlatest.cons fun _ ↦ by simp [hreport], hissued, hr₀,
        hlease₀.trans hlease.symm, hstatus₀.trans hstatus.symm⟩

/-- A task that awaits a result is scheduled, unless it strayed since it was cancelled. -/
theorem scheduled_or_strayed (hlinked : Linked s log t)
    (hlog : ∀ e ∈ log, taskContract.Fulfilled e)
    (hs : ∀ r, s.lookup (.task id) = some r → r.IsScheduled)
    (hr : t.lookup (.task id) = some r) :
    r.IsScheduled ∨ ∃ e earlier, Latest id (fun c ↦ c.isCancel || c.isRequeue) log e earlier ∧
      e.call.strays = true ∧
      ∃ r₀, e.before.lookup (.task id) = some r₀ ∧ r₀.status = .cancelled := by
  refine task_history (P := fun log r ↦ r.IsScheduled ∨ ∃ e earlier,
    Latest id (fun c ↦ c.isCancel || c.isRequeue) log e earlier ∧ e.call.strays = true ∧
      ∃ r₀, e.before.lookup (.task id) = some r₀ ∧ r₀.status = .cancelled)
    hlinked hlog (fun r hr ↦ .inl (hs r hr)) ?_ ?_ hr
  · rintro x log r hacts (hscheduled | ⟨e, earlier, hlatest, hrest⟩)
    · exact .inl hscheduled
    · exact .inr ⟨e, earlier, hlatest.cons fun hx ↦ absurd hx hacts, hrest⟩
  · intro x log r r' hacts hmoves hr hr' ih
    by_cases hx : x.call.isCancel = true ∨ x.call.isRequeue = true
    · exact .inl (hmoves.isScheduled_of hx)
    rcases ih with hscheduled | ⟨e, earlier, hlatest, hrest⟩
    · refine (hmoves.isScheduled hscheduled).imp_right fun ⟨hstrays, hcancelled⟩ ↦ ?_
      exact ⟨x, log, .head hacts, hstrays, r, hr, hcancelled⟩
    · refine .inr ⟨e, earlier, hlatest.cons fun _ ↦ ?_, hrest⟩
      simpa using hx

theorem marked_of_linked (hlinked : Linked s log t) (hlog : ∀ e ∈ log, taskContract.Fulfilled e)
    (hs : ∀ r, s.lookup (.task id) = some r → r.IsMarked)
    (hr : t.lookup (.task id) = some r) : r.IsMarked :=
  task_history (P := fun _ r ↦ r.IsMarked) hlinked hlog hs (fun _ _ _ _ ih ↦ ih)
    (fun _ _ _ _ _ hmoves _ _ ih ↦ hmoves.isMarked ih) hr

/-- The provider request of a task is one that was recorded since its last retry. -/
theorem recorded_request (hlinked : Linked s log t) (hlog : ∀ e ∈ log, taskContract.Fulfilled e)
    (hr : t.lookup (.task id) = some r) (hrequest : r.providerRequestID ≠ "") :
    (∃ e earlier, Latest id TaskCall.isRetry log e earlier ∧
      e.call.records = some r.providerRequestID) ∨
    (¬Happened id TaskCall.isRetry log ∧ ∃ r₀, s.lookup (.task id) = some r₀ ∧
      r₀.providerRequestID = r.providerRequestID) := by
  revert hrequest
  refine task_history (P := fun log r ↦ r.providerRequestID ≠ "" →
    (∃ e earlier, Latest id TaskCall.isRetry log e earlier ∧
      e.call.records = some r.providerRequestID) ∨
    (¬Happened id TaskCall.isRetry log ∧ ∃ r₀, s.lookup (.task id) = some r₀ ∧
      r₀.providerRequestID = r.providerRequestID))
    hlinked hlog (fun r hr _ ↦ .inr ⟨happened_nil, r, hr, rfl⟩) ?_ ?_ hr
  · intro x log r hacts ih hrequest
    refine (ih hrequest).imp (fun ⟨e, earlier, hlatest, hrec⟩ ↦ ?_) fun ⟨hnot, hinit⟩ ↦ ?_
    · exact ⟨e, earlier, hlatest.cons fun hx ↦ absurd hx hacts, hrec⟩
    · refine ⟨?_, hinit⟩
      rw [happened_cons]
      exact not_or.mpr ⟨fun hx ↦ hacts hx.1, hnot⟩
  · intro x log r r' hacts hmoves _ _ ih hrequest
    obtain ⟨hretry, hsame | hrec⟩ := hmoves.request hrequest
    · rw [hsame] at ih
      refine (ih hrequest).imp (fun ⟨e, earlier, hlatest, hrec⟩ ↦ ?_) fun ⟨hnot, hinit⟩ ↦ ?_
      · exact ⟨e, earlier, hlatest.cons fun _ ↦ hretry, hrec⟩
      · refine ⟨?_, hinit⟩
        rw [happened_cons]
        exact not_or.mpr ⟨fun hx ↦ by simp [hretry] at hx, hnot⟩
    · exact .inl ⟨x, log, .head hacts, hrec⟩

/-- What is known of a task since it ran as the attempt of generation `g`. -/
structure Attempt (id : String) (g : ℕ) (log : List (Ended TaskCall Row Bool)) (r : Task) :
    Prop where
  generation : g ≤ r.leaseGeneration
  cancelled : r.status = .cancelled → g < r.leaseGeneration
  claimed : Happened id TaskCall.isClaim log →
    g < r.leaseGeneration ∧ (r.status = .cancelled → g + 1 < r.leaseGeneration)
  failed : r.status = .failed → Happened id TaskCall.isFail log
  requeued : Happened id TaskCall.isRequeue log → Happened id TaskCall.isFail log ∨
    (g < r.leaseGeneration ∧ (r.status = .cancelled → g + 1 < r.leaseGeneration))

theorem Attempt.move {g : ℕ} {r' : Task} (h : Attempt id g log r) (hacts : ActsOn id x)
    (hmoves : x.call.Moves r r') : Attempt id g (x :: log) r' := by
  obtain ⟨hgeneration, hcancelled, hclaimed, hfailed, hrequeued⟩ := h
  have hgrow := hmoves.generation
  have hcancel := hmoves.cancelled
  have hfail := hmoves.failed
  have hclaim := hmoves.status_of_claim
  have hrequeue := hmoves.status_of_requeue
  refine ⟨by omega, ?_, ?_, ?_, ?_⟩ <;> grind [happened_cons]

theorem attempt_of_linked {g : ℕ} (hlinked : Linked s log t)
    (hlog : ∀ e ∈ log, taskContract.Fulfilled e)
    (hs : ∀ r, s.lookup (.task id) = some r → r.status = .running ∧ r.leaseGeneration = g)
    (hr : t.lookup (.task id) = some r) : Attempt id g log r := by
  refine task_history hlinked hlog (fun r hr ↦ ?_) (fun x log r hacts ih ↦ ?_)
    (fun x log r r' hacts hmoves _ _ ih ↦ ih.move hacts hmoves) hr
  · obtain ⟨hstatus, hgeneration⟩ := hs r hr
    exact ⟨hgeneration.ge, by simp [hstatus], by simp, by simp [hstatus], by simp⟩
  · have hsame : ∀ p, Happened id p (x :: log) ↔ Happened id p log := fun p ↦ by
      rw [happened_cons]
      exact or_iff_right fun hx ↦ hacts hx.1
    refine ⟨ih.generation, ih.cancelled, fun hclaim ↦ ih.claimed ((hsame _).mp hclaim),
      fun hstatus ↦ (hsame _).mpr (ih.failed hstatus), fun hrequeue ↦ ?_⟩
    rw [hsame] at hrequeue ⊢
    exact ih.requeued hrequeue

end History

/-! ## Runs -/

/-- A task that no worker holds, cancelled or not. -/
structure Task.AtRest (task : Task) : Prop where
  unheld : task.leaseToken = ""
  marked : task.IsMarked
  scheduled : task.IsScheduled

/-- What a claim of the cancelled task `r` may store a result of, `earlier` being what was done
before.  A claim for the attempt of generation `g` is of the attempt that ran as such: since it did,
the task was not claimed again, and if it was queued again it was after the attempt failed.  Any
other claim is of the provider request that the task carries, recorded since its last retry. -/
def TaskCall.Recovers (id : String) (earlier : List (Ended TaskCall Row Bool)) (r : Task)
    (c : TaskCall) : Prop :=
  match c.producer with
  | some g => ∀ later e before r₀, earlier = later ++ e :: before →
      e.after.lookup (.task id) = some r₀ → r₀.status = .running → r₀.leaseGeneration = g →
      ¬Happened id TaskCall.isClaim later ∧
        (Happened id TaskCall.isRequeue later → Happened id TaskCall.isFail later)
  | none => r.providerRequestID ≠ "" ∧
      ((∃ e before, Latest id TaskCall.isRetry earlier e before ∧
        e.call.records = some r.providerRequestID) ∨ ¬Happened id TaskCall.isRetry earlier)

/-- **Lease fencing**, over a run. -/
structure LeaseFencing (cfg : Config TaskCall Row RepoError Bool) : Prop where
  /-- A worker's write is made under the lease of the newest claim, and since that claim the task
  was moved by reports only: it was neither cancelled nor queued again, nor finished. -/
  fenced : ∀ e earlier, (e :: earlier) <:+ cfg.log → ∀ id lease, ActsOn id e →
    e.call.lease = some lease → ∃ e' before r, Latest id (fun c ↦ !c.isReport) earlier e' before ∧
      e'.call.isClaim = true ∧ e'.after.lookup (.task id) = some r ∧ r.lease = lease
  /-- The generation never decreases, and grows at every claim and every cancellation. -/
  generation : ∀ e ∈ cfg.log, ∀ id r r', e.before.lookup (.task id) = some r →
    e.after.lookup (.task id) = some r' → r.leaseGeneration ≤ r'.leaseGeneration ∧
      (ActsOn id e → e.call.isClaim = true ∨ e.call.isCancel = true →
        r.leaseGeneration < r'.leaseGeneration)
  /-- A cancelled task stays cancelled until it is retried or resumed, and then it is queued. -/
  cancelled : ∀ e ∈ cfg.log, ∀ id r r', e.before.lookup (.task id) = some r →
    e.after.lookup (.task id) = some r' → r.status = .cancelled → r'.status ≠ .cancelled →
      ActsOn id e ∧ e.call.isRequeue = true ∧ r'.status = .queued
  /-- A late result is stored under the lease of a claim of the cancelled task. -/
  lateResult : ∀ e earlier, (e :: earlier) <:+ cfg.log → ∀ id, ActsOn id e →
    e.call.isSaveResult = true →
    ∃ e' before r, Latest id (fun c ↦ !c.isReport) earlier e' before ∧ e'.call.isClaim = true ∧
      e'.before.lookup (.task id) = some r ∧ r.status = .cancelled ∧ e'.call.Recovers id before r
  /-- No task disappears. -/
  kept : ∀ e ∈ cfg.log, ∀ id r, e.before.lookup (.task id) = some r →
    ∃ r', e.after.lookup (.task id) = some r'
  /-- A queued task can be claimed. -/
  queued : ∀ id r, cfg.db.lookup (.task id) = some r → r.status = .queued →
    ∀ now, r.isClaimable now = true
  /-- A running task can be claimed once its lease has run out. -/
  running : ∀ id r, cfg.db.lookup (.task id) = some r → r.status = .running →
    ∀ now, r.leaseExpiresAt.all (· ≤ now) = true → r.isClaimable now = true
  /-- A cancelled task that awaits a result can be claimed from its next poll on, once its lease has
  run out; unless, since it was cancelled, its stage was set to one it is not looked up in. -/
  awaiting : ∀ id r, cfg.db.lookup (.task id) = some r → r.AwaitsResult →
    (∀ now, r.nextPollAt.all (· ≤ now) = true → r.leaseExpiresAt.all (· ≤ now) = true →
      r.isClaimable now = true) ∨
    ∃ e earlier, Latest id (fun c ↦ c.isCancel || c.isRequeue) cfg.log e earlier ∧
      e.call.strays = true ∧ ∃ r₀, e.before.lookup (.task id) = some r₀ ∧ r₀.status = .cancelled

section Runs

variable {s : Store} {cfg : Config TaskCall Row RepoError Bool}

theorem TaskCall.ok_of_reach (h : Reach (.free TaskCall.prog) (.init s) cfg) :
    Contract.Ok (.free TaskCall.prog) taskContract cfg :=
  Contract.sound (fun _ _ _ _ _ _ _ ↦ trivial) (fun _ ↦ keeps_trivial _)
    (fun c s _ ↦ TaskCall.meets_prog c s) trivial h

theorem Lease.token_ne_of_isValid {lease : Lease} (h : lease.isValid = true) :
    lease.token ≠ "" := by
  intro htoken
  simp [Lease.isValid, htoken] at h

theorem moves_of_actsOn {e : Ended TaskCall Row Bool} {id : String}
    (hful : taskContract.Fulfilled e) (hacts : ActsOn id e) :
    ∃ r r', e.before.lookup (.task id) = some r ∧ e.after.lookup (.task id) = some r' ∧
      e.call.Moves r r' :=
  (moved_or_left hful id).elim (fun h ↦ h.2) fun h ↦ absurd hacts h.1

/-- The newest claim, at the moment of a worker's write. -/
theorem claim_of_lease {e : Ended TaskCall Row Bool} {earlier : List (Ended TaskCall Row Bool)}
    {id : String} {lease : Lease} (hlinked : Linked s earlier e.before)
    (hlog : ∀ e' ∈ e :: earlier, taskContract.Fulfilled e')
    (hs : ∀ r, s.lookup (.task id) = some r → r.AtRest) (hacts : ActsOn id e)
    (hlease : e.call.lease = some lease) :
    ∃ e' before r r₀, e.before.lookup (.task id) = some r ∧ r.lease = lease ∧
      Latest id (fun c ↦ !c.isReport) earlier e' before ∧ e'.call.isClaim = true ∧
      e'.after.lookup (.task id) = some r₀ ∧ r₀.lease = r.lease ∧ r₀.status = r.status := by
  obtain ⟨r, r', hr, -, hmoves⟩ := moves_of_actsOn (hlog e (.head _)) hacts
  obtain ⟨hvalid, rfl⟩ := hmoves.lease_eq hlease
  obtain ⟨e', before, r₀, hheld⟩ := held_of_token hlinked (fun e' he' ↦ hlog e' (.tail _ he'))
    (fun r hr ↦ (hs r hr).unheld) hr (Lease.token_ne_of_isValid hvalid)
  exact ⟨e', before, r, r₀, hr, rfl, hheld⟩

theorem TaskCall.lease_of_isSaveResult {c : TaskCall} (h : c.isSaveResult = true) :
    ∃ lease, c.lease = some lease := by
  cases c with
  | saveResult => exact ⟨_, rfl⟩
  | _ => cases h

/-- What a claim of a cancelled task is for. -/
theorem recovers_of_claim {e : Ended TaskCall Row Bool} {earlier : List (Ended TaskCall Row Bool)}
    {id : String} {r r' : Task} (hlinked : Linked s earlier e.before)
    (hlog : ∀ e' ∈ earlier, taskContract.Fulfilled e') (hr : e.before.lookup (.task id) = some r)
    (hmoves : e.call.Moves r r') (hclaim : e.call.isClaim = true)
    (hstatus : r.status = .cancelled) :
    e.call.Recovers id earlier r := by
  rw [TaskCall.Recovers]
  cases hproducer : e.call.producer with
  | some g =>
    rintro later e₁ before r₀ rfl hr₀ hrunning rfl
    have hgeneration := hmoves.generation_of_producer hproducer
    have hattempt : Attempt id r₀.leaseGeneration later r := by
      refine attempt_of_linked hlinked.split.2 (fun e' he' ↦ hlog e' ?_) (fun r₁ hr₁ ↦ ?_) hr
      · exact List.mem_append_left _ he'
      · cases hr₀.symm.trans hr₁
        exact ⟨hrunning, rfl⟩
    refine ⟨fun hclaimed ↦ ?_, fun hrequeued ↦ (hattempt.requeued hrequeued).resolve_right ?_⟩
    · have hlt := (hattempt.claimed hclaimed).2 hstatus
      omega
    · rintro ⟨-, hlt⟩
      have hlt := hlt hstatus
      omega
  | none =>
    have hrequest : r.providerRequestID ≠ "" := by
      exact hmoves.request_of_lookup hclaim hproducer hstatus
    exact ⟨hrequest, (recorded_request hlinked hlog hr hrequest).imp_right And.left⟩

/-- **Tasks are fenced by their leases.**  However the transactions interleave, whenever leases run
out and whoever is late. -/
theorem task_leaseFencing (hs : ∀ id r, s.lookup (.task id) = some r → r.AtRest)
    (h : Reach (.free TaskCall.prog) (.init s) cfg) : LeaseFencing cfg := by
  have hok := TaskCall.ok_of_reach h
  have hlinked := linked_of_reach h
  -- what was done before an entry of the log
  have hbefore : ∀ e earlier, (e :: earlier) <:+ cfg.log → Linked s earlier e.before ∧
      ∀ e' ∈ e :: earlier, taskContract.Fulfilled e' := by
    rintro e earlier ⟨later, hlater⟩
    rw [← hlater] at hlinked
    refine ⟨hlinked.split.1, fun e' he' ↦ hok.log e' ?_⟩
    rw [← hlater]
    exact List.mem_append_right _ he'
  have hcases : ∀ e ∈ cfg.log, ∀ id r r', e.before.lookup (.task id) = some r →
      e.after.lookup (.task id) = some r' → ActsOn id e ∧ e.call.Moves r r' ∨
        ¬ActsOn id e ∧ r' = r := by
    intro e he id r r' hr hr'
    rcases moved_or_left (hok.log e he) id with
      ⟨hacts, r₁, r₁', hr₁, hr₁', hmoves⟩ | ⟨hacts, hsame⟩
    · cases hr.symm.trans hr₁
      cases hr'.symm.trans hr₁'
      exact .inl ⟨hacts, hmoves⟩
    · rw [hr', hr] at hsame
      exact .inr ⟨hacts, Option.some.inj hsame⟩
  have hmarked : ∀ id r, cfg.db.lookup (.task id) = some r → r.IsMarked := fun id r hr ↦
    marked_of_linked hlinked hok.log (fun r hr ↦ (hs id r hr).marked) hr
  refine ⟨fun e earlier hsuffix id lease hacts hlease ↦ ?_, fun e he id r r' hr hr' ↦ ?_,
    fun e he id r r' hr hr' hcancelled hnot ↦ ?_, fun e earlier hsuffix id hacts hsave ↦ ?_,
    fun e he id r hr ↦ ?_, fun id r hr hstatus now ↦ ?_, fun id r hr hstatus now hlease ↦ ?_,
    fun id r hr hawaits ↦ ?_⟩
  · obtain ⟨hlinked', hlog⟩ := hbefore e earlier hsuffix
    obtain ⟨e', before, r, r₀, -, rfl, hlatest, hclaim, hr₀, hlease₀, -⟩ :=
      claim_of_lease hlinked' hlog (hs id) hacts hlease
    exact ⟨e', before, r₀, hlatest, hclaim, hr₀, hlease₀⟩
  · rcases hcases e he id r r' hr hr' with ⟨-, hmoves⟩ | ⟨hacts, rfl⟩
    · have hgrow := hmoves.generation
      refine ⟨by omega, fun _ hc ↦ ?_⟩
      rw [if_pos (by simpa using hc)] at hgrow
      omega
    · exact ⟨le_rfl, fun hacts' ↦ absurd hacts' hacts⟩
  · rcases hcases e he id r r' hr hr' with ⟨hacts, hmoves⟩ | ⟨-, rfl⟩
    · obtain ⟨hrequeue, hqueued⟩ := (hmoves.of_cancelled hcancelled).resolve_left hnot
      exact ⟨hacts, hrequeue, hqueued⟩
    · exact absurd hcancelled hnot
  · obtain ⟨hlinked', hlog⟩ := hbefore e earlier hsuffix
    obtain ⟨lease, hlease⟩ := TaskCall.lease_of_isSaveResult hsave
    obtain ⟨e', before, r, r₀, hr, -, hlatest, hclaim, hr₀, -, hstatus₀⟩ :=
      claim_of_lease hlinked' hlog (hs id) hacts hlease
    obtain ⟨r₁, r₁', hr₁, -, hmoves⟩ := moves_of_actsOn (hlog e (.head _)) hacts
    cases hr.symm.trans hr₁
    have hcancelled := hmoves.cancelled_of_saveResult hsave
    have ⟨hacts', later, hsplit, _⟩ := hlatest
    rw [hsplit] at hlinked' hlog
    have hlog' : ∀ e₁ ∈ e' :: before, taskContract.Fulfilled e₁ := fun e₁ he₁ ↦
      hlog e₁ (.tail _ (List.mem_append_right _ he₁))
    obtain ⟨r₂, r₂', hr₂, hr₂', hmoves'⟩ := moves_of_actsOn (hlog' e' (.head _)) hacts'
    cases hr₀.symm.trans hr₂'
    have hcancelled' : r₂.status = .cancelled := by
      have hstatus := hmoves'.status_of_claim hclaim
      rw [hstatus₀, hcancelled] at hstatus
      by_contra hnot
      simp [hnot] at hstatus
    refine ⟨e', before, r₂, hlatest, hclaim, hr₂, hcancelled', ?_⟩
    exact recovers_of_claim hlinked'.split.1 (fun e₁ he₁ ↦ hlog' e₁ (.tail _ he₁)) hr₂ hmoves'
      hclaim hcancelled'
  · rcases moved_or_left (hok.log e he) id with ⟨-, -, r', -, hr', -⟩ | ⟨-, hsame⟩
    · exact ⟨r', hr'⟩
    · exact ⟨r, hsame.trans hr⟩
  · have hnone := (hmarked id r hr).1 (.inl hstatus)
    simp [Task.isClaimable, hstatus, hnone]
  · have hnone := (hmarked id r hr).1 (.inr hstatus)
    simp [Task.isClaimable, hstatus, hnone, hlease]
  · have hsome := (hmarked id r hr).2 hawaits.1
    refine (scheduled_or_strayed hlinked hok.log (fun r hr ↦ (hs id r hr).scheduled) hr).imp_left
      fun hscheduled now hpoll hlease ↦ ?_
    have hstage := hscheduled hawaits
    obtain ⟨hstatus, hrequest, hresult⟩ := hawaits
    simp [Task.isClaimable, hstatus, hrequest, hresult, hsome, hpoll, hlease, hstage]

end Runs

/-! ## Three short runs -/

/-- One task, queued. -/
def queuedTask : Store := AList.insert (.task "t") ({ userID := "u" } : Task) ∅

theorem lookup_queuedTask {id : String} {r : Task} (h : queuedTask.lookup (.task id) = some r) :
    r = { userID := "u" } := by
  by_cases hid : id = "t"
  · subst hid
    exact (Option.some.inj h).symm
  · rw [queuedTask, AList.lookup_insert_ne (by simpa using hid)] at h
    simp at h

theorem atRest_queuedTask (id : String) (r : Task)
    (h : queuedTask.lookup (.task id) = some r) : r.AtRest := by
  rw [lookup_queuedTask h]
  exact ⟨rfl, by simp [Task.IsMarked], by simp [Task.IsScheduled, Task.AwaitsResult]⟩

/-- A token of the length a lease's has. -/
def sampleToken (c : Char) : String := String.ofList (List.replicate 64 c)

/-- The task with its result, as the worker that holds the third lease has it. -/
def lateTask (owner : String) : Task where
  userID := "u"
  leaseOwner := owner
  leaseGeneration := 3
  leaseToken := sampleToken 'b'
  resultJSON := "[]"

def storeLate (owner : String) : List (Action TaskCall) :=
  [.start 0 (.saveResult "t" (lateTask owner) (by simp [lateTask]) "r" { userID := "u" } "" none ""
      12), .step 0, .step 0, .step 0, .commit 0]

/-- A worker has its request accepted, the task is cancelled, and somebody claims it to look the
request up. -/
def reconciling : List (Action TaskCall) :=
  [.start 0 (.claim "t" "w" (sampleToken 'a') 1 5), .step 0, .step 0, .step 0, .commit 0,
    .start 0 (.providerState "t" ⟨"w", 1, sampleToken 'a'⟩ "req" "accepted" none), .step 0,
    .commit 0,
    .start 1 (.cancel "u" "t" .running "user" 10), .step 1, .commit 1,
    .start 0 (.claim "t" "v" (sampleToken 'b') 11 100), .step 0, .step 0, .step 0, .commit 0]

/-- The worker that looks the request up sets the stage to one of its own. -/
def straying : List (Action TaskCall) :=
  reconciling ++
    [.start 0 (.providerState "t" ⟨"v", 3, sampleToken 'b'⟩ "" "submitted" none), .step 0,
      .commit 0]

/-- The worker that looks the request up stores the result. -/
def recovering : List (Action TaskCall) :=
  reconciling ++ storeLate "v"

/-- The first attempt fails and the task is retried and cancelled.  Then a result is claimed for the
first attempt. -/
def restarted : List (Action TaskCall) :=
  [.start 0 (.claim "t" "w" (sampleToken 'a') 1 5), .step 0, .step 0, .step 0, .commit 0,
    .start 0 (.fail "t" "u" ⟨"w", 1, sampleToken 'a'⟩ (some "facts") 3), .step 0, .commit 0,
    .start 1 (.retry "u" "t" none ⟨0, "", [], 0, true, none⟩ "unsupported" ⟨0, 0⟩
      ⟨"o", "e", "l"⟩), .step 1, .step 1, .step 1, .step 1, .commit 1,
    .start 1 (.cancel "u" "t" .queued "user" 10), .step 1, .commit 1,
    .start 0 (.claimResult "t" "u" 1 "w" (sampleToken 'b') 100), .step 0, .step 0, .commit 0] ++
    storeLate "w"

/-- What a run came to: who succeeded, and a check of the log and the task. -/
def outcome (as : List (Action TaskCall))
    (check : List (Ended TaskCall Row Bool) → Task → Bool) : Option (List Bool × Bool) :=
  (play TaskCall.prog (.init queuedTask) as).map fun cfg ↦
    (cfg.log.map fun e ↦ e.result = some true, (cfg.db.lookup (.task "t")).any (check cfg.log))

theorem run_of_outcome {as : List (Action TaskCall)}
    {check : List (Ended TaskCall Row Bool) → Task → Bool} {done : List Bool}
    (h : outcome as check = some (done, true)) :
    ∃ cfg, Reach (.free TaskCall.prog) (.init queuedTask) cfg ∧
      (cfg.log.map fun e ↦ decide (e.result = some true)) = done ∧
      ∃ r, cfg.db.lookup (.task "t") = some r ∧ check cfg.log r = true := by
  obtain ⟨cfg, hplay, hpair⟩ := Option.map_eq_some_iff.mp h
  obtain ⟨hdone, hcheck⟩ := Prod.mk.inj hpair
  exact ⟨cfg, reach_of_play hplay, hdone, (Option.any_eq_true _ _).mp hcheck⟩

theorem outcome_recovering :
    outcome recovering (fun _ r ↦ r.resultJSON = "[]") =
      some ([true, true, true, true, true], true) := by
  decide

/-- The fencing theorem, for the run in which the result is recovered. -/
theorem task_leaseFencing_recovering :
    ∃ cfg, Reach (.free TaskCall.prog) (.init queuedTask) cfg ∧ cfg.log.length = 5 ∧
      LeaseFencing cfg := by
  obtain ⟨cfg, hreach, hdone, -⟩ := run_of_outcome outcome_recovering
  have hlength := congrArg List.length hdone
  exact ⟨cfg, hreach, by simpa using hlength, task_leaseFencing atRest_queuedTask hreach⟩

theorem outcome_reconciling :
    outcome reconciling (fun _ r ↦ r.status = .cancelled && r.providerRequestID = "req" &&
      r.resultJSON = "" && r.nextPollAt = some 10 && !r.isClaimable 50) =
      some ([true, true, true, true], true) := by
  decide

theorem outcome_straying :
    outcome straying (fun _ r ↦ r.status = .cancelled && r.providerRequestID = "req" &&
      r.resultJSON = "" && r.pollStage = "submitted") =
      some ([true, true, true, true, true], true) := by
  decide

/-- The log of `restarted`: a late result is stored under a claim for the attempt that ran as
generation 1, and the task was retried in between. -/
def storesForFirst : List (Ended TaskCall Row Bool) → Bool
  | [e, e', _, retried, _, first] =>
    e.call.isSaveResult && e.call.taskID = some "t" && e'.call.producer = some 1 &&
      e'.call.taskID = some "t" && retried.call.isRetry && retried.call.taskID = some "t" &&
      (first.after.lookup (.task "t")).any fun r ↦ r.status = .running && r.leaseGeneration = 1
  | _ => false

theorem outcome_restarted :
    outcome restarted (fun log _ ↦ storesForFirst log) =
      some ([true, true, true, true, true, true], true) := by
  decide

/-- A task that awaits a result and is under a lease cannot be claimed at its next poll; one that
strayed never can; and the result of an attempt can be stored after the task was retried. -/
theorem not_claimable_and_late_result :
    (∃ cfg, Reach (.free TaskCall.prog) (.init queuedTask) cfg ∧
      ∃ r, cfg.db.lookup (.task "t") = some r ∧ r.AwaitsResult ∧
        ∃ now, r.nextPollAt = some 10 ∧ 10 ≤ now ∧ r.isClaimable now = false) ∧
    (∃ cfg, Reach (.free TaskCall.prog) (.init queuedTask) cfg ∧
      ∃ r, cfg.db.lookup (.task "t") = some r ∧ r.AwaitsResult ∧
        ∀ now, r.isClaimable now = false) ∧
    ∃ cfg, Reach (.free TaskCall.prog) (.init queuedTask) cfg ∧
      ∃ e e' first later earlier r, cfg.log = e :: e' :: (later ++ first :: earlier) ∧
        ActsOn "t" e ∧ e.call.isSaveResult = true ∧ ActsOn "t" e' ∧ e'.call.producer = some 1 ∧
        first.after.lookup (.task "t") = some r ∧ r.status = .running ∧ r.leaseGeneration = 1 ∧
        Happened "t" TaskCall.isRetry later := by
  refine ⟨?_, ?_, ?_⟩
  · obtain ⟨cfg, hreach, -, r, hr, hcheck⟩ := run_of_outcome outcome_reconciling
    simp only [Bool.and_eq_true, decide_eq_true_eq, Bool.not_eq_true'] at hcheck
    obtain ⟨⟨⟨⟨hstatus, hrequest⟩, hresult⟩, hpoll⟩, hnot⟩ := hcheck
    exact ⟨cfg, hreach, r, hr, ⟨hstatus, by simp [hrequest], hresult⟩, 50, hpoll, by decide, hnot⟩
  · obtain ⟨cfg, hreach, -, r, hr, hcheck⟩ := run_of_outcome outcome_straying
    simp only [Bool.and_eq_true, decide_eq_true_eq] at hcheck
    obtain ⟨⟨⟨hstatus, hrequest⟩, hresult⟩, hstage⟩ := hcheck
    refine ⟨cfg, hreach, r, hr, ⟨hstatus, by simp [hrequest], hresult⟩, fun now ↦ ?_⟩
    simp [Task.isClaimable, hstatus, hstage]
  · obtain ⟨cfg, hreach, hdone, r, -, hcheck⟩ := run_of_outcome outcome_restarted
    unfold storesForFirst at hcheck
    split at hcheck
    · rename_i e e' cancelled retried failed first hlog
      rw [hlog] at hdone
      simp only [List.map_cons, List.map_nil, List.cons.injEq, decide_eq_true_eq] at hdone
      obtain ⟨he, he', -, hretried, -⟩ := hdone
      simp only [Bool.and_eq_true, decide_eq_true_eq] at hcheck
      obtain ⟨⟨⟨⟨⟨⟨hsave, hid⟩, hproducer⟩, hid'⟩, hretry⟩, hid₃⟩, hfirst⟩ := hcheck
      obtain ⟨r₁, hr₁, hran⟩ := (Option.any_eq_true _ _).mp hfirst
      simp only [Bool.and_eq_true, decide_eq_true_eq] at hran
      exact ⟨cfg, hreach, e, e', first, [cancelled, retried, failed], [], r₁, hlog, ⟨he, hid⟩,
        hsave, ⟨he', hid'⟩, hproducer, hr₁, hran.1, hran.2, retried, by simp, ⟨hretried, hid₃⟩,
        hretry⟩
    · cases hcheck

end HMaigc
