import HMaigc.Task.Lease
import HMaigc.Credit.Release

/-!
# Dispatching a paid request once

A synchronous provider is paid for every request it is sent, so the request of a billing order must
be sent once.  `BeginClaimedTokenProviderDispatch` is the boundary: in one transaction it moves the
order from reserved to running and marks the task, under the worker's lease, and only then the
request goes out.

* `Forward` — what every transaction does to an order: it is never reserved again.
* `Dispatched` — what a dispatch that commits has done, and found: both rows are locked before they
  are looked at, so nobody else changes them in between.
* `dispatched_once` — among any transactions that take tasks and orders through their lives, an
  order's request is started once.
-/

set_option autoImplicit false

namespace HMaigc

open Sql Go Prog

/-! ## Orders are not reserved again -/

/-- What a write does to the row of an order. -/
def Forward : ∀ k, Option (Row k) → Row k → Prop
  | .billingOrder _, old, o => ∀ o', old = some o' → o'.status ≠ .reserved → o.status ≠ .reserved
  | _, _, _ => True

attribute [local simp] Forward

theorem rowTrans_forward : RowTrans Forward := by
  intro k o r r' h h'
  cases k with
  | billingOrder id => exact fun o' ho' hnot ↦ h' r rfl (h o' ho' hnot)
  | _ => trivial

def RowKey.isOrder : RowKey → Bool
  | .billingOrder _ => true
  | _ => false

theorem forward_of_writesOnly {α : Type} {p : DbTx α} (h : p.WritesOnly (·.isOrder = false)) :
    p.Keeps Forward fun _ ↦ True :=
  h.imp fun k old new hk ↦ by
    cases k with
    | billingOrder id => cases hk
    | _ => trivial

theorem forward_of_taskSide {α : Type} {p : DbTx α} (h : p.WritesOnly (·.isTaskSide)) :
    p.Keeps Forward fun _ ↦ True :=
  forward_of_writesOnly (h.imp fun k _ _ hk ↦ by cases k <;> first | rfl | cases hk)

/-! ## Calls -/

/-- A worker's dispatch, the other way to start an order's request, a call on a task, or any
transaction that does not put orders back to reserved. -/
inductive DispatchCall where
  | dispatch (taskID : String) (task : Task) (pollStage : String) (now : Time)
  | beginRequest (id : String) (now : Time)
  | onTask (c : TaskCall) (hc : c.taskID.isSome = true)
  | other (p : DbTx Unit) (hp : p.Keeps Forward fun _ ↦ True)

namespace DispatchCall

def prog : DispatchCall → DbTx Unit
  | .dispatch taskID task pollStage now =>
    beginClaimedTokenProviderDispatch taskID task pollStage now
  | .beginRequest id now => beginTokenBillingRequest id now
  | .onTask c _ => do
    let _ ← c.prog
  | .other p _ => p

/-- The order whose request the call starts. -/
def starts : DispatchCall → Option String
  | .dispatch _ task .. => some task.billingOrderID
  | .beginRequest id _ => some (trimSpace id)
  | _ => none

end DispatchCall

theorem forward_reserveBillingOrder (id : String) (order : BillingOrder) (month : Month)
    (entryID : String) :
    (reserveBillingOrder id order month entryID).Keeps Forward fun _ ↦ True := by
  have hreserve : (reserveFromAccount id order entryID).Keeps Forward fun _ ↦ True := by
    simp [reserveFromAccount, createAccountIfMissing, readAccount, createBillingOrder,
      createLedgerEntry, keeps_ite]
  rw [reserveBillingOrder]
  split
  · exact (readOnly_checkMemberLimit order month).keeps.bind fun _ ↦ hreserve
  · exact hreserve

theorem forward_reserveForRetry (task : Task) (month : Month) (ids : CreationIDs)
    (order : Option BillingOrder) :
    (reserveForRetry task month ids order).Keeps Forward fun _ ↦ True := by
  cases order with
  | none => simp [reserveForRetry]
  | some order =>
    exact (readOnly_freezeProviderTaskRuntimeTx _ _).keeps.bind fun _ ↦
      (forward_reserveBillingOrder _ _ _ _).bind fun _ ↦ by simp

theorem forward_retryTaskWithBilling (userID taskID : String) (order : Option BillingOrder)
    (policy : ActiveTaskPolicy) (watermark : String) (month : Month) (ids : CreationIDs) :
    (retryTaskWithBilling userID taskID order policy watermark month ids).Keeps Forward
      fun _ ↦ True := by
  refine (readOnly_enforceActiveTaskLimit _ _).keeps.bind fun _ ↦ ?_
  rw [keeps_bind, keeps_query]
  intro v
  split
  · rename_i task _
    refine (forward_reserveForRetry task month ids order).bind fun reserved ↦ ?_
    refine (readOnly_freezeTaskWatermarkTx _ _).keeps.bind fun frozen ↦ ?_
    simp [createFrozenWatermarkTaskLogTx]
  · simp

theorem forward_resumeTaskWithUncertainBilling (userID taskID : String)
    (policy : ActiveTaskPolicy) :
    (resumeTaskWithUncertainBilling userID taskID policy).Keeps Forward fun _ ↦ True := by
  refine (readOnly_enforceActiveTaskLimit _ _).keeps.bind fun _ ↦ ?_
  simp [keeps_ite]

theorem forward_saveCancelledTaskResult (taskID : String) (task : Task) (resultID : String)
    (result : TaskResult) (billingError : String) (outbox : Option TaskOutboxDraft)
    (outboxID : String) (now : Time) :
    (saveCancelledTaskResultWithOutbox taskID task resultID result billingError outbox outboxID
      now).Keeps Forward fun _ ↦ True := by
  have hstore : (storeLateResult resultID result).Keeps Forward fun _ ↦ True := by
    simp [storeLateResult]
    intro v
    split <;> simp
  have hmark : (markLateResultUncertain task.billingOrderID billingError now).Keeps Forward
      fun _ ↦ True := by
    simp [markLateResultUncertain, keeps_ite]
  have henqueue := forward_of_taskSide
    ((writes_enqueueIfAny outboxID taskID outbox now).imp fun _ _ _ ↦ isTaskSide_of_isProduct)
  have hrest := hstore.bind fun _ ↦ hmark.bind fun _ ↦ henqueue
  rw [saveCancelledTaskResultWithOutbox, keeps_ite]
  refine ⟨fun _ ↦ by simp, fun _ ↦ ?_⟩
  rw [keeps_bind, keeps_update]
  exact ⟨fun _ _ _ _ ↦ ⟨trivial, hrest⟩, by simp⟩

theorem forward_saveTaskCompletion (taskID : String) (task : Task)
    (session : Option (String × Session)) (message : Option (String × Message))
    (results : List (String × TaskResult)) :
    (saveTaskCompletion taskID task session message results).Keeps Forward fun _ ↦ True := by
  have hrest := forward_of_taskSide
    ((writes_products session message results).imp fun _ _ _ ↦ isTaskSide_of_isProduct)
  rw [saveTaskCompletion, keeps_ite]
  refine ⟨fun _ ↦ by simp, fun _ ↦ ?_⟩
  rw [keeps_bind, keeps_update]
  exact ⟨fun _ _ _ _ ↦ ⟨trivial, hrest⟩, by simp⟩

theorem forward_taskCall {c : TaskCall} (hc : c.taskID.isSome = true) :
    c.prog.Keeps Forward fun _ ↦ True := by
  cases c with
  | claim =>
    simp [TaskCall.prog, claimNextTask]
    intro v
    split <;> simp [keeps_ite]
  | renew => simp [TaskCall.prog, renewTaskLease, keeps_ite]
  | report => simp [TaskCall.prog, updateTaskProgress, keeps_ite]
  | providerState => simp [TaskCall.prog, updateTaskProviderState, keeps_ite]
  | cancel => simp [TaskCall.prog, cancelTaskIfStatus, keeps_ite]
  | claimResult => simp [TaskCall.prog, claimCancelledTaskResult, keeps_ite]
  | schedule => simp [TaskCall.prog, scheduleCancelledTaskReconciliation, keeps_ite]
  | saveResult =>
    exact (forward_saveCancelledTaskResult _ _ _ _ _ _ _ _).bind fun _ ↦ by simp
  | complete => exact (forward_saveTaskCompletion _ _ _ _ _).bind fun _ ↦ by simp
  | fail taskID userID lease failure now =>
    cases failure with
    | none => simp [TaskCall.prog, failClaimedTaskFacts]
    | some failure => simp [TaskCall.prog, failClaimedTaskFacts, keeps_ite]
  | retry => exact (forward_retryTaskWithBilling _ _ _ _ _ _ _).bind fun _ ↦ by simp
  | resume => exact (forward_resumeTaskWithUncertainBilling _ _ _).bind fun _ ↦ by simp
  | other => cases hc

theorem DispatchCall.keeps_prog (c : DispatchCall) : c.prog.Keeps Forward fun _ ↦ True := by
  cases c with
  | dispatch =>
    simp [prog, beginClaimedTokenProviderDispatch, keeps_ite, BillingOrder.start]
  | beginRequest => simp [prog, beginTokenBillingRequest, keeps_ite, BillingOrder.start]
  | onTask c hc => exact (forward_taskCall hc).bind fun _ ↦ by simp
  | other p hp => exact hp

/-! ## What a dispatch does -/

/-- The dispatch found the task running under the worker's lease and not yet marked, and its order
reserved and not yet requested; it marked the one and started the other. -/
structure Dispatched (taskID : String) (task : Task) (pollStage : String) (now : Time)
    (s s' : Store) : Prop where
  marked : ∃ r, s.lookup (.task taskID) = some r ∧ r.userID = task.userID ∧
    r.runsUnder task.lease = true ∧ r.billingOrderID = task.billingOrderID ∧ r.pollStage = "" ∧
    r.providerRequestID = "" ∧ s'.lookup (.task taskID) = some { r with pollStage := pollStage }
  started : ∃ o, s.lookup (.billingOrder task.billingOrderID) = some o ∧
    o.isDispatchable taskID task.userID = true ∧
    s'.lookup (.billingOrder task.billingOrderID) = some (o.start now)

def dispatchContract : Contract RowKey DispatchCall Row Unit where
  inv _ := True
  row _ := Forward
  post
    | .dispatch taskID task pollStage now, _, _ => Dispatched taskID task pollStage now
    | .beginRequest id now, _, _ => fun s s' ↦
      ∃ o, s.lookup (.billingOrder (trimSpace id)) = some o ∧ o.status = .reserved ∧
        s'.lookup (.billingOrder (trimSpace id)) = some (o.start now)
    | _, _, _ => fun _ _ ↦ True

section Meets

variable {s : Store}

/-- **Marking a task and starting its order commits well.** -/
theorem commits_of_marking {taskID pollStage : String} {task r : Task} {o : BillingOrder}
    {now : Time} {locks : List RowKey} {ws : List (Sigma Row)}
    (hmarked : Pinned locks ws s (.task taskID) (some r) (some { r with pollStage := pollStage }))
    (hstarted : Pinned locks ws s (.billingOrder task.billingOrderID) (some o)
      (some (o.start now)))
    (huser : r.userID = task.userID) (hruns : r.runsUnder task.lease = true)
    (hbilled : r.billingOrderID = task.billingOrderID) (hstage : r.pollStage = "")
    (hrequest : r.providerRequestID = "")
    (hdispatchable : o.isDispatchable taskID task.userID = true) :
    Commits (.free DispatchCall.prog) dispatchContract (.dispatch taskID task pollStage now) ()
      locks ws s := by
  intro t ht _ _ _
  have hmarked := hmarked.rely ht
  have hstarted := hstarted.rely ht
  exact ⟨⟨⟨r, hmarked.committed, huser, hruns, hbilled, hstage, hrequest, hmarked.view⟩,
    o, hstarted.committed, hdispatchable, hstarted.view⟩, trivial⟩

theorem meets_dispatch (taskID : String) (task : Task) (pollStage : String) (now : Time) :
    (DispatchCall.dispatch taskID task pollStage now).prog.Meets dispatchContract
      (Commits (.free DispatchCall.prog) dispatchContract (.dispatch taskID task pollStage now))
      [] [] s := by
  rw [DispatchCall.prog, beginClaimedTokenProviderDispatch]
  refine meets_ite (fun _ ↦ (meets_fail _ _ _ _ _).mpr trivial) fun _ ↦ ?_
  rw [meets_bind]
  refine meets_firstForUpdate fun s₁ _ stored hstored hleased ↦ ?_
  refine meets_ite (fun _ ↦ (meets_fail _ _ _ _ _).mpr trivial) fun hunmarked ↦ ?_
  rw [meets_bind]
  refine meets_firstForUpdate fun s₂ hs₂ order horder _ ↦ ?_
  refine meets_ite (fun _ ↦ (meets_fail _ _ _ _ _).mpr trivial) fun hdispatchable ↦ ?_
  simp only [not_or, ne_eq, not_not] at hunmarked
  obtain ⟨hbilled, hstage, hrequest⟩ := hunmarked
  rw [hbilled] at horder ⊢
  rw [Bool.and_eq_true, decide_eq_true_eq] at hleased
  obtain ⟨huser, hruns⟩ := hleased
  rw [meets_bind]
  refine meets_update (fun s₃ hs₃ o ho _ o' ho' ↦ ?_) fun _ _ _ ↦ (meets_fail _ _ _ _ _).mpr trivial
  cases ho'
  -- the order was locked when it was read
  obtain rfl : o = order := by
    have heq := hs₃.lookup_eq (k := .billingOrder task.billingOrderID) (by simp)
    exact Option.some.inj (ho.symm.trans (heq.trans horder))
  rw [if_neg (by simp), meets_bind]
  refine meets_update (fun s₄ hs₄ r hr _ r' hr' ↦ ?_) fun _ _ _ ↦ (meets_fail _ _ _ _ _).mpr trivial
  cases hr'
  have hstored₄ : s₄.lookup (.task taskID) = some stored := by
    have heq₂ := hs₂.lookup_eq (k := .task taskID) (by simp)
    have heq₃ := hs₃.lookup_eq (k := .task taskID) (by simp)
    have heq₄ := hs₄.lookup_eq (k := .task taskID) (by simp)
    exact heq₄.trans (heq₃.trans (heq₂.trans hstored))
  obtain rfl : r = stored := by
    rw [Db.lookup_apply_of_notMem (by simp)] at hr
    exact Option.some.inj (hr.symm.trans hstored₄)
  have horder₄ := (Pinned.first ho (by simp) (o.start now)).rely hs₄
  have hother : RowKey.billingOrder task.billingOrderID ∉
      keysOf [(⟨.task taskID, { r with pollStage := pollStage }⟩ : Sigma Row)] := by simp [keysOf]
  have hstarted := horder₄.append (List.subset_append_left _ [.task taskID]) hother
  rw [if_neg (by simp)]
  refine meets_pure (commits_of_marking (.write hstored₄ (by simp) _) hstarted huser hruns hbilled
    hstage hrequest ?_)
  rw [← huser]
  simpa using hdispatchable

theorem meets_beginRequest (id : String) (now : Time) :
    (DispatchCall.beginRequest id now).prog.Meets dispatchContract
      (Commits (.free DispatchCall.prog) dispatchContract (.beginRequest id now)) [] [] s := by
  rw [DispatchCall.prog, beginTokenBillingRequest]
  refine meets_updateOne fun s₁ _ o ho hreserved t ht _ _ _ ↦ ⟨?_, trivial⟩
  simp only [Bool.and_eq_true, decide_eq_true_eq] at hreserved
  have hstarted := (Pinned.first ho (by simp) (o.start now)).rely ht
  exact ⟨o, hstarted.committed, hreserved.2, hstarted.view⟩

theorem DispatchCall.meets_prog (c : DispatchCall) (s : Store) :
    c.prog.Meets dispatchContract (Commits (.free DispatchCall.prog) dispatchContract c)
      [] [] s := by
  have hfree : ∀ p : DbTx Unit, p.Meets dispatchContract (fun _ _ _ _ ↦ True) [] [] s := fun p ↦
    meets_of_writesOnly (keeps_trivial p) trivial fun _ _ _ _ _ _ _ ↦ trivial
  cases c with
  | dispatch => exact meets_dispatch _ _ _ _
  | beginRequest => exact meets_beginRequest _ _
  | onTask c hc => exact (hfree _).imp fun _ _ _ _ _ _ _ _ _ _ ↦ ⟨trivial, trivial⟩
  | other p hp => exact (hfree _).imp fun _ _ _ _ _ _ _ _ _ _ ↦ ⟨trivial, trivial⟩

end Meets

/-! ## Runs -/

/-- The call started the request of the order. -/
def Starts (id : String) (e : Ended DispatchCall Row Unit) : Prop :=
  e.call.starts = some id ∧ e.result.isSome = true

/-- **One dispatch an order**, over a run. -/
structure DispatchedOnce (log : List (Ended DispatchCall Row Unit)) : Prop where
  /-- At most one call starts the request of an order. -/
  once : ∀ id, log.Pairwise fun e e' ↦ ¬(Starts id e ∧ Starts id e')
  /-- A dispatch that succeeds does so under the lease that the task is running under, while the
  order is reserved. -/
  current : ∀ e ∈ log, ∀ taskID task pollStage now, e.call = .dispatch taskID task pollStage now →
    e.result.isSome = true → Dispatched taskID task pollStage now e.before e.after
  /-- A call that does not succeed changes nothing. -/
  refused : ∀ e ∈ log, e.result = none → e.after = e.before

section Runs

variable {s : Store} {cfg : Config DispatchCall Row RepoError Unit}

/-- The order is there, and its request has been started. -/
def IsStarted (id : String) (s : Store) : Prop :=
  ∃ o, s.lookup (.billingOrder id) = some o ∧ o.status ≠ .reserved

theorem isStarted_of_rowStep {id : String} {s t : Store} (h : RowStep Forward s t)
    (hs : IsStarted id s) : IsStarted id t := by
  obtain ⟨o, ho, hstarted⟩ := hs
  rcases h (.billingOrder id) with heq | ⟨o', ho', hforward⟩
  · exact ⟨o, heq.trans ho, hstarted⟩
  · exact ⟨o', ho', hforward o ho hstarted⟩

/-- A call that starts an order's request finds it reserved. -/
theorem started_of_post {c : DispatchCall} {id : String} {locks : List RowKey} {s t : Store}
    (hc : c.starts = some id) (h : dispatchContract.post c locks () s t) :
    ∃ o now, s.lookup (.billingOrder id) = some o ∧ o.status = .reserved ∧
      t.lookup (.billingOrder id) = some (o.start now) := by
  cases c with
  | dispatch taskID task pollStage now =>
    cases hc
    obtain ⟨o, ho, hdispatchable, ho'⟩ := Dispatched.started h
    simp only [BillingOrder.isDispatchable, Bool.and_eq_true, decide_eq_true_eq] at hdispatchable
    exact ⟨o, now, ho, hdispatchable.1.2, ho'⟩
  | beginRequest id' now =>
    cases hc
    obtain ⟨o, ho, hreserved, ho'⟩ := h
    exact ⟨o, now, ho, hreserved, ho'⟩
  | onTask => cases hc
  | other => cases hc

/-- **A paid request is dispatched once.** -/
theorem dispatched_once (h : Reach (.free DispatchCall.prog) (.init s) cfg) :
    DispatchedOnce cfg.log := by
  have hok := Contract.sound (C := dispatchContract) (fun _ ↦ rowTrans_forward)
    DispatchCall.keeps_prog (fun c s _ ↦ DispatchCall.meets_prog c s) trivial h
  have hcommit : ∀ e ∈ cfg.log, e.result.isSome = true →
      ∃ locks, dispatchContract.Commit e.call locks () e.before e.after := by
    intro e he hsome
    have hful := hok.log e he
    rw [Contract.Fulfilled] at hful
    obtain ⟨a, ha⟩ := Option.isSome_iff_exists.mp hsome
    rwa [ha] at hful
  have hrefused : ∀ e ∈ cfg.log, e.result = none → e.after = e.before := by
    intro e he hnone
    have hful := hok.log e he
    rwa [Contract.Fulfilled, hnone] at hful
  refine ⟨fun id ↦ ?_, fun e he taskID task pollStage now hcall hsome ↦ ?_, hrefused⟩
  · refine (linked_of_reach h).atMostOnce (P := IsStarted id) (fun e he hstarted ↦ ?_)
      fun e he hstarts ↦ ?_
    · cases hres : e.result with
      | none => rwa [hrefused e he hres]
      | some a =>
        obtain ⟨locks, hc⟩ := hcommit e he (by simp [hres])
        exact isStarted_of_rowStep hc.row hstarted
    · obtain ⟨hcall, hsome⟩ := hstarts
      obtain ⟨locks, hc⟩ := hcommit e he hsome
      obtain ⟨o, now, ho, hreserved, ho'⟩ := started_of_post hcall hc.post
      refine ⟨fun hstarted ↦ ?_, o.start now, ho', by simp [BillingOrder.start]⟩
      obtain ⟨o', ho₁, hnot⟩ := hstarted
      cases ho.symm.trans ho₁
      exact hnot hreserved
  · obtain ⟨locks, hc⟩ := hcommit e he hsome
    have hpost := hc.post
    rwa [hcall] at hpost

end Runs

/-! ## Two workers -/

/-- A queued task, paid for by an order that is reserved. -/
def paidTask : Store :=
  AList.insert (.task "t") ({ userID := "u", billingOrderID := "o" } : Task)
    (AList.insert (.billingOrder "o")
      ({ userID := "u", taskID := "t", billingMode := "token_usage", amountMicrocredits := 5 } :
        BillingOrder) ∅)

/-- The task as the worker that holds this lease has it. -/
def paidTaskOf (owner : String) (generation : ℕ) (token : String) : Task where
  userID := "u"
  billingOrderID := "o"
  leaseOwner := owner
  leaseGeneration := generation
  leaseToken := token

/-- Worker `v` claims the task and dispatches its request.  Its lease runs out, `w` claims the task
and is refused. -/
def secondWorker : List (Action DispatchCall) :=
  [.start 0 (.onTask (.claim "t" "v" (sampleToken 'a') 1 5) rfl), .step 0, .step 0, .step 0,
    .commit 0,
    .start 0 (.dispatch "t" (paidTaskOf "v" 1 (sampleToken 'a')) "sent" 2), .step 0, .step 0,
    .step 0, .step 0, .commit 0,
    .start 1 (.onTask (.claim "t" "w" (sampleToken 'b') 8 20) rfl), .step 1, .step 1, .step 1,
    .commit 1,
    .start 1 (.dispatch "t" (paidTaskOf "w" 2 (sampleToken 'b')) "sent" 9), .step 1, .abort 1]

theorem play_secondWorker :
    (play DispatchCall.prog (.init paidTask) secondWorker).map
      (fun cfg ↦ (cfg.log.map (·.result.isSome),
        (cfg.db.lookup (.billingOrder "o")).map (·.status)))
      = some ([false, true, true, true], some .running) := by
  decide

theorem dispatched_once_secondWorker :
    ∃ cfg, Reach (.free DispatchCall.prog) (.init paidTask) cfg ∧ cfg.log.length = 4 ∧
      DispatchedOnce cfg.log := by
  obtain ⟨cfg, hplay, hlog⟩ := Option.map_eq_some_iff.mp play_secondWorker
  have hreach := reach_of_play hplay
  have hlength := congrArg (fun p ↦ p.1.length) hlog
  exact ⟨cfg, hreach, by simpa using hlength, dispatched_once hreach⟩

end HMaigc
