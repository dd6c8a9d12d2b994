import HMaigc.Credit.Conservation
import HMaigc.Repository.AgentTree
import HMaigc.Task.Finalization
import HMaigc.Task.Lease

/-!
# Disposing of an agent run's tasks, and their money

When an agent run ends before its time, one transaction cancels what is left of it.

* `isInRunTree` — the tasks of the run, as the queries of the transaction find them.
* `treeTargets` — what the queries return, put together: one target for each queued or running task
  of the tree (`exists_treeTarget`), and nothing else (`describes_of_mem_treeTargets`).
* `DisposedOne` — what one round of the loop does, and `DisposedAll` what the loop does.
* `NotSent` — no provider request can have been sent for the task.
* `Fenced` — no worker ends a task under a lease of an earlier generation.
* `cancelAgentRunTree_consistent` — the transaction changes nothing, or leaves tasks and money as
  `TreeDisposed` says.
* `endedStore_unscheduled` — an order that is left to reconciliation need not be scheduled for it.
-/

set_option autoImplicit false

namespace HMaigc

open Sql Go Prog

/-! ## The tasks of the tree -/

/-- The target found last for a task. -/
abbrev targetOf (id : String) (targets : List ControlTarget) : Option ControlTarget :=
  Keyed.latest ControlTarget.taskID targets id

section Targets

variable {l : List ControlTarget} {id : String} {target : ControlTarget}

theorem mem_sortedTargets : target ∈ sortedTargets l ↔ targetOf target.taskID l = some target := by
  rw [sortedTargets, List.mem_insertionSort, Keyed.mem_values]

theorem nodup_sortedTargets (l : List ControlTarget) :
    ((sortedTargets l).map (·.taskID)).Nodup := by
  rw [sortedTargets, ((List.perm_insertionSort _ _).map _).nodup_iff]
  exact Keyed.nodup_values l

theorem targetOf_eq_some_of_nodup (hnd : (l.map (·.taskID)).Nodup) :
    targetOf id l = some target ↔ target ∈ l ∧ target.taskID = id := by
  constructor
  · exact fun h ↦ ⟨Keyed.mem_of_latest h, Keyed.key_of_latest h⟩
  · rintro ⟨hmem, rfl⟩
    exact Keyed.latest_of_mem hnd hmem

theorem targetOf_sortedTargets (l : List ControlTarget) (id : String) :
    targetOf id (sortedTargets l) = targetOf id l := by
  refine Option.ext fun target ↦ ?_
  rw [targetOf_eq_some_of_nodup (nodup_sortedTargets l), mem_sortedTargets]
  constructor
  · rintro ⟨h, rfl⟩
    exact h
  · intro h
    obtain rfl := Keyed.key_of_latest h
    exact ⟨h, rfl⟩

end Targets

/-- A query finds the queued and running tasks it is for. -/
theorem targetOf_activeTargets (kind : ControlTargetKind) (poll : Bool)
    (which : String → Task → Bool) (s : Store) (id : String) :
    targetOf id (activeTargets kind poll which s) =
      ((s.lookup (.task id)).filter fun task ↦ which id task ∧ task.status.isActive).map
        fun task ↦ task.target id kind poll := by
  have hmem : ∀ target, target ∈ activeTargets kind poll which s ↔ ∃ id task,
      s.lookup (.task id) = some task ∧ (which id task = true ∧ task.status.isActive = true) ∧
        task.target id kind poll = target := by
    intro target
    rw [activeTargets, Db.mem_select]
    constructor
    · rintro ⟨k, r, hr, hf⟩
      cases k with
      | task id =>
        obtain ⟨hwhich, heq⟩ := Option.ite_none_right_eq_some.mp hf
        exact ⟨id, r, hr, hwhich, Option.some.inj heq⟩
      | _ => cases hf
    · rintro ⟨id, task, htask, hwhich, rfl⟩
      exact ⟨.task id, task, htask, if_pos hwhich⟩
  have hnd : ((activeTargets kind poll which s).map (·.taskID)).Nodup := by
    have hkeys : ((activeTargets kind poll which s).map fun target ↦
        RowKey.task target.taskID).Nodup := by
      refine Db.nodup_select (fun k r target hf ↦ ?_) s
      cases k with
      | task id =>
        obtain ⟨-, heq⟩ := Option.ite_none_right_eq_some.mp hf
        cases heq
        rfl
      | _ => cases hf
    have hmap : ((activeTargets kind poll which s).map fun target ↦ RowKey.task target.taskID) =
        ((activeTargets kind poll which s).map (·.taskID)).map RowKey.task := by
      rw [List.map_map]
      rfl
    rw [hmap] at hkeys
    exact hkeys.of_map
  refine Option.ext fun target ↦ ?_
  rw [targetOf_eq_some_of_nodup hnd, hmem, Option.map_eq_some_iff]
  simp only [Option.filter_eq_some_iff, decide_eq_true_eq]
  constructor
  · rintro ⟨⟨id', task, htask, hwhich, rfl⟩, rfl⟩
    exact ⟨task, ⟨htask, hwhich⟩, rfl⟩
  · rintro ⟨task, ⟨htask, hwhich⟩, rfl⟩
    exact ⟨⟨id, task, htask, hwhich, rfl⟩, rfl⟩

/-! ### The tree -/

section Tree

variable (scope : AgentScope) (operation : String)

/-- One of the queries after the one for vision tasks finds the task. -/
def isFoundLater (s : Store) (id : String) (task : Task) : Bool :=
  isMediaTask scope.runID id s || task.isAssemblyTask operation ||
    task.isTreeAssemblyTask operation scope ||
    task.isSpecialistTask id (specialistTaskIDs scope s) scope

/-- The task is one of the run, as far as the queries go; `operation` is the one of the run's media
assembly tasks. -/
def isInRunTree (s : Store) (id : String) (task : Task) : Bool :=
  task.isModelTask scope.runID || task.isVisionTask scope.runID ||
    isFoundLater scope operation s id task

/-- The poll stage the disposal knows of. -/
def pollStageSeen (s : Store) (id : String) (task : Task) : String :=
  if task.isVisionTask scope.runID && !isFoundLater scope operation s id task then task.pollStage
  else ""

/-- What the queries find, all together. -/
def treeTargets (s : Store) : List ControlTarget :=
  sortedTargets
    (sortedTargets
      (activeTargets .model false (fun _ task ↦ task.isModelTask scope.runID) s ++
        activeTargets .vision true (fun _ task ↦ task.isVisionTask scope.runID) s ++
        activeTargets .media false (fun id _ ↦ isMediaTask scope.runID id s) s ++
        activeTargets .assembly false (fun _ task ↦ task.isAssemblyTask operation) s) ++
      activeTargets .assembly false (fun _ task ↦ task.isTreeAssemblyTask operation scope) s ++
      activeTargets .specialist false (fun id task ↦
        task.isSpecialistTask id (specialistTaskIDs scope s) scope) s)

variable {s : Store} {id : String} {task : Task}

omit scope operation in
theorem targetOf_activeTargets_of_task (htask : s.lookup (.task id) = some task)
    (hactive : task.status.isActive = true) (kind : ControlTargetKind) (poll : Bool)
    (which : String → Task → Bool) :
    targetOf id (activeTargets kind poll which s) =
      if which id task then some (task.target id kind poll) else none := by
  rw [targetOf_activeTargets, htask]
  cases hwhich : which id task <;> simp [Option.filter, hwhich, hactive]

/-- **A queued or running task of the tree has a target, and no other task has.** -/
theorem targetOf_treeTargets (htask : s.lookup (.task id) = some task)
    (hactive : task.status.isActive = true) :
    ∃ kind poll, (if poll then task.pollStage else "") = pollStageSeen scope operation s id task ∧
      targetOf id (treeTargets scope operation s) =
        if isInRunTree scope operation s id task then some (task.target id kind poll) else none := by
  have htarget := targetOf_activeTargets_of_task htask hactive
  rw [treeTargets, targetOf_sortedTargets]
  simp only [targetOf, Keyed.latest_append]
  rw [show Keyed.latest ControlTarget.taskID (sortedTargets _) id = _ from targetOf_sortedTargets _ id]
  simp only [targetOf, Keyed.latest_append]
  simp only [targetOf] at htarget
  simp only [htarget, pollStageSeen, isInRunTree, isFoundLater]
  -- the queries in the order in which they count
  by_cases hspecialist : task.isSpecialistTask id (specialistTaskIDs scope s) scope = true
  · exact ⟨.specialist, false, by simp [hspecialist], by simp [hspecialist]⟩
  by_cases htree : task.isTreeAssemblyTask operation scope = true
  · exact ⟨.assembly, false, by simp [htree], by simp [hspecialist, htree]⟩
  by_cases hassembly : task.isAssemblyTask operation = true
  · exact ⟨.assembly, false, by simp [hassembly], by simp [hspecialist, htree, hassembly]⟩
  by_cases hmedia : isMediaTask scope.runID id s = true
  · exact ⟨.media, false, by simp [hmedia], by simp [hspecialist, htree, hassembly, hmedia]⟩
  by_cases hvision : task.isVisionTask scope.runID = true
  · exact ⟨.vision, true, by simp [hspecialist, htree, hassembly, hmedia, hvision],
      by simp [hspecialist, htree, hassembly, hmedia, hvision]⟩
  · exact ⟨.model, false, by simp [hvision],
      by simp [hspecialist, htree, hassembly, hmedia, hvision]⟩

/-- Where there is no such task, there is no target. -/
theorem targetOf_treeTargets_of_not_active
    (h : ∀ task, s.lookup (.task id) = some task → task.status.isActive = false) :
    targetOf id (treeTargets scope operation s) = none := by
  have hnone : ∀ kind poll which, targetOf id (activeTargets kind poll which s) = none := by
    intro kind poll which
    rw [targetOf_activeTargets]
    cases htask : s.lookup (.task id) with
    | none => rfl
    | some task => simp [Option.filter, h task htask]
  simp only [targetOf] at hnone
  rw [treeTargets, targetOf_sortedTargets]
  simp only [targetOf, Keyed.latest_append]
  rw [show Keyed.latest ControlTarget.taskID (sortedTargets _) id = _ from targetOf_sortedTargets _ id]
  simp [targetOf, Keyed.latest_append, hnone]

/-- The target says of the task, and of its order, what is there. -/
structure Describes (target : ControlTarget) (poll : String) (task : Task) : Prop where
  userID : target.userID = task.userID
  status : target.status = task.status
  billingOrderID : target.billingOrderID = task.billingOrderID
  providerRequestID : target.providerRequestID = task.providerRequestID
  pollStage : target.pollStage = poll

/-- What is known of a target. -/
theorem describes_of_mem_treeTargets {target : ControlTarget}
    (h : target ∈ treeTargets scope operation s) :
    ∃ task, s.lookup (.task target.taskID) = some task ∧ task.status.isActive = true ∧
      isInRunTree scope operation s target.taskID task = true ∧
      Describes target (pollStageSeen scope operation s target.taskID task) task := by
  have htarget := (targetOf_eq_some_of_nodup (nodup_sortedTargets _)).mpr ⟨h, rfl⟩
  by_cases hactive : ∃ task, s.lookup (.task target.taskID) = some task ∧
      task.status.isActive = true
  · obtain ⟨task, htask, hactive⟩ := hactive
    obtain ⟨kind, poll, hpoll, heq⟩ := targetOf_treeTargets scope operation htask hactive
    rw [treeTargets] at heq
    rw [heq] at htarget
    obtain ⟨hin, hsome⟩ := Option.ite_none_right_eq_some.mp htarget
    have hfields := Option.some.inj hsome
    refine ⟨task, htask, hactive, hin, ?_, ?_, ?_, ?_, ?_⟩ <;> rw [← hfields]
    · rfl
    · rfl
    · rfl
    · rfl
    · exact hpoll
  · have hnone : targetOf target.taskID (treeTargets scope operation s) = none :=
      targetOf_treeTargets_of_not_active scope operation fun task htask ↦ by
        simpa using fun h ↦ hactive ⟨task, htask, h⟩
    rw [treeTargets] at hnone
    cases hnone.symm.trans htarget

theorem exists_treeTarget (htask : s.lookup (.task id) = some task)
    (hactive : task.status.isActive = true) (hin : isInRunTree scope operation s id task = true) :
    ∃ target ∈ treeTargets scope operation s, target.taskID = id := by
  obtain ⟨kind, poll, -, heq⟩ := targetOf_treeTargets scope operation htask hactive
  rw [if_pos hin] at heq
  exact ⟨_, Keyed.mem_of_latest heq, rfl⟩

/-- **What the queries of the disposal return.** -/
theorem post_loadAgentRunTreeControlTargets (digest : String → String)
    (Q : List ControlTarget → Store → Prop) :
    (loadAgentRunTreeControlTargets digest scope).Post s Q ↔
      ∀ operation, mediaAssemblyOperationForRun digest scope.runID = .ok operation →
        Q (treeTargets scope operation s) s := by
  rw [loadAgentRunTreeControlTargets, loadAdminAgentRunControlTargets]
  cases hoperation : mediaAssemblyOperationForRun digest scope.runID with
  | error e => simp [selectTargets]
  | ok operation =>
    simp only [selectTargets, post_bind, post_queryForUpdate, post_query, pure_eq_done, post_done,
      Except.ok.injEq, forall_eq']
    rfl

end Tree

/-! ## One round -/

/-- What disposing of a task leaves of its order. -/
inductive Disposed (possibly : Bool) (now : Time) (order : BillingOrder) : BillingOrder → Prop where
  | refunded (text : String) (hsent : possibly = false) (hreserved : order.status = .reserved) :
      Disposed possibly now order (order.refund text now)
  | uncertain (text : String) (hsent : possibly = true)
      (hopen : order.status = .reserved ∨ order.status = .running) :
      Disposed possibly now order (order.uncertain order text now)
  | uncertainBefore (hsent : possibly = true) (huncertain : order.status = .uncertain) :
      Disposed possibly now order order
  | closedBefore (hclosed : order.status.isOpen = false) : Disposed possibly now order order

section Disposed

variable {possibly : Bool} {now : Time} {o o' : BillingOrder}

theorem Disposed.taskID_eq (h : Disposed possibly now o o') : o'.taskID = o.taskID := by
  cases h <;> rfl

theorem Disposed.refunded_iff (h : Disposed possibly now o o') :
    o'.status = .refunded ↔ o.status = .refunded ∨ possibly = false ∧ o.status = .reserved := by
  cases h with
  | refunded text hsent hreserved => simp [hsent, hreserved, BillingOrder.refund]
  | uncertain text hsent hopen =>
    rcases hopen with hopen | hopen <;> simp [hsent, hopen, BillingOrder.uncertain]
  | uncertainBefore hsent huncertain => simp [huncertain]
  | closedBefore hclosed =>
    cases hstatus : o.status <;> simp_all [BillingStatus.isOpen]

theorem Disposed.uncertain_of_open (h : Disposed true now o o') (hopen : o.status.isOpen = true) :
    o'.status = .uncertain ∧ (o.isLookable = true → o.status ≠ .uncertain →
      o'.nextReconcileAt = some (now + second 5)) := by
  cases h with
  | refunded text hsent => cases hsent
  | uncertain text => exact ⟨rfl, fun hlook _ ↦ nextReconcileAt_uncertain hlook _ _ _⟩
  | uncertainBefore _ huncertain => exact ⟨huncertain, fun _ hne ↦ absurd huncertain hne⟩
  | closedBefore hclosed => cases hopen.symm.trans hclosed

end Disposed

section Round

variable {s : Store} {id : String} {order : BillingOrder} {target : ControlTarget}
  {possibly : Bool} {now : Time}

theorem lookup_refundBillingOrderTx {row : BillingOrder}
    (hrow : s.lookup (.billingOrder id) = some row) (text entryID : String) :
    (refundBillingOrderTx id order text entryID now).Post s fun _ s' ↦
      s'.lookup (.billingOrder id) = some (row.refund text now) := by
  simp [refundBillingOrderTx, post_ite, readAccount, createLedgerEntry, hrow]

theorem post_disposeBillingOrder
    (horder : s.lookup (.billingOrder target.billingOrderID) = some order) (reason entryID : String) :
    (disposeBillingOrder target order possibly reason entryID now).Post s fun _ s' ↦
      (∃ o, s'.lookup (.billingOrder target.billingOrderID) = some o ∧
        Disposed possibly now order o) ∧ (Kept s → Kept s') := by
  rw [disposeBillingOrder, post_ite]
  refine ⟨fun hrefund ↦ ?_, fun _ ↦ ?_⟩
  · simp only [Bool.and_eq_true, Bool.not_eq_true', decide_eq_true_eq] at hrefund
    obtain ⟨⟨hsent, -⟩, hreserved⟩ := hrefund
    rw [post_bind]
    intro _ s' hrun
    have hopen : order.status.isOpen = true := by rw [hreserved]; rfl
    refine (post_done _ _ _).mpr ⟨⟨_, lookup_refundBillingOrderTx horder _ _ _ _ hrun,
      .refunded _ hsent hreserved⟩, fun hs ↦ ?_⟩
    exact post_refundBillingOrderTx hs ⟨horder, hopen, rfl, rfl⟩ _ _ _ _ _ hrun
  · rw [post_ite]
    refine ⟨fun hsent ↦ ?_, fun hnot ↦ ?_⟩
    · obtain ⟨hsent, hopen⟩ := Bool.and_eq_true_iff.mp hsent
      by_cases huncertain : order.status = .uncertain
      · simp only [huncertain, ne_eq, not_true_eq_false, if_false]
        exact (post_done _ _ _).mpr ⟨⟨_, horder, .uncertainBefore hsent huncertain⟩, id⟩
      · have hbefore : order.status = .reserved ∨ order.status = .running := by
          cases hstatus : order.status <;> simp_all
        simp [huncertain, post_ite, horder]
        refine ⟨.uncertain _ hsent hbefore, fun hs ↦ hs.insert ?_⟩
        exact ⟨order, horder, rfl, rfl, hopen.symm⟩
    · rw [post_ite]
      refine ⟨fun _ ↦ by simp, fun hclosed ↦ ?_⟩
      have hclosed' : order.status.isOpen = false := by
        cases possibly <;> simp_all
      exact (post_done _ _ _).mpr ⟨⟨_, horder, .closedBefore hclosed'⟩, fun hs ↦ hs⟩

/-- The provider request of a task may have been sent, as far as the task, the poll stage that is
known of, and the order tell. -/
def mayBeSent (poll : String) (task : Task) (order : BillingOrder) : Bool :=
  !isBlank task.providerRequestID || !isBlank poll || task.status = .running ||
    !isBlank order.providerRequestID

theorem possibly_withOrder {poll : String} {task : Task} (h : Describes target poll task)
    (order : BillingOrder) :
    ((target.submission true).withOrder order).possibly = mayBeSent poll task order := by
  simp only [Submission.withOrder, ControlTarget.submission, mayBeSent, h.status,
    h.providerRequestID, h.pollStage, Bool.true_and]
  cases isBlank task.providerRequestID <;> simp

/-- The rows billing a target may write. -/
def IsBilledTo (target : ControlTarget) (k : RowKey) : Prop :=
  (k = .billingOrder target.billingOrderID ∧ target.billingOrderID ≠ "") ∨
    (∃ p, k = .creditAccount p) ∨ ∃ b id, k = .creditLedgerEntry b id

theorem writes_disposeTargetBilling (submission : Submission) (reason entryID : String) :
    (disposeTargetBilling target submission reason entryID now).WritesOnly (IsBilledTo target) := by
  simp +contextual [disposeTargetBilling, disposeBillingOrder, refundBillingOrderTx, readAccount,
    createLedgerEntry, keeps_ite, IsBilledTo]

/-- What one round does to the task it is for, whose row was `row`. -/
structure DisposedOne (poll : String) (now : Time) (target : ControlTarget) (row : Task)
    (s s' : Store) : Prop where
  task : ∃ possibly, s'.lookup (.task target.taskID) = some (row.terminate possibly now)
  order : row.billingOrderID ≠ "" → ∃ o o',
    s.lookup (.billingOrder row.billingOrderID) = some o ∧
      s'.lookup (.billingOrder row.billingOrderID) = some o' ∧
      (o.taskID = "" ∨ o.taskID = target.taskID) ∧ Disposed (mayBeSent poll row o) now o o'
  rest : ∀ k, k ≠ .task target.taskID → ¬IsBilledTo target k → s'.lookup k = s.lookup k
  kept : Kept s → Kept s'

theorem post_disposeTargetBilling {poll : String} {task : Task} (h : Describes target poll task)
    (reason entryID : String) :
    (disposeTargetBilling target (target.submission true) reason entryID now).Post s fun _ s' ↦
      (task.billingOrderID ≠ "" → ∃ o o', s.lookup (.billingOrder task.billingOrderID) = some o ∧
        s'.lookup (.billingOrder task.billingOrderID) = some o' ∧
        (o.taskID = "" ∨ o.taskID = target.taskID) ∧ Disposed (mayBeSent poll task o) now o o') ∧
      (Kept s → Kept s') := by
  rw [disposeTargetBilling, ← h.billingOrderID, post_ite]
  refine ⟨fun hnone ↦ ?_, fun _ ↦ ?_⟩
  · exact (post_done _ _ _).mpr ⟨fun hsome ↦ absurd hnone hsome, id⟩
  · rw [post_bind, post_firstForUpdate]
    intro order horder _
    rw [post_ite]
    refine ⟨fun _ ↦ by simp, fun hmine ↦ ?_⟩
    have htaskID : order.taskID = "" ∨ order.taskID = target.taskID := by
      by_contra hne
      exact hmine (.inr (not_or.mp hne))
    rw [post_bind]
    refine (post_disposeBillingOrder horder reason entryID).mono fun _ s' hbilled ↦
      (post_done _ _ _).mpr ⟨fun _ ↦ ?_, hbilled.2⟩
    obtain ⟨o, ho, hdisposed⟩ := hbilled.1
    rw [possibly_withOrder h] at hdisposed
    exact ⟨order, o, horder, ho, htaskID, hdisposed⟩

theorem post_disposeTarget {poll : String} {task : Task}
    (htask : s.lookup (.task target.taskID) = some task) (h : Describes target poll task)
    (reason entryID : String) :
    (disposeTarget target reason entryID now true).Post s fun _ s' ↦
      DisposedOne poll now target task s s' := by
  rw [disposeTarget, post_bind]
  intro billed s₁ hrun
  obtain ⟨horder, hkept⟩ := post_disposeTargetBilling h reason entryID _ _ hrun
  have hrest : ∀ k, ¬IsBilledTo target k → s₁.lookup k = s.lookup k := fun k hk ↦ by
    have hrow := (post_of_keeps (fun _ _ _ _ _ h ↦ h)
      (writes_disposeTargetBilling (target.submission true) reason entryID) s _ _ hrun).1
    exact (hrow k).resolve_right fun ⟨_, _, hwrites⟩ ↦ hk hwrites
  have htask₁ : s₁.lookup (.task target.taskID) = some task :=
    (hrest _ (by simp [IsBilledTo])).trans htask
  rw [post_bind, post_update]
  refine ⟨fun r hr _ r' hr' ↦ ?_, fun _ ↦ ?_⟩
  · cases htask₁.symm.trans hr
    cases hr'
    rw [post_ite]
    refine ⟨fun hne ↦ absurd rfl hne, fun _ ↦ (post_done _ _ _).mpr ⟨⟨_, AList.lookup_insert _⟩,
      fun hsome ↦ ?_, fun k hk hrow ↦ ?_, fun hs ↦ (hkept hs).insert trivial⟩⟩
    · obtain ⟨o, o', ho, ho', hmine, hdisposed⟩ := horder hsome
      exact ⟨o, o', ho, (AList.lookup_insert_ne (by simp)).trans ho', hmine, hdisposed⟩
    · exact (AList.lookup_insert_ne hk).trans (hrest k hrow)
  · rw [post_ite]
    exact ⟨fun _ ↦ by simp, fun h ↦ absurd (by simp) h⟩

end Round

/-! ## The loop -/

/-- The task of the target is there, and the target describes it. -/
def IsFound (poll : String → String) (s : Store) (target : ControlTarget) : Prop :=
  ∃ task, s.lookup (.task target.taskID) = some task ∧ Describes target (poll target.taskID) task

/-- The order of the target, if it is there, says which task it is for. -/
def IsNamed (s : Store) (target : ControlTarget) : Prop :=
  ∀ o, s.lookup (.billingOrder target.billingOrderID) = some o → o.taskID ≠ ""

/-- What the loop does. -/
structure DisposedAll (poll : String → String) (now : Time) (targets : List ControlTarget)
    (s s' : Store) : Prop where
  task : ∀ target ∈ targets, ∀ row, s.lookup (.task target.taskID) = some row →
    ∃ possibly, s'.lookup (.task target.taskID) = some (row.terminate possibly now)
  order : ∀ target ∈ targets, ∀ row, s.lookup (.task target.taskID) = some row →
    row.billingOrderID ≠ "" → ∃ o o', s.lookup (.billingOrder row.billingOrderID) = some o ∧
      s'.lookup (.billingOrder row.billingOrderID) = some o' ∧
      (o.taskID = "" ∨ o.taskID = target.taskID) ∧
      Disposed (mayBeSent (poll target.taskID) row o) now o o'
  rest : ∀ k, (∀ target ∈ targets, k ≠ .task target.taskID ∧ ¬IsBilledTo target k) →
    s'.lookup k = s.lookup k
  kept : Kept s → Kept s'

section Loop

variable {poll : String → String} {now : Time} {s t u : Store} {target other : ControlTarget}
  {targets : List ControlTarget} {row : Task} {k : RowKey} {id : String}

theorem not_isBilledTo_task : ¬IsBilledTo target (.task id) := by
  simp [IsBilledTo]

theorem isBilledTo_billingOrder :
    IsBilledTo target (.billingOrder id) ↔ id = target.billingOrderID ∧ target.billingOrderID ≠ "" := by
  simp [IsBilledTo]

/-- A round leaves the task of another target. -/
theorem DisposedOne.lookup_task (h : DisposedOne (poll target.taskID) now target row s t)
    (hne : target.taskID ≠ other.taskID) :
    t.lookup (.task other.taskID) = s.lookup (.task other.taskID) :=
  h.rest _ (by simpa using hne.symm) not_isBilledTo_task

theorem isFound_of_disposedOne (h : DisposedOne (poll target.taskID) now target row s t)
    (hne : target.taskID ≠ other.taskID) (hfound : IsFound poll s other) : IsFound poll t other := by
  obtain ⟨task, htask, hdescribes⟩ := hfound
  exact ⟨task, (h.lookup_task hne).trans htask, hdescribes⟩

/-- Of the order of another target a round leaves at least the task it is for. -/
theorem isNamed_of_disposedOne (h : DisposedOne (poll target.taskID) now target row s t)
    (hdescribes : Describes target (poll target.taskID) row) (hnamed : IsNamed s other) :
    IsNamed t other := by
  intro o ho
  by_cases hbilled : IsBilledTo target (.billingOrder other.billingOrderID)
  · obtain ⟨heq, hsome⟩ := isBilledTo_billingOrder.mp hbilled
    rw [hdescribes.billingOrderID] at heq hsome
    obtain ⟨o₁, o₂, ho₁, ho₂, -, hdisposed⟩ := h.order hsome
    rw [← heq] at ho₁ ho₂
    cases ho.symm.trans ho₂
    exact hdisposed.taskID_eq ▸ hnamed _ ho₁
  · rw [h.rest _ (by simp) hbilled] at ho
    exact hnamed o ho

/-- **Two targets are billed to different orders**: an order says for which task it is, and each
round insists that it is the task at hand. -/
theorem billingOrderID_ne (hone : DisposedOne (poll target.taskID) now target row s t)
    (hdescribes : Describes target (poll target.taskID) row) (hnamed : IsNamed s target)
    (hother : other ∈ targets) (hfound : IsFound poll t other)
    (hne : target.taskID ≠ other.taskID) (h : DisposedAll poll now targets t u)
    (hsome : target.billingOrderID ≠ "") : target.billingOrderID ≠ other.billingOrderID := by
  intro heq
  obtain ⟨task, htask, hdescribes'⟩ := hfound
  obtain ⟨o, o', ho, ho', hmine, hdisposed⟩ := hone.order (hdescribes.billingOrderID ▸ hsome)
  obtain ⟨o₁, -, ho₁, -, hmine', -⟩ := h.order other hother task htask
    (hdescribes'.billingOrderID ▸ heq ▸ hsome)
  rw [← hdescribes'.billingOrderID, ← heq, hdescribes.billingOrderID] at ho₁
  cases ho₁.symm.trans ho'
  rw [← hdescribes.billingOrderID] at ho
  have htaskID := hmine.resolve_left (hnamed o ho)
  rw [hdisposed.taskID_eq, htaskID] at hmine'
  rcases hmine' with hnone | hsame
  · exact hnamed o ho (htaskID.trans hnone)
  · exact hne hsame

/-- **One round more.** -/
theorem DisposedAll.cons (hone : DisposedOne (poll target.taskID) now target row s t)
    (hrow : s.lookup (.task target.taskID) = some row)
    (hdescribes : Describes target (poll target.taskID) row) (hnamed : IsNamed s target)
    (hfound : ∀ other ∈ targets, IsFound poll s other)
    (hne : ∀ other ∈ targets, target.taskID ≠ other.taskID) (h : DisposedAll poll now targets t u) :
    DisposedAll poll now (target :: targets) s u where
  task := by
    intro target' hmem row' hrow'
    rcases List.mem_cons.mp hmem with rfl | hmem
    · cases hrow.symm.trans hrow'
      obtain ⟨possibly, htask⟩ := hone.task
      refine ⟨possibly, (h.rest _ fun other hother ↦ ⟨?_, not_isBilledTo_task⟩).trans htask⟩
      simpa using hne other hother
    · exact h.task target' hmem row' ((hone.lookup_task (hne target' hmem)).trans hrow')
  order := by
    have hids : ∀ other ∈ targets, target.billingOrderID ≠ "" →
        target.billingOrderID ≠ other.billingOrderID := fun other hother ↦
      billingOrderID_ne hone hdescribes hnamed hother
        (isFound_of_disposedOne hone (hne other hother) (hfound other hother)) (hne other hother) h
    intro target' hmem row' hrow' hsome
    rcases List.mem_cons.mp hmem with rfl | hmem
    · cases hrow.symm.trans hrow'
      obtain ⟨o, o', ho, ho', hdisposed⟩ := hone.order hsome
      refine ⟨o, o', ho, (h.rest _ fun other hother ↦ ⟨by simp, ?_⟩).trans ho', hdisposed⟩
      rw [isBilledTo_billingOrder, ← hdescribes.billingOrderID]
      exact fun hbilled ↦ hids other hother (hdescribes.billingOrderID ▸ hsome) hbilled.1
    · obtain ⟨task, htask, hdescribes'⟩ := hfound target' hmem
      cases htask.symm.trans hrow'
      obtain ⟨o, o', ho, ho', hdisposed⟩ := h.order target' hmem row'
        ((hone.lookup_task (hne target' hmem)).trans hrow') hsome
      refine ⟨o, o', ?_, ho', hdisposed⟩
      rw [← ho]
      refine (hone.rest _ (by simp) ?_).symm
      rw [isBilledTo_billingOrder, ← hdescribes'.billingOrderID]
      exact fun hbilled ↦ hids target' hmem hbilled.2 hbilled.1.symm
  rest := by
    intro k hk
    have hhead := hk target (.head _)
    exact (h.rest k fun other hother ↦ hk other (.tail _ hother)).trans
      (hone.rest k hhead.1 hhead.2)
  kept hs := h.kept (hone.kept hs)

theorem post_disposeAdminAgentRunControlTargets (reason : String) (entryID : String → String)
    (hfound : ∀ target ∈ targets, IsFound poll s target)
    (hnamed : ∀ target ∈ targets, IsNamed s target) (hnd : (targets.map (·.taskID)).Nodup) :
    (disposeAdminAgentRunControlTargets reason entryID now true targets).Post s fun _ s' ↦
      DisposedAll poll now targets s s' := by
  induction targets generalizing s with
  | nil => exact (post_done _ _ _).mpr ⟨by simp, by simp, fun _ _ ↦ rfl, id⟩
  | cons target targets ih =>
    obtain ⟨row, hrow, hdescribes⟩ := hfound target (.head _)
    obtain ⟨hnotMem, htail⟩ := List.nodup_cons.mp hnd
    have hne : ∀ other ∈ targets, target.taskID ≠ other.taskID := fun other hother heq ↦
      hnotMem (List.mem_map.mpr ⟨other, hother, heq.symm⟩)
    have hrest : ∀ other ∈ targets, IsFound poll s other := fun other hother ↦
      hfound other (.tail _ hother)
    rw [disposeAdminAgentRunControlTargets, post_bind]
    refine (post_disposeTarget hrow hdescribes reason _).mono fun _ t hone ↦ ?_
    rw [post_bind]
    refine (ih (fun other hother ↦ isFound_of_disposedOne hone (hne other hother)
      (hrest other hother)) (fun other hother ↦ isNamed_of_disposedOne hone hdescribes
        (hnamed other (.tail _ hother))) htail).mono fun _ u hall ↦ ?_
    exact (post_done _ _ _).mpr
      (.cons hone hrow hdescribes (hnamed target (.head _)) hrest hne hall)

end Loop

/-! ## The tool calls and the specialists -/

/-- Writes to the agent's own tables, which keep which tasks the specialists are for. -/
def AgentSide : ∀ k, Option (Row k) → Row k → Prop
  | .agentToolCall _, _, _ => True
  | .agentProductionStage _, _, _ => True
  | .agentSpecialistRun _, old, new =>
    ∃ run, old = some run ∧ new.scope = run.scope ∧ new.taskID = run.taskID
  | _, _, _ => False

theorem rowTrans_agentSide : RowTrans AgentSide := by
  intro k o r r' h h'
  cases k with
  | agentSpecialistRun id =>
    obtain ⟨run, rfl, hscope, htaskID⟩ := h
    obtain ⟨run', heq, hscope', htaskID'⟩ := h'
    cases heq
    exact ⟨run, rfl, hscope'.trans hscope, htaskID'.trans htaskID⟩
  | _ => trivial

theorem agentSide_cancelAgentToolCallsTx (scope : AgentScope) :
    (cancelAgentToolCallsTx scope).Keeps AgentSide fun _ ↦ True := by
  simp only [cancelAgentToolCallsTx, keeps_bind, keeps_updateAll, pure_eq_done, keeps_done,
    implies_true, and_true]
  intro k r r' hr
  cases k with
  | agentToolCall id => trivial
  | _ => cases hr

theorem agentSide_cancelSpecialists (scope : AgentScope) (now : Time)
    (runs : List (String × AgentSpecialistRun)) :
    (cancelSpecialists scope now runs).Keeps AgentSide fun _ ↦ True := by
  induction runs with
  | nil => simp [cancelSpecialists]
  | cons run runs ih =>
    obtain ⟨id, run⟩ := run
    rw [cancelSpecialists, keeps_bind, keeps_update]
    refine ⟨fun r _ r' hr' ↦ ?_, by simp⟩
    cases hr'
    exact ⟨⟨r, rfl, rfl, rfl⟩, by simpa using ih⟩

theorem agentSide_stopStages (scope : AgentScope) (stageIDs : List String) :
    (stopStages scope stageIDs).Keeps AgentSide fun _ ↦ True := by
  induction stageIDs with
  | nil => simp [stopStages]
  | cons stageID stageIDs ih =>
    simp [stopStages, keeps_ite, AgentSide, ih]

theorem agentSide_cancelAgentSpecialistLifecyclesTx (scope : AgentScope) (now : Time) :
    (cancelAgentSpecialistLifecyclesTx scope now).Keeps AgentSide fun _ ↦ True := by
  simp [cancelAgentSpecialistLifecyclesTx, agentSide_cancelSpecialists, agentSide_stopStages]

section AgentSide

variable {s t : Store} {id : String} {task : Task}

theorem neutral_of_agentSide (h : RowStep AgentSide s t) : RowStep Neutral s t := by
  intro k
  refine (h k).imp_right fun ⟨r, hr, hside⟩ ↦ ⟨r, hr, ?_⟩
  cases k <;> trivial

/-- Tasks, orders, artifacts and plans are left alone. -/
theorem lookup_of_agentSide (h : RowStep AgentSide s t) {k : RowKey}
    (hk : ∀ old new, ¬AgentSide k old new) : t.lookup k = s.lookup k :=
  (h k).resolve_right fun ⟨r, _, hside⟩ ↦ hk _ r hside

theorem isMediaTask_of_agentSide (h : RowStep AgentSide s t) (runID : String) :
    isMediaTask runID id t = isMediaTask runID id s := by
  have hplan : ∀ planID, t.lookup (.agentProductionPlanVersion planID) =
      s.lookup (.agentProductionPlanVersion planID) := fun _ ↦
    lookup_of_agentSide h fun _ _ h ↦ h
  rw [Bool.eq_iff_iff, isMediaTask, isMediaTask, Db.any_iff, Db.any_iff]
  simp only [hplan]
  refine h.exists_row_iff fun k old new hside ↦ ?_
  cases k with
  | agentProductionArtifact id => exact hside.elim
  | _ => simp

theorem mem_specialistTaskIDs_of_agentSide (h : RowStep AgentSide s t) (scope : AgentScope) :
    id ∈ specialistTaskIDs scope t ↔ id ∈ specialistTaskIDs scope s := by
  rw [specialistTaskIDs, specialistTaskIDs, Db.mem_select, Db.mem_select]
  refine h.exists_row_iff fun k old new hside ↦ ?_
  cases k with
  | agentSpecialistRun runID =>
    obtain ⟨run, rfl, hscope, htaskID⟩ := hside
    simp [hscope, htaskID]
  | billingOrder orderID => exact hside.elim
  | _ => simp

theorem isFoundLater_of_agentSide (h : RowStep AgentSide s t) (scope : AgentScope)
    (operation : String) :
    isFoundLater scope operation t id task = isFoundLater scope operation s id task := by
  simp [isFoundLater, isMediaTask_of_agentSide h, Task.isSpecialistTask,
    mem_specialistTaskIDs_of_agentSide h]

end AgentSide

/-! ## The former worker -/

/-- A worker's way of ending its task. -/
inductive WorkerEnd where
  | finalize (c : Finalization)
  | complete (taskID : String) (task : Task) (session : Option (String × Session))
    (message : Option (String × Message)) (results : List (String × TaskResult))
  | failFacts (taskID userID : String) (lease : Lease) (failure : Option String) (now : Time)

namespace WorkerEnd

def prog : WorkerEnd → DbTx Unit
  | .finalize c => c.prog
  | .complete taskID task session message results =>
    saveTaskCompletion taskID task session message results
  | .failFacts taskID userID lease failure now =>
    failClaimedTaskFacts taskID userID lease failure now

def taskID : WorkerEnd → String
  | .finalize c => c.taskID
  | .complete taskID .. | .failFacts taskID .. => taskID

def lease : WorkerEnd → Lease
  | .finalize c => c.task.lease
  | .complete _ task .. => task.lease
  | .failFacts _ _ lease .. => lease

/-- **A worker ends its task under its lease only.** -/
theorem runsUnder_of_prog (w : WorkerEnd) (s : Store) :
    w.prog.Post s fun _ _ ↦
      ∃ r, s.lookup (.task w.taskID) = some r ∧ r.runsUnder w.lease = true := by
  cases w with
  | finalize c =>
    refine (finished_prog c s).mono fun _ _ hfinished ↦ ?_
    obtain ⟨r, -, hr, hruns, -⟩ := hfinished.task
    exact ⟨r, hr, hruns⟩
  | complete taskID task session message results =>
    simp only [prog, saveTaskCompletion, post_bind, post_ite, throw_eq_fail, post_fail, post_update]
    refine ⟨fun _ ↦ trivial, fun _ ↦ ⟨fun r hr hcond _ _ ↦ ⟨fun _ ↦ trivial, fun _ ↦ ?_⟩,
      fun _ ↦ ⟨fun _ ↦ trivial, fun h ↦ absurd h (by decide)⟩⟩⟩
    exact fun _ _ _ _ _ _ _ _ _ ↦ ⟨r, hr, ((Bool.and_eq_true _ _).mp hcond).2⟩
  | failFacts taskID userID lease failure now =>
    cases failure with
    | none => simp [prog, failClaimedTaskFacts]
    | some failure =>
      simp only [prog, failClaimedTaskFacts, post_bind, post_ite, throw_eq_fail, post_fail,
        post_update]
      refine ⟨fun _ ↦ trivial, fun _ ↦ ⟨fun r hr hcond _ _ ↦ ⟨fun _ ↦ trivial, fun _ ↦ ?_⟩,
        fun _ ↦ ⟨fun _ ↦ trivial, fun h ↦ absurd h (by decide)⟩⟩⟩
      exact (post_done _ _ _).mpr ⟨r, hr, ((Bool.and_eq_true _ _).mp hcond).2⟩

end WorkerEnd

/-- Whatever workers and users do after this, nobody ends the task under a lease of this generation,
or of an earlier one. -/
def Fenced (id : String) (generation : ℕ) (s : Store) : Prop :=
  ∀ cfg, Reach (.free TaskCall.prog) (.init s) cfg → ∀ w : WorkerEnd, w.taskID = id →
    w.lease.generation ≤ generation → ∀ fault,
      (∃ e, (w.prog.transact fault cfg.db).1 = .error e) ∧
        (w.prog.transact fault cfg.db).2 = cfg.db

theorem fenced_of_generation {s : Store} {id : String} {task : Task} {generation : ℕ}
    (htask : s.lookup (.task id) = some task) (hlt : generation < task.leaseGeneration) :
    Fenced id generation s := by
  rintro cfg hreach w rfl hle fault
  rcases hrun : w.prog.transact fault cfg.db with ⟨e | u, s'⟩
  · exact ⟨⟨e, rfl⟩, transact_error hrun⟩
  · obtain ⟨r, hr, hruns⟩ := w.runsUnder_of_prog cfg.db _ _ (run_of_transact hrun)
    simp only [Task.runsUnder, Bool.and_eq_true, decide_eq_true_eq] at hruns
    have hgrown : generation < r.leaseGeneration := by
      refine task_history (P := fun _ r ↦ generation < r.leaseGeneration) (linked_of_reach hreach)
        (TaskCall.ok_of_reach hreach).log (fun r hr ↦ ?_) (fun _ _ _ _ h ↦ h) ?_ hr
      · cases htask.symm.trans hr
        exact hlt
      · intro _ _ r r' _ hmoves _ _ hr
        rw [hmoves.generation]
        omega
    have hgeneration : r.leaseGeneration = w.lease.generation :=
      congrArg Lease.generation hruns.2
    omega

/-! ## All or nothing -/

section Whole

variable (scope : AgentScope) (operation : String)

/-- No provider request can have been sent for the task. -/
structure NotSent (s : Store) (id : String) (task : Task) (order : BillingOrder) : Prop where
  queued : task.status = .queued
  taskRequest : isBlank task.providerRequestID = true
  orderRequest : isBlank order.providerRequestID = true
  pollStage : isBlank (pollStageSeen scope operation s id task) = true

/-- The task is one of those to be disposed of. -/
structure Concerns (s : Store) (id : String) (task : Task) : Prop where
  found : s.lookup (.task id) = some task
  active : task.status.isActive = true
  tree : isInRunTree scope operation s id task = true

/-- Tasks and money after the run has ended. -/
structure TreeDisposed (now : Time) (s s' : Store) : Prop where
  ended : ∀ id task, Concerns scope operation s id task → ∃ task', s'.lookup (.task id) = some task' ∧
    task'.status = .cancelled ∧ task'.leaseGeneration = task.leaseGeneration + 1 ∧
    Fenced id task.leaseGeneration s'
  others : ∀ id, (∀ task, ¬Concerns scope operation s id task) →
    s'.lookup (.task id) = s.lookup (.task id)
  orders : ∀ id task, Concerns scope operation s id task → task.billingOrderID ≠ "" →
    ∃ o o', s.lookup (.billingOrder task.billingOrderID) = some o ∧
      s'.lookup (.billingOrder task.billingOrderID) = some o' ∧
      (o'.status = .refunded ↔
        o.status = .refunded ∨ NotSent scope operation s id task o ∧ o.status = .reserved) ∧
      (¬NotSent scope operation s id task o → o.status.isOpen = true → o'.status = .uncertain ∧
        (o.isLookable = true → o.status ≠ .uncertain → o'.nextReconcileAt = some (now + second 5)))
  otherOrders : ∀ orderID,
    (∀ id task, Concerns scope operation s id task → task.billingOrderID ≠ orderID) →
      s'.lookup (.billingOrder orderID) = s.lookup (.billingOrder orderID)
  reserved : Kept s → AccountsReconcile s'

variable {scope operation} {s t u : Store} {id : String} {task : Task} {order : BillingOrder}
  {now : Time}

theorem mayBeSent_eq_false_iff (hactive : task.status.isActive = true) :
    mayBeSent (pollStageSeen scope operation s id task) task order = false ↔
      NotSent scope operation s id task order := by
  have hstatus : decide (task.status = .running) = false ↔ task.status = .queued := by
    cases h : task.status <;> simp_all [TaskStatus.isActive]
  simp only [mayBeSent, Bool.or_eq_false_iff, Bool.not_eq_false', hstatus]
  constructor
  · rintro ⟨⟨⟨htask, hpoll⟩, hqueued⟩, horder⟩
    exact ⟨hqueued, htask, horder, hpoll⟩
  · intro h
    exact ⟨⟨⟨h.taskRequest, h.pollStage⟩, h.queued⟩, h.orderRequest⟩

theorem concerns_of_agentSide (h : RowStep AgentSide s t) :
    Concerns scope operation t id task ↔ Concerns scope operation s id task := by
  have htask : t.lookup (.task id) = s.lookup (.task id) := lookup_of_agentSide h fun _ _ h ↦ h
  have htree : isInRunTree scope operation t id task = isInRunTree scope operation s id task := by
    rw [isInRunTree, isInRunTree, isFoundLater_of_agentSide h]
  exact ⟨fun hc ↦ ⟨htask ▸ hc.found, hc.active, htree ▸ hc.tree⟩,
    fun hc ↦ ⟨htask.trans hc.found, hc.active, htree.trans hc.tree⟩⟩

theorem pollStageSeen_of_agentSide (h : RowStep AgentSide s t) :
    pollStageSeen scope operation t id task = pollStageSeen scope operation s id task := by
  rw [pollStageSeen, pollStageSeen, isFoundLater_of_agentSide h]

/-- The poll stage known of each task of the store. -/
def pollStages (scope : AgentScope) (operation : String) (s : Store) (id : String) : String :=
  (s.lookup (.task id)).elim "" (pollStageSeen scope operation s id)

theorem pollStages_of_task (htask : s.lookup (.task id) = some task) :
    pollStages scope operation s id = pollStageSeen scope operation s id task := by
  rw [pollStages, htask]
  rfl

/-- The targets are those of the tasks concerned. -/
theorem concerns_of_mem_treeTargets {target : ControlTarget}
    (h : target ∈ treeTargets scope operation s) :
    ∃ task, Concerns scope operation s target.taskID task ∧
      Describes target (pollStages scope operation s target.taskID) task := by
  obtain ⟨task, htask, hactive, hin, hdescribes⟩ := describes_of_mem_treeTargets scope operation h
  exact ⟨task, ⟨htask, hactive, hin⟩, pollStages_of_task htask ▸ hdescribes⟩

/-- **What the loop leaves** of a tree it found all the targets of. -/
theorem treeDisposed_of_disposedAll (hside : RowStep AgentSide s t)
    (h : DisposedAll (pollStages scope operation t) now (treeTargets scope operation t) t u) :
    TreeDisposed scope operation now s u where
  ended := by
    intro id task hc
    have hc' := (concerns_of_agentSide hside).mpr hc
    obtain ⟨target, htarget, rfl⟩ := exists_treeTarget scope operation hc'.found hc'.active hc'.tree
    obtain ⟨possibly, htask⟩ := h.task target htarget task hc'.found
    exact ⟨_, htask, rfl, rfl, fenced_of_generation htask (Nat.lt_succ_self _)⟩
  others := by
    intro id hnot
    have htask : t.lookup (.task id) = s.lookup (.task id) :=
      lookup_of_agentSide hside fun _ _ h ↦ h
    rw [← htask]
    refine h.rest _ fun target htarget ↦ ⟨?_, not_isBilledTo_task⟩
    obtain ⟨task, hc, -⟩ := concerns_of_mem_treeTargets htarget
    rintro heq
    cases heq
    exact hnot task ((concerns_of_agentSide hside).mp hc)
  orders := by
    intro id task hc hsome
    have hc' := (concerns_of_agentSide hside).mpr hc
    obtain ⟨target, htarget, rfl⟩ := exists_treeTarget scope operation hc'.found hc'.active hc'.tree
    obtain ⟨o, o', ho, ho', -, hdisposed⟩ := h.order target htarget task hc'.found hsome
    have horder : t.lookup (.billingOrder task.billingOrderID) =
        s.lookup (.billingOrder task.billingOrderID) := lookup_of_agentSide hside fun _ _ h ↦ h
    rw [pollStages_of_task hc'.found, pollStageSeen_of_agentSide hside] at hdisposed
    have hsent : mayBeSent (pollStageSeen scope operation s target.taskID task) task o = false ↔
        NotSent scope operation s target.taskID task o := mayBeSent_eq_false_iff hc.active
    refine ⟨o, o', horder ▸ ho, ho', ?_, fun hnot hopen ↦ ?_⟩
    · rw [hdisposed.refunded_iff, hsent]
    · rw [← hsent, Bool.not_eq_false] at hnot
      rw [hnot] at hdisposed
      exact hdisposed.uncertain_of_open hopen
  otherOrders := by
    intro orderID hnot
    have horder : t.lookup (.billingOrder orderID) = s.lookup (.billingOrder orderID) :=
      lookup_of_agentSide hside fun _ _ h ↦ h
    rw [← horder]
    refine h.rest _ fun target htarget ↦ ⟨by simp, fun hbilled ↦ ?_⟩
    obtain ⟨task, hc, hdescribes⟩ := concerns_of_mem_treeTargets htarget
    refine hnot _ task ((concerns_of_agentSide hside).mp hc) ?_
    rw [← hdescribes.billingOrderID, (isBilledTo_billingOrder.mp hbilled).1]
  reserved hs := (h.kept (hs.neutral (neutral_of_agentSide hside))).accountsReconcile

/-- The orders of the queued and running tasks say which task they are for, as those that are
reserved for a task do. -/
def OrdersNamed (s : Store) : Prop :=
  ∀ id task o, s.lookup (.task id) = some task → task.status.isActive = true →
    s.lookup (.billingOrder task.billingOrderID) = some o → o.taskID ≠ ""

theorem post_cancelAgentRunTreeTx (digest : String → String) (scope : AgentScope)
    (entryID : String → String) (now : Time) (hnamed : OrdersNamed s) :
    (cancelAgentRunTreeTx digest scope entryID now).Post s fun _ s' ↦
      ∃ operation, mediaAssemblyOperationForRun digest scope.runID = .ok operation ∧
        TreeDisposed scope operation now s s' := by
  rw [cancelAgentRunTreeTx, post_bind]
  intro _ s₁ hcalls
  rw [post_bind]
  intro _ t hspecialists
  have hside : RowStep AgentSide s t :=
    (post_of_keeps rowTrans_agentSide (agentSide_cancelAgentToolCallsTx scope) s _ _ hcalls).1.trans
      rowTrans_agentSide (post_of_keeps rowTrans_agentSide
        (agentSide_cancelAgentSpecialistLifecyclesTx scope now) s₁ _ _ hspecialists).1
  rw [post_bind, post_loadAgentRunTreeControlTargets]
  intro operation hoperation
  have hfound : ∀ target ∈ treeTargets scope operation t,
      IsFound (pollStages scope operation t) t target := fun target htarget ↦ by
    obtain ⟨task, hc, hdescribes⟩ := concerns_of_mem_treeTargets htarget
    exact ⟨task, hc.found, hdescribes⟩
  have htargets : ∀ target ∈ treeTargets scope operation t, IsNamed t target := by
    intro target htarget o ho
    obtain ⟨task, hc, hdescribes⟩ := concerns_of_mem_treeTargets htarget
    have hc' := (concerns_of_agentSide hside).mp hc
    have horder : t.lookup (.billingOrder task.billingOrderID) =
        s.lookup (.billingOrder task.billingOrderID) := lookup_of_agentSide hside fun _ _ h ↦ h
    rw [hdescribes.billingOrderID, horder] at ho
    exact hnamed _ task o hc'.found hc'.active ho
  rw [post_bind]
  refine (post_disposeAdminAgentRunControlTargets "父 Agent 运行已终止" entryID hfound htargets
    (nodup_sortedTargets _)).mono fun _ u hall ↦ (post_done _ _ _).mpr ?_
  exact ⟨operation, hoperation, treeDisposed_of_disposedAll hside hall⟩

/-- **The run's tasks and their money.**  Whatever tasks and orders there are, and wherever the
database fails, the transaction that ends the run changes nothing, or it leaves no task of the run
queued or running and none to its former worker, refunds the orders of the tasks that were certainly
not sent, leaves the other open ones to reconciliation, and leaves the accounts in order. -/
theorem cancelAgentRunTree_consistent (digest : String → String) (scope : AgentScope)
    (entryID : String → String) (now : Time) (hnamed : OrdersNamed s) (fault : Option ℕ) :
    ((∃ e, ((cancelAgentRunTreeTx digest scope entryID now).transact fault s).1 = .error e) ∧
      ((cancelAgentRunTreeTx digest scope entryID now).transact fault s).2 = s) ∨
    ∃ operation, mediaAssemblyOperationForRun digest scope.runID = .ok operation ∧
      TreeDisposed scope operation now s
        ((cancelAgentRunTreeTx digest scope entryID now).transact fault s).2 := by
  rcases hrun : (cancelAgentRunTreeTx digest scope entryID now).transact fault s with ⟨e | u, s'⟩
  · exact .inl ⟨⟨e, rfl⟩, transact_error hrun⟩
  · exact .inr (post_cancelAgentRunTreeTx digest scope entryID now hnamed u s' (run_of_transact hrun))

end Whole

/-! ## A task billed by tokens -/

def endedScope : AgentScope where
  tenantKind := "personal"
  tenantID := "u"
  threadID := "h"
  runID := "r"
  actorUserID := "u"
  domainProjectID := "d"
  canvasID := "c"

/-- The run has one task, which is in the hands of a worker, and its order has been dispatched. -/
def endedStore : Store :=
  AList.insert (.task "t") { tokenTask with operation := "agent_model:r" }
    (AList.insert (.billingOrder "o") tokenTaskOrder ∅)

theorem ordersNamed_endedStore : OrdersNamed endedStore := by
  intro id task o _ _ ho
  rw [endedStore, AList.lookup_insert_ne (by simp)] at ho
  by_cases heq : task.billingOrderID = "o"
  · rw [heq, AList.lookup_insert] at ho
    cases ho
    decide
  · rw [AList.lookup_insert_ne (by simpa using heq)] at ho
    cases ho

/-- The run ends, and its order waits for reconciliation. -/
theorem cancelAgentRunTree_consistent_endedStore :
    ∃ operation, mediaAssemblyOperationForRun id endedScope.runID = .ok operation ∧
      TreeDisposed endedScope operation 1 endedStore
        ((cancelAgentRunTreeTx id endedScope id 1).transact none endedStore).2 := by
  refine (cancelAgentRunTree_consistent id endedScope id 1 ordersNamed_endedStore none).resolve_left ?_
  rintro ⟨⟨e, he⟩, -⟩
  have hok : ((cancelAgentRunTreeTx id endedScope id 1).transact none endedStore).1.isOk = true := by
    decide
  rw [he] at hok
  cases hok

/-- The run ends: the transaction commits, and the order is left without a time at which anything
would look at it again. -/
theorem endedStore_unscheduled :
    (endedStore.lookup (.task "t")).map (fun t ↦ (t.status, t.billingOrderID)) =
        some (.running, "o") ∧
      ((cancelAgentRunTreeTx id endedScope id 1).transact none endedStore).1.isOk = true ∧
      (((cancelAgentRunTreeTx id endedScope id 1).transact none endedStore).2.lookup
        (.billingOrder "o")).map (fun o ↦ (o.status, o.nextReconcileAt)) =
          some (.uncertain, none) := by
  decide

end HMaigc
