import HMaigc.Sql.FirstWins
import HMaigc.Repository.Footprint

/-!
# The limit of active tasks

Creating, retrying and resuming a task all begin with `enforceActiveTaskLimit`, which counts the
user's active tasks twice — all of them, and those of the policy's class — and locks nothing.

* `LimitCall` — the four transactions, made for one user under one policy, and all others, which add
  no active task (`LimitStep`).
* `activeTasks_within` — as long as none of the four commits after another has, since it counted,
  the user stays within the limits.
* `exists_limit_exceeded` — two creations that count before either commits exceed them.
-/

set_option autoImplicit false

namespace HMaigc

open Sql Go Prog

/-- The user is within the limits of the policy. -/
structure WithinLimits (userID : String) (policy : ActiveTaskPolicy) (s : Store) : Prop where
  total : (policy.total userID s : ℤ) ≤ policy.totalLimit
  inClass : (policy.inClass userID s : ℤ) ≤ policy.classLimit

instance (userID : String) (policy : ActiveTaskPolicy) (s : Store) :
    Decidable (WithinLimits userID policy s) :=
  decidable_of_iff ((policy.total userID s : ℤ) ≤ policy.totalLimit ∧
    (policy.inClass userID s : ℤ) ≤ policy.classLimit) ⟨fun h ↦ ⟨h.1, h.2⟩, fun h ↦ ⟨h.1, h.2⟩⟩

/-! ## Calls -/

/-- What a transaction may do to one row: only the row of `target` becomes an active task of the
user, or another kind of active task, and orders keep their user and their payer. -/
def LimitStep (userID : String) (target : Option String) : ∀ k, Option (Row k) → Row k → Prop
  | .task id, old, new => some id = target ∨
      (new.userID = userID → new.status.isActive = true →
        ∃ r, old = some r ∧ r.userID = userID ∧ r.status.isActive = true ∧
          r.capability = new.capability ∧ r.billingOrderID = new.billingOrderID)
  | .billingOrder _, old, new => ∀ o, old = some o → o.userID = new.userID ∧ o.teamID = new.teamID
  | _, _, _ => True

attribute [local simp] LimitStep

theorem rowTrans_limitStep (userID : String) (target : Option String) :
    RowTrans (LimitStep userID target) := by
  intro k o r r' h h'
  cases k with
  | task id =>
    rcases h' with heq | h'
    · exact .inl heq
    rcases h with heq | h
    · exact .inl heq
    refine .inr fun huser hactive ↦ ?_
    obtain ⟨r₁, hr₁, huser₁, hactive₁, hcapability₁, hbilled₁⟩ := h' huser hactive
    cases hr₁
    obtain ⟨r₀, hr₀, huser₀, hactive₀, hcapability₀, hbilled₀⟩ := h huser₁ hactive₁
    exact ⟨r₀, hr₀, huser₀, hactive₀, hcapability₀.trans hcapability₁, hbilled₀.trans hbilled₁⟩
  | billingOrder id =>
    intro o₀ ho₀
    obtain ⟨huser, hteam⟩ := h o₀ ho₀
    obtain ⟨huser', hteam'⟩ := h' r rfl
    exact ⟨huser.trans huser', hteam.trans hteam'⟩
  | _ => trivial

/-- The transactions that make a task of the user active, and any other. -/
inductive LimitCall (userID : String) where
  | createBilled (taskID : String) (task : Task) (huser : task.userID = userID)
      (order : BillingOrder) (watermark : String) (month : Month) (ids : CreationIDs)
  | createFree (taskID : String) (task : Task) (huser : task.userID = userID)
      (watermark : String) (ids : CreationIDs)
  | retry (taskID : String) (order : Option BillingOrder) (watermark : String) (month : Month)
      (ids : CreationIDs)
  | resume (taskID : String)
  | other (p : DbTx Unit) (hp : p.Keeps (LimitStep userID none) fun _ ↦ True)

namespace LimitCall

variable {userID : String}

def prog (policy : ActiveTaskPolicy) : LimitCall userID → DbTx Unit
  | .createBilled taskID task _ order watermark month ids =>
    createTaskWithCreditReservation taskID task order policy watermark month ids
  | .createFree taskID task _ watermark ids =>
    createTaskWithActiveLimit taskID task policy watermark ids
  | .retry taskID order watermark month ids => do
    let _ ← retryTaskWithBilling userID taskID order policy watermark month ids
  | .resume taskID => do
    let _ ← resumeTaskWithUncertainBilling userID taskID policy
  | .other p _ => p

/-- The task a call makes active. -/
def target : LimitCall userID → Option String
  | .createBilled taskID .. | .createFree taskID .. | .retry taskID .. | .resume taskID =>
    some taskID
  | .other .. => none

/-- The call counts the active tasks first. -/
def contends : LimitCall userID → Bool
  | .other .. => false
  | _ => true

end LimitCall

/-- From `s` to `s'` no order appears under an identifier that a task refers to already. -/
def FreshOrders (s s' : Store) : Prop :=
  ∀ id, s.lookup (.billingOrder id) = none → (s'.lookup (.billingOrder id)).isSome = true →
    ∀ taskID t, s.lookup (.task taskID) = some t → t.billingOrderID ≠ id

/-- The system: the identifiers of orders are new when they are drawn. -/
def limitSystem (userID : String) (policy : ActiveTaskPolicy) :
    System (LimitCall userID) Row RepoError Unit where
  prog := LimitCall.prog policy
  admits _ ws s := FreshOrders s (s.apply ws)

def limitContract (userID : String) : Contract RowKey (LimitCall userID) Row Unit where
  inv _ := True
  row c := LimitStep userID c.target
  post _ _ _ := FreshOrders

/-! ## What each call writes -/

section Keeps

variable {userID : String} {target : Option String}

theorem limitStep_of_product {α : Type} {p : DbTx α} (h : p.WritesOnly (·.isProduct)) :
    p.Keeps (LimitStep userID target) fun _ ↦ True :=
  h.imp fun k _ _ hk ↦ by
    cases k <;> trivial

theorem limitStep_reserveBillingOrder (id : String) (order : BillingOrder) (month : Month)
    (entryID : String) :
    (reserveBillingOrder id order month entryID).Keeps (LimitStep userID target)
      fun _ ↦ True := by
  have hreserve : (reserveFromAccount id order entryID).Keeps (LimitStep userID target)
      fun _ ↦ True := by
    simp [reserveFromAccount, createAccountIfMissing, readAccount, createBillingOrder,
      createLedgerEntry, keeps_ite, LimitStep]
  rw [reserveBillingOrder]
  split
  · exact (readOnly_checkMemberLimit order month).keeps.bind fun _ ↦ hreserve
  · exact hreserve

theorem limitStep_createTask (taskID : String) (task : Task) :
    (createTask taskID task).Keeps (LimitStep userID (some taskID)) fun _ ↦ True := by
  simp [createTask, LimitStep]

theorem limitStep_createTaskWithCreditReservation (taskID : String) (task : Task)
    (order : BillingOrder) (policy : ActiveTaskPolicy) (watermark : String) (month : Month)
    (ids : CreationIDs) :
    (createTaskWithCreditReservation taskID task order policy watermark month ids).Keeps
      (LimitStep userID (some taskID)) fun _ ↦ True := by
  rw [createTaskWithCreditReservation]
  refine (readOnly_enforceActiveTaskLimit _ _).keeps.bind fun _ ↦ ?_
  refine (readOnly_freezeProviderTaskRuntimeTx _ _).keeps.bind fun runtime ↦ ?_
  rw [keeps_ite]
  refine ⟨fun _ ↦ by simp, fun _ ↦ ?_⟩
  refine (readOnly_freezeTaskWatermarkTx _ _).keeps.bind fun frozen ↦ ?_
  refine (limitStep_reserveBillingOrder _ _ _ _).bind fun _ ↦ ?_
  refine (limitStep_createTask taskID _).bind fun _ ↦ ?_
  exact limitStep_of_product (writes_createFrozenWatermarkTaskLogTx _ _ _ _)

theorem limitStep_createTaskWithActiveLimit (taskID : String) (task : Task)
    (policy : ActiveTaskPolicy) (watermark : String) (ids : CreationIDs) :
    (createTaskWithActiveLimit taskID task policy watermark ids).Keeps
      (LimitStep userID (some taskID)) fun _ ↦ True := by
  rw [createTaskWithActiveLimit]
  refine (readOnly_enforceActiveTaskLimit _ _).keeps.bind fun _ ↦ ?_
  refine (readOnly_freezeTaskWatermarkTx _ _).keeps.bind fun frozen ↦ ?_
  refine (limitStep_createTask taskID _).bind fun _ ↦ ?_
  exact limitStep_of_product (writes_createFrozenWatermarkTaskLogTx _ _ _ _)

theorem limitStep_reserveForRetry (task : Task) (month : Month) (ids : CreationIDs)
    (order : Option BillingOrder) :
    (reserveForRetry task month ids order).Keeps (LimitStep userID target) fun _ ↦ True := by
  cases order with
  | none => simp [reserveForRetry]
  | some order =>
    refine (readOnly_freezeProviderTaskRuntimeTx _ _).keeps.bind fun runtime ↦ ?_
    exact (limitStep_reserveBillingOrder _ _ _ _).bind fun _ ↦ by simp

theorem limitStep_retryTaskWithBilling (taskID : String) (order : Option BillingOrder)
    (policy : ActiveTaskPolicy) (watermark : String) (month : Month) (ids : CreationIDs) :
    (retryTaskWithBilling userID taskID order policy watermark month ids).Keeps
      (LimitStep userID (some taskID)) fun _ ↦ True := by
  rw [retryTaskWithBilling]
  refine (readOnly_enforceActiveTaskLimit _ _).keeps.bind fun _ ↦ ?_
  rw [keeps_bind, keeps_query]
  intro v
  split
  · refine (limitStep_reserveForRetry _ month ids order).bind fun reserved ↦ ?_
    refine (readOnly_freezeTaskWatermarkTx _ _).keeps.bind fun frozen ↦ ?_
    have hlog (r : Task) :
        (createFrozenWatermarkTaskLogTx ids.log taskID r.userID r.watermark).Keeps
          (LimitStep userID (some taskID)) fun _ ↦ True :=
      limitStep_of_product (writes_createFrozenWatermarkTaskLogTx _ _ _ _)
    simp [keeps_ite, LimitStep]
    exact fun _ _ _ r ↦ hlog r
  · simp

theorem limitStep_resumeTaskWithUncertainBilling (taskID : String) (policy : ActiveTaskPolicy) :
    (resumeTaskWithUncertainBilling userID taskID policy).Keeps
      (LimitStep userID (some taskID)) fun _ ↦ True := by
  rw [resumeTaskWithUncertainBilling]
  refine (readOnly_enforceActiveTaskLimit _ _).keeps.bind fun _ ↦ ?_
  simp [keeps_ite, LimitStep]

end Keeps

theorem LimitCall.keeps_prog {userID : String} (policy : ActiveTaskPolicy) (c : LimitCall userID) :
    (c.prog policy).Keeps (LimitStep userID c.target) fun _ ↦ True := by
  cases c with
  | createBilled => exact limitStep_createTaskWithCreditReservation _ _ _ _ _ _ _
  | createFree => exact limitStep_createTaskWithActiveLimit _ _ _ _ _
  | retry => exact (limitStep_retryTaskWithBilling _ _ _ _ _ _).bind fun _ ↦ by simp
  | resume => exact (limitStep_resumeTaskWithUncertainBilling _ _).bind fun _ ↦ by simp
  | other p hp => exact hp

/-! ## Counting before and after a commit -/

section Counting

variable {userID : String} {policy : ActiveTaskPolicy} {target : Option String} {s s' : Store}

/-- What the policy counts of the tasks that are not the target's was counted before. -/
theorem counts_of_rowStep (h : RowStep (LimitStep userID target) s s') (hfresh : FreshOrders s s')
    {id : String} {r' : Task} (hid : some id ≠ target) (hr' : s'.lookup (.task id) = some r')
    (hcounts : policy.counts userID s' (.task id) r' = true) :
    ∃ r, s.lookup (.task id) = some r ∧ policy.counts userID s (.task id) r = true ∧
      r.capability = r'.capability := by
  simp only [ActiveTaskPolicy.counts, Bool.and_eq_true, decide_eq_true_eq] at hcounts
  obtain ⟨⟨huser, hactive⟩, hpaid⟩ := hcounts
  have hold : ∃ r, s.lookup (.task id) = some r ∧ r.userID = userID ∧ r.status.isActive = true ∧
      r.capability = r'.capability ∧ r.billingOrderID = r'.billingOrderID := by
    rcases h (.task id) with heq | ⟨r₁, hr₁, hstep⟩
    · exact ⟨r', heq ▸ hr', huser, hactive, rfl, rfl⟩
    · cases hr₁.symm.trans hr'
      exact (hstep.resolve_left hid) huser hactive
  obtain ⟨r, hr, huser₀, hactive₀, hcapability, hbilled⟩ := hold
  refine ⟨r, hr, ?_, hcapability⟩
  simp only [ActiveTaskPolicy.counts, Bool.and_eq_true, decide_eq_true_eq]
  refine ⟨⟨huser₀, hactive₀⟩, ?_⟩
  cases hteam : policy.billingTeamID with
  | none => rfl
  | some teamID =>
    rw [hteam] at hpaid
    simp only [Option.all_some, ActiveTaskPolicy.paidBy, huser₀] at hpaid ⊢
    obtain ⟨o', ho', hsame⟩ := (Option.any_eq_true _ _).mp hpaid
    cases ho : s.lookup (.billingOrder r'.billingOrderID) with
    | none =>
      have hnew := hfresh _ ho (by rw [ho']; rfl) id r hr
      exact absurd hbilled hnew
    | some o =>
      have hkept : o.userID = o'.userID ∧ o.teamID = o'.teamID := by
        rcases h (.billingOrder r'.billingOrderID) with heq | ⟨o₁, ho₁, hstep⟩
        · rw [heq, ho] at ho'
          cases ho'
          exact ⟨rfl, rfl⟩
        · cases ho₁.symm.trans ho'
          exact hstep o ho
      rw [hbilled, ho, Option.any_some, hkept.1, hkept.2]
      simpa [huser] using hsame

theorem counts_task_iff {k : RowKey} {r : Row k} (h : policy.counts userID s k r = true) :
    ∃ id, k = .task id := by
  cases k with
  | task id => exact ⟨id, rfl⟩
  | _ => cases h

/-- A commit adds at most the task it is about to those the policy counts … -/
theorem total_le_add_one (policy : ActiveTaskPolicy) (id : String)
    (h : RowStep (LimitStep userID (some id)) s s') (hfresh : FreshOrders s s') :
    policy.total userID s' ≤ policy.total userID s + 1 := by
  refine Db.count_le_count_add_one (.task id) fun k r' hk hr' hcounts ↦ ?_
  obtain ⟨id', rfl⟩ := counts_task_iff hcounts
  obtain ⟨r, hr, hcounts', -⟩ := counts_of_rowStep h hfresh (by simpa using hk) hr' hcounts
  exact ⟨r, hr, hcounts'⟩

theorem inClass_le_add_one (policy : ActiveTaskPolicy) (id : String)
    (h : RowStep (LimitStep userID (some id)) s s') (hfresh : FreshOrders s s') :
    policy.inClass userID s' ≤ policy.inClass userID s + 1 := by
  refine Db.count_le_count_add_one (.task id) fun k r' hk hr' hclass ↦ ?_
  cases k with
  | task id' =>
    obtain ⟨hcounts, hcapability⟩ := (Bool.and_eq_true _ _).mp hclass
    obtain ⟨r, hr, hcounts', hsame⟩ := counts_of_rowStep h hfresh (by simpa using hk) hr' hcounts
    exact ⟨r, hr, (Bool.and_eq_true _ _).mpr ⟨hcounts', hsame ▸ hcapability⟩⟩
  | _ => cases hclass

/-- … and no task when it is about none. -/
theorem total_le (policy : ActiveTaskPolicy) (h : RowStep (LimitStep userID none) s s')
    (hfresh : FreshOrders s s') :
    policy.total userID s' ≤ policy.total userID s := by
  refine Db.count_le_count fun k r' hr' hcounts ↦ ?_
  obtain ⟨id, rfl⟩ := counts_task_iff hcounts
  obtain ⟨r, hr, hcounts', -⟩ := counts_of_rowStep h hfresh (by simp) hr' hcounts
  exact ⟨r, hr, hcounts'⟩

theorem inClass_le (policy : ActiveTaskPolicy) (h : RowStep (LimitStep userID none) s s')
    (hfresh : FreshOrders s s') :
    policy.inClass userID s' ≤ policy.inClass userID s := by
  refine Db.count_le_count fun k r' hr' hclass ↦ ?_
  cases k with
  | task id =>
    obtain ⟨hcounts, hcapability⟩ := (Bool.and_eq_true _ _).mp hclass
    obtain ⟨r, hr, hcounts', hsame⟩ := counts_of_rowStep h hfresh (by simp) hr' hcounts
    exact ⟨r, hr, (Bool.and_eq_true _ _).mpr ⟨hcounts', hsame ▸ hcapability⟩⟩
  | _ => cases hclass

end Counting

/-! ## The check -/

/-- What the two counts of `enforceActiveTaskLimit` let through. -/
def limitGates (userID : String) (policy : ActiveTaskPolicy) : List (Store → Prop) :=
  [fun s ↦ (policy.total userID s : ℤ) < policy.totalLimit,
    fun s ↦ (policy.inClass userID s : ℤ) < policy.classLimit]

theorem checks_enforceActiveTaskLimit (userID : String) {policy : ActiveTaskPolicy}
    (hlimited : policy.unlimited = false) :
    (enforceActiveTaskLimit userID policy).Checks (limitGates userID policy) := by
  rw [enforceActiveTaskLimit, hlimited, if_neg (by simp)]
  refine checks_query fun v ↦ ?_
  by_cases htotal : (policy.total userID v : ℤ) ≥ policy.totalLimit
  · rw [if_pos htotal]
    exact .inl ((dead_fail _).bind _)
  rw [if_neg htotal]
  by_cases hinvalid : (isBlank policy.concurrencyClass || policy.capabilities.isEmpty ||
      decide (policy.classLimit ≤ 0)) = true
  · refine .inr ⟨by simpa using htotal, .inl ?_⟩
    rw [if_pos hinvalid]
    exact (dead_fail _).bind _
  · refine .inr ⟨by simpa using htotal, ?_⟩
    rw [if_neg hinvalid]
    refine checks_query fun v ↦ ?_
    by_cases hclass : (policy.inClass userID v : ℤ) ≥ policy.classLimit
    · rw [if_pos hclass]
      exact .inl (dead_fail _)
    · exact .inr ⟨by simpa using hclass, trivial⟩

theorem LimitCall.checks_prog {userID : String} {policy : ActiveTaskPolicy}
    (hlimited : policy.unlimited = false) (c : LimitCall userID) (hc : c.contends = true) :
    (c.prog policy).Checks (limitGates userID policy) := by
  have henforce := fun userID ↦ checks_enforceActiveTaskLimit userID hlimited
  cases c with
  | createBilled _ task huser =>
    have hgates : limitGates userID policy = limitGates task.userID policy := by rw [huser]
    rw [hgates]
    exact (henforce task.userID).bind _
  | createFree _ task huser =>
    have hgates : limitGates userID policy = limitGates task.userID policy := by rw [huser]
    rw [hgates]
    exact (henforce task.userID).bind _
  | retry => exact ((henforce userID).bind _).bind _
  | resume => exact ((henforce userID).bind _).bind _
  | other => cases hc

/-! ## Runs -/

theorem limitContract_ok {userID : String} {policy : ActiveTaskPolicy} {s : Store}
    {cfg : Config (LimitCall userID) Row RepoError Unit}
    (h : Reach (limitSystem userID policy) (.init s) cfg) :
    (limitContract userID).Ok (limitSystem userID policy) cfg := by
  refine Contract.sound (fun c ↦ rowTrans_limitStep userID c.target)
    (fun c ↦ c.keeps_prog policy) (fun c s _ ↦ ?_) trivial h
  exact meets_of_writesOnly (keeps_trivial _) trivial fun _ _ _ _ _ _ _ _ _ hadm _ _ ↦
    ⟨hadm, trivial⟩

/-- **The limits hold** in every run in which none of the calls that count commits after another
has, since it counted. -/
theorem activeTasks_within {userID : String} {policy : ActiveTaskPolicy}
    (hlimited : policy.unlimited = false) {s : Store} (hs : WithinLimits userID policy s)
    {cfg : Config (LimitCall userID) Row RepoError Unit} {fresh : ℕ → Prop}
    (h : FirstWins (limitSystem userID policy) LimitCall.contends s cfg fresh) :
    WithinLimits userID policy cfg.db := by
  refine h.invariant (C := limitContract userID) (limitGates userID policy) limitContract_ok
    (fun c hc ↦ c.checks_prog hlimited hc) (fun c locks a t u hc hcommit _ hgates ↦ ?_)
    (fun c locks a t u hc hcommit ↦ ?_) hs
  · have htotal := hgates _ (.head _)
    have hclass := hgates _ (.tail _ (.head _))
    obtain ⟨id, hid⟩ : ∃ id, c.target = some id := by
      cases c <;> first | exact ⟨_, rfl⟩ | cases hc
    have hrow : RowStep (LimitStep userID (some id)) t u := hid ▸ hcommit.row
    have htotal' := total_le_add_one policy id hrow hcommit.post
    have hclass' := inClass_le_add_one policy id hrow hcommit.post
    exact ⟨by omega, by omega⟩
  · have hnone : c.target = none := by
      cases c <;> first | rfl | cases hc
    have hrow : RowStep (LimitStep userID none) t u := hnone ▸ hcommit.row
    have htotal := total_le policy hrow hcommit.post
    have hclass := inClass_le policy hrow hcommit.post
    refine ⟨fun ht ↦ ⟨?_, ?_⟩, fun G hG ↦ ?_⟩
    · have := ht.total
      omega
    · have := ht.inClass
      omega
    · simp only [limitGates, List.mem_cons, List.not_mem_nil, or_false] at hG
      rcases hG with rfl | rfl
      · intro ht
        omega
      · intro ht
        omega

/-! ## Two creations at once -/

/-- One image task at a time. -/
def onePolicy : ActiveTaskPolicy where
  totalLimit := 1
  concurrencyClass := "image"
  capabilities := ["image"]
  classLimit := 1

/-- A free image task of the user. -/
def createImage (taskID : String) : LimitCall "u" :=
  .createFree taskID { userID := "u", capability := "image" } rfl "unsupported"
    ⟨"", "", taskID ++ "-log"⟩

/-- Nobody interrupts the creation of a task. -/
theorem activeTasks_within_alone :
    ∃ cfg fresh, FirstWins (limitSystem "u" onePolicy) LimitCall.contends ∅ cfg fresh ∧
      cfg.log.length = 1 ∧ WithinLimits "u" onePolicy cfg.db := by
  have hrun : (((createImage "a").prog onePolicy).run ∅).toOption.map
      (fun x ↦ onePolicy.total "u" x.2) = some 1 := by decide
  cases h : ((createImage "a").prog onePolicy).run ∅ with
  | error e =>
    rw [h] at hrun
    cases hrun
  | ok x =>
    obtain ⟨fresh, hfirst⟩ : ∃ fresh, FirstWins (limitSystem "u" onePolicy) LimitCall.contends ∅
        ⟨x.2, ∅, [⟨createImage "a", some x.1, ∅, x.2⟩]⟩ fresh :=
      FirstWins.of_run (fun _ _ _ _ _ _ ht ↦ by cases ht) h
    exact ⟨_, fresh, hfirst, rfl, activeTasks_within rfl (by decide) hfirst⟩

/-- A run whose commits all draw new identifiers is a run of the system. -/
theorem reach_limitSystem {userID : String} {policy : ActiveTaskPolicy} {s : Store}
    {cfg : Config (LimitCall userID) Row RepoError Unit}
    (h : Reach (.free (LimitCall.prog policy)) (.init s) cfg)
    (hfresh : ∀ e ∈ cfg.log, FreshOrders e.before e.after) :
    Reach (limitSystem userID policy) (.init s) cfg := by
  induction h with
  | refl => exact .refl
  | tail _ hstep ih =>
    cases hstep with
    | start c ht => exact (ih hfresh).tail (.start c ht)
    | stmt ht hrest hfree => exact (ih hfresh).tail (.stmt ht hrest hfree)
    | commit ht hrest _ =>
      have hlater := fun e he ↦ hfresh e (List.mem_cons_of_mem _ he)
      exact (ih hlater).tail (.commit ht hrest (hfresh _ (.head _)))
    | abort ht =>
      have hlater := fun e he ↦ hfresh e (List.mem_cons_of_mem _ he)
      exact (ih hlater).tail (.abort ht)

/-- There are no orders at all. -/
def noOrders (s : Store) : Bool :=
  !s.any fun
    | .billingOrder _, _ => true
    | _, _ => false

theorem freshOrders_of_noOrders {s s' : Store} (h : noOrders s' = true) : FreshOrders s s' := by
  intro id _ hsome
  obtain ⟨o, ho⟩ := Option.isSome_iff_exists.mp hsome
  rw [noOrders, Bool.not_eq_true', Db.any_eq_false_iff] at h
  cases h (.billingOrder id) o ho

/-- Both count before either commits. -/
theorem exists_limit_exceeded :
    ∃ cfg, Reach (limitSystem "u" onePolicy) (.init ∅) cfg ∧ WithinLimits "u" onePolicy ∅ ∧
      ¬WithinLimits "u" onePolicy cfg.db := by
  have hplay : (play (LimitCall.prog onePolicy) (.init ∅)
      ([.start 0 (createImage "a"), .start 1 (createImage "b")] ++ List.replicate 4 (.step 0) ++
        List.replicate 4 (.step 1) ++ [.commit 0, .commit 1])).map
      (fun cfg ↦ (cfg.log.all fun e ↦ noOrders e.after, onePolicy.total "u" cfg.db)) =
      some (true, 2) := by decide
  obtain ⟨cfg, hplay, heq⟩ := Option.map_eq_some_iff.mp hplay
  obtain ⟨hlog, htotal⟩ := Prod.mk.inj heq
  refine ⟨cfg, reach_limitSystem (reach_of_play hplay) fun e he ↦
    freshOrders_of_noOrders (List.all_eq_true.mp hlog e he), by decide, fun h ↦ ?_⟩
  have hle := h.total
  rw [htotal] at hle
  exact absurd hle (by decide)

end HMaigc
